import Mathlib.Data.List.TakeWhile
import Obligations.Proofs.Ranking.Figures

/-!
# Obligations — what a ranking is

A ranking of some entries has the same entries, none of them before one that has to come first, and
those with one figure in the order they were given in. Every list has exactly one ranking, and
`rank` computes it. Where no two entries have one id the order they were given in does not enter,
and in any case an entry added behind a ranking is put in its place without touching the others.

* `IsRanking` — what a ranking is, without saying how it is found;
* `filter_figure_rank` — ranking is stable;
* `eq_of_figures`, `isRanking_iff` — there is one ranking and no other;
* `rank_concat_of_ranked` — where an entry behind a ranking goes;
* `ranking_canonical` — all of this of every list of entries.
-/

namespace Obligations

variable {e : Entry} {es ranked : List Entry}

/-! ## Rankings -/

structure IsRanking (ranked es : List Entry) : Prop where
  perm    : ranked.Perm es
  ordered : ranked.Pairwise fun a b => ¬ b.ComesBefore a
  stable  : ∀ f, ranked.filter (fun x => x.figure = f) = es.filter fun x => x.figure = f

/-- That no entry stands before one that has to come first is to be ranked. -/
theorem ranked_iff : Ranked es ↔ es.Pairwise fun a b => ¬ b.ComesBefore a := by
  unfold Ranked
  simp only [Entry.precedes_iff]

/-- Entries of one figure may stand either way. -/
theorem precedes_of_figure_eq {a b : Entry} (h : a.figure = b.figure) : a.precedes b = true := by
  have hself : b.compare b = .eq := Std.ReflCmp.compare_self
  rw [Entry.precedes, Entry.compare_congr h rfl, hself]
  rfl

/-- Ranking leaves entries of one figure in the order they were given in. -/
theorem filter_figure_rank (f : Option String × Option Int) :
    (rank es).filter (fun x => x.figure = f) = es.filter fun x => x.figure = f := by
  -- entries of one figure tie, so any order of them is ranked
  have htie : Ranked (es.filter fun x => x.figure = f) := by
    refine List.pairwise_of_forall_mem_list fun a ha b hb => precedes_of_figure_eq ?_
    have ha' := of_decide_eq_true (List.mem_filter.mp ha).2
    have hb' := of_decide_eq_true (List.mem_filter.mp hb).2
    exact ha'.trans hb'.symm
  rw [filter_rank, rank_of_ranked htie]

theorem isRanking_rank (es : List Entry) : IsRanking (rank es) es :=
  ⟨rank_perm es, ranked_iff.mp (ranked_rank es), filter_figure_rank⟩

/-! ## No other ranking -/

/-- A list is told by its figures along with the entries of each figure. -/
theorem eq_of_figures {xs ys : List Entry}
    (hfigures : xs.map Entry.figure = ys.map Entry.figure)
    (hfilter : ∀ f, xs.filter (fun x => x.figure = f) = ys.filter fun x => x.figure = f) :
    xs = ys := by
  induction xs generalizing ys with
  | nil => exact (List.map_eq_nil_iff.mp hfigures.symm).symm
  | cons x xs ih =>
    obtain ⟨y, ys, rfl, hxy, htail⟩ := List.map_eq_cons_iff.mp hfigures.symm
    -- each is the first entry of its figure
    have hfirst := hfilter x.figure
    rw [List.filter_cons, List.filter_cons, if_pos (decide_eq_true rfl),
      if_pos (decide_eq_true hxy)] at hfirst
    obtain ⟨rfl, -⟩ := List.cons.inj hfirst
    refine congrArg (x :: ·) (ih htail.symm fun f => ?_)
    have hboth := hfilter f
    rw [List.filter_cons, List.filter_cons] at hboth
    split at hboth
    · exact (List.cons.inj hboth).2
    · exact hboth

/-- There is one ranking, and `rank` computes it. -/
theorem isRanking_iff : IsRanking ranked es ↔ ranked = rank es := by
  constructor
  · intro h
    -- any ranking shows the figures in the order of `rank`, and stability settles the entries
    have hfigures := map_figure_rank (h.perm.map Entry.figure)
    rw [rank_of_ranked (ranked_iff.mpr h.ordered)] at hfigures
    exact eq_of_figures hfigures fun f => (h.stable f).trans (filter_figure_rank f).symm
  · rintro rfl
    exact isRanking_rank es

/-! ## One more entry -/

/-- An entry behind a ranked list goes behind all that may stand before it. -/
theorem rank_concat_of_ranked (h : Ranked es) :
    rank (es ++ [e]) =
      es.takeWhile (fun x => x.precedes e) ++ e :: es.dropWhile fun x => x.precedes e := by
  induction es with
  | nil => rfl
  | cons x xs ih =>
    -- ranking inserts from the back, so `e` is in its place among `xs` when `x` is inserted
    obtain ⟨hx, hxs⟩ := List.pairwise_cons.mp h
    show placeEntry x (rank (xs ++ [e])) = _
    rw [ih hxs]
    by_cases hxe : x.precedes e = true
    · rw [List.takeWhile_cons, List.dropWhile_cons, if_pos hxe, if_pos hxe]
      -- `x` comes before the rest as it did before, and before `e`
      refine placeEntry_of_forall fun y hy => ?_
      rcases List.mem_append.mp hy with hfront | hback
      · exact hx y ((List.takeWhile_sublist _).subset hfront)
      · rcases List.mem_cons.mp hback with rfl | hback
        · exact hxe
        · exact hx y ((List.dropWhile_sublist _).subset hback)
    · rw [List.takeWhile_cons, List.dropWhile_cons, if_neg hxe, if_neg hxe]
      -- what follows `x` may not stand before `e` either, so `e` is in front
      have hnone : ∀ y ∈ xs, ¬ y.precedes e = true := fun y hy hye =>
        hxe (Entry.precedes_trans (hx y hy) hye)
      rw [List.takeWhile_eq_nil_iff.mpr fun hl => hnone _ (List.getElem_mem hl),
        List.dropWhile_eq_self_iff.mpr fun hl => hnone _ (List.getElem_mem hl),
        List.nil_append, placeEntry, if_neg hxe, placeEntry_of_forall hx]
      rfl

/-- **Ranking is canonical.** It gives the one ranking there is. With distinct ids that ranking is
in strict order, whatever order the entries are given in; and to rank again changes nothing, while
an entry added behind is inserted. -/
theorem ranking_canonical (es : List Entry) :
    (∀ ranked, IsRanking ranked es ↔ ranked = rank es) ∧
    ((es.map Entry.id).Nodup →
      (rank es).Pairwise Entry.ComesBefore ∧ ∀ es', es'.Perm es → rank es' = rank es) ∧
    rank (rank es) = rank es ∧
    ∀ e, ∃ front back, rank es = front ++ back ∧ rank (rank es ++ [e]) = front ++ e :: back := by
  have hranked := ranked_rank es
  refine ⟨fun ranked => isRanking_iff, ?_, rank_of_ranked hranked, ?_⟩
  · intro hids
    have hids' := (((rank_perm es).map Entry.id).nodup_iff).mpr hids
    exact ⟨comesBefore_of_ranked hranked hids',
      fun es' hperm => (rank_eq_of_perm hperm.symm hids).symm⟩
  · intro e
    exact ⟨_, _, (List.takeWhile_append_dropWhile).symm, rank_concat_of_ranked hranked⟩

namespace Sample

def five (scale : Nat) (id : Option String) : Entry :=
  ⟨id, none, .agency, "", Amount.ofParts? (5 * tenTo scale) scale, none⟩

/-- Five of everything: a text, a number written in three ways, two larger numbers that are in the
other order as texts, and nothing; and one entry that has no amount. -/
def tiedEntries : List Entry :=
  [five 0 (some "seven"), five 0 (some "10"), five 2 (some "7"),
   ⟨some "1", none, .agency, "", none, none⟩, five 1 (some "07"), five 4 (some "9"), five 0 none,
   five 3 (some "+7")]

end Sample

/-- Of the numbers nine comes before ten, although its text does not, and both before any text. -/
theorem ranking_canonical_sample :
    (Sample.tiedEntries.map Entry.id).Nodup ∧
    (rank Sample.tiedEntries).Pairwise Entry.ComesBefore ∧
    rank Sample.tiedEntries.reverse = rank Sample.tiedEntries ∧
    (rank Sample.tiedEntries).map Entry.id =
      [none, some "+7", some "07", some "7", some "9", some "10", some "seven", some "1"] := by
  obtain ⟨-, hdistinct, -, -⟩ := ranking_canonical Sample.tiedEntries
  obtain ⟨hstrict, hperm⟩ := hdistinct (by decide)
  exact ⟨by decide, hstrict, hperm _ (List.reverse_perm _), by decide⟩

end Obligations
