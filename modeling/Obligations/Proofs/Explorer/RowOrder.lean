import Obligations.Proofs.Explorer.Overflow
import Obligations.Proofs.Grouping.RowOrder

/-!
# Obligations — rows in another order

A store gives its rows in no particular order. Reordering them can change a response in two
ways: an amount may be shown at another scale, since a zero leaves the scale of the other
operand alone, and an entity may be labelled by another of its rows. The numbers, the ids and
the order of the entries stay, as long as no addition rounds.

* `Store.IsReordered` — two stores have the same rows;
* `Store.IsExactFor` — no addition rounds, whichever set is answered from;
* `Response.SameFigures`, `Response.SameEntries` — responses that are the same but for labels
  and scales, or for scales alone;
* `respond_congr` — groupings with the same figures have responses with the same figures;
* `alike_of_isReordered` — stores with the same rows give the same outcome.
-/

namespace Obligations

/-! ## The same outcome -/

/-- Both fail alike, or both end well with results that are related. -/
inductive Alike {α : Type} (R : α → α → Prop) : Except Failure α → Except Failure α → Prop
  | failed (f : Failure) : Alike R (.error f) (.error f)
  | ended {a b : α} : R a b → Alike R (.ok a) (.ok b)

namespace Response

/-- The same total and end date, and the same sequence of ids and amounts, as numbers. -/
structure SameFigures (a b : Response) : Prop where
  total   : a.total.map Amount.value = b.total.map Amount.value
  endDate : a.endDate = b.endDate
  figures : a.results.map (List.map Entry.figure) = b.results.map (List.map Entry.figure)

/-- The same but for the scales of amounts, entry by entry. -/
structure SameEntries (a b : Response) : Prop extends SameFigures a b where
  entries : List.Forall₂ Entry.SameButScale a.entries b.entries

end Response

/-- A response that shows nothing is like itself, and so is any other. -/
theorem Response.SameFigures.refl (a : Response) : SameFigures a a := ⟨rfl, rfl, rfl⟩

theorem Response.SameEntries.refl (a : Response) : SameEntries a a :=
  ⟨.refl a, List.forall₂_same.mpr fun _ _ => ⟨rfl, rfl, rfl, rfl, rfl, rfl⟩⟩

/-- Entries that are paired by their figures are the same if those with one figure are. -/
theorem forall₂_of_figures {es es' : List Entry} (h : es.map Entry.figure = es'.map Entry.figure)
    (hsame : ∀ x ∈ es, ∀ y ∈ es', x.figure = y.figure → x.SameButScale y) :
    List.Forall₂ Entry.SameButScale es es' := by
  -- both lists are as long as their figures
  induction es generalizing es' with
  | nil =>
    rw [List.map_nil] at h
    rw [List.map_eq_nil_iff.mp h.symm]
    exact .nil
  | cons x es ih =>
    cases es' with
    | nil => exact nomatch h
    | cons y es' =>
      -- the first entries are a pair, and so are those that follow
      obtain ⟨hhead, htail⟩ := List.cons.inj h
      refine .cons (hsame x List.mem_cons_self y List.mem_cons_self hhead) (ih htail ?_)
      intro x' hx' y' hy' hfigure
      exact hsame x' (List.mem_cons_of_mem _ hx') y' (List.mem_cons_of_mem _ hy') hfigure

/-! ## Responses to groupings with the same figures -/

section

variable {k : Nat} {es es' : List Entry} {controls controls' : List Amount}

/-- Entries with the same figures have the same numbers, so they add up to the same. -/
theorem map_value_of_figures (h : es.map Entry.figure = es'.map Entry.figure) :
    (es.filterMap Entry.amount).map Amount.value =
      (es'.filterMap Entry.amount).map Amount.value := by
  -- the numbers of the amounts are the second halves of the figures
  have hfigures (xs : List Entry) : (xs.filterMap Entry.amount).map Amount.value =
      (xs.map Entry.figure).filterMap Prod.snd := by
    rw [List.map_filterMap, List.filterMap_map]
    rfl
  rw [hfigures, hfigures, h]

/-- A limit keeps as many of the one as of the other. -/
theorem map_figure_limitResults (c : Category) (limit : Option Nat)
    (h : es.map Entry.figure = es'.map Entry.figure) :
    (limitResults c limit es).map Entry.figure = (limitResults c limit es').map Entry.figure := by
  unfold limitResults
  split
  · rw [List.map_take, List.map_take, h]
  · exact h

/-- Two gaps of the same size are ranked in at the same place. -/
theorem map_figure_withUnreported (h : es.map Entry.figure = es'.map Entry.figure)
    (c : Category) (name : String) {missing missing' : Amount}
    (hvalue : missing.value = missing'.value) :
    (rank (es ++ [.unreported c name missing])).map Entry.figure =
      (rank (es' ++ [.unreported c name missing'])).map Entry.figure := by
  refine map_figure_rank ?_
  rw [List.map_append, List.map_append, h, List.map_singleton, List.map_singleton, Entry.figure,
    Entry.figure]
  simp [Entry.unreported, hvalue]

variable {e : Explorer} {q : Inquiry}

/-- **Reconciling looks at figures only.** Both groupings miss the same number, and it is ranked in
at the same place. -/
theorem reconcileWith_congr (hk : k ≤ Amount.maxScale)
    (h : Exact k (es.filterMap Entry.amount ++ controls))
    (h' : Exact k (es'.filterMap Entry.amount ++ controls'))
    (hfigures : es.map Entry.figure = es'.map Entry.figure) (hcontrols : controls.Perm controls')
    {actual actual' : Option Amount} (hactual : sumEntries es = .ok actual)
    (hactual' : sumEntries es' = .ok actual')
    (hsame : actual.map Amount.value = actual'.map Amount.value) :
    ∃ x y, e.reconcileWith q es actual controls = .ok x ∧
      e.reconcileWith q es' actual' controls' = .ok y ∧
      x.total.map Amount.value = y.total.map Amount.value ∧
      x.results.map Entry.figure = y.results.map Entry.figure := by
  unfold Explorer.reconcileWith
  split
  · -- the control rows add up to the same number in either order
    obtain ⟨expected, expected', hexpected, hexpected', hvalue⟩ :=
      sumAmounts_congr hk (h.sublist (List.sublist_append_right _ _))
        (h'.sublist (List.sublist_append_right _ _)) (hcontrols.map _)
    rw [hexpected, hexpected']
    show ∃ x y, addUnreported _ _ _ expected actual = .ok x ∧
      addUnreported _ _ _ expected' actual' = .ok y ∧ _
    -- a total is absent on both sides or on neither
    cases expected with
    | none =>
      cases expected' with
      | none => exact ⟨_, _, rfl, rfl, hsame, hfigures⟩
      | some _ => exact nomatch hvalue
    | some a =>
      cases expected' with
      | none => exact nomatch hvalue
      | some a' =>
        cases actual with
        | none =>
          cases actual' with
          | none => exact ⟨_, _, rfl, rfl, hsame, hfigures⟩
          | some _ => exact nomatch hsame
        | some b =>
          cases actual' with
          | none => exact nomatch hsame
          | some b' =>
            -- both totals are there, so there is a gap on both sides
            have ha : a.value = a'.value := Option.some.inj hvalue
            have hb : b.value = b'.value := Option.some.inj hsame
            obtain ⟨missing, hmissing, hgap⟩ := value_of_sub hk h hactual hexpected
            obtain ⟨missing', hmissing', hgap'⟩ := value_of_sub hk h' hactual' hexpected'
            refine ⟨_, _, bind_eq_ok.mpr ⟨missing, hmissing, rfl⟩,
              bind_eq_ok.mpr ⟨missing', hmissing', rfl⟩, hvalue, ?_⟩
            exact map_figure_withUnreported hfigures _ _ (by rw [hgap, hgap', ha, hb])
  · exact ⟨_, _, rfl, rfl, hsame, hfigures⟩

/-- **A response is told by the figures of its grouping**, and by the control rows in any order. -/
theorem respond_congr (hk : k ≤ Amount.maxScale)
    (h : Exact k (es.filterMap Entry.amount ++ controls))
    (h' : Exact k (es'.filterMap Entry.amount ++ controls'))
    (hfigures : es.map Entry.figure = es'.map Entry.figure)
    (hcontrols : controls.Perm controls') :
    ∃ a b, e.respond q es controls = .ok a ∧ e.respond q es' controls' = .ok b ∧
      a.SameFigures b := by
  -- both groupings have a total, and it is the same number
  obtain ⟨total, total', htotal, htotal', hvalue⟩ :=
    sumAmounts_congr hk (h.sublist (List.sublist_append_left _ _))
      (h'.sublist (List.sublist_append_left _ _))
      (List.Perm.of_eq (map_value_of_figures hfigures))
  have hsum : sumEntries es = .ok total := htotal
  have hsum' : sumEntries es' = .ok total' := htotal'
  unfold Explorer.respond
  cases q.category.rowSet with
  | cumulative =>
    refine ⟨_, _, bind_eq_ok.mpr ⟨total, hsum, rfl⟩, bind_eq_ok.mpr ⟨total', hsum', rfl⟩, ?_⟩
    -- an absent total is shown as zero on both sides
    have hzero := congrArg (·.getD Amount.zero.value) hvalue
    simp only [Option.getD_map] at hzero
    exact ⟨congrArg some hzero, rfl,
      congrArg some (map_figure_limitResults _ _ hfigures)⟩
  | period =>
    obtain ⟨x, y, hx, hy, hsame, hresults⟩ :=
      reconcileWith_congr (e := e) (q := q) hk h h' hfigures hcontrols hsum hsum' hvalue
    exact ⟨_, _, bind_eq_ok.mpr ⟨total, hsum, bind_eq_ok.mpr ⟨x, hx, rfl⟩⟩,
      bind_eq_ok.mpr ⟨total', hsum', bind_eq_ok.mpr ⟨y, hy, rfl⟩⟩,
      ⟨hsame, rfl, congrArg some hresults⟩⟩

/-- What a response shows was grouped, or it is the entry of what was not reported. -/
theorem mem_respond {resp : Response} (h : e.respond q es controls = .ok resp) {x : Entry}
    (hx : x ∈ resp.entries) :
    x ∈ es ∨ ∃ missing, x = .unreported q.category e.config.unreportedName missing := by
  unfold Explorer.respond at h
  -- awards may be cut, and a period may have a gap
  cases hset : q.category.rowSet with
  | cumulative =>
    rw [hset] at h
    obtain ⟨total, -, h⟩ := bind_eq_ok.mp h
    injection h with h
    subst h
    exact Or.inl ((limitResults_sublist _ _ _).subset hx)
  | period =>
    rw [hset] at h
    obtain ⟨actual, -, h⟩ := bind_eq_ok.mp h
    obtain ⟨reconciled, hreconciled, h⟩ := bind_eq_ok.mp h
    injection h with h
    subst h
    -- what was compared may have one more entry, what was not has the grouped ones
    unfold Explorer.reconcileWith at hreconciled
    split at hreconciled
    · obtain ⟨expected, -, hadd⟩ := bind_eq_ok.mp hreconciled
      rcases Explorer.addUnreported_cases hadd with ⟨-, rfl⟩ | ⟨_, _, missing, -, -, -, rfl⟩
      · exact Or.inl hx
      · exact (mem_rank_append.mp hx).imp_right fun hu => ⟨missing, hu⟩
    · injection hreconciled with hreconciled
      subst hreconciled
      exact Or.inl hx

end

/-! ## Stores with the same rows -/

namespace Store

/-- The stores have the same rows, each set in some order. -/
structure IsReordered (s t : Store) : Prop where
  awards   : s.awardRows.Perm t.awardRows
  programs : s.programRows.Perm t.programRows
  controls : s.controlRows.Perm t.controlRows

/-- The amounts in scope are in the exact range, those of each set with the control rows. -/
structure IsExactFor (s : Store) (q : Inquiry) : Prop where
  awards   : InExactRange ((s.awardRows.filter q.coversAward).map Row.amount
               ++ (s.controlRows.filter q.coversControl).map ControlRow.amount)
  programs : InExactRange ((s.programRows.filter q.coversProgram).map ProgramRow.amount
               ++ (s.controlRows.filter q.coversControl).map ControlRow.amount)

variable {s t : Store} {q : Inquiry}

/-- Rows are selected one by one, so what a request is about is only reordered too. -/
theorem IsReordered.awardRowsFor (h : s.IsReordered t) :
    (s.awardRowsFor q).Perm (t.awardRowsFor q) :=
  h.awards.filter _

theorem IsReordered.rowsFor (h : s.IsReordered t) : (s.rowsFor q).Perm (t.rowsFor q) := by
  unfold Store.rowsFor
  cases q.category.rowSet with
  | cumulative => exact h.awardRowsFor
  | period => exact (h.programs.filter _).map _

theorem IsReordered.controlAmountsFor (h : s.IsReordered t) :
    (s.controlAmountsFor q).Perm (t.controlAmountsFor q) :=
  (h.controls.filter _).map _

/-- The award rows are exact for themselves, so they can be grouped, whatever is asked for. -/
theorem IsExactFor.exact_awards (h : s.IsExactFor q) :
    ∃ k, Exact k ((s.awardRowsFor q).map Row.amount) := by
  rw [awardRowsFor_eq_filter]
  exact ⟨_, h.awards.exact.sublist (List.sublist_append_left _ _)⟩

/-- And the rows that are answered from are exact together with the control rows. -/
theorem IsExactFor.exact_rows (h : s.IsExactFor q) :
    ∃ k ≤ Amount.maxScale, Exact k ((s.rowsFor q).map Row.amount ++ s.controlAmountsFor q) := by
  rw [controlAmountsFor_eq_filter, rowsFor]
  -- the condition was stated for both sets
  cases q.category.rowSet with
  | cumulative =>
    simp only [awardRowsFor_eq_filter]
    exact ⟨_, largestScale_le _, h.awards.exact⟩
  | period =>
    simp only [programRowsFor_eq_filter, List.map_map]
    exact ⟨_, largestScale_le _, h.programs.exact⟩

end Store

section

variable {e : Explorer} {s t : Store} {q : Inquiry} {now : Instant}

/-- What is answered from the rows of a store whose award rows add up. -/
theorem Explorer.outcome_of_grouped (hs : s.failure = none)
    (hrevealed : e.isRevealed q now = true) {awards entries : List Entry}
    (hawards : groupEntries (s.awardRowsFor q) q.filters q.category = .ok awards)
    (hentries : groupEntries (s.rowsFor q) q.filters q.category = .ok entries) :
    (e.run s.source q now).outcome = e.respond q entries (s.controlAmountsFor q) := by
  rw [outcome_of_revealed hs hrevealed, hawards, hentries]
  rfl

/-- A revealed request has a response from both stores, with the same figures, and with the
same entries if the rows agree on their labels. -/
theorem Explorer.responses_of_isReordered (hs : s.failure = none) (ht : t.failure = none)
    (hrevealed : e.isRevealed q now = true) (hrows : s.IsReordered t) (hexact : s.IsExactFor q) :
    ∃ a b, (e.run s.source q now).outcome = .ok a ∧ (e.run t.source q now).outcome = .ok b ∧
      a.SameFigures b ∧
      (LabelsAgree (s.rowsFor q) q.category → a.SameEntries b) := by
  -- what is in the exact range for one store is so for the other
  obtain ⟨l, hawards⟩ := hexact.exact_awards
  obtain ⟨k, hk, hboth⟩ := hexact.exact_rows
  have hperm := hrows.rowsFor (q := q)
  have hcontrols := hrows.controlAmountsFor (q := q)
  have hboth' : Exact k ((t.rowsFor q).map Row.amount ++ t.controlAmountsFor q) :=
    hboth.perm ((hperm.map _).append hcontrols)
  have hamounts := hboth.sublist (List.sublist_append_left _ _)
  have hamounts' := hboth'.sublist (List.sublist_append_left _ _)
  -- so all groupings exist
  obtain ⟨awards, hgrouped⟩ := groupEntries_of_exact q.filters q.category hawards
  obtain ⟨awards', hgrouped'⟩ := groupEntries_of_exact q.filters q.category
    (hawards.perm ((hrows.awardRowsFor (q := q)).map _))
  obtain ⟨es, hes⟩ := groupEntries_of_exact q.filters q.category hamounts
  obtain ⟨es', hes'⟩ := groupEntries_of_exact q.filters q.category hamounts'
  rw [outcome_of_grouped hs hrevealed hgrouped hes, outcome_of_grouped ht hrevealed hgrouped' hes']
  have hfigures := figures_groupEntries_perm hperm hk hamounts hes hes'
  obtain ⟨a, b, ha, hb, hsame⟩ := respond_congr (e := e) (q := q) hk
    (exact_grouped_append hboth hes) (exact_grouped_append hboth' hes') hfigures hcontrols
  refine ⟨a, b, ha, hb, hsame, fun hlabels => ⟨hsame, ?_⟩⟩
  -- figure by figure the entries are the same
  have hentries : a.entries.map Entry.figure = b.entries.map Entry.figure := by
    have hresults := congrArg (·.getD []) hsame.figures
    unfold Response.entries
    cases hra : a.results <;> cases hrb : b.results <;> simp_all
  refine forall₂_of_figures hentries fun x hx y hy hfigure => ?_
  -- an entry without an id was not grouped, and one with an id was
  have hid := congrArg Prod.fst hfigure
  rcases mem_respond ha hx with hx | ⟨missing, rfl⟩
  · rcases mem_respond hb hy with hy | ⟨missing', rfl⟩
    · exact sameButScale_groupEntries_perm hperm hlabels hes hes' hx hy hfigure
    · exact absurd hid (Option.isSome_iff_ne_none.mp (ids_groupEntries hes x hx))
  · rcases mem_respond hb hy with hy | ⟨missing', rfl⟩
    · exact absurd hid.symm (Option.isSome_iff_ne_none.mp (ids_groupEntries hes' y hy))
    · exact ⟨rfl, rfl, rfl, rfl, congrArg Prod.snd hfigure, rfl⟩

/-- **The order of the rows in a store is irrelevant**, but for scales and for labels that rows
do not agree on. -/
theorem alike_of_isReordered {r : Request} (hs : s.failure = none) (ht : t.failure = none)
    (hrows : s.IsReordered t) (hexact : ∀ q, (e.check r).2 = .ok q → s.IsExactFor q) :
    Alike Response.SameFigures (e.explore s.source r now).run.outcome
      (e.explore t.source r now).run.outcome ∧
    ((∀ q, (e.check r).2 = .ok q → LabelsAgree (s.rowsFor q) q.category) →
      Alike Response.SameEntries (e.explore s.source r now).run.outcome
        (e.explore t.source r now).run.outcome) := by
  cases hcheck : (e.check r).2 with
  | error f =>
    rw [Explorer.explore_of_refused hcheck, Explorer.explore_of_refused hcheck]
    exact ⟨.failed f, fun _ => .failed f⟩
  | ok q =>
    rw [Explorer.explore_of_checked hcheck, Explorer.explore_of_checked hcheck]
    cases hrevealed : e.isRevealed q now with
    | false =>
      rw [Explorer.run_of_hidden hrevealed, Explorer.run_of_hidden hrevealed]
      exact ⟨.ended (.refl _), fun _ => .ended (.refl _)⟩
    | true =>
      obtain ⟨a, b, ha, hb, hfigures, hentries⟩ :=
        Explorer.responses_of_isReordered hs ht hrevealed hrows (hexact q hcheck)
      rw [ha, hb]
      exact ⟨.ended hfigures, fun hlabels => .ended (hentries (hlabels q rfl))⟩

end

namespace Sample

/-- The rows of two object classes, one of them adding up to 5 by way of zero or not. -/
def mixedStore : Store where
  awardRows   := [awardRow]
  programRows := [row 1 10 (amount 5 0), row 1 11 (amount 3 0), row 2 10 (amount 50 2),
    row 1 10 (amount (-50) 2)]
  controlRows := [⟨2020, 6, amount 70 0⟩, ⟨2020, 6, amount 1225 2⟩]
  failure     := none
  served      := 0

def reorderedStore : Store where
  awardRows   := [awardRow]
  programRows := [row 2 10 (amount 50 2), row 1 10 (amount (-50) 2), row 1 11 (amount 3 0),
    row 1 10 (amount 5 0)]
  controlRows := [⟨2020, 6, amount 1225 2⟩, ⟨2020, 6, amount 70 0⟩]
  failure     := none
  served      := 0

/-- The rows and the control rows of the second store are those of the first, in another order. -/
theorem isReordered_mixed : mixedStore.IsReordered reorderedStore :=
  ⟨by decide, by decide, by decide⟩

theorem isExactFor_mixed {q : Inquiry} (hq : (explorer.check request).2 = .ok q) :
    mixedStore.IsExactFor q := by
  rw [check_request] at hq
  injection hq with hq
  subst hq
  exact ⟨by decide +kernel, by decide +kernel⟩

theorem labelsAgree_mixed {q : Inquiry} (hq : (explorer.check request).2 = .ok q) :
    LabelsAgree (mixedStore.rowsFor q) q.category := by
  rw [check_request] at hq
  injection hq with hq
  subst hq
  decide

end Sample

/-- The first object class has 5.00 in one response and 5 in the other. -/
theorem alike_of_isReordered_sample :
    Alike Response.SameEntries
      (Sample.explorer.explore Sample.mixedStore.source Sample.request Sample.today).run.outcome
      (Sample.explorer.explore Sample.reorderedStore.source Sample.request
        Sample.today).run.outcome :=
  (alike_of_isReordered rfl rfl Sample.isReordered_mixed fun _ => Sample.isExactFor_mixed).2
    fun _ => Sample.labelsAgree_mixed

end Obligations
