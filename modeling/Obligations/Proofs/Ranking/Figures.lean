import Mathlib.Data.List.Nodup
import Obligations.Proofs.Ranking.Order
import Obligations.Proofs.Text.Numeral

/-!
# Obligations — what ranking looks at

The place of an entry in a result depends on its id and on the number its amount stands for,
and on nothing else. Two entries that tie have both in common. So where no two entries have
one id the order is strict, and results with the same ids and numbers are in the same order,
however they were put together.

* `IsNumericId` — the ids that are numbers, and which;
* `TieKey.ofId_injective`, `TieKey.eq_of_compare` — only equal ids tie;
* `Entry.figure` — id and number;
* `map_figure_rank` — the order of a result is told by its figures;
* `map_rank_congr` — entries that look alike, figures included, look alike when they are ranked;
* `rank_eq_of_perm` — with distinct ids the order before ranking does not matter;
* `TieBefore`, `AmountBefore`, `Entry.ComesBefore` — the strict order, in so many words;
* `Entry.precedes_iff` — which entry may stand before which is told by the strict order;
* `comesBefore_of_ranked`, `standsBefore_of_ranked` — a ranked result with distinct ids is in strict
  order.
-/

namespace Obligations

/-! ## Ties -/

/-- The id is written as a number of 64 bits: digits, after a plus sign or without one. So `7`, `07`
and `+7` are ids of one number. -/
def IsNumericId (id : String) (n : Nat) : Prop := Integer.Natural id.toList n ∧ n < size64

namespace TieKey

variable {id : String} {n : Nat}

theorem ofId_of_numeric (h : IsNumericId id n) : ofId (some id) = number n id := by
  rw [ofId, Integer.nat64?_eq_some.mpr h]

theorem ofId_of_not_numeric (h : ∀ n, ¬ IsNumericId id n) : ofId (some id) = text id := by
  have hnone : Integer.nat64? id = none :=
    Option.eq_none_iff_forall_ne_some.mpr fun n hn => h n (Integer.nat64?_eq_some.mp hn)
  rw [ofId, hnone]

/-- An id is a number or it is none, and its key says which. -/
theorem ofId_some (id : String) :
    ((∀ n, ¬ IsNumericId id n) ∧ ofId (some id) = text id) ∨
      ∃ n, IsNumericId id n ∧ ofId (some id) = number n id := by
  by_cases h : ∃ n, IsNumericId id n
  · obtain ⟨n, hn⟩ := h
    exact Or.inr ⟨n, hn, ofId_of_numeric hn⟩
  · have hnone := not_exists.mp h
    exact Or.inl ⟨hnone, ofId_of_not_numeric hnone⟩

/-- Ids with one key are the same id. -/
theorem ofId_injective {a b : Option String} (h : ofId a = ofId b) : a = b := by
  -- the kind tells whether there is an id, and the content is the id
  have hkind (id : String) : (ofId (some id)).kind ≠ kind absent := by
    rcases ofId_some id with ⟨-, hid⟩ | ⟨n, -, hid⟩
    · simp [hid, kind]
    · simp [hid, kind]
  have hcontent (id : String) : (ofId (some id)).content = id := by
    rcases ofId_some id with ⟨-, hid⟩ | ⟨n, -, hid⟩
    · rw [hid, content]
    · rw [hid, content]
  -- without an id there is no content, so the kinds are compared first
  cases a with
  | none =>
    cases b with
    | none => rfl
    | some b => exact absurd (congrArg kind h.symm) (hkind b)
  | some a =>
    cases b with
    | none => exact absurd (congrArg kind h) (hkind a)
    | some b =>
      have hsame := congrArg content h
      rw [hcontent, hcontent] at hsame
      rw [hsame]

/-- Keys that tie are the same key. -/
theorem eq_of_compare {a b : TieKey} (h : a.compare b = .eq) : a = b := by
  -- keys of different kinds do not tie
  cases a with
  | absent =>
    cases b with
    | absent => rfl
    | _ => exact nomatch h
  | number m x =>
    cases b with
    | number n y =>
      -- numbers that tie have one value, and are spelled alike
      obtain ⟨hvalue, hid⟩ := Ordering.then_eq_eq.mp h
      rw [Std.LawfulEqOrd.eq_of_compare hvalue, Std.LawfulEqOrd.eq_of_compare hid]
    | _ => exact nomatch h
  | text x =>
    cases b with
    | text y =>
      have hid : Ord.compare x y = .eq := h
      rw [Std.LawfulEqOrd.eq_of_compare hid]
    | _ => exact nomatch h

end TieKey

/-! ## Figures -/

namespace Entry

/-- What the order of entries depends on: the id, and the amount as a number. -/
def figure (e : Entry) : Option String × Option Int := (e.id, e.amount.map Amount.value)

/-- Entries are compared by their figures. -/
theorem compare_congr {a a' b b' : Entry} (ha : a.figure = a'.figure)
    (hb : b.figure = b'.figure) : a.compare b = a'.compare b' := by
  obtain ⟨haid, haamount⟩ := Prod.mk.inj ha
  obtain ⟨hbid, hbamount⟩ := Prod.mk.inj hb
  rw [compare, compare, compareAmounts_eq, compareAmounts_eq, haid, haamount, hbid, hbamount]

/-- Entries that tie have one figure. -/
theorem figure_eq_of_compare {a b : Entry} (h : a.compare b = .eq) : a.figure = b.figure := by
  obtain ⟨hamount, hid⟩ := Ordering.then_eq_eq.mp h
  rw [compareAmounts_eq] at hamount
  rw [figure, figure, TieKey.ofId_injective (TieKey.eq_of_compare hid),
    Std.LawfulEqOrd.eq_of_compare hamount]

end Entry

/-- The order of a result is told by its figures, whatever they were listed in before. -/
theorem map_figure_rank {es es' : List Entry}
    (h : (es.map Entry.figure).Perm (es'.map Entry.figure)) :
    (rank es).map Entry.figure = (rank es').map Entry.figure := by
  have hperm := (((rank_perm es).map Entry.figure).trans h).trans
    ((rank_perm es').map Entry.figure).symm
  -- figures are in order if entries with these figures are
  have hsorted (xs : List Entry) : ((rank xs).map Entry.figure).Pairwise fun x y =>
      ∃ a b : Entry, a.figure = x ∧ b.figure = y ∧ a.precedes b = true :=
    List.pairwise_map.mpr ((ranked_rank xs).imp fun hab => ⟨_, _, rfl, rfl, hab⟩)
  refine hperm.eq_of_pairwise ?_ (hsorted es) (hsorted es')
  rintro x y - - ⟨a, b, rfl, rfl, hab⟩ ⟨b', a', hb, ha, hba⟩
  unfold Entry.precedes at hab hba
  rw [Entry.compare_congr hb ha] at hba
  exact Entry.figure_eq_of_compare (Std.OrientedCmp.isLE_antisymm hab hba)

section

variable {γ : Type} {g : Entry → γ} (hg : ∀ {a b : Entry}, g a = g b → a.figure = b.figure)

include hg

/-- Two entries that look alike are placed alike among entries that do. -/
theorem map_placeEntry_congr {e e' : Entry} (he : g e = g e') :
    ∀ {es es' : List Entry}, es.map g = es'.map g →
      (placeEntry e es).map g = (placeEntry e' es').map g := by
  intro es
  -- the two lists are gone through side by side
  induction es with
  | nil =>
    intro es' h
    rw [List.map_eq_nil_iff.mp h.symm, placeEntry, placeEntry, List.map_singleton,
      List.map_singleton, he]
  | cons x xs ih =>
    intro es' h
    obtain ⟨y, ys, rfl, hxy, htail⟩ := List.map_eq_cons_iff.mp h.symm
    -- both are placed in front of the same figure, or both behind it
    have hprecedes : e.precedes x = e'.precedes y := by
      rw [Entry.precedes, Entry.precedes, Entry.compare_congr (hg he) (hg hxy.symm)]
    rw [placeEntry, placeEntry, hprecedes]
    split
    · simp only [List.map_cons, he, hxy, htail]
    · simp only [List.map_cons, hxy, ih htail.symm]

/-- Whatever is shown of entries, along with their figures, ranking does not look beyond it. -/
theorem map_rank_congr {es es' : List Entry} (h : es.map g = es'.map g) :
    (rank es).map g = (rank es').map g := by
  induction es generalizing es' with
  | nil => rw [List.map_eq_nil_iff.mp h.symm]
  | cons x xs ih =>
    obtain ⟨y, ys, rfl, hxy, htail⟩ := List.map_eq_cons_iff.mp h.symm
    exact map_placeEntry_congr hg hxy.symm (ih htail.symm)

end

/-- Without two entries of one id nothing of the order before ranking is left. -/
theorem rank_eq_of_perm {es es' : List Entry} (hperm : es.Perm es')
    (hids : (es.map Entry.id).Nodup) : rank es = rank es' := by
  have hranked := ((rank_perm es).trans hperm).trans (rank_perm es').symm
  refine hranked.eq_of_pairwise ?_ (ranked_rank es) (ranked_rank es')
  intro x y hx hy hxy hyx
  -- entries that may stand either way have one id, and so are one entry
  have hfigure : x.figure = y.figure :=
    Entry.figure_eq_of_compare (Std.OrientedCmp.isLE_antisymm hxy hyx)
  have hmemx : x ∈ es := (rank_perm es).mem_iff.mp hx
  have hmemy : y ∈ es := hperm.mem_iff.mpr ((rank_perm es').mem_iff.mp hy)
  exact List.inj_on_of_nodup_map hids hmemx hmemy (congrArg Prod.fst hfigure)

/-! ## Strict order -/

/-- The order of the ids of equal amounts: no id first, then the ids that are numbers, by value
and then as text, then the others as text. -/
inductive TieBefore : Option String → Option String → Prop
  | absent (b : String) : TieBefore none (some b)
  | smaller {a b : String} {m n : Nat} :
      IsNumericId a m → IsNumericId b n → m < n → TieBefore (some a) (some b)
  | spelled {a b : String} {n : Nat} :
      IsNumericId a n → IsNumericId b n → a < b → TieBefore (some a) (some b)
  | number {a b : String} {m : Nat} :
      IsNumericId a m → (∀ n, ¬ IsNumericId b n) → TieBefore (some a) (some b)
  | text {a b : String} :
      (∀ n, ¬ IsNumericId a n) → (∀ n, ¬ IsNumericId b n) → a < b → TieBefore (some a) (some b)

/-- Where the keys compare as less, the one id comes before the other. -/
theorem tieBefore_of_compare {a b : Option String}
    (h : (TieKey.ofId a).compare (TieKey.ofId b) = .lt) : TieBefore a b := by
  cases a with
  | none =>
    cases b with
    | none => exact nomatch h
    | some b => exact .absent b
  | some a =>
    cases b with
    | none =>
      rcases TieKey.ofId_some a with ⟨-, ha⟩ | ⟨m, -, ha⟩
      · rw [ha] at h
        exact nomatch h
      · rw [ha] at h
        exact nomatch h
    | some b =>
      -- numbers come before texts, and within each kind the rest decides
      rcases TieKey.ofId_some a with ⟨ha, hakey⟩ | ⟨m, ha, hakey⟩
      · rcases TieKey.ofId_some b with ⟨hb, hbkey⟩ | ⟨n, hb, hbkey⟩
        · rw [hakey, hbkey] at h
          exact .text ha hb (compareOfLessAndEq_eq_lt.mp h)
        · rw [hakey, hbkey] at h
          exact nomatch h
      · rcases TieKey.ofId_some b with ⟨hb, hbkey⟩ | ⟨n, hb, hbkey⟩
        · exact .number ha hb
        · rw [hakey, hbkey] at h
          rcases Ordering.then_eq_lt.mp h with hlt | ⟨heq, hlt⟩
          · exact .smaller ha hb (Nat.compare_eq_lt.mp hlt)
          · rw [← Nat.compare_eq_eq.mp heq] at hb
            exact .spelled ha hb (compareOfLessAndEq_eq_lt.mp hlt)

theorem compare_of_tieBefore {a b : Option String} (h : TieBefore a b) :
    (TieKey.ofId a).compare (TieKey.ofId b) = .lt := by
  -- each rule tells the kinds of both ids, and so their keys
  cases h with
  | absent b =>
    rcases TieKey.ofId_some b with ⟨-, hb⟩ | ⟨n, -, hb⟩
    · rw [hb]
      rfl
    · rw [hb]
      rfl
  | smaller ha hb hlt =>
    rw [TieKey.ofId_of_numeric ha, TieKey.ofId_of_numeric hb]
    exact Ordering.then_eq_lt.mpr (Or.inl (Nat.compare_eq_lt.mpr hlt))
  | spelled ha hb hlt =>
    rw [TieKey.ofId_of_numeric ha, TieKey.ofId_of_numeric hb]
    exact Ordering.then_eq_lt.mpr
      (Or.inr ⟨Nat.compare_eq_eq.mpr rfl, compareOfLessAndEq_eq_lt.mpr hlt⟩)
  | number ha hb =>
    rw [TieKey.ofId_of_numeric ha, TieKey.ofId_of_not_numeric hb]
    rfl
  | text ha hb hlt =>
    rw [TieKey.ofId_of_not_numeric ha, TieKey.ofId_of_not_numeric hb]
    exact compareOfLessAndEq_eq_lt.mpr hlt

/-- The order of amounts: the larger number first, and any amount before none. -/
inductive AmountBefore : Option Amount → Option Amount → Prop
  | larger {x y : Amount} : y.value < x.value → AmountBefore (some x) (some y)
  | present (x : Amount) : AmountBefore (some x) none

/-- The order of amounts is the one they are compared by. -/
theorem amountBefore_iff {x y : Option Amount} :
    AmountBefore x y ↔ compareAmounts x y = .lt := by
  constructor
  · intro h
    cases h with
    | larger hlt => exact Std.compare_eq_lt.mpr hlt
    | present x => rfl
  · intro h
    cases x with
    | none =>
      cases y with
      | none => exact nomatch h
      | some y => exact nomatch h
    | some x =>
      cases y with
      | none => exact .present x
      | some y => exact .larger (Std.compare_eq_lt.mp h)

namespace Entry

variable {a b : Entry}

/-- `a` has to come before `b`: by its amount, or by its id where both amounts are the same number
or both are absent. -/
def ComesBefore (a b : Entry) : Prop :=
  AmountBefore a.amount b.amount ∨
    (a.amount.map Amount.value = b.amount.map Amount.value ∧ TieBefore a.id b.id)

/-- The strict order is the one entries are compared by. -/
theorem comesBefore_iff : a.ComesBefore b ↔ a.compare b = .lt := by
  rw [compare, Ordering.then_eq_lt, ← amountBefore_iff, compareAmounts_eq,
    Std.LawfulEqOrd.compare_eq_iff_eq]
  exact or_congr_right (and_congr eq_comm ⟨compare_of_tieBefore, tieBefore_of_compare⟩)

/-- An entry may stand before another one unless that one has to come first. -/
theorem precedes_iff : a.precedes b = true ↔ ¬ b.ComesBefore a := by
  have hswap : b.compare a = (a.compare b).swap := Std.OrientedCmp.eq_swap
  -- to compare the other way round swaps the answer, so there are three cases of one comparison
  rw [precedes, comesBefore_iff, hswap]
  cases a.compare b with
  | lt => decide
  | eq => decide
  | gt => decide

/-- `a` is listed before `b`: its amount is larger, or the same number under an id that comes
first. -/
def StandsBefore (a b : Entry) : Prop :=
  ∃ x y, a.amount = some x ∧ b.amount = some y ∧
    (y.value < x.value ∨ (x.value = y.value ∧ TieBefore a.id b.id))

/-- Without absent amounts the order says no more than that. -/
theorem ComesBefore.standsBefore (h : a.ComesBefore b) (ha : a.amount.isSome = true)
    (hb : b.amount.isSome = true) : a.StandsBefore b := by
  obtain ⟨x, hx⟩ := Option.isSome_iff_exists.mp ha
  obtain ⟨y, hy⟩ := Option.isSome_iff_exists.mp hb
  refine ⟨x, y, hx, hy, ?_⟩
  rw [ComesBefore, hx, hy] at h
  rcases h with hamount | ⟨hvalue, htie⟩
  · cases hamount with
    | larger hlt => exact Or.inl hlt
  · exact Or.inr ⟨Option.some.inj hvalue, htie⟩

end Entry

/-- Where no two entries have one id, every entry has to come before those that follow it. -/
theorem comesBefore_of_ranked {es : List Entry} (h : Ranked es)
    (hids : (es.map Entry.id).Nodup) : es.Pairwise Entry.ComesBefore := by
  have hdistinct : es.Pairwise fun a b => a.id ≠ b.id := List.pairwise_map.mp hids
  refine (h.and hdistinct).imp fun {a b} ⟨hle, hne⟩ => Entry.comesBefore_iff.mpr ?_
  unfold Entry.precedes at hle
  cases hcompare : a.compare b with
  | lt => rfl
  | eq =>
    -- entries that tie have the same id
    exact absurd (congrArg Prod.fst (Entry.figure_eq_of_compare hcompare)) hne
  | gt =>
    rw [hcompare] at hle
    exact nomatch hle

/-- Where every entry has an amount, the order is told by numbers and ids. -/
theorem standsBefore_of_ranked {es : List Entry} (h : Ranked es)
    (hids : (es.map Entry.id).Nodup) (hamounts : ∀ x ∈ es, x.amount.isSome = true) :
    es.Pairwise Entry.StandsBefore :=
  (comesBefore_of_ranked h hids).imp_of_mem fun ha hb hab =>
    hab.standsBefore (hamounts _ ha) (hamounts _ hb)

end Obligations
