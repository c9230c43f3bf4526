import Obligations.Ranking

/-!
# Obligations — the order of a result

Ranking is an insertion sort, so what it gives depends on the order of entries being a
total preorder: amounts compare by value, and ties by id.

* `TieKey.compare_eq` — a tie key is compared as kind, number and text, in this order;
* `Entry.precedes_total`, `Entry.precedes_trans` — any two entries are comparable, and
  comparing is transitive;
* `Ranked` — no entry stands before one that has to come earlier;
* `ranked_rank`, `rank_of_ranked` — ranking gives such a list, and leaves such a list alone;
* `filter_rank` — dropping entries before ranking or after it is the same. This is what
  makes an entry that was added, ranked and dropped again leave no trace.
-/

namespace Obligations

/-! ## Keys -/

/-- Amounts compare as optional numbers do, the other way round. -/
theorem compareAmounts_eq (a b : Option Amount) :
    compareAmounts a b = compare (b.map Amount.value) (a.map Amount.value) := by
  cases a <;> cases b <;> rfl

instance : Std.TransCmp compareAmounts where
  eq_swap {a b} := by
    rw [compareAmounts_eq, compareAmounts_eq]
    exact Std.OrientedOrd.eq_swap
  isLE_trans {a b c} hab hbc := by
    rw [compareAmounts_eq] at hab hbc ⊢
    exact Std.TransOrd.isLE_trans hbc hab

namespace TieKey

/-- No id comes first, then numbers, then other texts. -/
def kind : TieKey → Nat
  | absent => 0
  | number _ _ => 1
  | text _ => 2

def numeral : TieKey → Nat
  | number n _ => n
  | _ => 0

def content : TieKey → String
  | absent => ""
  | number _ id => id
  | text id => id

/-- Keys are compared by kind first, then by number, then by text. -/
theorem compare_eq : compare =
    compareLex (compareOn kind) (compareLex (compareOn numeral) (compareOn content)) := by
  funext a b
  cases a <;> cases b <;> rfl

instance : Std.TransCmp compare := by
  rw [compare_eq]
  infer_instance

end TieKey

/-! ## Entries -/

namespace Entry

/-- Entries are compared by amount and then by tie key. -/
theorem compare_eq : compare =
    compareLex (fun a b => compareAmounts a.amount b.amount)
      (fun a b => (TieKey.ofId a.id).compare (TieKey.ofId b.id)) := rfl

instance : Std.TransCmp fun a b : Entry => compareAmounts a.amount b.amount where
  eq_swap := Std.OrientedCmp.eq_swap
  isLE_trans := Std.TransCmp.isLE_trans

instance : Std.TransCmp fun a b : Entry => (TieKey.ofId a.id).compare (TieKey.ofId b.id) where
  eq_swap := Std.OrientedCmp.eq_swap
  isLE_trans := Std.TransCmp.isLE_trans

instance : Std.TransCmp compare := by
  rw [compare_eq]
  infer_instance

theorem precedes_total (a b : Entry) : a.precedes b = true ∨ b.precedes a = true := by
  have hswap : b.compare a = (a.compare b).swap := Std.OrientedCmp.eq_swap
  unfold precedes
  rw [hswap]
  cases a.compare b with
  | lt => exact Or.inl rfl
  | eq => exact Or.inl rfl
  | gt => exact Or.inr rfl

/-- What may stand before an entry may stand before those that follow it. -/
theorem precedes_trans {a b c : Entry} (hab : a.precedes b = true) (hbc : b.precedes c = true) :
    a.precedes c = true :=
  Std.TransCmp.isLE_trans hab hbc

end Entry

/-! ## Ranked lists -/

/-- Every entry may stand before all that follow it. -/
def Ranked (es : List Entry) : Prop := es.Pairwise fun a b => a.precedes b = true

/-- An entry that is put in its place leaves the list ranked. -/
theorem ranked_placeEntry {e : Entry} {es : List Entry} (h : Ranked es) :
    Ranked (placeEntry e es) := by
  -- by induction on the list, past the entries that stay in front
  induction es with
  | nil => exact List.pairwise_singleton _ e
  | cons x xs ih =>
    obtain ⟨hx, hxs⟩ := List.pairwise_cons.mp h
    rw [placeEntry]
    split
    · next hle =>
      -- `e` comes before `x`, and so before whatever `x` comes before
      refine List.pairwise_cons.mpr ⟨fun y hy => ?_, h⟩
      rcases List.mem_cons.mp hy with rfl | hy
      · exact hle
      · exact Entry.precedes_trans hle (hx y hy)
    · next hnle =>
      -- `x` stays in front, also of `e`, since any two entries are comparable
      have hxe : x.precedes e = true := (Entry.precedes_total e x).resolve_left hnle
      refine List.pairwise_cons.mpr ⟨fun y hy => ?_, ih hxs⟩
      rcases List.mem_cons.mp ((placeEntry_perm e xs).mem_iff.mp hy) with rfl | hy
      · exact hxe
      · exact hx y hy

theorem ranked_rank (es : List Entry) : Ranked (rank es) := by
  induction es with
  | nil => exact List.Pairwise.nil
  | cons e es ih => exact ranked_placeEntry ih

/-- An entry that may stand before all others is put in front. -/
theorem placeEntry_of_forall {e : Entry} {es : List Entry}
    (h : ∀ x ∈ es, e.precedes x = true) : placeEntry e es = e :: es := by
  cases es with
  | nil => rfl
  | cons x xs => rw [placeEntry, if_pos (h x List.mem_cons_self)]

/-- A ranked list is left as it is. -/
theorem rank_of_ranked {es : List Entry} (h : Ranked es) : rank es = es := by
  induction es with
  | nil => rfl
  | cons e es ih =>
    obtain ⟨he, hes⟩ := List.pairwise_cons.mp h
    show placeEntry e (rank es) = e :: es
    -- the rest is ranked already, and the first may stand before all of it
    rw [ih hes]
    exact placeEntry_of_forall he

/-! ## Dropping entries -/

/-- It is the same to drop entries before another is put in its place or afterwards. -/
theorem filter_placeEntry (p : Entry → Bool) {e : Entry} {es : List Entry} (h : Ranked es) :
    (placeEntry e es).filter p =
      if p e then placeEntry e (es.filter p) else es.filter p := by
  induction es with
  | nil => simp [placeEntry, List.filter_cons]
  | cons x xs ih =>
    obtain ⟨hx, hxs⟩ := List.pairwise_cons.mp h
    rw [placeEntry]
    split
    · next hle =>
      -- whatever is left of `x :: xs`, `e` may stand before it
      have hall : ∀ y ∈ (x :: xs).filter p, e.precedes y = true := by
        intro y hy
        rcases List.mem_cons.mp (List.mem_filter.mp hy).1 with rfl | hy
        · exact hle
        · exact Entry.precedes_trans hle (hx y hy)
      rw [placeEntry_of_forall hall, List.filter_cons]
    · next hnle =>
      -- `e` goes behind `x`, and each of them is kept or dropped on its own
      rw [List.filter_cons, ih hxs, List.filter_cons]
      by_cases hpx : p x = true
      · by_cases hpe : p e = true
        · rw [if_pos hpx, if_pos hpe, if_pos hpe, if_pos hpx, placeEntry, if_neg hnle]
        · rw [if_pos hpx, if_neg hpe, if_neg hpe, if_pos hpx]
      · simp only [hpx]
        rfl

/-- It is the same to drop entries before ranking or after it. -/
theorem filter_rank (p : Entry → Bool) (es : List Entry) :
    (rank es).filter p = rank (es.filter p) := by
  induction es with
  | nil => rfl
  | cons e es ih =>
    show (placeEntry e (rank es)).filter p = rank ((e :: es).filter p)
    rw [filter_placeEntry p (ranked_rank es), ih, List.filter_cons]
    split <;> rfl

end Obligations
