/-!
# Obligations — sets of keys

Finite sets of text keys, held in ascending order by code point and without repetition.
The order is part of the type, so two sets with the same members are equal
(`KeySet.ext_mem`), and equality is decided by comparing lists.
-/

namespace Obligations

/-- A finite set of keys in ascending order. -/
structure KeySet where
  toList : List String
  ascending : toList.Pairwise (· < ·)
deriving DecidableEq

namespace KeySet

instance : Membership String KeySet := ⟨fun s k => k ∈ s.toList⟩

instance (k : String) (s : KeySet) : Decidable (k ∈ s) :=
  inferInstanceAs (Decidable (k ∈ s.toList))

def empty : KeySet := ⟨[], .nil⟩

/-- Puts `k` where it belongs in an ascending list. -/
def place (k : String) : List String → List String
  | [] => [k]
  | x :: xs => if k < x then k :: x :: xs else if k = x then x :: xs else x :: place k xs

theorem mem_place {k x : String} {xs : List String} : x ∈ place k xs ↔ x = k ∨ x ∈ xs := by
  induction xs with
  | nil => simp [place]
  | cons y ys ih =>
    rw [place]
    split
    · simp
    · split
      · next h => simp [h]
      · simp only [List.mem_cons, ih]
        exact or_left_comm

/-- A key that is put in its place leaves the others in ascending order. -/
theorem place_ascending {k : String} {xs : List String} (h : xs.Pairwise (· < ·)) :
    (place k xs).Pairwise (· < ·) := by
  induction xs with
  | nil => simp [place]
  | cons y ys ih =>
    obtain ⟨hy, hys⟩ := List.pairwise_cons.mp h
    rw [place]
    split
    · next hk =>
      refine List.pairwise_cons.mpr ⟨fun z hz => ?_, h⟩
      rcases List.mem_cons.mp hz with rfl | hz
      · exact hk
      · exact String.lt_trans hk (hy z hz)
    · split
      · exact h
      · next hk hne =>
        refine List.pairwise_cons.mpr ⟨fun z hz => ?_, ih hys⟩
        rcases mem_place.mp hz with rfl | hz
        · rcases String.le_total y z with hle | hle
          · rcases Classical.em (y < z) with hlt | hnlt
            · exact hlt
            · exact absurd (String.le_antisymm (String.not_lt.mp hnlt) hle) hne
          · exact absurd (String.le_antisymm hle (String.not_lt.mp hk)) hne
        · exact hy z hz

def insert (s : KeySet) (k : String) : KeySet := ⟨place k s.toList, place_ascending s.ascending⟩

def ofList (ks : List String) : KeySet := ks.foldl insert empty

@[simp] theorem mem_toList {s : KeySet} {k : String} : k ∈ s.toList ↔ k ∈ s := Iff.rfl

@[simp] theorem mem_insert {s : KeySet} {k x : String} : x ∈ s.insert k ↔ x = k ∨ x ∈ s :=
  mem_place

@[simp] theorem not_mem_empty {k : String} : ¬ k ∈ empty := List.not_mem_nil

@[simp] theorem mem_ofList {ks : List String} {k : String} : k ∈ ofList ks ↔ k ∈ ks := by
  have general : ∀ s : KeySet, k ∈ ks.foldl insert s ↔ k ∈ s ∨ k ∈ ks := by
    induction ks with
    | nil => simp
    | cons x xs ih =>
      intro s
      rw [List.foldl_cons, ih, mem_insert, List.mem_cons]
      constructor
      · rintro ((h | h) | h) <;> simp [h]
      · rintro (h | h | h) <;> simp [h]
  simp [ofList, general]

/-- Sets with the same members are equal. -/
theorem ext_mem {s t : KeySet} (h : ∀ k, k ∈ s ↔ k ∈ t) : s = t := by
  obtain ⟨xs, hxs⟩ := s
  obtain ⟨ys, hys⟩ := t
  have same : ∀ k, k ∈ xs ↔ k ∈ ys := h
  have lists : xs = ys := by
    clear h
    induction xs generalizing ys with
    | nil =>
      cases ys with
      | nil => rfl
      | cons y ys => simpa using same y
    | cons x xs ih =>
      cases ys with
      | nil => simpa using same x
      | cons y ys =>
        obtain ⟨hx, hxs'⟩ := List.pairwise_cons.mp hxs
        obtain ⟨hy, hys'⟩ := List.pairwise_cons.mp hys
        -- each first key is in the other list, and nothing there is smaller than its first
        have heads : x = y := by
          rcases List.mem_cons.mp ((same x).mp List.mem_cons_self) with h | h
          · exact h
          · rcases List.mem_cons.mp ((same y).mpr List.mem_cons_self) with h' | h'
            · exact h'.symm
            · exact absurd (hy x h) (String.lt_asymm (hx y h'))
        subst heads
        congr 1
        refine ih hxs' ys hys' fun k => ?_
        constructor
        · intro hk
          rcases List.mem_cons.mp ((same k).mp (List.mem_cons_of_mem x hk)) with rfl | h
          · exact absurd (hx k hk) (String.lt_irrefl k)
          · exact h
        · intro hk
          rcases List.mem_cons.mp ((same k).mpr (List.mem_cons_of_mem x hk)) with rfl | h
          · exact absurd (hy k hk) (String.lt_irrefl k)
          · exact h
  subst lists
  rfl

end KeySet

end Obligations
