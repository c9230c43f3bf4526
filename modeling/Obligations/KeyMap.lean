import Obligations.KeySet

/-!
# Obligations — tables keyed by text

Values under distinct keys, held in ascending order of the keys, so that reading a
table from front to back is reading it in key order.
-/

namespace Obligations

/-- Values under distinct keys, in ascending order of the keys. -/
structure KeyMap (α : Type) where
  entries : List (String × α)
  ascending : entries.Pairwise (·.1 < ·.1)

namespace KeyMap

variable {α : Type}

def empty : KeyMap α := ⟨[], .nil⟩

/-- Puts `v` under `k` where it belongs in an ascending list, replacing what was there. -/
def place (k : String) (v : α) : List (String × α) → List (String × α)
  | [] => [(k, v)]
  | x :: xs =>
    if k < x.1 then (k, v) :: x :: xs
    else if k = x.1 then (k, v) :: xs
    else x :: place k v xs

/-- The keys of a table change as a set of keys does. -/
theorem key_place (k : String) (v : α) (xs : List (String × α)) :
    (place k v xs).map Prod.fst = KeySet.place k (xs.map Prod.fst) := by
  induction xs with
  | nil => rfl
  | cons x xs ih =>
    simp only [place, List.map_cons, KeySet.place]
    split
    · rfl
    · split
      · next h => simp [h]
      · simp [ih]

/-- The table with `v` under `k`. -/
def insert (t : KeyMap α) (k : String) (v : α) : KeyMap α where
  entries := place k v t.entries
  ascending := by
    have h := KeySet.place_ascending (k := k) (List.pairwise_map.mpr t.ascending)
    rw [← key_place k v] at h
    exact List.pairwise_map.mp h

/-- The table of the listed entries; of several under one key the last counts. -/
def ofList (xs : List (String × α)) : KeyMap α := xs.foldl (fun t x => t.insert x.1 x.2) empty

/-- What is under the key. -/
def get? (t : KeyMap α) (k : String) : Option α := t.entries.lookup k

def keys (t : KeyMap α) : KeySet := ⟨t.entries.map Prod.fst, List.pairwise_map.mpr t.ascending⟩

@[simp] theorem keys_insert (t : KeyMap α) (k : String) (v : α) :
    (t.insert k v).keys = t.keys.insert k := by
  simp [keys, insert, KeySet.insert, key_place]

end KeyMap

end Obligations
