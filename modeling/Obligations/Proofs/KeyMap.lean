import Mathlib.Data.List.Sort
import Obligations.KeyMap

/-!
# Obligations — tables as lookups

The entries of a table are in ascending order of their keys, so the table is told by what its
keys are looked up to, and so is every part of it that is picked out by key.

* `KeyMap.mem_entries`, `KeyMap.exists_split_iff` — the entries are what is looked up, and those
  in front of an entry are those of smaller keys;
* `KeyMap.eq_of_ascending`, `KeyMap.filter_entries_congr` — lists in ascending order are told by
  their members, so tables that agree on some keys have the same entries there;
* `KeyMap.get?_insert`, `KeyMap.get?_ofList`, `KeyMap.get?_mapValues` — lookup after an insertion,
  in a table made of listed entries, and in one with changed values.
-/

namespace Obligations.KeyMap

variable {α : Type} {t t' : KeyMap α} {k : String} {v : α}

/-- The entries of a table are what its keys are looked up to. -/
theorem mem_entries : (k, v) ∈ t.entries ↔ t.get? k = some v := by
  rw [get?, List.lookup_eq_some_iff]
  constructor
  · intro hmem
    obtain ⟨before, after, hsplit⟩ := List.append_of_mem hmem
    refine ⟨before, after, hsplit, fun x hx => ?_⟩
    -- whatever stands before the entry has a smaller key
    have hascending := t.ascending
    rw [hsplit, List.pairwise_append] at hascending
    have hlt : x.1 < k := hascending.2.2 x hx (k, v) List.mem_cons_self
    simpa using fun hsame : k = x.1 => String.lt_irrefl x.1 (hsame ▸ hlt)
  · rintro ⟨before, after, hsplit, -⟩
    rw [hsplit]
    simp

/-- Where the table is split at a key, the entries in front are those of the smaller keys. -/
theorem exists_split_iff {p : String × α → Prop} :
    (∃ before after, t.entries = before ++ (k, v) :: after ∧ ∀ x ∈ before, p x) ↔
      t.get? k = some v ∧ ∀ k' v', k' < k → t.get? k' = some v' → p (k', v') := by
  have hascending := t.ascending
  constructor
  · rintro ⟨before, after, hsplit, hbefore⟩
    rw [hsplit, List.pairwise_append, List.pairwise_cons] at hascending
    obtain ⟨-, ⟨hafter, -⟩, -⟩ := hascending
    refine ⟨mem_entries.mp (by simp [hsplit]), fun k' v' hlt hget => ?_⟩
    have hmem := mem_entries.mpr hget
    rw [hsplit, List.mem_append, List.mem_cons] at hmem
    -- the entry is neither the one of the key nor behind it
    rcases hmem with hmem | hsame | hmem
    · exact hbefore _ hmem
    · injection hsame with hsame
      exact absurd (hsame ▸ hlt) (String.lt_irrefl k)
    · exact absurd (hafter _ hmem) (String.lt_asymm hlt)
  · rintro ⟨hget, hbefore⟩
    obtain ⟨before, after, hsplit⟩ := List.append_of_mem (mem_entries.mpr hget)
    refine ⟨before, after, hsplit, fun x hx => ?_⟩
    rw [hsplit, List.pairwise_append] at hascending
    have hlt : x.1 < k := hascending.2.2 x hx (k, v) List.mem_cons_self
    exact hbefore x.1 x.2 hlt (mem_entries.mp (by simp [hsplit, hx]))

/-- The keys of a table are those that are looked up to something. -/
theorem mem_keys : k ∈ t.keys ↔ ∃ v, t.get? k = some v := by
  have hmem : k ∈ t.keys ↔ k ∈ t.entries.map Prod.fst := Iff.rfl
  simp [hmem, mem_entries]

/-! ## Parts of a table -/

/-- Lists in ascending order of keys are told by their members. -/
theorem eq_of_ascending {β : Type} {key : β → String} {xs ys : List β}
    (hxs : xs.Pairwise (key · < key ·)) (hys : ys.Pairwise (key · < key ·))
    (hmem : ∀ x, x ∈ xs ↔ x ∈ ys) : xs = ys := by
  have : Std.Irrefl fun x y : β => key x < key y := ⟨fun x => String.lt_irrefl (key x)⟩
  have : Std.Antisymm fun x y : β => key x < key y :=
    ⟨fun x y hxy hyx => absurd hyx (String.lt_asymm hxy)⟩
  exact hxs.eq_of_mem_iff hys hmem

/-- Tables that agree on some keys have the same entries under them. -/
theorem filter_entries_congr {p : String → Bool} (h : ∀ k, p k = true → t.get? k = t'.get? k) :
    t.entries.filter (fun x => p x.1) = t'.entries.filter (fun x => p x.1) := by
  -- both parts are in ascending order
  refine eq_of_ascending (t.ascending.filter _) (t'.ascending.filter _) fun x => ?_
  obtain ⟨k, v⟩ := x
  rw [List.mem_filter, List.mem_filter, mem_entries, mem_entries]
  exact and_congr_left fun hp => by rw [h k hp]

/-! ## Insertion -/

theorem lookup_cons (k : String) (x : String × α) (xs : List (String × α)) :
    (x :: xs).lookup k = if k = x.1 then some x.2 else xs.lookup k := by
  rw [List.lookup_cons]
  by_cases h : k = x.1
  · rw [if_pos h, beq_iff_eq.mpr h]
  · rw [if_neg h, beq_eq_false_iff_ne.mpr h]

/-- An entry that is put in its place is found, and hides no other. -/
theorem lookup_place (k k' : String) (v : α) (xs : List (String × α)) :
    (place k v xs).lookup k' = if k' = k then some v else xs.lookup k' := by
  -- the entry goes in front, takes the place of one with its key, or goes further back
  induction xs with
  | nil => rw [place, lookup_cons]
  | cons x xs ih =>
    rw [place]
    split
    · rw [lookup_cons]
    · split
      · next hk =>
        -- the entry that is replaced has the same key
        rw [lookup_cons, lookup_cons, ← hk]
        split <;> rfl
      · next hne =>
        rw [lookup_cons, lookup_cons, ih]
        by_cases hx : k' = x.1
        · have hk : k' ≠ k := fun h => hne (h.symm.trans hx)
          rw [if_pos hx, if_neg hk, if_pos hx]
        · rw [if_neg hx, if_neg hx]

/-- After an insertion the key has the new value, and other keys have theirs. -/
theorem get?_insert (t : KeyMap α) (k k' : String) (v : α) :
    (t.insert k v).get? k' = if k' = k then some v else t.get? k' :=
  lookup_place k k' v t.entries

/-- After insertions under different keys, each key has the value that was listed for it, if any
was. -/
theorem get?_foldl_insert {xs : List (String × α)} (hkeys : (xs.map Prod.fst).Nodup) :
    ∀ t : KeyMap α, (xs.foldl (fun t x => t.insert x.1 x.2) t).get? k = some v ↔
      (k, v) ∈ xs ∨ (k ∉ xs.map Prod.fst ∧ t.get? k = some v) := by
  -- by induction on the entries, for whatever was in the table before them
  induction xs with
  | nil =>
    intro t
    simp
  | cons x xs ih =>
    intro t
    obtain ⟨key, value⟩ := x
    rw [List.map_cons, List.nodup_cons] at hkeys
    rw [List.foldl_cons, ih hkeys.2, get?_insert, List.mem_cons, Prod.mk.injEq, List.map_cons,
      List.mem_cons]
    by_cases hk : k = key
    · -- the entry is the only one of its key, so it stays
      subst hk
      have hnew : ∀ w, (k, w) ∉ xs := by
        intro w hw
        exact hkeys.1 (List.mem_map.mpr ⟨(k, w), hw, rfl⟩)
      simp [hkeys.1, hnew, eq_comm]
    · simp [hk]

/-- A table made of entries with different keys looks up to these entries. -/
theorem get?_ofList {xs : List (String × α)} (hkeys : (xs.map Prod.fst).Nodup) :
    (ofList xs).get? k = some v ↔ (k, v) ∈ xs := by
  have hempty : (empty : KeyMap α).get? k ≠ some v := by
    intro h
    exact nomatch h
  show (xs.foldl (fun t x => t.insert x.1 x.2) empty).get? k = some v ↔ _
  rw [get?_foldl_insert hkeys]
  simp [hempty]

/-! ## Changed values -/

/-- The table with every value changed, in a way that can depend on the key. -/
def mapValues (f : String → α → α) (t : KeyMap α) : KeyMap α where
  entries   := t.entries.map fun x => (x.1, f x.1 x.2)
  ascending := by
    rw [List.pairwise_map]
    exact t.ascending

/-- A changed table looks up to the changed value. -/
theorem get?_mapValues (f : String → α → α) (t : KeyMap α) (k : String) :
    (t.mapValues f).get? k = (t.get? k).map (f k) := by
  -- both sides are told by the entries of the table
  refine Option.ext fun v => ?_
  show (t.mapValues f).get? k = some v ↔ (t.get? k).map (f k) = some v
  rw [← mem_entries, Option.map_eq_some_iff]
  simp only [← mem_entries]
  constructor
  · intro hmem
    obtain ⟨⟨k', w⟩, hw, hsame⟩ := List.mem_map.mp hmem
    injection hsame with hkey hvalue
    subst hkey
    exact ⟨w, hw, hvalue⟩
  · rintro ⟨w, hw, rfl⟩
    exact List.mem_map.mpr ⟨(k, w), hw, rfl⟩

theorem keys_mapValues (f : String → α → α) (t : KeyMap α) : (t.mapValues f).keys = t.keys := by
  refine KeySet.ext_mem fun k => ?_
  simp [mem_keys, get?_mapValues]

end Obligations.KeyMap
