import Mathlib.Data.List.Basic
import Obligations.Filters
import Obligations.Proofs.Outcome

/-!
# Obligations — what the keys of a request tell

The keys of a mapping fall into three groups: year and quarter, the names of categories, and
keys that mean nothing. A mapping that is read keeps all of them and narrows by the second
group alone, one narrowing for each key in key order. Whether the rows are narrowed can so be
told from the keys, without the values.

* `Filters.categories_readNarrowing` — the narrowing follows the keys;
* `Filters.read_eq_ok` — what is known of filters that were read;
* `Filters.exists_read` — every set of keys with year and quarter is that of some mapping
  that is read.
-/

namespace Obligations

namespace Filters

/-- The categories that the keys name, in key order. -/
def namedBy (keys : KeySet) : List Category := keys.toList.filterMap Category.ofName?

/-- No category is named if none of the keys names one. -/
theorem namedBy_eq_nil {keys : KeySet} :
    namedBy keys = [] ↔ ∀ k ∈ keys, Category.ofName? k = none :=
  List.filterMap_eq_nil_iff

theorem ofName?_of_base {key : String} (h : key = yearKey ∨ key = quarterKey) :
    Category.ofName? key = none := by
  rcases h with rfl | rfl
  · decide
  · decide

/-! ## From a mapping to its filters -/

/-- **The keys tell what is narrowed**, one narrowing for each that names a category, in their
order. -/
theorem categories_readNarrowing {entries : List (String × Json)} {narrowing : List Narrowing}
    (h : (readNarrowing entries).2 = .ok narrowing) :
    narrowing.map Narrowing.category = (entries.map Prod.fst).filterMap Category.ofName? := by
  -- on the entries, which are read in key order
  induction entries generalizing narrowing with
  | nil =>
    injection h with h
    rw [← h]
    rfl
  | cons entry rest ih =>
    obtain ⟨key, value⟩ := entry
    rw [readNarrowing] at h
    rw [List.map_cons, List.filterMap_cons]
    by_cases hbase : key = yearKey ∨ key = quarterKey
    · rw [if_pos hbase] at h
      rw [ofName?_of_base hbase]
      exact ih h
    · rw [if_neg hbase] at h
      cases hname : Category.ofName? key with
      | none =>
        -- the key is passed over, on both sides
        rw [hname] at h
        exact ih h
      | some category =>
        -- the key narrows, unless its value does not
        rw [hname] at h
        cases hvalue : narrowingValue? value with
        | none =>
          rw [hvalue] at h
          exact nomatch h
        | some text =>
          rw [hvalue] at h
          obtain ⟨tail, htail, rfl⟩ := map_eq_ok.mp h
          rw [List.map_cons, ih htail]

/-- Filters that were read have all the keys of the mapping, and narrow by those of them that
name a category. -/
theorem read_eq_ok {filters : Option (KeyMap Json)} {f : Filters}
    (h : (read filters).2 = .ok f) :
    ∃ mapping, filters = some mapping ∧ readQuarterOf mapping = .ok (f.year, f.quarter) ∧
      f.keys = mapping.keys ∧ f.narrowing.map Narrowing.category = namedBy f.keys := by
  cases filters with
  | none => exact nomatch h
  | some mapping =>
    rw [read] at h
    cases hquarter : readQuarterOf mapping with
    | error fault =>
      rw [hquarter] at h
      exact nomatch h
    | ok window =>
      rw [hquarter] at h
      obtain ⟨narrowing, hnarrowing, rfl⟩ := map_eq_ok.mp h
      exact ⟨mapping, rfl, hquarter, rfl, categories_readNarrowing hnarrowing⟩

/-! ## From keys to a mapping -/

/-- If every value could narrow, whether its key asks for it or not, the reading goes through. -/
theorem readNarrowing_of_values {entries : List (String × Json)}
    (h : ∀ x ∈ entries, (narrowingValue? x.2).isSome = true) :
    ∃ narrowing, (readNarrowing entries).2 = .ok narrowing := by
  induction entries with
  | nil => exact ⟨[], rfl⟩
  | cons entry rest ih =>
    obtain ⟨key, value⟩ := entry
    obtain ⟨tail, htail⟩ := ih fun x hx => h x (List.mem_cons_of_mem _ hx)
    obtain ⟨text, htext⟩ := Option.isSome_iff_exists.mp (h _ List.mem_cons_self)
    rw [readNarrowing]
    by_cases hbase : key = yearKey ∨ key = quarterKey
    · rw [if_pos hbase]
      exact ⟨tail, htail⟩
    · rw [if_neg hbase]
      cases Category.ofName? key with
      | none => exact ⟨tail, htail⟩
      | some category =>
        rw [htext]
        exact ⟨⟨category, text⟩ :: tail, map_eq_ok.mpr ⟨tail, htail, rfl⟩⟩

/-- A value for every key: a year for the year, and a text that is also a quarter for the
others. -/
def sampleValue (key : String) : Json :=
  if key = yearKey then .number (.integer 2020) else .string "1"

/-- A mapping with just these keys. -/
def sampleMapping (keys : KeySet) : KeyMap Json where
  entries   := keys.toList.map fun key => (key, sampleValue key)
  ascending := by
    rw [List.pairwise_map]
    exact keys.ascending

/-- The mapping has these keys and no others. -/
theorem keys_sampleMapping (keys : KeySet) : (sampleMapping keys).keys = keys := by
  obtain ⟨toList, hascending⟩ := keys
  simp [KeyMap.keys, sampleMapping, Function.comp_def]

theorem readQuarterOf_sampleMapping {keys : KeySet} (hyear : yearKey ∈ keys)
    (hquarter : quarterKey ∈ keys) : readQuarterOf (sampleMapping keys) = .ok (2020, 1) := by
  -- a table that is a graph of a function looks up to its values
  have hlookup : ∀ key ∈ keys, (sampleMapping keys).get? key = some (sampleValue key) :=
    fun key hkey => List.lookup_graph sampleValue hkey
  unfold readQuarterOf
  rw [hlookup yearKey hyear, hlookup quarterKey hquarter]
  rfl

/-- So every set of keys with year and quarter belongs to some request that is read. This is why
base keys alone decide what can be compared. -/
theorem exists_read {keys : KeySet} (hyear : yearKey ∈ keys) (hquarter : quarterKey ∈ keys) :
    ∃ mapping f, (read (some mapping)).2 = .ok f ∧ f.keys = keys := by
  -- every value is a number or a text, so none of them stops the reading
  have hvalues : ∀ x ∈ (sampleMapping keys).entries, (narrowingValue? x.2).isSome = true := by
    intro x hx
    obtain ⟨key, -, rfl⟩ := List.mem_map.mp hx
    show (narrowingValue? (sampleValue key)).isSome = true
    unfold sampleValue
    split <;> rfl
  obtain ⟨narrowing, hnarrowing⟩ := readNarrowing_of_values hvalues
  refine ⟨sampleMapping keys, ⟨2020, 1, keys, narrowing⟩, ?_, rfl⟩
  rw [read, readQuarterOf_sampleMapping hyear hquarter]
  exact map_eq_ok.mpr ⟨narrowing, hnarrowing, by rw [keys_sampleMapping]⟩

end Filters

end Obligations
