import Obligations.Proofs.Filters.Keys
import Obligations.Proofs.KeyMap

/-!
# Obligations — a mapping read entry by entry

Beside year and quarter an entry of a mapping narrows, if its key is the name of a category, or
is passed over. What the reading of a list of entries gives is said by these three cases, and
everything else about it follows by induction on the list: what is passed over does not matter
to the narrowing, and the first entry that cannot narrow ends the reading.

* `Filters.IsRecognized` — the keys that mean something;
* `Filters.readNarrowing_of_base`, `Filters.readNarrowing_of_category`,
  `Filters.readNarrowing_of_unrecognized` — one entry;
* `Filters.readNarrowing_filter`, `Filters.ignored_of_readNarrowing` — what is passed over leaves
  no trace but its key;
* `Filters.read_eq_ok_iff`, `Filters.read_eq_error_iff` — how a mapping is read to the end, and
  how it is not.
-/

namespace Obligations.Filters

/-! ## Keys -/

/-- The key is that of the year or the quarter, or the name of a category. -/
def IsRecognized (key : String) : Prop :=
  key = yearKey ∨ key = quarterKey ∨ ∃ c : Category, key = c.name

/-- A key is the name of a category just in case one is found for it. -/
theorem isSome_ofName?_iff {key : String} :
    (Category.ofName? key).isSome = true ↔ ∃ c : Category, key = c.name := by
  rw [Option.isSome_iff_exists]
  constructor
  · rintro ⟨c, hc⟩
    exact ⟨c, (Category.name_of_ofName? hc).symm⟩
  · rintro ⟨c, rfl⟩
    exact ⟨c, Category.ofName?_name c⟩

instance (key : String) : Decidable (IsRecognized key) :=
  decidable_of_iff (key = yearKey ∨ key = quarterKey ∨ (Category.ofName? key).isSome = true)
    (or_congr_right (or_congr_right isSome_ofName?_iff))

theorem isRecognized_of_base {key : String} (h : key = yearKey ∨ key = quarterKey) :
    IsRecognized key :=
  h.elim Or.inl fun h => Or.inr (Or.inl h)

/-- No category goes by the name of a base key, so the three kinds of entries exclude each other. -/
theorem not_base_of_category (c : Category) : ¬ (c.name = yearKey ∨ c.name = quarterKey) := by
  -- a name that is looked up is found, and a base key is not
  intro hbase
  have hname := ofName?_of_base hbase
  rw [Category.ofName?_name] at hname
  contradiction

/-! ## One entry -/

variable {key : String} {value : Json} {rest : List (String × Json)}

/-- Year and quarter are left to another reader. -/
theorem readNarrowing_of_base (h : key = yearKey ∨ key = quarterKey) :
    readNarrowing ((key, value) :: rest) = readNarrowing rest := by
  rw [readNarrowing, if_pos h]

/-- An entry that means nothing adds its key to those that were passed over. -/
theorem readNarrowing_of_unrecognized (h : ¬ IsRecognized key) :
    readNarrowing ((key, value) :: rest) =
      (key :: (readNarrowing rest).1, (readNarrowing rest).2) := by
  have hbase : ¬ (key = yearKey ∨ key = quarterKey) := fun hbase => h (isRecognized_of_base hbase)
  have hname : Category.ofName? key = none := by
    rw [← Option.not_isSome_iff_eq_none, isSome_ofName?_iff]
    exact fun hname => h (Or.inr (Or.inr hname))
  -- neither of the two ways to mean something is left
  rw [readNarrowing, if_neg hbase, hname]

/-- An entry of a category narrows, or it ends the reading. Whatever was passed over is forgotten
then. -/
theorem readNarrowing_of_category (c : Category) :
    readNarrowing ((c.name, value) :: rest) =
      match narrowingValue? value with
      | none => ([], .error (.malformedFilter c.name))
      | some text =>
        ((readNarrowing rest).1, (readNarrowing rest).2.map (⟨c, text⟩ :: ·)) := by
  have hbase := not_base_of_category c
  -- the value has a text to narrow by, or it has none
  cases hvalue : narrowingValue? value with
  | none => simp only [readNarrowing, if_neg hbase, Category.ofName?_name, hvalue]
  | some text => simp only [readNarrowing, if_neg hbase, Category.ofName?_name, hvalue]

/-- An entry is of one of three kinds. -/
theorem kinds_of_key (key : String) :
    (key = yearKey ∨ key = quarterKey) ∨ (∃ c : Category, key = c.name) ∨ ¬ IsRecognized key := by
  by_cases h : IsRecognized key
  · rcases h with h | h | h
    · exact Or.inl (Or.inl h)
    · exact Or.inl (Or.inr h)
    · exact Or.inr (Or.inl h)
  · exact Or.inr (Or.inr h)

/-! ## What is passed over -/

/-- **Entries that mean nothing can be left out**: neither the narrowing nor a fault depends on
them. -/
theorem readNarrowing_filter (entries : List (String × Json)) :
    (readNarrowing (entries.filter fun x => decide (IsRecognized x.1))).2 =
      (readNarrowing entries).2 := by
  -- entry by entry, for each of the three kinds
  induction entries with
  | nil => rfl
  | cons entry rest ih =>
    obtain ⟨key, value⟩ := entry
    -- only an entry of the third kind is dropped by the filter, and it does nothing
    rcases kinds_of_key key with hbase | ⟨c, rfl⟩ | hkey
    · have hrec := isRecognized_of_base hbase
      rw [List.filter_cons_of_pos (by simpa using hrec), readNarrowing_of_base hbase,
        readNarrowing_of_base hbase, ih]
    · have hrec : IsRecognized c.name := Or.inr (Or.inr ⟨c, rfl⟩)
      rw [List.filter_cons_of_pos (by simpa using hrec), readNarrowing_of_category,
        readNarrowing_of_category, ih]
      cases narrowingValue? value <;> rfl
    · rw [List.filter_cons_of_neg (by simpa using hkey), readNarrowing_of_unrecognized hkey, ih]

/-- A reading that does not fail passes over the keys that are not recognized, in their order. -/
theorem ignored_of_readNarrowing {entries : List (String × Json)} {narrowing : List Narrowing}
    (h : (readNarrowing entries).2 = .ok narrowing) :
    (readNarrowing entries).1 = (entries.map Prod.fst).filter fun k => ¬ IsRecognized k := by
  induction entries generalizing narrowing with
  | nil => rfl
  | cons entry rest ih =>
    obtain ⟨key, value⟩ := entry
    rw [List.map_cons]
    -- here it is the other way round, and only the third kind is kept
    rcases kinds_of_key key with hbase | ⟨c, rfl⟩ | hkey
    · have hrec := isRecognized_of_base hbase
      rw [readNarrowing_of_base hbase] at h ⊢
      rw [List.filter_cons_of_neg (by simpa using hrec), ih h]
    · have hrec : IsRecognized c.name := Or.inr (Or.inr ⟨c, rfl⟩)
      rw [readNarrowing_of_category] at h ⊢
      cases hvalue : narrowingValue? value with
      | none =>
        rw [hvalue] at h
        exact nomatch h
      | some text =>
        rw [hvalue] at h
        obtain ⟨tail, htail, -⟩ := map_eq_ok.mp h
        rw [List.filter_cons_of_neg (by simpa using hrec), ← ih htail]
    · rw [readNarrowing_of_unrecognized hkey] at h ⊢
      rw [List.filter_cons_of_pos (by simpa using hkey), ih h]

/-! ## A whole mapping -/

variable {mapping : KeyMap Json} {f : Filters} {fault : ParameterFault}

/-- A mapping is read if its year and quarter are and its entries are; nothing else can keep it from
being read. -/
theorem read_eq_ok_iff :
    (read (some mapping)).2 = .ok f ↔
      readQuarterOf mapping = .ok (f.year, f.quarter) ∧
        (readNarrowing mapping.entries).2 = .ok f.narrowing ∧ f.keys = mapping.keys := by
  rw [read]
  -- year and quarter are read first
  cases hquarter : readQuarterOf mapping with
  | error fault => simp
  | ok window =>
    obtain ⟨year, quarter⟩ := window
    show Except.map _ _ = _ ↔ _
    rw [map_eq_ok]
    obtain ⟨year', quarter', keys, narrowing⟩ := f
    constructor
    · rintro ⟨narrowing', hnarrowing, h⟩
      injection h with hyear hq hkeys hsame
      subst hyear hq hkeys hsame
      exact ⟨rfl, hnarrowing, rfl⟩
    · rintro ⟨hwindow, hnarrowing, hkeys⟩
      injection hwindow with hwindow
      injection hwindow with hyear hq
      subst hyear hq hkeys
      exact ⟨narrowing, hnarrowing, rfl⟩

/-- A fault of year or quarter is reported before one of another entry. -/
theorem read_eq_error_iff :
    (read (some mapping)).2 = .error fault ↔
      readQuarterOf mapping = .error fault ∨
        ∃ window, readQuarterOf mapping = .ok window ∧
          (readNarrowing mapping.entries).2 = .error fault := by
  rw [read]
  cases hquarter : readQuarterOf mapping with
  | error fault' => simp
  | ok window =>
    show Except.map _ _ = _ ↔ _
    -- year and quarter are there, so the fault is in the rest
    rw [map_eq_error]
    simp

/-- Keys are reported as passed over only where a mapping is read to the end. -/
theorem ignored_of_read (h : (read (some mapping)).2 = .ok f) :
    (read (some mapping)).1 = mapping.keys.toList.filter fun k => ¬ IsRecognized k := by
  obtain ⟨hquarter, hnarrowing, -⟩ := read_eq_ok_iff.mp h
  rw [read, hquarter]
  exact ignored_of_readNarrowing hnarrowing

end Obligations.Filters
