import Obligations.Proofs.Filters.Entries
import Obligations.Proofs.Filters.Values

/-!
# Obligations — the grammar of filters

Which mappings are read as filters, what they are read as, and what is reported of the others. A
mapping gives a year from 1000 to 9999 and a quarter, and under the name of a category a text or a
number. Nothing is asked of other keys. Of several faults the first is reported, in the order of
these rules.

* `WellFormed`, `Carries` — what a mapping has to meet, and what its filters are;
* `FirstFault` — the first fault of a mapping, with the field that it is about;
* `mem_readNarrowing_iff`, `ascending_readNarrowing`, `readNarrowing_eq_error_iff` — what narrows,
  in which order, and what does not let it;
* `read_follows_grammar` — filters are read by these rules and no others.
-/

namespace Obligations.Filters

/-! ## Mappings -/

/-- The mapping gives this year, which is one that can be asked for. -/
def HasYear (mapping : KeyMap Json) (y : Int) : Prop :=
  ∃ j, mapping.get? yearKey = some j ∧ GivesYear j y ∧ 1000 ≤ y ∧ y ≤ 9999

def HasQuarter (mapping : KeyMap Json) (q : Nat) : Prop :=
  ∃ j, mapping.get? quarterKey = some j ∧ GivesQuarter j q

/-- The mapping has a year and a quarter, and narrows by text and numbers only. -/
structure WellFormed (mapping : KeyMap Json) : Prop where
  year    : ∃ y, HasYear mapping y
  quarter : ∃ q, HasQuarter mapping q
  scalar  : ∀ (c : Category) j, mapping.get? c.name = some j → ∃ text, GivesText j text

/-- The filters say what the mapping says: its year and quarter, its keys, and one narrowing for
each of them that names a category. -/
structure Carries (f : Filters) (mapping : KeyMap Json) : Prop where
  year      : HasYear mapping f.year
  quarter   : HasQuarter mapping f.quarter
  keys      : ∀ key, key ∈ f.keys ↔ ∃ j, mapping.get? key = some j
  narrowing : ∀ n, n ∈ f.narrowing ↔
                ∃ j, mapping.get? n.category.name = some j ∧ GivesText j n.value
  ascending : f.narrowing.Pairwise (·.category.name < ·.category.name)

/-- The first of the rules that the mapping of a request does not follow, and the field that the
rule is about. -/
inductive FirstFault : Option (KeyMap Json) → String → ParameterFault → Prop
  | filters : FirstFault none "filters" .missingFilters
  | noYear {mapping : KeyMap Json} :
      mapping.get? yearKey = none → FirstFault (some mapping) yearKey .missingYear
  | noQuarter {mapping : KeyMap Json} {j : Json} :
      mapping.get? yearKey = some j → mapping.get? quarterKey = none →
      FirstFault (some mapping) quarterKey .missingQuarter
  /-- A number of more than 64 bits counts as malformed. -/
  | malformedYear {mapping : KeyMap Json} {j j' : Json} :
      mapping.get? yearKey = some j → mapping.get? quarterKey = some j' →
      (∀ y, GivesYear j y → isInt64 y = false) →
      FirstFault (some mapping) yearKey .malformedYear
  | yearOutOfRange {mapping : KeyMap Json} {j j' : Json} {y : Int} :
      mapping.get? yearKey = some j → mapping.get? quarterKey = some j' →
      GivesYear j y → isInt64 y = true → ¬ (1000 ≤ y ∧ y ≤ 9999) →
      FirstFault (some mapping) yearKey (.yearOutOfRange y)
  | malformedQuarter {mapping : KeyMap Json} {y : Int} {j : Json} :
      HasYear mapping y → mapping.get? quarterKey = some j → (∀ q, ¬ GivesQuarter j q) →
      FirstFault (some mapping) quarterKey .malformedQuarter
  /-- The smallest key under which there is neither a text nor a number. -/
  | narrowing {mapping : KeyMap Json} {y : Int} {q : Nat} {c : Category} {j : Json} :
      HasYear mapping y → HasQuarter mapping q →
      mapping.get? c.name = some j → (∀ text, ¬ GivesText j text) →
      (∀ (c' : Category) j', c'.name < c.name → mapping.get? c'.name = some j' →
        ∃ text, GivesText j' text) →
      FirstFault (some mapping) c.name (.malformedFilter c.name)

/-! ## Reading the year and the quarter -/

section

variable {mapping : KeyMap Json} {y : Int} {q : Nat} {fault : ParameterFault}

/-- Year and quarter are read just in case the mapping has both. -/
theorem readQuarterOf_eq_ok :
    readQuarterOf mapping = .ok (y, q) ↔ HasYear mapping y ∧ HasQuarter mapping q := by
  unfold readQuarterOf HasYear HasQuarter
  -- where one of them is missing both sides are false
  cases hyear : mapping.get? yearKey with
  | none => simp
  | some j =>
    cases hquarter : mapping.get? quarterKey with
    | none => simp
    | some j' =>
      simp only [bind_eq_ok, readYear_eq_ok, readQuarter_eq_ok, Option.some.injEq,
        exists_eq_left']
      constructor
      · rintro ⟨y', hy, q', hq, h⟩
        injection h with h
        injection h with hsame hsame'
        subst hsame hsame'
        exact ⟨hy, hq⟩
      · rintro ⟨hy, hq⟩
        exact ⟨y, hy, q, hq, rfl⟩

/-- Of year and quarter the first fault is reported, absent ones before malformed ones. -/
theorem firstFault_of_readQuarterOf (h : readQuarterOf mapping = .error fault) :
    FirstFault (some mapping) fault.field fault := by
  unfold readQuarterOf at h
  -- in the order in which the reader looks at them
  cases hyear : mapping.get? yearKey with
  | none =>
    rw [hyear] at h
    injection h with h
    exact h ▸ .noYear hyear
  | some j =>
    cases hquarter : mapping.get? quarterKey with
    | none =>
      rw [hyear, hquarter] at h
      injection h with h
      exact h ▸ .noQuarter hyear hquarter
    -- both are there, so the year is read first
    | some j' =>
      simp only [hyear, hquarter] at h
      rcases bind_eq_error.mp h with h | ⟨y, hy, h⟩
      · rcases readYear_eq_error.mp h with ⟨rfl, hnone⟩ | ⟨y, rfl, hgives, hsize, hrange⟩
        · exact .malformedYear hyear hquarter hnone
        · exact .yearOutOfRange hyear hquarter hgives hsize hrange
      · rcases bind_eq_error.mp h with h | ⟨q, hq, h⟩
        · obtain ⟨rfl, hnone⟩ := readQuarter_eq_error.mp h
          exact .malformedQuarter ⟨j, hyear, readYear_eq_ok.mp hy⟩ hquarter hnone
        · exact nomatch h

end

/-! ## Reading the other entries -/

section

variable {entries : List (String × Json)} {narrowing : List Narrowing} {fault : ParameterFault}

/-- What narrows is what stands under the name of a category, as its text. -/
theorem mem_readNarrowing_iff (h : (readNarrowing entries).2 = .ok narrowing) (n : Narrowing) :
    n ∈ narrowing ↔ ∃ j, (n.category.name, j) ∈ entries ∧ GivesText j n.value := by
  -- on the entries; each is of one of three kinds
  induction entries generalizing narrowing with
  | nil =>
    injection h with h
    simp [← h]
  | cons entry rest ih =>
    obtain ⟨key, value⟩ := entry
    -- an entry that does not narrow is not found under the name of a category
    have hother (hkey : key ≠ n.category.name) (j : Json) :
        (n.category.name, j) ∈ (key, value) :: rest ↔ (n.category.name, j) ∈ rest := by
      simp [hkey.symm]
    rcases kinds_of_key key with hbase | ⟨c, rfl⟩ | hkey
    · rw [readNarrowing_of_base hbase] at h
      have hne : key ≠ n.category.name := by
        rintro rfl
        exact not_base_of_category n.category hbase
      simp only [ih h, hother hne]
    · rw [readNarrowing_of_category] at h
      cases hvalue : narrowingValue? value with
      | none =>
        rw [hvalue] at h
        contradiction
      | some text =>
        rw [hvalue] at h
        obtain ⟨tail, htail, rfl⟩ := map_eq_ok.mp h
        -- the entry narrows by its text, before those behind it
        rw [List.mem_cons, ih htail]
        constructor
        · rintro (rfl | ⟨j, hj, hgives⟩)
          · exact ⟨value, List.mem_cons_self, narrowingValue?_eq_some.mp hvalue⟩
          · exact ⟨j, List.mem_cons_of_mem _ hj, hgives⟩
        · rintro ⟨j, hj, hgives⟩
          rcases List.mem_cons.mp hj with hsame | hj
          · left
            -- it is this entry, so the category is the one of its name
            injection hsame with hname hsame
            obtain ⟨category, text'⟩ := n
            obtain rfl := Category.name_injective hname
            subst hsame
            rw [narrowingValue?_eq_some.mpr hgives] at hvalue
            exact congrArg (Narrowing.mk category) (Option.some.inj hvalue)
          · exact Or.inr ⟨j, hj, hgives⟩
    · rw [readNarrowing_of_unrecognized hkey] at h
      have hne : key ≠ n.category.name := by
        rintro rfl
        exact hkey (Or.inr (Or.inr ⟨n.category, rfl⟩))
      simp only [ih h, hother hne]

/-- Naming the categories that keys name leaves those of the keys that name one. -/
theorem names_filterMap_ofName? (keys : List String) :
    (keys.filterMap Category.ofName?).map Category.name =
      keys.filter fun key => (Category.ofName? key).isSome := by
  induction keys with
  | nil => rfl
  | cons key keys ih =>
    rw [List.filterMap_cons, List.filter_cons]
    -- a key that names a category is its name
    cases hname : Category.ofName? key with
    | none => exact ih
    | some c =>
      simp only [List.map_cons, ih, Category.name_of_ofName? hname]
      rfl

/-- Entries in key order narrow in key order. -/
theorem ascending_readNarrowing (hascending : entries.Pairwise (·.1 < ·.1))
    (h : (readNarrowing entries).2 = .ok narrowing) :
    narrowing.Pairwise (·.category.name < ·.category.name) := by
  have hnames : (narrowing.map Narrowing.category).map Category.name =
      (entries.map Prod.fst).filter fun key => (Category.ofName? key).isSome := by
    rw [categories_readNarrowing h, names_filterMap_ofName?]
  have hkeys : (entries.map Prod.fst).Pairwise (· < ·) := List.pairwise_map.mpr hascending
  -- what is left of an ascending list is ascending
  have hsorted := hkeys.filter fun key => (Category.ofName? key).isSome
  rw [← hnames, List.map_map, List.pairwise_map] at hsorted
  exact hsorted

/-- Under the name of a category there is a text or a number. -/
def Narrows (x : String × Json) : Prop := ∀ c : Category, x.1 = c.name → ∃ text, GivesText x.2 text

/-- Of an entry that names no category nothing is asked. -/
theorem narrows_of_ne {key : String} {value : Json} (h : ∀ c : Category, key ≠ c.name) :
    Narrows (key, value) :=
  fun c hc => absurd hc (h c)

/-- The entries are read to the end just in case each of them narrows. -/
theorem exists_readNarrowing_iff :
    (∃ narrowing, (readNarrowing entries).2 = .ok narrowing) ↔ ∀ x ∈ entries, Narrows x := by
  -- each entry can end the reading, and else it goes on behind it
  induction entries with
  | nil => simp [readNarrowing]
  | cons entry rest ih =>
    obtain ⟨key, value⟩ := entry
    rw [List.forall_mem_cons, ← ih]
    rcases kinds_of_key key with hbase | ⟨c, rfl⟩ | hkey
    · have hx : Narrows (key, value) :=
        narrows_of_ne fun c hc => not_base_of_category c (hc ▸ hbase)
      rw [readNarrowing_of_base hbase]
      exact ⟨fun h => ⟨hx, h⟩, And.right⟩
    · rw [readNarrowing_of_category]
      cases hvalue : narrowingValue? value with
      | none =>
        constructor
        · rintro ⟨_, h⟩
          contradiction
        · rintro ⟨hx, -⟩
          -- the value has no text, so the entry does not narrow
          obtain ⟨text, htext⟩ := hx c rfl
          exact absurd htext (narrowingValue?_eq_none.mp hvalue text)
      | some text =>
        have hx : Narrows (c.name, value) := fun _ _ => ⟨text, narrowingValue?_eq_some.mp hvalue⟩
        simp only [map_eq_ok]
        constructor
        · rintro ⟨_, tail, htail, -⟩
          exact ⟨hx, tail, htail⟩
        · rintro ⟨-, tail, htail⟩
          exact ⟨_, tail, htail, rfl⟩
    · have hx : Narrows (key, value) :=
        narrows_of_ne fun c hc => hkey (Or.inr (Or.inr ⟨c, hc⟩))
      rw [readNarrowing_of_unrecognized hkey]
      exact ⟨fun h => ⟨hx, h⟩, And.right⟩

/-- Behind an entry that does not stop the reading, it stops where it stops without it. -/
theorem exists_split_cons {x : String × Json} (hx : Narrows x) (c : Category) (j : Json)
    (hj : ∀ text, ¬ GivesText j text) :
    (∃ before after, x :: entries = before ++ (c.name, j) :: after ∧ ∀ y ∈ before, Narrows y) ↔
      ∃ before after, entries = before ++ (c.name, j) :: after ∧ ∀ y ∈ before, Narrows y := by
  constructor
  · rintro ⟨before, after, hsplit, hbefore⟩
    cases before with
    | nil =>
      -- the entry itself is not the one at which the reading stops
      injection hsplit with hsame
      subst hsame
      obtain ⟨text, htext⟩ := hx c rfl
      exact absurd htext (hj text)
    | cons y before =>
      injection hsplit with _ hsplit
      exact ⟨before, after, hsplit, fun z hz => hbefore z (List.mem_cons_of_mem _ hz)⟩
  · rintro ⟨before, after, rfl, hbefore⟩
    exact ⟨x :: before, after, rfl, List.forall_mem_cons.mpr ⟨hx, hbefore⟩⟩

/-- The reading stops at the first entry that does not narrow and should. -/
theorem readNarrowing_eq_error_iff :
    (readNarrowing entries).2 = .error fault ↔
      ∃ (c : Category) (j : Json), fault = .malformedFilter c.name ∧ (∀ text, ¬ GivesText j text) ∧
        ∃ before after, entries = before ++ (c.name, j) :: after ∧ ∀ x ∈ before, Narrows x := by
  induction entries with
  | nil => simp [readNarrowing]
  | cons entry rest ih =>
    obtain ⟨key, value⟩ := entry
    -- an entry that does not end the reading can be put in front
    have hgoOn (hx : Narrows (key, value))
        (hread : (readNarrowing ((key, value) :: rest)).2 = .error fault ↔
          (readNarrowing rest).2 = .error fault) :
        (readNarrowing ((key, value) :: rest)).2 = .error fault ↔
          ∃ (c : Category) (j : Json), fault = .malformedFilter c.name ∧
            (∀ text, ¬ GivesText j text) ∧ ∃ before after,
              (key, value) :: rest = before ++ (c.name, j) :: after ∧ ∀ x ∈ before, Narrows x := by
      rw [hread, ih]
      refine exists_congr fun c => exists_congr fun j => and_congr_right fun _ =>
        and_congr_right fun hj => (exists_split_cons hx c j hj).symm
    rcases kinds_of_key key with hbase | ⟨c, rfl⟩ | hkey
    · refine hgoOn (narrows_of_ne fun c hc => not_base_of_category c (hc ▸ hbase)) ?_
      rw [readNarrowing_of_base hbase]
    · cases hvalue : narrowingValue? value with
      | none =>
        -- here the reading stops, and nothing stands in front
        have hnone := narrowingValue?_eq_none.mp hvalue
        rw [readNarrowing_of_category, hvalue]
        constructor
        · intro h
          injection h with h
          exact ⟨c, value, h.symm, hnone, [], rest, rfl, by simp⟩
        · rintro ⟨c', j, rfl, hj, before, after, hsplit, hbefore⟩
          cases before with
          | nil =>
            injection hsplit with hsame
            injection hsame with hname
            rw [hname]
          | cons y before =>
            injection hsplit with hsame
            obtain ⟨text, htext⟩ := hbefore y List.mem_cons_self c (by rw [← hsame])
            rw [← hsame] at htext
            exact absurd htext (hnone text)
      | some text =>
        refine hgoOn (fun _ _ => ⟨text, narrowingValue?_eq_some.mp hvalue⟩) ?_
        rw [readNarrowing_of_category, hvalue]
        exact map_eq_error
    · refine hgoOn (narrows_of_ne fun c hc => hkey (Or.inr (Or.inr ⟨c, hc⟩))) ?_
      rw [readNarrowing_of_unrecognized hkey]

end

/-! ## Reading a mapping -/

section

variable {filters : Option (KeyMap Json)} {mapping : KeyMap Json} {f : Filters}
  {fault : ParameterFault} {field : String}

/-- Of the entries with smaller keys, it is enough to look at those of categories. -/
theorem narrows_of_smaller {c : Category} :
    (∀ k v, k < c.name → mapping.get? k = some v → Narrows (k, v)) ↔
      ∀ (c' : Category) j, c'.name < c.name → mapping.get? c'.name = some j →
        ∃ text, GivesText j text := by
  -- other keys have nothing to meet
  constructor
  · intro h c' j hlt hget
    exact h _ _ hlt hget c' rfl
  · rintro h _ j hlt hget c' rfl
    exact h c' j hlt hget

theorem forall_narrows_iff :
    (∀ x ∈ mapping.entries, Narrows x) ↔
      ∀ (c : Category) j, mapping.get? c.name = some j → ∃ text, GivesText j text := by
  -- to be in the table is to be found under the key
  constructor
  · intro h c j hget
    exact h _ (KeyMap.mem_entries.mpr hget) c rfl
  · rintro h ⟨_, j⟩ hmem c rfl
    exact h c j (KeyMap.mem_entries.mp hmem)

/-- **A mapping is read just in case it is well formed.** -/
theorem exists_read_iff : (∃ f, (read (some mapping)).2 = .ok f) ↔ WellFormed mapping := by
  constructor
  · rintro ⟨f, h⟩
    obtain ⟨hquarterOf, hnarrowing, -⟩ := read_eq_ok_iff.mp h
    obtain ⟨hyear, hquarter⟩ := readQuarterOf_eq_ok.mp hquarterOf
    exact ⟨⟨_, hyear⟩, ⟨_, hquarter⟩,
      forall_narrows_iff.mp (exists_readNarrowing_iff.mp ⟨_, hnarrowing⟩)⟩
  · -- with year, quarter and narrowing there is nothing left to go wrong
    rintro ⟨⟨y, hyear⟩, ⟨q, hquarter⟩, hscalar⟩
    obtain ⟨narrowing, hnarrowing⟩ := exists_readNarrowing_iff.mpr (forall_narrows_iff.mpr hscalar)
    exact ⟨⟨y, q, mapping.keys, narrowing⟩,
      read_eq_ok_iff.mpr ⟨readQuarterOf_eq_ok.mpr ⟨hyear, hquarter⟩, hnarrowing, rfl⟩⟩

/-- **Filters carry what their mapping says.** -/
theorem carries_of_read (h : (read (some mapping)).2 = .ok f) : Carries f mapping := by
  obtain ⟨hquarterOf, hnarrowing, hkeys⟩ := read_eq_ok_iff.mp h
  obtain ⟨hyear, hquarter⟩ := readQuarterOf_eq_ok.mp hquarterOf
  -- keys and entries are those of the table
  refine ⟨hyear, hquarter, fun key => ?_, fun n => ?_,
    ascending_readNarrowing mapping.ascending hnarrowing⟩
  · rw [hkeys, KeyMap.mem_keys]
  · simp only [mem_readNarrowing_iff hnarrowing, KeyMap.mem_entries]

/-- **What is reported of a mapping is its first fault.** -/
theorem firstFault_of_read (h : (read filters).2 = .error fault) :
    FirstFault filters fault.field fault := by
  cases filters with
  | none =>
    injection h with h
    exact h ▸ .filters
  | some mapping =>
    rcases read_eq_error_iff.mp h with h | ⟨⟨y, q⟩, hquarterOf, h⟩
    · exact firstFault_of_readQuarterOf h
    · obtain ⟨hyear, hquarter⟩ := readQuarterOf_eq_ok.mp hquarterOf
      obtain ⟨c, j, rfl, hj, hsplit⟩ := readNarrowing_eq_error_iff.mp h
      -- the entries in front of the fault are those with smaller keys
      obtain ⟨hget, hsmaller⟩ := KeyMap.exists_split_iff.mp hsplit
      exact .narrowing hyear hquarter hget hj (narrows_of_smaller.mp hsmaller)

/-- And the first fault is what is reported, so there is one way to say what is wrong. -/
theorem read_of_firstFault (h : FirstFault filters field fault) :
    (read filters).2 = .error fault := by
  -- in the order of the rules, each case has passed those before it
  cases h with
  | filters => rfl
  | noYear hyear =>
    refine read_eq_error_iff.mpr (Or.inl ?_)
    rw [readQuarterOf, hyear]
  | noQuarter hyear hquarter =>
    refine read_eq_error_iff.mpr (Or.inl ?_)
    rw [readQuarterOf, hyear, hquarter]
  | malformedYear hyear hquarter hnone =>
    refine read_eq_error_iff.mpr (Or.inl ?_)
    rw [readQuarterOf, hyear, hquarter]
    exact bind_eq_error.mpr (Or.inl (readYear_eq_error.mpr (Or.inl ⟨rfl, hnone⟩)))
  | yearOutOfRange hyear hquarter hgives hsize hrange =>
    refine read_eq_error_iff.mpr (Or.inl ?_)
    rw [readQuarterOf, hyear, hquarter]
    exact bind_eq_error.mpr
      (Or.inl (readYear_eq_error.mpr (Or.inr ⟨_, rfl, hgives, hsize, hrange⟩)))
  | malformedQuarter hyear hquarter hnone =>
    -- the year is read before it
    obtain ⟨j, hj, hyear⟩ := hyear
    refine read_eq_error_iff.mpr (Or.inl ?_)
    rw [readQuarterOf, hj, hquarter]
    exact bind_eq_error.mpr (Or.inr ⟨_, readYear_eq_ok.mpr hyear,
      bind_eq_error.mpr (Or.inl (readQuarter_eq_error.mpr ⟨rfl, hnone⟩))⟩)
  | narrowing hyear hquarter hget hj hsmaller =>
    -- year and quarter are read, so it is the entry that ends the reading
    refine read_eq_error_iff.mpr (Or.inr ⟨_, readQuarterOf_eq_ok.mpr ⟨hyear, hquarter⟩, ?_⟩)
    exact readNarrowing_eq_error_iff.mpr ⟨_, _, rfl, hj,
      KeyMap.exists_split_iff.mpr ⟨hget, narrows_of_smaller.mpr hsmaller⟩⟩

/-- **Filters are read by their grammar.** A mapping is read if it is there and well formed, and
then the filters carry what it says. Otherwise the first fault is reported, with its field. -/
theorem read_follows_grammar (filters : Option (KeyMap Json)) :
    ((∃ f, (read filters).2 = .ok f) ↔ ∃ mapping, filters = some mapping ∧ WellFormed mapping) ∧
    (∀ f, (read filters).2 = .ok f → ∃ mapping, filters = some mapping ∧ Carries f mapping) ∧
    (∀ fault, (read filters).2 = .error fault ↔ FirstFault filters fault.field fault) := by
  refine ⟨?_, fun f h => ?_, fun fault => ⟨firstFault_of_read, read_of_firstFault⟩⟩
  · cases filters with
    | none =>
      constructor
      · rintro ⟨f, h⟩
        exact nomatch h
      · rintro ⟨mapping, h, -⟩
        exact nomatch h
    | some mapping =>
      rw [exists_read_iff]
      simp
  · cases filters with
    | none => exact nomatch h
    | some mapping => exact ⟨mapping, rfl, carries_of_read h⟩

end

end Obligations.Filters
