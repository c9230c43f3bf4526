import Obligations.Proofs.Filters.Grammar
import Obligations.Proofs.Grouping.Totals
import Obligations.Proofs.Reconciliation

/-!
# Obligations — filters built step by step

Filters for a quarter can be narrowed step by step, in any order, or read from a mapping, in the
order of its keys. What they admit is a conjunction over their narrowings, so neither the order nor
a repetition of narrowings ever shows in a grouping; and which keys they have is the same either
way. Filters that are built and filters that are read therefore do the same.

* `Filters.narrowAll` — the filters, narrowed to each of the listed entities;
* `Filters.admits_congr` — of the narrowings it counts which there are;
* `Filters.groupEntries_narrowAll_congr` — so their order and repetition do not show in a grouping;
* `Filters.SameButOrder` — filters that differ in the order of their narrowings at most, and what
  they have in common;
* `Filters.mappingOf`, `Filters.get?_mappingOf` — the mapping that says the same as a list of
  narrowings;
* `built_as_read` — building and reading agree, and the order of building does not matter.
-/

namespace Obligations

namespace Filters

/-! ## Narrowing step by step -/

/-- The filters, narrowed further to each of the entities in turn. -/
def narrowAll (f : Filters) (ns : List Narrowing) : Filters :=
  ns.foldl (fun f n => f.narrow n.category n.value) f

section

variable (f : Filters) (ns : List Narrowing)

theorem narrowAll_cons (n : Narrowing) :
    f.narrowAll (n :: ns) = (f.narrow n.category n.value).narrowAll ns := rfl

theorem year_narrowAll : (f.narrowAll ns).year = f.year := by
  induction ns generalizing f with
  | nil => rfl
  | cons n ns ih => rw [narrowAll_cons, ih, narrow]

theorem quarter_narrowAll : (f.narrowAll ns).quarter = f.quarter := by
  induction ns generalizing f with
  | nil => rfl
  | cons n ns ih => rw [narrowAll_cons, ih, narrow]

/-- Narrowings are appended in the order in which they are added, repetitions included. -/
theorem narrowing_narrowAll : (f.narrowAll ns).narrowing = f.narrowing ++ ns := by
  -- on the narrowings that are left, from any filters
  induction ns generalizing f with
  | nil => exact (List.append_nil _).symm
  | cons n ns ih =>
    rw [narrowAll_cons, ih, List.append_cons]
    rfl

/-- A key is added for each narrowing, and no key twice. -/
theorem mem_keys_narrowAll (key : String) :
    key ∈ (f.narrowAll ns).keys ↔ key ∈ f.keys ∨ ∃ n ∈ ns, key = n.category.name := by
  induction ns generalizing f with
  | nil => simp [narrowAll]
  | cons n ns ih =>
    have hstep : key ∈ (f.narrow n.category n.value).keys ↔
        key = n.category.name ∨ key ∈ f.keys := KeySet.mem_insert
    rw [narrowAll_cons, ih, hstep, List.exists_mem_cons_iff]
    tauto

theorem mem_keys_forQuarter {year : Int} {quarter : Nat} {key : String} :
    key ∈ (forQuarter year quarter).keys ↔ key = yearKey ∨ key = quarterKey := by
  show key ∈ KeySet.ofList [yearKey, quarterKey] ↔ _
  simp

end

/-! ## What the order does not change -/

variable {f g : Filters}

/-- Of the narrowings it counts which there are, not how often or in which order. -/
theorem admits_congr (h : ∀ n, n ∈ f.narrowing ↔ n ∈ g.narrowing) (r : Row) :
    f.admits r = g.admits r := by
  rw [admits, admits, Bool.eq_iff_iff, List.all_eq_true, List.all_eq_true]
  exact forall_congr' fun n => imp_congr_left (h n)

/-- **Order and repetition of narrowings never show in a grouping**, whatever filters they are added
to and whichever they are. -/
theorem groupEntries_narrowAll_congr {ms ms' : List Narrowing} (h : ∀ n, n ∈ ms ↔ n ∈ ms')
    (f : Filters) (rows : List Row) (c : Category) :
    groupEntries rows (f.narrowAll ms) c = groupEntries rows (f.narrowAll ms') c := by
  refine groupEntries_congr (admits_congr fun n => ?_) rows c
  rw [narrowing_narrowAll, narrowing_narrowAll, List.mem_append, List.mem_append, h]

/-- The filters differ in the order of their narrowings at most. -/
structure SameButOrder (f g : Filters) : Prop where
  year      : f.year = g.year
  quarter   : f.quarter = g.quarter
  keys      : f.keys = g.keys
  narrowing : f.narrowing.Perm g.narrowing

/-- Such filters let the same rows through, so they group alike. -/
theorem SameButOrder.groupEntries_eq (h : f.SameButOrder g) (rows : List Row) (c : Category) :
    groupEntries rows f c = groupEntries rows g c :=
  groupEntries_congr (admits_congr fun _ => h.narrowing.mem_iff) rows c

/-- And they have the same keys, so both are compared with a control total or neither. -/
theorem SameButOrder.isEligible_eq (h : f.SameButOrder g) (config : Config) (c : Category) :
    config.isEligible c f = config.isEligible c g := by
  rw [Config.isEligible, h.keys, Config.isEligible]

/-- If not even the order differs, they are the same filters. -/
theorem SameButOrder.eq (h : f.SameButOrder g) (hsame : f.narrowing = g.narrowing) : f = g := by
  obtain ⟨year, quarter, keys, narrowing⟩ := f
  obtain ⟨year', quarter', keys', narrowing'⟩ := g
  obtain ⟨rfl, rfl, rfl, -⟩ := h
  obtain rfl : narrowing = narrowing' := hsame
  rfl

/-! ## The mapping that says the same -/

/-- The entry of a mapping that narrows to the entity. -/
def entryOf (n : Narrowing) : String × Json := (n.category.name, .string n.value)

/-- The mapping with year and quarter, and an entry for each narrowing. -/
def mappingOf (year quarter : Json) (ns : List Narrowing) : KeyMap Json :=
  .ofList ((yearKey, year) :: (quarterKey, quarter) :: ns.map entryOf)

section

variable {year quarter : Json} {ns : List Narrowing}

/-- Narrowings to different categories stand under different keys. -/
theorem keys_nodup (h : (ns.map Narrowing.category).Nodup) :
    (((yearKey, year) :: (quarterKey, quarter) :: ns.map entryOf).map Prod.fst).Nodup := by
  have hnames :
      ((ns.map entryOf).map Prod.fst) = (ns.map Narrowing.category).map Category.name := by
    rw [List.map_map, List.map_map]
    rfl
  -- no category goes by the name of year or quarter
  have hbase (key : String) (hkey : key = yearKey ∨ key = quarterKey) :
      key ∉ (ns.map Narrowing.category).map Category.name := by
    intro hmem
    obtain ⟨c, -, rfl⟩ := List.mem_map.mp hmem
    exact not_base_of_category c hkey
  rw [List.map_cons, List.map_cons, hnames, List.nodup_cons, List.nodup_cons, List.mem_cons,
    not_or]
  have hne : yearKey ≠ quarterKey := by decide
  exact ⟨⟨hne, hbase _ (Or.inl rfl)⟩, hbase _ (Or.inr rfl),
    h.map fun _ _ => Category.name_injective⟩

/-- In that mapping each key is found with what it was given for. -/
theorem get?_mappingOf (h : (ns.map Narrowing.category).Nodup) {key : String} {j : Json} :
    (mappingOf year quarter ns).get? key = some j ↔
      (key = yearKey ∧ j = year) ∨ (key = quarterKey ∧ j = quarter) ∨
        ∃ n ∈ ns, key = n.category.name ∧ j = .string n.value := by
  rw [mappingOf, KeyMap.get?_ofList (keys_nodup h), List.mem_cons, List.mem_cons, List.mem_map]
  simp only [entryOf, Prod.mk.injEq, eq_comm]

/-- Under the name of a category there is the text of its narrowing, and nothing else. -/
theorem get?_mappingOf_category (h : (ns.map Narrowing.category).Nodup) {c : Category} {j : Json} :
    (mappingOf year quarter ns).get? c.name = some j ↔
      ∃ n ∈ ns, c = n.category ∧ j = .string n.value := by
  have hbase := not_base_of_category c
  rw [not_or] at hbase
  rw [get?_mappingOf h]
  constructor
  · -- year and quarter are not the names of categories
    rintro (⟨hkey, -⟩ | ⟨hkey, -⟩ | ⟨n, hn, hkey, hj⟩)
    · exact absurd hkey hbase.1
    · exact absurd hkey hbase.2
    · exact ⟨n, hn, Category.name_injective hkey, hj⟩
  · rintro ⟨n, hn, rfl, hj⟩
    exact Or.inr (Or.inr ⟨n, hn, rfl, hj⟩)

/-! ## Reading it -/

variable {y : Int} {q : Nat}

theorem readQuarterOf_mappingOf (hyear : GivesYear year y) (hrange : 1000 ≤ y ∧ y ≤ 9999)
    (hquarter : GivesQuarter quarter q) (h : (ns.map Narrowing.category).Nodup) :
    readQuarterOf (mappingOf year quarter ns) = .ok (y, q) := by
  refine readQuarterOf_eq_ok.mpr ⟨⟨year, ?_, hyear, hrange⟩, ⟨quarter, ?_, hquarter⟩⟩
  · exact (get?_mappingOf h).mpr (Or.inl ⟨rfl, rfl⟩)
  · exact (get?_mappingOf h).mpr (Or.inr (Or.inl ⟨rfl, rfl⟩))

theorem isRecognized_of_mappingOf (h : (ns.map Narrowing.category).Nodup) {key : String}
    (hkey : key ∈ (mappingOf year quarter ns).keys) : IsRecognized key := by
  obtain ⟨j, hj⟩ := KeyMap.mem_keys.mp hkey
  rcases (get?_mappingOf h).mp hj with ⟨hkey, -⟩ | ⟨hkey, -⟩ | ⟨n, -, hkey, -⟩
  · exact Or.inl hkey
  · exact Or.inr (Or.inl hkey)
  · exact Or.inr (Or.inr ⟨n.category, hkey⟩)

/-- What is read from the mapping narrows as the list does. -/
theorem Carries.mem_narrowing_iff (h : (ns.map Narrowing.category).Nodup)
    (hcarries : Carries f (mappingOf year quarter ns)) (n : Narrowing) :
    n ∈ f.narrowing ↔ n ∈ ns := by
  rw [hcarries.narrowing]
  constructor
  · -- what was found under a category is the text of one of the narrowings
    rintro ⟨j, hj, hgives⟩
    obtain ⟨n', hn', hcategory, rfl⟩ := (get?_mappingOf_category h).mp hj
    obtain ⟨category, value⟩ := n
    obtain ⟨category', value'⟩ := n'
    obtain rfl : category = category' := hcategory
    cases hgives
    exact hn'
  · intro hn
    exact ⟨.string n.value, (get?_mappingOf_category h).mpr ⟨n, hn, rfl, rfl⟩, .string n.value⟩

theorem Carries.sameButOrder (h : (ns.map Narrowing.category).Nodup)
    (hyear : f.year = y) (hquarter : f.quarter = q)
    (hcarries : Carries f (mappingOf year quarter ns)) :
    f.SameButOrder ((forQuarter y q).narrowAll ns) := by
  refine ⟨?_, ?_, KeySet.ext_mem fun key => ?_, ?_⟩
  · rw [year_narrowAll, hyear, forQuarter]
  · rw [quarter_narrowAll, hquarter, forQuarter]
  · rw [hcarries.keys, mem_keys_narrowAll, mem_keys_forQuarter]
    -- the keys of both are those of year and quarter and of the narrowings
    simp only [get?_mappingOf h]
    constructor
    · rintro ⟨j, ⟨hkey, -⟩ | ⟨hkey, -⟩ | ⟨n, hn, hkey, -⟩⟩
      · exact Or.inl (Or.inl hkey)
      · exact Or.inl (Or.inr hkey)
      · exact Or.inr ⟨n, hn, hkey⟩
    · rintro ((hkey | hkey) | ⟨n, hn, hkey⟩)
      · exact ⟨year, Or.inl ⟨hkey, rfl⟩⟩
      · exact ⟨quarter, Or.inr (Or.inl ⟨hkey, rfl⟩)⟩
      · exact ⟨.string n.value, Or.inr (Or.inr ⟨n, hn, hkey, rfl⟩)⟩
  · -- both sides narrow to a category once, and to the same entities
    have hread : f.narrowing.Nodup := by
      refine hcarries.ascending.imp fun {a b} hlt => ?_
      rintro rfl
      exact String.lt_irrefl _ hlt
    rw [narrowing_narrowAll]
    exact (List.perm_ext_iff_of_nodup hread (.of_map _ h)).mpr (hcarries.mem_narrowing_iff h)

/-- The mapping is read to the end, no key is passed over, and nothing but the order can differ. -/
theorem exists_read_mappingOf (hyear : GivesYear year y) (hrange : 1000 ≤ y ∧ y ≤ 9999)
    (hquarter : GivesQuarter quarter q) (h : (ns.map Narrowing.category).Nodup) :
    ∃ f, read (some (mappingOf year quarter ns)) = ([], .ok f) ∧
      Carries f (mappingOf year quarter ns) ∧ f.SameButOrder ((forQuarter y q).narrowAll ns) := by
  have hquarterOf := readQuarterOf_mappingOf hyear hrange hquarter h
  -- under the name of a category there is a text, so nothing stops the reading
  have hscalar : ∀ (c : Category) j, (mappingOf year quarter ns).get? c.name = some j →
      ∃ text, GivesText j text := by
    intro c j hj
    obtain ⟨n, -, -, rfl⟩ := (get?_mappingOf_category h).mp hj
    exact ⟨n.value, .string n.value⟩
  obtain ⟨narrowing, hnarrowing⟩ := exists_readNarrowing_iff.mpr (forall_narrows_iff.mpr hscalar)
  have hread : (read (some (mappingOf year quarter ns))).2 =
      .ok ⟨y, q, (mappingOf year quarter ns).keys, narrowing⟩ :=
    read_eq_ok_iff.mpr ⟨hquarterOf, hnarrowing, rfl⟩
  have hignored : (read (some (mappingOf year quarter ns))).1 = [] := by
    rw [ignored_of_read hread, List.filter_eq_nil_iff]
    intro key hkey
    simpa using isRecognized_of_mappingOf h hkey
  have hcarries := carries_of_read hread
  exact ⟨_, Prod.ext hignored hread, hcarries, hcarries.sameButOrder h rfl rfl⟩

end

end Filters

/-! ## Building and reading -/

/-- **Filters that are built and filters that are read agree.** The mapping with the year, the
quarter and an entry for each narrowing is read as the filters that are built from them, up to the
order of the narrowings; if they are listed in key order, even that is the same. And whatever
filters are narrowed, repetition and order make no difference to a grouping. -/
theorem built_as_read :
    (∀ {year quarter : Json} {y : Int} {q : Nat} {ns : List Narrowing},
      Filters.GivesYear year y → 1000 ≤ y ∧ y ≤ 9999 → Filters.GivesQuarter quarter q →
      (ns.map Narrowing.category).Nodup →
      ∃ f, Filters.read (some (Filters.mappingOf year quarter ns)) = ([], .ok f) ∧
        f.SameButOrder ((Filters.forQuarter y q).narrowAll ns) ∧
        (ns.Pairwise (·.category.name < ·.category.name) →
          f = (Filters.forQuarter y q).narrowAll ns) ∧
        (∀ rows c, groupEntries rows f c =
          groupEntries rows ((Filters.forQuarter y q).narrowAll ns) c) ∧
        ∀ (config : Config) c, config.isEligible c f =
          config.isEligible c ((Filters.forQuarter y q).narrowAll ns)) ∧
    ∀ (f : Filters) (ms ms' : List Narrowing), (∀ n, n ∈ ms ↔ n ∈ ms') →
      ∀ rows c, groupEntries rows (f.narrowAll ms) c = groupEntries rows (f.narrowAll ms') c := by
  constructor
  · intro year quarter y q ns hyear hrange hquarter hdistinct
    obtain ⟨f, hread, hcarries, hsame⟩ :=
      Filters.exists_read_mappingOf hyear hrange hquarter hdistinct
    refine ⟨f, hread, hsame, fun hascending => hsame.eq ?_, hsame.groupEntries_eq,
      hsame.isEligible_eq⟩
    -- what is read is in key order, and so is the list
    rw [Filters.narrowing_narrowAll]
    exact KeyMap.eq_of_ascending hcarries.ascending hascending
      (hcarries.mem_narrowing_iff hdistinct)
  · intro f ms ms' hmem rows c
    exact Filters.groupEntries_narrowAll_congr hmem f rows c

namespace Sample

/-- A numeral with white space around it, a sign and zeros in front. -/
def paddedYear : Json := .string "\t+002020 "

/-- Two narrowings, not in the order of their keys. -/
def unsorted : List Narrowing := [⟨.objectClass, "110"⟩, ⟨.agency, "012"⟩]

end Sample

/-- The narrowings are read in the order of their keys. If they are built in this order, the same
filters come out; built twice over in the other order, they group alike. -/
theorem built_as_read_sample :
    (∃ f, Filters.read (some (Filters.mappingOf Sample.paddedYear (.string "2") Sample.unsorted)) =
        ([], .ok f) ∧ f.SameButOrder ((Filters.forQuarter 2020 2).narrowAll Sample.unsorted)) ∧
    Filters.read
        (some (Filters.mappingOf Sample.paddedYear (.string "2") Sample.unsorted.reverse)) =
      ([], .ok ((Filters.forQuarter 2020 2).narrowAll Sample.unsorted.reverse)) ∧
    ∀ rows c, groupEntries rows
        ((Filters.forQuarter 2020 2).narrowAll (Sample.unsorted ++ Sample.unsorted)) c =
      groupEntries rows ((Filters.forQuarter 2020 2).narrowAll Sample.unsorted.reverse) c := by
  have hread : Filters.readYear Sample.paddedYear = .ok 2020 := by rfl
  obtain ⟨hyear, hrange⟩ := Filters.readYear_eq_ok.mp hread
  have hquarter : Filters.GivesQuarter (.string "2") 2 := .text (by decide)
  have hdistinct : (Sample.unsorted.map Narrowing.category).Nodup := by decide
  have hdistinct' : (Sample.unsorted.reverse.map Narrowing.category).Nodup := by decide
  -- once in the order given, once in key order, and once for any order
  obtain ⟨hbuilt, horder⟩ := built_as_read
  obtain ⟨f, hf, hsame, -⟩ := hbuilt hyear hrange hquarter hdistinct
  obtain ⟨g, hg, -, hascending, -⟩ := hbuilt hyear hrange hquarter hdistinct'
  obtain rfl := hascending (by decide)
  exact ⟨⟨f, hf, hsame⟩, hg, horder _ _ _ (by simp)⟩

end Obligations
