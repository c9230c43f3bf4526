import Obligations.Proofs.Grouping.Labels
import Obligations.Proofs.Grouping.Narrowing

/-!
# Obligations — a grouping divides its rows

Which rows a grouping is about is said here from the filters, the category and the table of labels
alone: those that pass every narrowing and have an entity. They fall into groups by the id of the
entity, and the grouping shows each group once, under the label of its first row and with its sum.
Ids of different kinds share one space of texts, so this is by text and not by kind.

* `Row.Survives`, `carriers`, `carriersOf` — the rows a grouping is about, and those of one id;
* `countedRows_eq_carriers`, `groupRows_eq_carriersOf` — they are the rows that are counted;
* `carriersOf_append`, `carriersOf_perm` — they are picked one by one, wherever they stand;
* `Entry.Shows` — an entry and its group;
* `Divides` — one entry for each group, no other, and nothing lost or counted twice;
* `Groups.shows` — the entry of a subtotal shows its group;
* `divides_of_groupEntries` — a grouping divides its rows.
-/

namespace Obligations

/-! ## The rows it is about -/

/-- The row passes the filters: for each narrowing it has an entity of the category, and the
value is the id or the code of that entity. -/
def Row.Survives (r : Row) (f : Filters) : Prop :=
  ∀ n ∈ f.narrowing, ∃ label, r.IsLabelled n.category label ∧
    (label.id = n.value ∨ label.code = some n.value)

instance (r : Row) (f : Filters) : Decidable (r.Survives f) :=
  inferInstanceAs (Decidable (∀ n ∈ f.narrowing, ∃ label, r.IsLabelled n.category label ∧ _))

/-- The rows that survive and have an entity of the category. -/
def carriers (rows : List Row) (f : Filters) (c : Category) : List Row :=
  rows.filter fun r => r.Survives f ∧ ∃ label, r.IsLabelled c label

/-- Those of them whose entity has this id, in the order in which they stand. -/
def carriersOf (rows : List Row) (f : Filters) (c : Category) (id : String) : List Row :=
  (carriers rows f c).filter fun r => ∃ label, r.IsLabelled c label ∧ label.id = id

section

variable {rows : List Row} {f : Filters} {c : Category} {r : Row}

/-- The narrowings that are tried one after the other let the same rows through. -/
theorem Row.survives_iff : r.Survives f ↔ f.admits r = true := by
  simp only [Survives, ← Row.label?_eq_some_iff]
  simp [Filters.admits, Narrowing.admits, Label.isNamed, Option.any_eq_true]

/-- The rows that are added up somewhere are those that have an entity. -/
theorem countedRows_eq_carriers : countedRows rows f c = carriers rows f c := by
  refine List.filter_congr fun r _ => ?_
  rw [Bool.eq_iff_iff, Bool.and_eq_true, decide_eq_true_iff, Row.survives_iff,
    Row.isSome_label?_iff]

/-- The rows that are added up under an id are those whose entity has it. -/
theorem groupRows_eq_carriersOf (id : String) :
    groupRows rows f c id = carriersOf rows f c id := by
  rw [carriersOf, carriers, List.filter_filter]
  refine List.filter_congr fun r _ => ?_
  -- a row with an entity of this id has an entity
  rw [Bool.eq_iff_iff]
  simp only [Bool.and_eq_true, decide_eq_true_eq, Row.survives_iff, Option.any_eq_true,
    beq_iff_eq, Row.label?_eq_some_iff]
  constructor
  · rintro ⟨hadmits, label, hlabel, hid⟩
    exact ⟨⟨label, hlabel, hid⟩, hadmits, label, hlabel⟩
  · rintro ⟨hlabel, hadmits, -⟩
    exact ⟨hadmits, hlabel⟩

/-- A row is in the group of its entity, if it survives, and in no other. -/
theorem mem_carriersOf {id : String} : r ∈ carriersOf rows f c id ↔
    r ∈ rows ∧ r.Survives f ∧ ∃ label, r.IsLabelled c label ∧ label.id = id := by
  rw [← groupRows_eq_carriersOf, mem_groupRows, Row.survives_iff]
  simp only [Row.label?_eq_some_iff]

/-- Rows are picked one by one, so those of two lists are those of each. -/
theorem carriers_append (rows rows' : List Row) (f : Filters) (c : Category) :
    carriers (rows ++ rows') f c = carriers rows f c ++ carriers rows' f c :=
  List.filter_append ..

theorem carriersOf_append (rows rows' : List Row) (f : Filters) (c : Category) (id : String) :
    carriersOf (rows ++ rows') f c id = carriersOf rows f c id ++ carriersOf rows' f c id := by
  rw [carriersOf, carriers_append, List.filter_append]
  rfl

theorem carriers_perm {rows' : List Row} (h : rows.Perm rows') (f : Filters) (c : Category) :
    (carriers rows f c).Perm (carriers rows' f c) :=
  h.filter _

theorem carriersOf_perm {rows' : List Row} (h : rows.Perm rows') (f : Filters) (c : Category)
    (id : String) : (carriersOf rows f c id).Perm (carriersOf rows' f c id) :=
  (carriers_perm h f c).filter _

theorem carriersOf_sublist (rows : List Row) (f : Filters) (c : Category) (id : String) :
    (carriersOf rows f c id).Sublist rows :=
  List.filter_sublist.trans List.filter_sublist

end

/-! ## Entries and groups -/

/-- The entry is that of the group: it is labelled as the first of the rows, and its amount is
that of the rows added from left to right. -/
structure Entry.Shows (e : Entry) (c : Category) (group : List Row) : Prop where
  label  : ∃ first label, group.head? = some first ∧ first.IsLabelled c label ∧
             e.id = some label.id ∧ e.code = label.code ∧ e.name = label.name ∧
             e.accountNumber = label.accountNumber
  amount : ∃ total, e.amount = some total ∧ sumAmounts (group.map Row.amount) = .ok (some total)
  category : e.category = c

/-- The entries are those of the groups of the rows. -/
structure Divides (es : List Entry) (rows : List Row) (f : Filters) (c : Category) : Prop where
  /-- No group is shown twice. -/
  ids_nodup : (es.map Entry.id).Nodup
  /-- The ids that are shown are those of the entities of surviving rows. -/
  mem_ids : ∀ id : Option String, id ∈ es.map Entry.id ↔
    ∃ r ∈ rows, r.Survives f ∧ ∃ label, r.IsLabelled c label ∧ id = some label.id
  shows : ∀ e ∈ es, ∀ id, e.id = some id → e.Shows c (carriersOf rows f c id)
  /-- Where no addition rounds, the entries add up to the surviving rows that have an entity. -/
  conserves : ∀ s ≤ Amount.maxScale, Exact s ((carriers rows f c).map Row.amount) →
    sumValues (es.filterMap Entry.amount) = sumValues ((carriers rows f c).map Row.amount)

section

variable {rows : List Row} {f : Filters} {c : Category} {es : List Entry}

/-- A subtotal makes an entry that shows its group. -/
theorem Groups.shows {parts : List Subtotal} (h : Groups parts rows f c) {p : Subtotal}
    (hp : p ∈ parts) : (p.entry c).Shows c (carriersOf rows f c p.label.id) := by
  obtain ⟨hlabel, htotal⟩ := h.sums p hp
  rw [groupAmounts, groupRows_eq_carriersOf] at htotal
  rw [groupRows_eq_carriersOf] at hlabel
  -- the label of the subtotal is that of the first row
  obtain ⟨first, hfirst, hlabelled⟩ := Option.bind_eq_some_iff.mp hlabel
  exact ⟨⟨first, p.label, hfirst, Row.isLabelled_of_label? hlabelled, rfl, rfl, rfl, rfl⟩,
    ⟨p.total, rfl, htotal⟩, rfl⟩

/-- The ids of the subtotals are those of the entities of surviving rows. -/
theorem Groups.mem_ids {parts : List Subtotal} (h : Groups parts rows f c) (id : Option String) :
    id ∈ (parts.map (Subtotal.entry c)).map Entry.id ↔
      ∃ r ∈ rows, r.Survives f ∧ ∃ label, r.IsLabelled c label ∧ id = some label.id := by
  rw [List.map_map, List.mem_map]
  constructor
  · rintro ⟨p, hp, rfl⟩
    obtain ⟨r, hr, hadmits, hlabel⟩ := h.exists_row hp
    exact ⟨r, hr, Row.survives_iff.mpr hadmits, p.label, Row.isLabelled_of_label? hlabel, rfl⟩
  · rintro ⟨r, hr, hsurvives, label, hlabel, rfl⟩
    -- the row is in the group of its entity, so this group has a subtotal
    have hmem : r ∈ groupRows rows f c label.id :=
      mem_groupRows.mpr
        ⟨hr, Row.survives_iff.mp hsurvives, label, Row.label?_eq_some_iff.mpr hlabel, rfl⟩
    obtain ⟨p, hp, hid⟩ := h.complete label.id (List.ne_nil_of_mem hmem)
    exact ⟨p, hp, congrArg some hid⟩

/-- **A grouping divides the rows it is about.** Each group is shown once, by an entry with the
label of its first row and the sum of its amounts, and nothing else is shown. -/
theorem divides_of_groupEntries (h : groupEntries rows f c = .ok es) : Divides es rows f c := by
  obtain ⟨parts, hgroups, hrank⟩ := groups_of_groupEntries h
  -- ranking changes the order of the entries only
  have hperm : es.Perm (parts.map (Subtotal.entry c)) := hrank ▸ rank_perm _
  refine ⟨ids_nodup_groupEntries h, fun id => ?_, fun e he id hid => ?_, fun s hs hexact => ?_⟩
  · rw [(hperm.map Entry.id).mem_iff]
    exact hgroups.mem_ids id
  · -- every entry is that of a subtotal
    obtain ⟨p, hp, rfl⟩ := List.mem_map.mp (hperm.mem_iff.mp he)
    injection hid with hid
    exact hid ▸ hgroups.shows hp
  · -- what is counted arrives, as long as nothing rounds
    rw [← countedRows_eq_carriers] at hexact ⊢
    exact sumValues_of_counted hs hexact h

end

namespace Sample

/-- The rows, one of them once more for another object class, and one without an agency. -/
def dividedRows : List Row :=
  agencyRows ++ [agencyRow 3 "12" 2 (-1) 0, { agencyRow 4 "099" 2 1 0 with
    classification := Classification.none }]

def dividedEntries : List Entry :=
  [⟨some "2", some "110", .objectClass, "Personnel", Amount.ofParts? 65 1, none⟩,
   ⟨some "1", some "110", .objectClass, "Personnel", Amount.ofParts? 250 2, none⟩]

end Sample

/-- Rows of the two agencies that go by 12 are left, two for each object class. -/
theorem divides_of_groupEntries_sample :
    groupEntries Sample.dividedRows (Sample.quarterFilters.narrow .agency "12") .objectClass =
      .ok Sample.dividedEntries ∧
    Divides Sample.dividedEntries Sample.dividedRows (Sample.quarterFilters.narrow .agency "12")
      .objectClass := by
  have hgrouped : groupEntries Sample.dividedRows (Sample.quarterFilters.narrow .agency "12")
      .objectClass = .ok Sample.dividedEntries := ok_of_toOption (by decide +kernel)
  exact ⟨hgrouped, divides_of_groupEntries hgrouped⟩

end Obligations
