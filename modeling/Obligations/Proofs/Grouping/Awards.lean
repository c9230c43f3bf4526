import Mathlib.Data.Set.List
import Obligations.Proofs.Grouping.Labels
import Obligations.Proofs.Grouping.Narrowing
import Obligations.Proofs.Text.Numeral

/-!
# Obligations — two views of awards

Awards are listed as awards, or by whom they were made to. The second listing leaves out those
without a category and shows another name, but both go by the id of the award. So where the rows
of one id carry the same award, both make the same groups of the same rows, in the same order,
and the ranking only sees ids and amounts, which are the same too.

* `AwardsAgree` — rows of one award id carry the same award;
* `Entry.IsAward`, `Entry.IsAwardCategory` — how either listing shows an award;
* `ConsistentViews` — one listing is a part of the other, but for types and names;
* `AwardTotal` — a subtotal of awards, with an award that some row carries;
* `groupRows_awardCategory`, `Groups.awardCategory` — the groups are the same;
* `award_views_consistent` — so the listings are consistent.
-/

namespace Obligations

/-! ## Awards of rows -/

/-- Rows of one award id carry the same award. -/
def AwardsAgree (rows : List Row) : Prop :=
  ∀ r ∈ rows, ∀ r' ∈ rows, r.award.map Award.id = r'.award.map Award.id → r.award = r'.award

instance (rows : List Row) : Decidable (AwardsAgree rows) :=
  inferInstanceAs (Decidable (∀ r ∈ rows, ∀ r' ∈ rows, _ → _))

/-- Two rows whose awards are shown with one id carry the same award. -/
theorem AwardsAgree.eq_of_id {rows : List Row} (h : AwardsAgree rows) {r r' : Row} {a b : Award}
    (hr : r ∈ rows) (hr' : r' ∈ rows) (ha : r.award = some a) (hb : r'.award = some b)
    (hid : toString a.id = toString b.id) : a = b := by
  -- ids are numbers, and different numbers are written differently
  have hsame : a.id = b.id := Integer.toString_injective hid
  have haward := h r hr r' hr' (by rw [ha, hb, Option.map_some, Option.map_some, hsame])
  rw [ha, hb] at haward
  exact Option.some.inj haward

/-- Both labels of an award have its id. -/
theorem Award.id_of_categoryLabel? {a : Award} {label : Label}
    (h : a.categoryLabel? = some label) : label.id = toString a.id := by
  obtain ⟨_, -, rfl⟩ := Option.map_eq_some_iff.mp h
  rfl

/-! ## Listings -/

/-- What an entry shows besides its type and its name. -/
def Entry.untitled (e : Entry) : Option String × Option String × Option Amount × Option String :=
  (e.id, e.code, e.amount, e.accountNumber)

/-- The ranking sees nothing of types and names. -/
theorem Entry.figure_of_untitled {x y : Entry} (h : x.untitled = y.untitled) :
    x.figure = y.figure := by
  simp only [untitled, Prod.mk.injEq] at h
  rw [figure, figure, h.1, h.2.2.1]

/-- The entry has the id of an award with a category. -/
def Entry.HasCategory (e : Entry) (rows : List Row) : Prop :=
  ∃ r ∈ rows, ∃ a ∈ r.award, e.id = some (toString a.id) ∧ a.category.isSome = true

instance (e : Entry) (rows : List Row) : Decidable (e.HasCategory rows) :=
  inferInstanceAs (Decidable (∃ r ∈ rows, ∃ a ∈ r.award, _))

/-- The entry lists the award under its code, or else under its id. -/
structure Entry.IsAward (e : Entry) (a : Award) : Prop where
  id       : e.id = some (toString a.id)
  code     : a.GoesBy e.code
  category : e.category = .award
  name     : e.name = e.code.getD (toString a.id)

/-- The entry lists the award under its recipient, or else under its category. -/
structure Entry.IsAwardCategory (e : Entry) (a : Award) : Prop where
  id       : e.id = some (toString a.id)
  code     : a.GoesBy e.code
  category : e.category = .awardCategory
  name     : ∃ given, a.category = some given ∧
               e.name = (a.recipient.map Recipient.name).getD given

/-- The listing by category is that of the awards that have one, with other types and names. -/
structure ConsistentViews (rows : List Row) (awards categories : List Entry) : Prop where
  sublist    : categories.map Entry.untitled =
                 (awards.filter (·.HasCategory rows)).map Entry.untitled
  awards     : ∀ e ∈ awards, ∃ r ∈ rows, ∃ a ∈ r.award, e.IsAward a
  categories : ∀ e ∈ categories, ∃ r ∈ rows, ∃ a ∈ r.award, e.IsAwardCategory a

/-! ## The same groups -/

/-- The sum of the rows of an award. -/
structure AwardTotal (rows : List Row) where
  award : Award
  total : Amount
  reported : ∃ r ∈ rows, r.award = some award

namespace AwardTotal

variable {rows : List Row}

/-- The subtotal of the award. -/
def part (t : AwardTotal rows) : Subtotal := ⟨t.award.label, t.total⟩

/-- The same subtotal with the label that goes by the category. -/
def categoryPart? (t : AwardTotal rows) : Option Subtotal :=
  t.award.categoryLabel?.map fun label => ⟨label, t.total⟩

/-- The award has a category, which labels it, and the amount stays. -/
theorem categoryPart?_eq_some {t : AwardTotal rows} {p : Subtotal} :
    t.categoryPart? = some p ↔ t.award.categoryLabel? = some p.label ∧ p.total = t.total := by
  obtain ⟨label, total⟩ := p
  simp only [categoryPart?, Option.map_eq_some_iff, Subtotal.mk.injEq]
  constructor
  · rintro ⟨_, hlabel, rfl, rfl⟩
    exact ⟨hlabel, rfl⟩
  · rintro ⟨hlabel, rfl⟩
    exact ⟨label, hlabel, rfl, rfl⟩

/-- The ids by category are some of the ids of the awards, in their order. -/
theorem ids_categoryParts_sublist (totals : List (AwardTotal rows)) :
    ((totals.filterMap categoryPart?).map (·.label.id)).Sublist
      ((totals.map part).map (·.label.id)) := by
  induction totals with
  | nil => exact .slnil
  | cons t ts ih =>
    rw [List.filterMap_cons]
    -- a total is left out or keeps its id
    cases hpart : t.categoryPart? with
    | none => exact ih.cons _
    | some p =>
      obtain ⟨hlabel, -⟩ := categoryPart?_eq_some.mp hpart
      rw [List.map_cons, Award.id_of_categoryLabel? hlabel]
      exact ih.cons_cons _

/-- But for types and names, the entries by category are those of the awards that have one. -/
theorem untitled_categoryParts (totals : List (AwardTotal rows)) :
    ((totals.filterMap categoryPart?).map (Subtotal.entry .awardCategory)).map Entry.untitled =
      (((totals.filter (·.award.category.isSome)).map part).map (Subtotal.entry .award)).map
        Entry.untitled := by
  induction totals with
  | nil => rfl
  | cons t ts ih =>
    rw [List.filterMap_cons, List.filter_cons]
    -- an award without a category is missing on both sides
    cases hcategory : t.award.category with
    | none =>
      have hpart : t.categoryPart? = none := by
        simp [categoryPart?, Award.categoryLabel?, hcategory]
      rw [hpart]
      exact ih
    | some category =>
      obtain ⟨label, hlabel, hentry⟩ : ∃ label, t.award.categoryLabel? = some label ∧
          (Subtotal.entry .awardCategory ⟨label, t.total⟩).untitled =
            (t.part.entry .award).untitled := by
        simp [Award.categoryLabel?, hcategory, Subtotal.entry, Entry.untitled, part, Award.label]
      have hpart : t.categoryPart? = some ⟨label, t.total⟩ :=
        categoryPart?_eq_some.mpr ⟨hlabel, rfl⟩
      rw [hpart]
      simp only [List.map_cons, hentry, ih, Option.isSome_some, if_true]

end AwardTotal

section

variable {rows : List Row} {f : Filters}

/-- Where the award has a category, its rows are the same in both groupings. -/
theorem groupRows_awardCategory (hagree : AwardsAgree rows) {r : Row} {a : Award} (hr : r ∈ rows)
    (ha : r.award = some a) (hcategory : a.category.isSome = true) :
    groupRows rows f .awardCategory (toString a.id) = groupRows rows f .award (toString a.id) := by
  -- the two tests of a row differ in its label only
  refine List.filter_congr fun x hx => ?_
  congr 1
  cases hb : x.award with
  | none => simp only [Row.label?, hb, Option.bind_none, Option.map_none]
  | some b =>
    simp only [Row.label?, hb, Option.bind_some, Option.map_some, Option.any_some]
    by_cases hid : toString b.id = toString a.id
    · -- the row carries the same award, so it has a label in both
      obtain rfl : b = a := hagree.eq_of_id hx hr hb ha hid
      obtain ⟨category, hcategory⟩ := Option.isSome_iff_exists.mp hcategory
      simp [Award.categoryLabel?, Award.label, hcategory]
    · cases hlabel : b.categoryLabel? with
      | none => simpa [Award.label] using hid
      | some label => simp [Award.label, Award.id_of_categoryLabel? hlabel]

variable {parts : List Subtotal} {totals : List (AwardTotal rows)}

/-- A subtotal of awards is that of an award of some row. -/
theorem Groups.exists_awardTotals (h : Groups parts rows f .award) :
    ∃ totals : List (AwardTotal rows), totals.map AwardTotal.part = parts := by
  show parts ∈ Set.range (List.map AwardTotal.part)
  -- totals can be chosen one by one
  rw [Set.range_list_map]
  intro p hp
  obtain ⟨r, hr, -, hlabel⟩ := h.exists_row hp
  obtain ⟨a, ha, hlabelled⟩ := Option.map_eq_some_iff.mp hlabel
  exact ⟨⟨a, p.total, r, hr, ha⟩, by rw [AwardTotal.part, hlabelled]⟩

/-- The first row of the group of an award carries this award, which labels it in both listings. -/
theorem Groups.head?_award (hagree : AwardsAgree rows)
    (h : Groups (totals.map AwardTotal.part) rows f .award) {t : AwardTotal rows}
    (ht : t ∈ totals) :
    ∃ first, (groupRows rows f .award (toString t.award.id)).head? = some first ∧
      first.award = some t.award := by
  obtain ⟨first, hfirst, hlabel⟩ :=
    Option.bind_eq_some_iff.mp (h.sums _ (List.mem_map_of_mem ht)).label_eq
  obtain ⟨b, hb, hlabelled⟩ := Option.map_eq_some_iff.mp hlabel
  obtain ⟨hrow, -, -⟩ := mem_groupRows.mp (List.mem_of_head? hfirst)
  -- it has the id of the award, and so has the row the total was reported by
  obtain ⟨r, hr, ha⟩ := t.reported
  have hid : toString b.id = toString t.award.id := congrArg Label.id hlabelled
  exact ⟨first, hfirst, hagree.eq_of_id hrow hr hb ha hid ▸ hb⟩

/-- The award of a row that is counted has a total. -/
theorem Groups.exists_awardTotal (hagree : AwardsAgree rows)
    (h : Groups (totals.map AwardTotal.part) rows f .award) {r : Row} {a : Award} (hr : r ∈ rows)
    (hadmits : f.admits r = true) (ha : r.award = some a) : ∃ t ∈ totals, t.award = a := by
  have hlabel : r.label? .award = some a.label := congrArg (Option.map Award.label) ha
  have hne : groupRows rows f .award (toString a.id) ≠ [] :=
    List.ne_nil_of_mem (mem_groupRows.mpr ⟨hr, hadmits, a.label, hlabel, rfl⟩)
  obtain ⟨_, hp, hid⟩ := h.complete _ hne
  obtain ⟨t, ht, rfl⟩ := List.mem_map.mp hp
  -- the total is that of some row with this id, and so of this award
  obtain ⟨r', hr', ha'⟩ := t.reported
  exact ⟨t, ht, hagree.eq_of_id hr' hr ha' ha hid⟩

/-- The total of an award with a category is that of its rows by category. -/
theorem Groups.isOf_categoryPart (hagree : AwardsAgree rows)
    (h : Groups (totals.map AwardTotal.part) rows f .award) {t : AwardTotal rows} (ht : t ∈ totals)
    {p : Subtotal} (hpart : t.categoryPart? = some p) : p.IsOf rows f .awardCategory := by
  obtain ⟨hlabel, htotal⟩ := AwardTotal.categoryPart?_eq_some.mp hpart
  obtain ⟨r, hr, ha⟩ := t.reported
  have hcategory : t.award.category.isSome = true := by
    simpa [Award.categoryLabel?] using congrArg Option.isSome hlabel
  have hid := Award.id_of_categoryLabel? hlabel
  have hgroup := groupRows_awardCategory (f := f) hagree hr ha hcategory
  refine ⟨?_, ?_⟩
  · -- the same row comes first, and its award has both labels
    obtain ⟨first, hfirst, haward⟩ := h.head?_award hagree ht
    rw [hid, hgroup, hfirst]
    show first.award.bind Award.categoryLabel? = some p.label
    rw [haward]
    exact hlabel
  · -- the same rows add up to the same sum
    rw [hid, groupAmounts, hgroup, htotal]
    exact (h.sums _ (List.mem_map_of_mem ht)).total_eq

/-- The groups by category are those of the awards that have one. -/
theorem Groups.awardCategory (hagree : AwardsAgree rows)
    (h : Groups (totals.map AwardTotal.part) rows f .award) :
    Groups (totals.filterMap AwardTotal.categoryPart?) rows f .awardCategory := by
  refine ⟨?_, ?_, ?_⟩
  · exact h.ids_nodup.sublist (AwardTotal.ids_categoryParts_sublist totals)
  · intro p hp
    obtain ⟨t, ht, hpart⟩ := List.mem_filterMap.mp hp
    exact h.isOf_categoryPart hagree ht hpart
  · intro id hne
    obtain ⟨r, hr⟩ := List.exists_mem_of_ne_nil _ hne
    obtain ⟨hrow, hadmits, label, hlabel, rfl⟩ := mem_groupRows.mp hr
    -- a row that has a category carries an award, so there is a total to take over
    obtain ⟨a, ha, hlabelled⟩ := Option.bind_eq_some_iff.mp hlabel
    obtain ⟨t, ht, rfl⟩ := h.exists_awardTotal hagree hrow hadmits ha
    have hpart : t.categoryPart? = some ⟨label, t.total⟩ :=
      AwardTotal.categoryPart?_eq_some.mpr ⟨hlabelled, rfl⟩
    exact ⟨⟨label, t.total⟩, List.mem_filterMap.mpr ⟨t, ht, hpart⟩, rfl⟩

end

/-! ## The same entries -/

namespace AwardTotal

variable {rows : List Row} {t : AwardTotal rows}

theorem isAward_entry (t : AwardTotal rows) : (t.part.entry .award).IsAward t.award :=
  ⟨rfl, t.award.goesBy_displayCode?, rfl, rfl⟩

theorem isAwardCategory_entry {p : Subtotal} (h : t.categoryPart? = some p) :
    (p.entry .awardCategory).IsAwardCategory t.award := by
  obtain ⟨label, hlabel, rfl⟩ := Option.map_eq_some_iff.mp h
  obtain ⟨given, hgiven, rfl⟩ := Option.map_eq_some_iff.mp hlabel
  exact ⟨rfl, t.award.goesBy_displayCode?, rfl, given, hgiven, rfl⟩

/-- Whichever row is looked at, it tells the same of the award. -/
theorem hasCategory_iff (hagree : AwardsAgree rows) (t : AwardTotal rows) :
    (t.part.entry .award).HasCategory rows ↔ t.award.category.isSome = true := by
  obtain ⟨r, hr, ha⟩ := t.reported
  constructor
  · rintro ⟨r', hr', b, hb, hid, hcategory⟩
    obtain rfl : t.award = b := hagree.eq_of_id hr hr' ha hb (Option.some.inj hid)
    exact hcategory
  · intro hcategory
    exact ⟨r, hr, t.award, ha, rfl, hcategory⟩

end AwardTotal

/-- **Awards and their categories are consistent views.** The awards that have a category are
listed by category with the same ids, codes and amounts, and in the same order. -/
theorem award_views_consistent {rows : List Row} {f : Filters} (hagree : AwardsAgree rows)
    {awards : List Entry} (h : groupEntries rows f .award = .ok awards) :
    ∃ categories, groupEntries rows f .awardCategory = .ok categories ∧
      ConsistentViews rows awards categories := by
  -- the listing of awards gives totals, and the one by category is made of the same
  obtain ⟨parts, hgroups, rfl⟩ := groups_of_groupEntries h
  obtain ⟨totals, rfl⟩ := hgroups.exists_awardTotals
  refine ⟨_, groupEntries_of_groups (hgroups.awardCategory hagree), ?_, ?_, ?_⟩
  · -- dropping awards before ranking or after it is the same
    rw [filter_rank, List.filter_map, List.filter_map]
    have hleft : totals.filter (((fun e => decide (e.HasCategory rows)) ∘ Subtotal.entry .award) ∘
        AwardTotal.part) = totals.filter (·.award.category.isSome) := by
      refine List.filter_congr fun t _ => ?_
      rw [Bool.eq_iff_iff, ← AwardTotal.hasCategory_iff hagree t]
      exact decide_eq_true_iff
    rw [hleft]
    -- what is ranked then is the same to the ranking, whatever the names
    exact map_rank_congr Entry.figure_of_untitled (AwardTotal.untitled_categoryParts totals)
  · intro e he
    obtain ⟨_, hp, rfl⟩ := List.mem_map.mp ((rank_perm _).mem_iff.mp he)
    obtain ⟨t, -, rfl⟩ := List.mem_map.mp hp
    obtain ⟨r, hr, ha⟩ := t.reported
    exact ⟨r, hr, t.award, ha, t.isAward_entry⟩
  · intro e he
    obtain ⟨p, hp, rfl⟩ := List.mem_map.mp ((rank_perm _).mem_iff.mp he)
    obtain ⟨t, -, hpart⟩ := List.mem_filterMap.mp hp
    obtain ⟨r, hr, ha⟩ := t.reported
    exact ⟨r, hr, t.award, ha, AwardTotal.isAwardCategory_entry hpart⟩

namespace Sample

def rowOf (a : Award) (coefficient : Int) : Row :=
  ⟨.ofPeriod 2020 6, .none, some a, (Amount.ofParts? coefficient 0).getD .zero⟩

def suppliedAward : Award :=
  ⟨10, some "W911", some "F-1", none, some "A", some ⟨5, none, "Acme"⟩, none⟩

/-- Rows of an award with an empty PIID, of one with a recipient, of one without a category and of
one without a code. The second has two rows, which make as much as that of the last. -/
def listedRows : List Row :=
  [rowOf ⟨2, some "", some "F-2", none, some "B", none, none⟩ 40, rowOf suppliedAward 10,
    rowOf ⟨4, none, none, some "U-4", none, none, none⟩ 70,
    rowOf ⟨9, none, some "", none, some "C", none, none⟩ 15, rowOf suppliedAward 5]

def listedAwards : List Entry :=
  [⟨some "4", some "U-4", .award, "U-4", Amount.ofParts? 70 0, none⟩,
   ⟨some "2", some "F-2", .award, "F-2", Amount.ofParts? 40 0, none⟩,
   ⟨some "9", none, .award, "9", Amount.ofParts? 15 0, none⟩,
   ⟨some "10", some "W911", .award, "W911", Amount.ofParts? 15 0, none⟩]

end Sample

theorem award_views_consistent_sample :
    groupEntries Sample.listedRows Sample.quarterFilters .award = .ok Sample.listedAwards ∧
    ∃ categories,
      groupEntries Sample.listedRows Sample.quarterFilters .awardCategory = .ok categories ∧
      ConsistentViews Sample.listedRows Sample.listedAwards categories := by
  have hgrouped : groupEntries Sample.listedRows Sample.quarterFilters .award =
      .ok Sample.listedAwards := ok_of_toOption (by decide +kernel)
  exact ⟨hgrouped, award_views_consistent (by decide) hgrouped⟩

end Obligations
