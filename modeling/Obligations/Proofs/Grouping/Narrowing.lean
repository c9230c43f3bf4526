import Obligations.Proofs.Grouping.Groups
import Obligations.Proofs.Ranking.Figures

/-!
# Obligations — drilling down

A narrowing looks at each row on its own, and an entry shows the label of the first row of its
group. If the rows of one id have one code, both see the same: a group passes the narrowing as
a whole or not at all, by the name its entry shows. So what is left after narrowing to an
entity are its groups, unchanged, and along another dimension their rows are only spread
differently. A value can be the id of one entity and the code of another; then the groups of
both are left, and both entries go by it.

* `Entry.isNamed` — the entry goes by a value, as its id or its code;
* `CodesAgree` — the rows of one id have one code;
* `groupRows_narrow` — a group is left whole or not at all;
* `Groups.narrow`, `Groups.perm` — the groups that are left, and that rows have no other groups
  than these;
* `groupEntries_narrow` — narrowing along the category of the grouping keeps entries as they are;
* `drill_down_conserves` — narrowing along any category conserves what the entries add up to.
-/

namespace Obligations

/-! ## Names -/

/-- The entry goes by `value`, as its id or its code. -/
def Entry.isNamed (x : Entry) (value : String) : Bool := x.id == some value || x.code == some value

theorem Subtotal.isNamed_entry (p : Subtotal) (c : Category) (value : String) :
    (p.entry c).isNamed value = p.label.isNamed value := by
  simp [Subtotal.entry, Entry.isNamed, Label.isNamed]

/-- Among the rows that pass the filters, those of one id have one code. -/
def CodesAgree (rows : List Row) (f : Filters) (c : Category) : Prop :=
  ∀ r ∈ rows, ∀ r' ∈ rows, f.admits r = true → f.admits r' = true →
    (r.label? c).map Label.id = (r'.label? c).map Label.id →
    (r.label? c).map Label.code = (r'.label? c).map Label.code

instance (rows : List Row) (f : Filters) (c : Category) : Decidable (CodesAgree rows f c) :=
  inferInstanceAs (Decidable (∀ r ∈ rows, ∀ r' ∈ rows, _ → _ → _ → _))

section

variable {rows : List Row} {f : Filters} {c : Category} {value : String}

/-- A narrowing is one more condition on each row. -/
theorem Filters.admits_narrow (r : Row) :
    (f.narrow c value).admits r = (f.admits r && (r.label? c).any (·.isNamed value)) := by
  simp [admits, narrow, Narrowing.admits, List.all_append]

/-- Rows of one id go by the same names. -/
theorem CodesAgree.isNamed_eq (hcodes : CodesAgree rows f c) {r r' : Row} {label label' : Label}
    (hr : r ∈ rows) (hr' : r' ∈ rows) (hadmits : f.admits r = true)
    (hadmits' : f.admits r' = true) (hlabel : r.label? c = some label)
    (hlabel' : r'.label? c = some label') (hid : label.id = label'.id) :
    label.isNamed value = label'.isNamed value := by
  have hcode := hcodes r hr r' hr' hadmits hadmits'
  rw [hlabel, hlabel', Option.map_some, Option.map_some, hid] at hcode
  rw [Label.isNamed, Label.isNamed, hid, Option.some.inj (hcode rfl)]

/-! ## Groups -/

/-- Narrowing leaves the rows of an entity or drops them, all of them together. -/
theorem groupRows_narrow (hcodes : CodesAgree rows f c) {r : Row} {label : Label}
    (hr : r ∈ rows) (hadmits : f.admits r = true) (hlabel : r.label? c = some label) :
    groupRows rows (f.narrow c value) c label.id =
      if label.isNamed value then groupRows rows f c label.id else [] := by
  -- narrowed or not, a row of the group goes by the names of `label`
  have hnamed : ∀ x ∈ groupRows rows f c label.id,
      (x.label? c).any (·.isNamed value) = label.isNamed value := by
    intro x hx
    obtain ⟨hxrow, hxadmits, label', hxlabel, hid⟩ := mem_groupRows.mp hx
    rw [hxlabel, Option.any_some]
    exact hcodes.isNamed_eq hxrow hr hxadmits hadmits hxlabel hlabel hid
  -- narrowing is a filter on the group
  have hfilter : groupRows rows (f.narrow c value) c label.id =
      (groupRows rows f c label.id).filter fun x => (x.label? c).any (·.isNamed value) := by
    unfold groupRows
    rw [List.filter_filter]
    refine List.filter_congr fun x _ => ?_
    rw [Filters.admits_narrow, Bool.and_right_comm, Bool.and_comm]
  rw [hfilter]
  split
  · next h => exact List.filter_eq_self.mpr fun x hx => (hnamed x hx).trans h
  · next h => exact List.filter_eq_nil_iff.mpr fun x hx => by rw [hnamed x hx]; exact h

variable {parts parts' : List Subtotal}

/-- The groups that narrowing leaves are those that go by the value. -/
theorem Groups.narrow (h : Groups parts rows f c) (hcodes : CodesAgree rows f c)
    (value : String) :
    Groups (parts.filter fun p => p.label.isNamed value) rows (f.narrow c value) c := by
  -- each group is kept or dropped as a whole
  have hgroup {p : Subtotal} (hp : p ∈ parts) :
      groupRows rows (f.narrow c value) c p.label.id =
        if p.label.isNamed value then groupRows rows f c p.label.id else [] := by
    obtain ⟨r, hr, hadmits, hlabel⟩ := h.exists_row hp
    exact groupRows_narrow hcodes hr hadmits hlabel
  refine ⟨?_, fun p hp => ?_, fun id hid => ?_⟩
  · exact h.ids_nodup.sublist (List.filter_sublist.map _)
  · obtain ⟨hp, hnamed⟩ := List.mem_filter.mp hp
    -- the group is the one it was, so it has the same first row and the same sum
    have hsame := hgroup hp
    rw [if_pos hnamed] at hsame
    exact ⟨by rw [hsame]; exact (h.sums p hp).label_eq,
      by rw [groupAmounts, hsame]; exact (h.sums p hp).total_eq⟩
  · -- a row that is left was there before narrowing, in a group that is then left whole
    obtain ⟨r, hr⟩ := List.exists_mem_of_ne_nil _ hid
    obtain ⟨hrow, hadmits, label, hlabel, hlabelid⟩ := mem_groupRows.mp hr
    rw [Filters.admits_narrow, Bool.and_eq_true] at hadmits
    have hne : groupRows rows f c id ≠ [] :=
      List.ne_nil_of_mem (mem_groupRows.mpr ⟨hrow, hadmits.1, label, hlabel, hlabelid⟩)
    obtain ⟨p, hp, rfl⟩ := h.complete id hne
    refine ⟨p, List.mem_filter.mpr ⟨hp, ?_⟩, rfl⟩
    by_contra hnamed
    rw [hgroup hp, if_neg hnamed] at hid
    exact hid rfl

/-- Rows have one subtotal for each group, whatever the order. -/
theorem Groups.perm (h : Groups parts rows f c) (h' : Groups parts' rows f c) :
    parts.Perm parts' := by
  have hmem {ps qs : List Subtotal} (hps : Groups ps rows f c) (hqs : Groups qs rows f c)
      {p : Subtotal} (hp : p ∈ ps) : p ∈ qs := by
    obtain ⟨first, hfirst, -⟩ := Option.bind_eq_some_iff.mp (hps.sums p hp).label_eq
    obtain ⟨p', hp', hid⟩ := hqs.complete _ (List.ne_nil_of_mem (List.mem_of_head? hfirst))
    -- label and total are read off the group, and both subtotals are of one group
    have hlabel := (hqs.sums p' hp').label_eq
    have htotal := (hqs.sums p' hp').total_eq
    rw [hid, (hps.sums p hp).label_eq] at hlabel
    rw [hid, (hps.sums p hp).total_eq] at htotal
    obtain ⟨label, total⟩ := p
    obtain ⟨label', total'⟩ := p'
    cases Option.some.inj hlabel
    cases Option.some.inj (Except.ok.inj htotal)
    exact hp'
  exact (List.perm_ext_iff_of_nodup (.of_map _ h.ids_nodup) (.of_map _ h'.ids_nodup)).mpr
    fun p => ⟨hmem h h', hmem h' h⟩

/-! ## Entries -/

/-- The groups of the rows, however they were found, are what a grouping ranks. -/
theorem groupEntries_of_groups (h : Groups parts rows f c) :
    groupEntries rows f c = .ok (rank (parts.map (Subtotal.entry c))) := by
  -- the sum of each group exists, so there is a grouping, and its groups are the same
  obtain ⟨es, hes⟩ := groupEntries_isOk_iff.mpr h.exists_sum
  obtain ⟨parts', hgroups, rfl⟩ := groups_of_groupEntries hes
  rw [hes, rank_eq_of_perm ((hgroups.perm h).map _) hgroups.entry_ids_nodup]

/-- Narrowing to an entity of the category of the grouping keeps the entries that go by the
value, as they are, and drops the others. -/
theorem groupEntries_narrow (hcodes : CodesAgree rows f c) {whole : List Entry}
    (hwhole : groupEntries rows f c = .ok whole) :
    groupEntries rows (f.narrow c value) c = .ok (whole.filter (·.isNamed value)) := by
  obtain ⟨parts, hgroups, rfl⟩ := groups_of_groupEntries hwhole
  rw [groupEntries_of_groups (hgroups.narrow hcodes value), filter_rank, List.filter_map]
  have hnamed : (fun x => Entry.isNamed x value) ∘ Subtotal.entry c =
      fun p => p.label.isNamed value :=
    funext fun p => p.isNamed_entry c value
  rw [hnamed]

/-- The rows that are left have an entity of the category that was narrowed along. -/
theorem isSome_label?_of_narrow {r : Row} (h : (f.narrow c value).admits r = true) :
    (r.label? c).isSome = true := by
  rw [Filters.admits_narrow, Bool.and_eq_true] at h
  exact Option.isSome_of_any h.2

end

/-- **Drilling down conserves money.** What is left after narrowing along a category adds up, in
any other dimension that it has, to the entries of the category that go by the value. In the
category itself these are the entries that are left. -/
theorem drill_down_conserves {rows : List Row} {f : Filters} {c : Category}
    (hcodes : CodesAgree rows f c) (value : String) :
    (∀ whole, groupEntries rows f c = .ok whole →
      groupEntries rows (f.narrow c value) c = .ok (whole.filter (·.isNamed value))) ∧
    ∀ d : Category,
      (∀ r ∈ rows, f.admits r = true → (r.label? c).any (·.isNamed value) = true →
        (r.label? d).isSome = true) →
      InExactRange (rows.map Row.amount) →
      ∃ whole part, groupEntries rows f c = .ok whole ∧
        groupEntries rows (f.narrow c value) d = .ok part ∧
        sumValues (part.filterMap Entry.amount) =
          sumValues ((whole.filter (·.isNamed value)).filterMap Entry.amount) := by
  -- both sides are compared with the rows that are left, and not with each other
  refine ⟨fun whole hwhole => groupEntries_narrow hcodes hwhole, ?_⟩
  intro d hdimension hrange
  have hk := largestScale_le (rows.map Row.amount)
  have hexact := hrange.exact
  obtain ⟨whole, hwhole⟩ := groupEntries_of_exact f c hexact
  obtain ⟨part, hpart⟩ := groupEntries_of_exact (f.narrow c value) d hexact
  refine ⟨whole, part, hwhole, hpart, ?_⟩
  -- along both categories the rows that are counted are all that the narrowing leaves
  have hcounted :
      countedRows rows (f.narrow c value) d = countedRows rows (f.narrow c value) c := by
    rw [countedRows_eq_filter fun r _ h => isSome_label?_of_narrow h, countedRows_eq_filter]
    intro r hr hadmits
    rw [Filters.admits_narrow, Bool.and_eq_true] at hadmits
    exact hdimension r hr hadmits.1 hadmits.2
  calc sumValues (part.filterMap Entry.amount)
      = sumValues ((countedRows rows (f.narrow c value) d).map Row.amount) :=
        sumValues_groupEntries hk hexact hpart
    _ = sumValues ((countedRows rows (f.narrow c value) c).map Row.amount) := by rw [hcounted]
    _ = sumValues ((whole.filter (·.isNamed value)).filterMap Entry.amount) :=
        (sumValues_groupEntries hk hexact (groupEntries_narrow hcodes hwhole)).symm

namespace Sample

/-- A row of an agency, given by id and code, and an object class. -/
def agencyRow (agency : Nat) (code : String) (objectClass : Nat) (coefficient : Int)
    (scale : Nat) : Row where
  submission     := .ofPeriod 2020 6
  classification := { Classification.none with
    agency      := some ⟨agency, code, "Agency"⟩
    objectClass := some ⟨objectClass, "110", "Personnel"⟩ }
  award          := none
  amount         := (Amount.ofParts? coefficient scale).getD .zero

/-- 12 is the id of one agency and the code of another. The third is neither. -/
def agencyRows : List Row :=
  [agencyRow 12 "070" 1 5 0, agencyRow 3 "12" 1 (-250) 2, agencyRow 4 "099" 2 40 0,
    agencyRow 12 "070" 2 75 1]

def quarterFilters : Filters := .forQuarter 2020 2

/-- The entries of all three agencies. -/
def agencyEntries : List Entry :=
  [⟨some "4", some "099", .agency, "Agency", Amount.ofParts? 40 0, none⟩,
   ⟨some "12", some "070", .agency, "Agency", Amount.ofParts? 125 1, none⟩,
   ⟨some "3", some "12", .agency, "Agency", Amount.ofParts? (-250) 2, none⟩]

end Sample

/-- The entries of two agencies are left, and both object classes have something of them. -/
theorem drill_down_conserves_sample :
    groupEntries Sample.agencyRows (Sample.quarterFilters.narrow .agency "12") .agency =
      .ok (Sample.agencyEntries.filter (·.isNamed "12")) ∧
    ∃ whole part, groupEntries Sample.agencyRows Sample.quarterFilters .agency = .ok whole ∧
      groupEntries Sample.agencyRows (Sample.quarterFilters.narrow .agency "12") .objectClass =
        .ok part ∧
      sumValues (part.filterMap Entry.amount) =
        sumValues ((whole.filter (·.isNamed "12")).filterMap Entry.amount) := by
  have hcodes : CodesAgree Sample.agencyRows Sample.quarterFilters .agency := by decide
  obtain ⟨hsame, hconserves⟩ := drill_down_conserves hcodes "12"
  exact ⟨hsame _ (ok_of_toOption (by decide +kernel)),
    hconserves .objectClass (by decide) (by decide +kernel)⟩

end Obligations
