import Obligations.Proofs.Grouping.Groups
import Obligations.Proofs.Ranking.Figures

/-!
# Obligations — groupings of rows in another order

The subtotals of a grouping stand in the order in which their entities first occur, under the
label of the first row, and are added up in the order of the rows. None of this shows in the
figures of the result, as long as no addition rounds: each group has the same rows in any
order, hence the same number, and ranking only looks at ids and numbers. The labels are those
of some row of the group, so they are the same if the rows agree on them.

* `groupRows_perm` — reordering rows reorders each group;
* `Groups.value_eq` — in the exact range a subtotal is the number of its group;
* `figures_groupEntries_perm` — the figures of the result do not depend on the order;
* `LabelsAgree`, `sameButScale_groupEntries_perm` — nor do its labels, if the rows agree on
  them.
-/

namespace Obligations

section

variable {k : Nat} {rows rows' : List Row} {f : Filters} {c : Category}

/-- Reordering rows reorders each group and moves nothing from one to another. -/
theorem groupRows_perm (h : rows.Perm rows') (id : String) :
    (groupRows rows f c id).Perm (groupRows rows' f c id) :=
  h.filter _

/-- In the exact range a subtotal is the number of its group. -/
theorem Groups.value_eq {parts : List Subtotal} (h : Groups parts rows f c)
    (hk : k ≤ Amount.maxScale) (hexact : Exact k (rows.map Row.amount)) {p : Subtotal}
    (hp : p ∈ parts) : p.total.value = sumValues (groupAmounts rows f c p.label.id) := by
  have hgroup : Exact k (groupAmounts rows f c p.label.id) :=
    hexact.sublist (List.filter_sublist.map _)
  exact value_of_sumAmounts_some hk hgroup (h.sums p hp).total_eq

/-- Every subtotal has a counterpart with the same id and number. -/
theorem Groups.exists_figure {parts parts' : List Subtotal} (h : Groups parts rows f c)
    (h' : Groups parts' rows' f c) (hperm : rows.Perm rows') (hk : k ≤ Amount.maxScale)
    (hexact : Exact k (rows.map Row.amount)) {p : Subtotal} (hp : p ∈ parts) :
    ∃ p' ∈ parts', (p'.entry c).figure = (p.entry c).figure := by
  have hgroup := groupRows_perm (f := f) (c := c) hperm p.label.id
  -- the group is not empty, since it has a sum
  have hne : groupRows rows' f c p.label.id ≠ [] := by
    intro hnil
    rw [hnil] at hgroup
    have hsum := (h.sums p hp).total_eq
    rw [groupAmounts, hgroup.eq_nil] at hsum
    simp [sumAmounts] at hsum
  obtain ⟨p', hp', hid⟩ := h'.complete _ hne
  refine ⟨p', hp', ?_⟩
  have hvalue : p'.total.value = p.total.value := by
    rw [h'.value_eq hk (hexact.perm (hperm.map _)) hp', h.value_eq hk hexact hp, hid]
    exact (sumValues_perm (hgroup.map Row.amount)).symm
  simp [Entry.figure, Subtotal.entry, hid, hvalue]

theorem Groups.figures_nodup {parts : List Subtotal} (h : Groups parts rows f c) :
    ((parts.map (Subtotal.entry c)).map Entry.figure).Nodup := by
  -- figures with different ids are different
  refine List.Nodup.of_map Prod.fst ?_
  rw [List.map_map]
  exact h.entry_ids_nodup

/-- The figures of a grouping do not depend on the order of the rows. -/
theorem figures_groupEntries_perm (hperm : rows.Perm rows') (hk : k ≤ Amount.maxScale)
    (hexact : Exact k (rows.map Row.amount)) {es es' : List Entry}
    (hes : groupEntries rows f c = .ok es) (hes' : groupEntries rows' f c = .ok es') :
    es.map Entry.figure = es'.map Entry.figure := by
  obtain ⟨parts, hgroups, rfl⟩ := groups_of_groupEntries hes
  obtain ⟨parts', hgroups', rfl⟩ := groups_of_groupEntries hes'
  -- ranking looks at the figures, and both sides have the same ones, each of them once
  refine map_figure_rank
    ((List.perm_ext_iff_of_nodup hgroups.figures_nodup hgroups'.figures_nodup).mpr fun x => ?_)
  simp only [List.map_map, List.mem_map, Function.comp_apply]
  constructor
  · rintro ⟨p, hp, rfl⟩
    exact hgroups.exists_figure hgroups' hperm hk hexact hp
  · rintro ⟨p, hp, rfl⟩
    exact hgroups'.exists_figure hgroups hperm.symm hk (hexact.perm (hperm.map _)) hp

end

/-! ## Labels -/

/-- Rows of one id have one label: the same code, name and account number. -/
def LabelsAgree (rows : List Row) (c : Category) : Prop :=
  ∀ r ∈ rows, ∀ r' ∈ rows, (r.label? c).map Label.id = (r'.label? c).map Label.id →
    r.label? c = r'.label? c

instance (rows : List Row) (c : Category) : Decidable (LabelsAgree rows c) :=
  inferInstanceAs (Decidable (∀ r ∈ rows, ∀ r' ∈ rows, _ → _))

/-- The same entry but for the scale of its amount. -/
structure Entry.SameButScale (a b : Entry) : Prop where
  id            : a.id = b.id
  code          : a.code = b.code
  category      : a.category = b.category
  name          : a.name = b.name
  amount        : a.amount.map Amount.value = b.amount.map Amount.value
  accountNumber : a.accountNumber = b.accountNumber

/-- If the rows agree on labels, an entry in one order and the entry with its figure in another are
the same but for the scale. -/
theorem sameButScale_groupEntries_perm {rows rows' : List Row} {f : Filters} {c : Category}
    (hperm : rows.Perm rows') (hlabels : LabelsAgree rows c) {es es' : List Entry}
    (hes : groupEntries rows f c = .ok es) (hes' : groupEntries rows' f c = .ok es')
    {x y : Entry} (hx : x ∈ es) (hy : y ∈ es') (hfigure : x.figure = y.figure) :
    x.SameButScale y := by
  obtain ⟨r, hr, label, hlabel, hxid, hxcode, hxname, hxnumber⟩ :=
    exists_row_of_mem_groupEntries hes hx
  obtain ⟨r', hr', label', hlabel', hyid, hycode, hyname, hynumber⟩ :=
    exists_row_of_mem_groupEntries hes' hy
  obtain ⟨hid, hamount⟩ := Prod.mk.inj hfigure
  -- the rows that both are labelled by are of one id
  have hsame : label = label' := by
    have hrows := hlabels r hr r' (hperm.mem_iff.mpr hr')
    rw [hlabel, hlabel', Option.map_some, Option.map_some, ← hxid, ← hyid] at hrows
    exact Option.some.inj (hrows hid)
  exact {
    id            := hid
    code          := by rw [hxcode, hycode, hsame]
    category      := by rw [(mem_groupEntries hes hx).2.2, (mem_groupEntries hes' hy).2.2]
    name          := by rw [hxname, hyname, hsame]
    amount        := hamount
    accountNumber := by rw [hxnumber, hynumber, hsame] }

end Obligations
