import Mathlib.Data.List.Nodup
import Obligations.Proofs.Grouping.Totals

/-!
# Obligations — the groups behind a result

A grouping is what it would be if the rows of each entity were picked out and added up on
their own. The rows of an entity are said without the grouping (`groupRows`); that subtotals
are their sums is an invariant of adding rows one by one, and a row that cannot be added is
one at which the sum of its own group fails.

* `groupRows`, `groupAmounts` — the counted rows of an entity, and what they add;
* `Subtotal.IsOf`, `Groups` — the invariant: one subtotal for each id, labelled by the first
  row of its group, with the sum of the group from left to right;
* `Groups.addRow`, `Groups.foldlM` — one row, and a list of rows;
* `groupEntries_isOk_iff` — a grouping exists just in case the sum of every group does;
* `ids_nodup_groupEntries`, `exists_row_of_mem_groupEntries` — no two entries have one id, and
  every entry is labelled as one of the rows.
-/

namespace Obligations

/-! ## Sums that go on -/

theorem sumAmounts_concat {as : List Amount} {t : Amount} (h : sumAmounts as = .ok (some t))
    (a : Amount) : sumAmounts (as ++ [a]) = (t.add a).map some := by
  cases as with
  | nil => exact nomatch h
  | cons b bs =>
    obtain ⟨t', ht', hsome⟩ := map_eq_ok.mp h
    injection hsome with hsome
    subst hsome
    show Except.map some ((bs ++ [a]).foldlM Amount.add b) = _
    rw [List.foldlM_append, ht']
    show Except.map some ([a].foldlM Amount.add t') = _
    rw [List.foldlM_cons]
    cases t'.add a <;> rfl

/-- A sum that failed has failed, whatever was still to be added. -/
theorem sumAmounts_append_of_error {as : List Amount} {e : Failure}
    (h : sumAmounts as = .error e) (bs : List Amount) : sumAmounts (as ++ bs) = .error e := by
  cases as with
  | nil => simp [sumAmounts] at h
  | cons a as =>
    cases hrun : as.foldlM Amount.add a with
    | ok t => simp [sumAmounts, hrun, Functor.map, Except.map] at h
    | error e' =>
      rw [sumAmounts, hrun] at h
      show Except.map some ((as ++ bs).foldlM Amount.add a) = _
      rw [List.foldlM_append, hrun]
      exact h

/-! ## The rows of an entity -/

/-- The counted rows whose entity has this id. -/
def groupRows (rows : List Row) (f : Filters) (c : Category) (id : String) : List Row :=
  rows.filter fun r => f.admits r && (r.label? c).any (·.id == id)

def groupAmounts (rows : List Row) (f : Filters) (c : Category) (id : String) : List Amount :=
  (groupRows rows f c id).map Row.amount

section

variable {f : Filters} {c : Category} {r : Row} {label : Label}

theorem groupRows_append (rows rows' : List Row) (id : String) :
    groupRows (rows ++ rows') f c id = groupRows rows f c id ++ groupRows rows' f c id :=
  List.filter_append ..

theorem groupAmounts_append (rows rows' : List Row) (id : String) :
    groupAmounts (rows ++ rows') f c id =
      groupAmounts rows f c id ++ groupAmounts rows' f c id := by
  rw [groupAmounts, groupRows_append, List.map_append]
  rfl

theorem groupRows_of_not_counted (h : ¬ (f.admits r && (r.label? c).isSome) = true)
    (id : String) : groupRows [r] f c id = [] := by
  unfold groupRows
  rw [List.filter_eq_nil_iff]
  intro x hx hgroup
  rw [List.mem_singleton] at hx
  subst hx
  -- a row of a group is admitted and has a label
  rw [Bool.and_eq_true] at hgroup
  obtain ⟨hadmits, hany⟩ := hgroup
  cases hlabel : x.label? c with
  | none => simp [hlabel] at hany
  | some label => simp [hadmits, hlabel] at h

theorem groupRows_of_counted (hadmits : f.admits r = true) (hlabel : r.label? c = some label)
    (id : String) : groupRows [r] f c id = if label.id = id then [r] else [] := by
  simp [groupRows, List.filter_cons, hadmits, hlabel]

/-- A group consists of the rows that pass the filters and have its id. -/
theorem mem_groupRows {rows : List Row} {id : String} :
    r ∈ groupRows rows f c id ↔
      r ∈ rows ∧ f.admits r = true ∧ ∃ label, r.label? c = some label ∧ label.id = id := by
  simp [groupRows, Option.any_eq_true]

/-! ## One amount -/

/-- An amount under an id that has no subtotal yet starts one, behind all others. -/
theorem addAmount_of_new {amount : Amount} :
    ∀ parts : List Subtotal, (∀ p ∈ parts, p.label.id ≠ label.id) →
      addAmount label amount parts = .ok (parts ++ [⟨label, amount⟩]) := by
  intro parts
  -- the list is gone through to its end, past all that are of other ids
  induction parts with
  | nil => exact fun _ => rfl
  | cons p ps ih =>
    intro hnew
    have hrest := ih fun x hx => hnew x (List.mem_cons_of_mem p hx)
    rw [addAmount, if_neg (hnew p List.mem_cons_self), hrest]
    rfl

/-- An amount under an id that has a subtotal is added to it; the others stay as they are, and where
the addition fails nothing is returned. -/
theorem addAmount_of_known {amount : Amount} {p : Subtotal} {after : List Subtotal}
    (hp : p.label.id = label.id) :
    ∀ before : List Subtotal, (∀ x ∈ before, x.label.id ≠ label.id) →
      addAmount label amount (before ++ p :: after) =
        (p.total.add amount).map fun total => before ++ { p with total } :: after := by
  intro before
  -- by induction on the subtotals that are passed over before the one of this id
  induction before with
  | nil =>
    intro _
    rw [List.nil_append, addAmount, if_pos hp]
    cases p.total.add amount <;> rfl
  | cons x xs ih =>
    intro hother
    have hrest := ih fun y hy => hother y (List.mem_cons_of_mem x hy)
    rw [List.cons_append, addAmount, if_neg (hother x List.mem_cons_self), hrest]
    -- the subtotal in front is put back, whether the addition fails or not
    cases p.total.add amount <;> rfl

/-! ## The invariant -/

/-- The subtotal is that of its group: labelled by the first row, with the sum of all from left
to right. -/
structure Subtotal.IsOf (p : Subtotal) (rows : List Row) (f : Filters) (c : Category) : Prop where
  label_eq : (groupRows rows f c p.label.id).head?.bind (·.label? c) = some p.label
  total_eq : sumAmounts (groupAmounts rows f c p.label.id) = .ok (some p.total)

/-- The subtotals are the groups of the rows, one for each id that occurs. -/
structure Groups (parts : List Subtotal) (rows : List Row) (f : Filters) (c : Category) :
    Prop where
  ids_nodup : (parts.map fun p => p.label.id).Nodup
  sums      : ∀ p ∈ parts, p.IsOf rows f c
  complete  : ∀ id, groupRows rows f c id ≠ [] → ∃ p ∈ parts, p.label.id = id

theorem groups_nil (f : Filters) (c : Category) : Groups [] [] f c :=
  ⟨List.nodup_nil, by simp, fun _ h => absurd rfl h⟩

variable {parts : List Subtotal} {seen : List Row} {p : Subtotal}

/-- A subtotal depends on the rows of its group only. -/
theorem Subtotal.IsOf.congr {rows rows' : List Row} (h : p.IsOf rows f c)
    (hsame : groupRows rows' f c p.label.id = groupRows rows f c p.label.id) :
    p.IsOf rows' f c :=
  ⟨by rw [hsame]; exact h.label_eq, by rw [groupAmounts, hsame]; exact h.total_eq⟩

/-- A row that adds nothing to any group changes nothing. -/
theorem Groups.of_not_counted (h : Groups parts seen f c)
    (hr : ¬ (f.admits r && (r.label? c).isSome) = true) : Groups parts (seen ++ [r]) f c := by
  have hsame (id : String) : groupRows (seen ++ [r]) f c id = groupRows seen f c id := by
    rw [groupRows_append, groupRows_of_not_counted hr, List.append_nil]
  exact {
    ids_nodup := h.ids_nodup
    sums      := fun p hp => (h.sums p hp).congr (hsame _)
    complete  := fun id hid => h.complete id (hsame id ▸ hid) }

section

variable (hadmits : f.admits r = true) (hlabel : r.label? c = some label)

include hadmits hlabel

theorem groupRows_concat_of_ne {id : String} (hid : label.id ≠ id) :
    groupRows (seen ++ [r]) f c id = groupRows seen f c id := by
  rw [groupRows_append, groupRows_of_counted hadmits hlabel, if_neg hid, List.append_nil]

theorem groupRows_concat {id : String} (hid : label.id = id) :
    groupRows (seen ++ [r]) f c id = groupRows seen f c id ++ [r] := by
  rw [groupRows_append, groupRows_of_counted hadmits hlabel, if_pos hid]

/-- With the next row, the sum of the group is that of the subtotal and its amount. -/
theorem Subtotal.IsOf.sum_concat (h : p.IsOf seen f c) (hid : label.id = p.label.id) :
    sumAmounts (groupAmounts (seen ++ [r]) f c p.label.id) = (p.total.add r.amount).map some := by
  rw [groupAmounts, groupRows_concat hadmits hlabel hid, List.map_append]
  exact sumAmounts_concat h.total_eq r.amount

/-- The next row of an entity goes on with its sum and leaves its label. -/
theorem Subtotal.IsOf.goOn (h : p.IsOf seen f c) (hid : label.id = p.label.id) {total : Amount}
    (htotal : p.total.add r.amount = .ok total) :
    { p with total }.IsOf (seen ++ [r]) f c := by
  refine ⟨?_, ?_⟩
  · -- there is a first row already, since there is a subtotal
    obtain ⟨first, hfirst, hlabelled⟩ := Option.bind_eq_some_iff.mp h.label_eq
    show (groupRows (seen ++ [r]) f c p.label.id).head?.bind _ = _
    rw [groupRows_concat hadmits hlabel hid, List.head?_append, hfirst]
    exact hlabelled
  · have hsum := h.sum_concat hadmits hlabel hid
    rw [htotal] at hsum
    exact hsum

/-- The first row of an entity starts its group. -/
theorem Groups.of_new (h : Groups parts seen f c) (hnew : ∀ p ∈ parts, p.label.id ≠ label.id) :
    Groups (parts ++ [⟨label, r.amount⟩]) (seen ++ [r]) f c := by
  -- no row of the entity was seen before, or there would be a subtotal
  have hunseen : groupRows seen f c label.id = [] := by
    by_contra hne
    obtain ⟨p, hp, hid⟩ := h.complete label.id hne
    exact hnew p hp hid
  have hown : groupRows (seen ++ [r]) f c label.id = [r] := by
    rw [groupRows_concat hadmits hlabel rfl, hunseen, List.nil_append]
  refine ⟨?_, fun p hp => ?_, fun id hid => ?_⟩
  · rw [List.map_append, List.nodup_append]
    refine ⟨h.ids_nodup, List.nodup_singleton _, ?_⟩
    intro id hid id' hid'
    obtain ⟨p, hp, rfl⟩ := List.mem_map.mp hid
    rw [List.map_singleton, List.mem_singleton] at hid'
    exact hid' ▸ hnew p hp
  · rcases List.mem_append.mp hp with hp | hp
    · exact (h.sums p hp).congr (groupRows_concat_of_ne hadmits hlabel (hnew p hp).symm)
    · rw [List.mem_singleton] at hp
      subst hp
      exact ⟨by rw [hown]; exact hlabel, by rw [groupAmounts, hown]; rfl⟩
  · -- the group of the new id has a subtotal now, and the others had theirs
    by_cases hsame : label.id = id
    · exact ⟨_, List.mem_append_right _ (List.mem_singleton_self _), hsame⟩
    · rw [groupRows_concat_of_ne hadmits hlabel hsame] at hid
      obtain ⟨p, hp, hpid⟩ := h.complete id hid
      exact ⟨p, List.mem_append_left _ hp, hpid⟩

/-- The next row of an entity changes one subtotal and no other. -/
theorem Groups.of_known {before after : List Subtotal} (h : Groups (before ++ p :: after) seen f c)
    (hid : label.id = p.label.id) {total : Amount} (htotal : p.total.add r.amount = .ok total) :
    Groups (before ++ { p with total } :: after) (seen ++ [r]) f c := by
  -- the ids are those from before, so the other subtotals are of other ids
  have hids := h.ids_nodup
  rw [List.map_append, List.map_cons] at hids
  have hdistinct : ∀ x ∈ before ++ after, label.id ≠ x.label.id := by
    intro x hx hxid
    rw [List.nodup_middle, List.nodup_cons, ← List.map_append] at hids
    exact hids.1 (hid ▸ hxid ▸ List.mem_map_of_mem hx)
  have hother (x : Subtotal) (hx : x ∈ before ++ after) : x.IsOf (seen ++ [r]) f c := by
    refine (h.sums x ?_).congr (groupRows_concat_of_ne hadmits hlabel (hdistinct x hx))
    rw [List.mem_append] at hx ⊢
    exact hx.imp_right (List.mem_cons_of_mem p)
  refine ⟨?_, fun x hx => ?_, fun id hid' => ?_⟩
  · rw [List.map_append, List.map_cons]
    exact hids
  · rw [List.mem_append, List.mem_cons] at hx
    rcases hx with hx | rfl | hx
    · exact hother x (List.mem_append_left after hx)
    · exact (h.sums p (by simp)).goOn hadmits hlabel hid htotal
    · exact hother x (List.mem_append_right before hx)
  · by_cases hsame : label.id = id
    · exact ⟨{ p with total }, by simp, hid.symm.trans hsame⟩
    · rw [groupRows_concat_of_ne hadmits hlabel hsame] at hid'
      obtain ⟨x, hx, rfl⟩ := h.complete id hid'
      -- the subtotal of another id is not the one that was changed
      have hne : x ≠ p := fun hxp => hsame (hxp ▸ hid)
      refine ⟨x, ?_, rfl⟩
      rw [List.mem_append, List.mem_cons] at hx ⊢
      exact hx.imp_right fun hx => Or.inr (hx.resolve_left hne)

end

/-- A row is added to its group, or the sum of this group fails as the addition does. -/
theorem Groups.addRow (h : Groups parts seen f c) (r : Row) :
    (∃ parts', Obligations.addRow f c parts r = .ok parts' ∧ Groups parts' (seen ++ [r]) f c) ∨
    (∃ e id, Obligations.addRow f c parts r = .error e ∧
      sumAmounts (groupAmounts (seen ++ [r]) f c id) = .error e) := by
  by_cases hr : (f.admits r && (r.label? c).isSome) = true
  · -- either the entity has a subtotal or its group begins here
    obtain ⟨label, hlabel, hadd⟩ := addRow_of_counted hr
    have hadmits : f.admits r = true := (Bool.and_eq_true _ _ ▸ hr).1
    rw [hadd]
    by_cases hknown : ∃ p ∈ parts, p.label.id = label.id
    · obtain ⟨p, hp, hid⟩ := hknown
      obtain ⟨before, after, rfl⟩ := List.append_of_mem hp
      -- ids are distinct, so no subtotal before this one takes the amount
      have hbefore : ∀ x ∈ before, x.label.id ≠ label.id := by
        intro x hx hxid
        have hids := h.ids_nodup
        rw [List.map_append, List.nodup_append] at hids
        exact hids.2.2 _ (List.mem_map_of_mem hx) _
          (List.mem_map_of_mem List.mem_cons_self) (hxid.trans hid.symm)
      rw [addAmount_of_known hid before hbefore]
      cases htotal : p.total.add r.amount with
      | error e =>
        -- the sum of the group is this addition, after the rows seen before
        have hsum := (h.sums p hp).sum_concat hadmits hlabel hid.symm
        rw [htotal] at hsum
        exact Or.inr ⟨e, p.label.id, rfl, hsum⟩
      | ok total => exact Or.inl ⟨_, rfl, h.of_known hadmits hlabel hid.symm htotal⟩
    · have hnew : ∀ p ∈ parts, p.label.id ≠ label.id := fun p hp hid => hknown ⟨p, hp, hid⟩
      exact Or.inl ⟨_, addAmount_of_new parts hnew, h.of_new hadmits hlabel hnew⟩
  · exact Or.inl ⟨parts, addRow_of_not_counted hr parts, h.of_not_counted hr⟩

/-- Adding rows one by one makes the groups of all, or fails as the sum of one of their groups
does. -/
theorem Groups.foldlM :
    ∀ (rows : List Row) {parts : List Subtotal} {seen : List Row}, Groups parts seen f c →
      (∃ parts', rows.foldlM (Obligations.addRow f c) parts = .ok parts' ∧
        Groups parts' (seen ++ rows) f c) ∨
      (∃ e id, rows.foldlM (Obligations.addRow f c) parts = .error e ∧
        sumAmounts (groupAmounts (seen ++ rows) f c id) = .error e) := by
  -- by induction on the rows, for whatever was seen before them
  intro rows
  induction rows with
  | nil =>
    intro parts seen h
    exact Or.inl ⟨parts, rfl, (List.append_nil seen).symm ▸ h⟩
  | cons r rows ih =>
    intro parts seen h
    rw [List.append_cons, List.foldlM_cons]
    rcases h.addRow r with ⟨next, hnext, hgroups⟩ | ⟨e, id, hfail, hsum⟩
    · rw [hnext]
      exact ih hgroups
    · -- the sum that fails here is a prefix of that of the whole group
      refine Or.inr ⟨e, id, by rw [hfail]; rfl, ?_⟩
      rw [groupAmounts_append]
      exact sumAmounts_append_of_error hsum _

end

/-! ## The result -/

section

variable {rows : List Row} {f : Filters} {c : Category} {es : List Entry}

/-- The subtotals of rows are their groups. -/
theorem groups_of_subtotals {parts : List Subtotal} (h : subtotals rows f c = .ok parts) :
    Groups parts rows f c := by
  -- from no rows at all
  rcases (groups_nil f c).foldlM rows with ⟨parts', hok, hgroups⟩ | ⟨e, _, hfail, -⟩
  · rw [subtotals, hok] at h
    injection h with h
    exact h ▸ hgroups
  · rw [subtotals, hfail] at h
    contradiction

/-- A result ranks the groups of its rows. -/
theorem groups_of_groupEntries (h : groupEntries rows f c = .ok es) :
    ∃ parts, Groups parts rows f c ∧ rank (parts.map (Subtotal.entry c)) = es := by
  obtain ⟨parts, hparts, hes⟩ := groupEntries_eq_ok.mp h
  exact ⟨parts, groups_of_subtotals hparts, hes⟩

/-- A subtotal is labelled by a row that passes the filters. -/
theorem Groups.exists_row {parts : List Subtotal} (h : Groups parts rows f c) {p : Subtotal}
    (hp : p ∈ parts) : ∃ r ∈ rows, f.admits r = true ∧ r.label? c = some p.label := by
  -- it is the first row of the group
  obtain ⟨r, hfirst, hlabel⟩ := Option.bind_eq_some_iff.mp (h.sums p hp).label_eq
  obtain ⟨hr, hadmits, -⟩ := mem_groupRows.mp (List.mem_of_head? hfirst)
  exact ⟨r, hr, hadmits, hlabel⟩

/-- An entry has the id of its subtotal. -/
theorem Groups.entry_ids_nodup {parts : List Subtotal} (h : Groups parts rows f c) :
    ((parts.map (Subtotal.entry c)).map Entry.id).Nodup := by
  have hids := h.ids_nodup.map (Option.some_injective _)
  rw [List.map_map] at hids ⊢
  exact hids

/-- The sum of a group exists: it is a subtotal, or there is nothing to add. -/
theorem Groups.exists_sum {parts : List Subtotal} (h : Groups parts rows f c) (id : String) :
    ∃ total, sumAmounts (groupAmounts rows f c id) = .ok total := by
  by_cases hnone : groupRows rows f c id = []
  · exact ⟨none, by rw [groupAmounts, hnone]; rfl⟩
  · obtain ⟨p, hp, rfl⟩ := h.complete id hnone
    exact ⟨some p.total, (h.sums p hp).total_eq⟩

/-- A grouping exists if and only if every group has a sum. -/
theorem groupEntries_isOk_iff :
    (∃ es, groupEntries rows f c = .ok es) ↔
      ∀ id, ∃ total, sumAmounts (groupAmounts rows f c id) = .ok total := by
  constructor
  · rintro ⟨es, hes⟩ id
    obtain ⟨parts, hgroups, -⟩ := groups_of_groupEntries hes
    exact hgroups.exists_sum id
  · intro hsums
    rcases (groups_nil f c).foldlM rows with ⟨parts, hok, -⟩ | ⟨e, id, -, hsum⟩
    · exact ⟨_, groupEntries_eq_ok.mpr ⟨parts, hok, rfl⟩⟩
    · obtain ⟨total, htotal⟩ := hsums id
      rw [List.nil_append, htotal] at hsum
      exact nomatch hsum

theorem ids_nodup_groupEntries (h : groupEntries rows f c = .ok es) :
    (es.map Entry.id).Nodup := by
  obtain ⟨parts, hgroups, rfl⟩ := groups_of_groupEntries h
  rw [((rank_perm _).map Entry.id).nodup_iff]
  exact hgroups.entry_ids_nodup

/-- An entry shows the label of one of the rows. -/
theorem exists_row_of_mem_groupEntries (h : groupEntries rows f c = .ok es) {x : Entry}
    (hx : x ∈ es) :
    ∃ r ∈ rows, ∃ label, r.label? c = some label ∧ x.id = some label.id ∧ x.code = label.code ∧
      x.name = label.name ∧ x.accountNumber = label.accountNumber := by
  obtain ⟨parts, hgroups, rfl⟩ := groups_of_groupEntries h
  obtain ⟨p, hp, rfl⟩ := List.mem_map.mp ((rank_perm _).mem_iff.mp hx)
  obtain ⟨r, hr, -, hlabel⟩ := hgroups.exists_row hp
  exact ⟨r, hr, p.label, hlabel, rfl, rfl, rfl, rfl⟩

end

end Obligations
