import Obligations.Grouping
import Obligations.Proofs.Amount.Exact
import Obligations.Proofs.Outcome
import Obligations.Proofs.Ranking.Order

/-!
# Obligations — what a grouping adds up to

Grouping spreads the amounts of some rows over subtotals. Which rows these are is said
without the grouping (`countedRows`), and that their amounts all arrive is an invariant of
adding rows one by one.

* `countedRows` — the rows that pass the filters and have an entity of the category;
* `Carries` — the invariant: subtotals add up to the amounts seen so far, and are no larger;
* `carries_addAmount`, `carries_foldlM` — one amount, and a list of rows;
* `groupEntries_exact` — in the exact range a grouping exists and loses nothing;
* `exact_grouped_append` — what is in the exact range with the rows is so with the grouping;
* `sumValues_groupEntries` — the grouping adds up to the same number as the rows it counts;
* `groupEntries_eq_nil_iff`, `sumEntries_eq_none_iff` — a grouping is empty, and has no sum,
  only if there is nothing to count;
* `value_of_sumEntries` — in the exact range its sum is the number of the rows it counts.
-/

namespace Obligations

/-- The rows that a grouping counts: they pass the filters and have an entity. -/
def countedRows (rows : List Row) (f : Filters) (c : Category) : List Row :=
  rows.filter fun r => f.admits r && (r.label? c).isSome

theorem countedRows_sublist (rows : List Row) (f : Filters) (c : Category) :
    (countedRows rows f c).Sublist rows :=
  List.filter_sublist

/-- Where all rows that pass the filters have an entity, these are the rows that are counted,
whichever category it is. -/
theorem countedRows_eq_filter {rows : List Row} {f : Filters} {c : Category}
    (h : ∀ r ∈ rows, f.admits r = true → (r.label? c).isSome = true) :
    countedRows rows f c = rows.filter f.admits := by
  refine List.filter_congr fun r hr => ?_
  -- a row that does not pass the filters is out on both sides
  cases hadmits : f.admits r with
  | false => rfl
  | true => rw [h r hr hadmits, Bool.and_true]

/-- Filters count in a grouping by the rows that they admit. -/
theorem groupEntries_congr {f g : Filters} (h : ∀ r, f.admits r = g.admits r) (rows : List Row)
    (c : Category) : groupEntries rows f c = groupEntries rows g c := by
  -- a row is asked nothing else of the filters
  have hrow : addRow f c = addRow g c := by
    funext parts r
    rw [addRow, h r, addRow]
  rw [groupEntries, subtotals, hrow, groupEntries, subtotals]

/-! ## One amount -/

/-- The subtotals hold the amounts `as`: together they are the same number, and no step
towards it was larger than the amounts themselves. -/
structure Carries (s : Nat) (parts : List Subtotal) (as : List Amount) : Prop where
  scale_le  : ∀ p ∈ parts, p.total.scale ≤ s
  weight_le : weight s (parts.map Subtotal.total) ≤ weight s as
  sum_eq    : sumUnits s (parts.map Subtotal.total) = sumUnits s as

theorem carries_nil (s : Nat) : Carries s [] [] :=
  ⟨fun _ h => absurd h List.not_mem_nil, Nat.le_refl _, rfl⟩

/-- Adding an amount to subtotals that leave room for it. -/
theorem addAmount_exact {s : Nat} {label : Label} {amount : Amount} (hamount : amount.scale ≤ s) :
    ∀ parts : List Subtotal, (∀ p ∈ parts, p.total.scale ≤ s) →
      weight s (parts.map Subtotal.total) + (amount.unitsAt s).natAbs < Amount.limit →
      ∃ parts', addAmount label amount parts = .ok parts' ∧
        (∀ p ∈ parts', p.total.scale ≤ s) ∧
        weight s (parts'.map Subtotal.total) ≤
          weight s (parts.map Subtotal.total) + (amount.unitsAt s).natAbs ∧
        sumUnits s (parts'.map Subtotal.total) =
          sumUnits s (parts.map Subtotal.total) + amount.unitsAt s := by
  intro parts
  induction parts with
  | nil =>
    intro _ _
    exact ⟨[⟨label, amount⟩], rfl, by simpa using hamount, by simp, by simp⟩
  | cons p ps ih =>
    intro hscale hroom
    rw [List.map_cons, weight_cons] at hroom
    have hp := hscale p List.mem_cons_self
    have hps : ∀ x ∈ ps, x.total.scale ≤ s := fun x hx => hscale x (List.mem_cons_of_mem p hx)
    by_cases hid : p.label.id = label.id
    -- the subtotal of the entity takes the amount in, and gains no more weight than that
    · obtain ⟨t, ht, hts, htu⟩ := p.total.add_exact hp hamount (by omega)
      refine ⟨{ p with total := t } :: ps, ?_, ?_, ?_, ?_⟩
      · rw [addAmount, if_pos hid, ht]
        rfl
      · intro x hx
        rcases List.mem_cons.mp hx with rfl | hx
        · exact hts
        · exact hps x hx
      · simp only [List.map_cons, weight_cons, htu]
        omega
      · simp only [List.map_cons, sumUnits_cons, htu]
        omega
    -- the subtotal of another entity stays, and leaves the rest its room
    · obtain ⟨parts', hok, hs', hw', hu'⟩ := ih hps (by omega)
      refine ⟨p :: parts', ?_, ?_, ?_, ?_⟩
      · rw [addAmount, if_neg hid, hok]
        rfl
      · intro x hx
        rcases List.mem_cons.mp hx with rfl | hx
        · exact hp
        · exact hs' x hx
      · simp only [List.map_cons, weight_cons]
        omega
      · simp only [List.map_cons, sumUnits_cons]
        omega

/-- One amount more is carried as long as all of them are in the exact range. -/
theorem carries_addAmount {s : Nat} {parts : List Subtotal} {as : List Amount} (label : Label)
    {amount : Amount} (h : Carries s parts as) (hfit : Exact s (as ++ [amount])) :
    ∃ parts', addAmount label amount parts = .ok parts' ∧ Carries s parts' (as ++ [amount]) := by
  have hamount : amount.scale ≤ s := hfit.scale_le amount (by simp)
  -- the subtotals weigh no more than the amounts they hold, so there is room
  have hroom := hfit.weight_lt
  have hle := h.weight_le
  rw [weight_append, weight_cons, weight_nil] at hroom
  obtain ⟨parts', hok, hs', hw', hu'⟩ := addAmount_exact hamount parts h.scale_le (by omega)
  refine ⟨parts', hok, hs', ?_, ?_⟩
  · rw [weight_append, weight_cons, weight_nil]
    omega
  · rw [hu', h.sum_eq, sumUnits_append, sumUnits_cons, sumUnits_nil, Int.add_zero]

/-! ## All rows -/

theorem countedRows_cons (r : Row) (rows : List Row) (f : Filters) (c : Category) :
    countedRows (r :: rows) f c =
      (if f.admits r && (r.label? c).isSome then [r] else []) ++ countedRows rows f c := by
  rw [countedRows, List.filter_cons]
  split <;> rfl

/-- A row that is not counted leaves the subtotals alone. -/
theorem addRow_of_not_counted {f : Filters} {c : Category} {r : Row}
    (h : ¬ (f.admits r && (r.label? c).isSome) = true) (parts : List Subtotal) :
    addRow f c parts r = .ok parts := by
  unfold addRow
  -- it does not pass the filters, or it has no entity
  by_cases hf : f.admits r = true
  · cases hl : r.label? c with
    | none => simp [hf]
    | some label => simp [hf, hl] at h
  · rw [if_neg hf]

theorem addRow_of_counted {f : Filters} {c : Category} {r : Row}
    (h : (f.admits r && (r.label? c).isSome) = true) :
    ∃ label, r.label? c = some label ∧
      ∀ parts, addRow f c parts r = addAmount label r.amount parts := by
  rw [Bool.and_eq_true, Option.isSome_iff_exists] at h
  obtain ⟨hf, label, hl⟩ := h
  exact ⟨label, hl, fun parts => by rw [addRow, if_pos hf, hl]⟩

/-- Rows whose amounts are in the exact range, with those before them, are all added and carried. -/
theorem carries_foldlM {s : Nat} {f : Filters} {c : Category} :
    ∀ (rows : List Row) (parts : List Subtotal) (as : List Amount), Carries s parts as →
      Exact s (as ++ (countedRows rows f c).map Row.amount) →
      ∃ parts', rows.foldlM (addRow f c) parts = .ok parts' ∧
        Carries s parts' (as ++ (countedRows rows f c).map Row.amount) := by
  -- by induction on the rows, for whatever was carried before them
  intro rows
  induction rows with
  | nil =>
    intro parts as h _
    exact ⟨parts, rfl, by simpa [countedRows] using h⟩
  | cons r rows ih =>
    intro parts as h hfit
    rw [countedRows_cons] at hfit ⊢
    rw [List.foldlM_cons]
    by_cases hr : (f.admits r && (r.label? c).isSome) = true
    · rw [if_pos hr, List.singleton_append, List.map_cons, List.append_cons] at hfit ⊢
      obtain ⟨label, -, hadd⟩ := addRow_of_counted hr
      -- the amounts up to this row are a prefix of all, so they are in range too
      have hone : Exact s (as ++ [r.amount]) := hfit.sublist (List.sublist_append_left _ _)
      obtain ⟨next, hnext, hcarries⟩ := carries_addAmount label h hone
      rw [hadd, hnext]
      exact ih next _ hcarries hfit
    · rw [if_neg hr, List.nil_append] at hfit ⊢
      rw [addRow_of_not_counted hr]
      exact ih parts as h hfit

/-! ## The result -/

/-- A grouping ranks the entries of its subtotals. -/
theorem groupEntries_eq_ok {rows : List Row} {f : Filters} {c : Category} {es : List Entry} :
    groupEntries rows f c = .ok es ↔
      ∃ parts, subtotals rows f c = .ok parts ∧ rank (parts.map (Subtotal.entry c)) = es := by
  unfold groupEntries
  rw [bind_eq_ok]
  simp only [pure, Except.pure, Except.ok.injEq]

/-- What every entry of a grouping has. -/
theorem mem_groupEntries {rows : List Row} {f : Filters} {c : Category} {es : List Entry}
    (h : groupEntries rows f c = .ok es) {e : Entry} (he : e ∈ es) :
    e.id.isSome = true ∧ e.amount.isSome = true ∧ e.category = c := by
  obtain ⟨parts, -, rfl⟩ := groupEntries_eq_ok.mp h
  -- ranking adds no entry, and every subtotal makes one with all three
  obtain ⟨p, -, rfl⟩ := List.mem_map.mp ((rank_perm _).mem_iff.mp he)
  exact ⟨rfl, rfl, rfl⟩

theorem ids_groupEntries {rows : List Row} {f : Filters} {c : Category} {es : List Entry}
    (h : groupEntries rows f c = .ok es) : ∀ e ∈ es, e.id.isSome = true :=
  fun _ he => (mem_groupEntries h he).1

theorem ranked_groupEntries {rows : List Row} {f : Filters} {c : Category} {es : List Entry}
    (h : groupEntries rows f c = .ok es) : Ranked es := by
  obtain ⟨parts, -, rfl⟩ := groupEntries_eq_ok.mp h
  exact ranked_rank _

/-- The amounts of a grouping are its subtotals in another order. -/
theorem amounts_rank_entries (c : Category) (parts : List Subtotal) :
    ((rank (parts.map (Subtotal.entry c))).filterMap Entry.amount).Perm
      (parts.map Subtotal.total) := by
  have hamounts : (parts.map (Subtotal.entry c)).filterMap Entry.amount =
      parts.map Subtotal.total := by
    rw [List.filterMap_map, ← List.filterMap_eq_map]
    rfl
  rw [← hamounts]
  exact (rank_perm _).filterMap _

/-- In the exact range a grouping exists. Its amounts add up to those of the counted rows
and stay in the exact range themselves. -/
theorem groupEntries_exact {s : Nat} {rows : List Row} {f : Filters} {c : Category}
    (h : Exact s ((countedRows rows f c).map Row.amount)) :
    ∃ es, groupEntries rows f c = .ok es ∧
      Exact s (es.filterMap Entry.amount) ∧
      weight s (es.filterMap Entry.amount) ≤ weight s ((countedRows rows f c).map Row.amount) ∧
      sumUnits s (es.filterMap Entry.amount) =
        sumUnits s ((countedRows rows f c).map Row.amount) := by
  obtain ⟨parts, hparts, hcarries⟩ := carries_foldlM rows [] [] (carries_nil s) h
  rw [List.nil_append] at hcarries
  -- neither weights nor sums look at the order, so ranking may be left out
  have hperm := amounts_rank_entries c parts
  refine ⟨_, groupEntries_eq_ok.mpr ⟨parts, hparts, rfl⟩, ⟨?_, ?_⟩, ?_, ?_⟩
  · intro a ha
    obtain ⟨p, hp, rfl⟩ := List.mem_map.mp (hperm.mem_iff.mp ha)
    exact hcarries.scale_le p hp
  · rw [weight_perm s hperm]
    exact Nat.lt_of_le_of_lt hcarries.weight_le h.weight_lt
  · rw [weight_perm s hperm]
    exact hcarries.weight_le
  · rw [sumUnits_perm s hperm]
    exact hcarries.sum_eq

/-- Rows in the exact range can be grouped along any category. -/
theorem groupEntries_of_exact {s : Nat} {rows : List Row} (f : Filters) (c : Category)
    (h : Exact s (rows.map Row.amount)) : ∃ es, groupEntries rows f c = .ok es := by
  obtain ⟨es, hes, -⟩ := groupEntries_exact (h.sublist ((countedRows_sublist rows f c).map _))
  exact ⟨es, hes⟩

/-- The amounts of a grouping leave as much room for others as those of its rows. -/
theorem exact_grouped_append {s : Nat} {rows : List Row} {f : Filters} {c : Category}
    {es : List Entry} {others : List Amount} (h : Exact s (rows.map Row.amount ++ others))
    (hes : groupEntries rows f c = .ok es) : Exact s (es.filterMap Entry.amount ++ others) := by
  have hsub := (countedRows_sublist rows f c).map Row.amount
  have hrows := h.sublist (List.sublist_append_left _ others)
  -- in the exact range a grouping exists, and it is the one at hand
  obtain ⟨es', hes', hexact, hweight, -⟩ := groupEntries_exact (hrows.sublist hsub)
  rw [hes] at hes'
  injection hes' with hes'
  subst hes'
  refine ⟨fun a ha => ?_, ?_⟩
  · rcases List.mem_append.mp ha with ha | ha
    · exact hexact.scale_le a ha
    · exact h.scale_le a (List.mem_append_right _ ha)
  · have hroom := h.weight_lt
    have hcounted := weight_sublist s hsub
    rw [weight_append] at hroom ⊢
    omega

/-- The amounts of a grouping are in the exact range if those of its rows are. -/
theorem exact_grouped {s : Nat} {rows : List Row} {f : Filters} {c : Category}
    {es : List Entry} (h : Exact s (rows.map Row.amount)) (hes : groupEntries rows f c = .ok es) :
    Exact s (es.filterMap Entry.amount) := by
  -- with nothing beside it
  rw [← List.append_nil (rows.map Row.amount)] at h
  exact List.append_nil (es.filterMap Entry.amount) ▸ exact_grouped_append h hes

/-- In the exact range a grouping adds up to the rows it counts. -/
theorem sumValues_of_counted {s : Nat} (hs : s ≤ Amount.maxScale) {rows : List Row}
    {f : Filters} {c : Category} {es : List Entry}
    (h : Exact s ((countedRows rows f c).map Row.amount)) (hes : groupEntries rows f c = .ok es) :
    sumValues (es.filterMap Entry.amount) = sumValues ((countedRows rows f c).map Row.amount) := by
  obtain ⟨es', hes', hexact, -, hunits⟩ := groupEntries_exact h
  rw [hes] at hes'
  injection hes' with hes'
  subst hes'
  rw [sumValues_eq hs hexact.scale_le, sumValues_eq hs h.scale_le, hunits]

/-- If all rows are in the exact range, so are those that are counted. -/
theorem sumValues_groupEntries {s : Nat} (hs : s ≤ Amount.maxScale) {rows : List Row}
    {f : Filters} {c : Category} {es : List Entry} (h : Exact s (rows.map Row.amount))
    (hes : groupEntries rows f c = .ok es) :
    sumValues (es.filterMap Entry.amount) = sumValues ((countedRows rows f c).map Row.amount) :=
  sumValues_of_counted hs (h.sublist ((countedRows_sublist rows f c).map Row.amount)) hes

/-! ## Emptiness -/

/-- Wherever an amount is added, there is a subtotal afterwards. -/
theorem addAmount_ne_nil {label : Label} {amount : Amount} {parts parts' : List Subtotal}
    (h : addAmount label amount parts = .ok parts') : parts' ≠ [] := by
  cases parts with
  | nil =>
    injection h with h
    simp [← h]
  | cons p ps =>
    rw [addAmount] at h
    split at h
    · obtain ⟨t, -, h⟩ := bind_eq_ok.mp h
      injection h with h
      simp [← h]
    · obtain ⟨t, -, h⟩ := bind_eq_ok.mp h
      injection h with h
      simp [← h]

/-- No subtotals come from rows just in case there were none before and no row is counted. -/
theorem foldlM_addRow_eq_nil_iff {f : Filters} {c : Category} :
    ∀ (rows : List Row) {parts parts' : List Subtotal},
      rows.foldlM (addRow f c) parts = .ok parts' →
      (parts' = [] ↔ parts = [] ∧ countedRows rows f c = []) := by
  intro rows
  -- by induction on the rows, for whatever subtotals there were before
  induction rows with
  | nil =>
    intro parts parts' h
    injection h with h
    simp [h, countedRows]
  | cons r rows ih =>
    intro parts parts' h
    rw [List.foldlM_cons] at h
    obtain ⟨next, hnext, h⟩ := bind_eq_ok.mp h
    rw [ih h, countedRows_cons]
    by_cases hr : (f.admits r && (r.label? c).isSome) = true
    -- a counted row leaves a subtotal behind, and no later row takes it away
    · obtain ⟨label, -, hadd⟩ := addRow_of_counted hr
      rw [hadd] at hnext
      simp [addAmount_ne_nil hnext, hr]
    · rw [addRow_of_not_counted hr] at hnext
      injection hnext with hnext
      rw [if_neg hr, hnext, List.nil_append]

/-- A grouping is empty just in case no row is counted. -/
theorem groupEntries_eq_nil_iff {rows : List Row} {f : Filters} {c : Category} {es : List Entry}
    (h : groupEntries rows f c = .ok es) : es = [] ↔ countedRows rows f c = [] := by
  obtain ⟨parts, hparts, rfl⟩ := groupEntries_eq_ok.mp h
  have hnil := foldlM_addRow_eq_nil_iff rows hparts
  have hlen : (rank (parts.map (Subtotal.entry c))).length = parts.length := by
    rw [(rank_perm _).length_eq, List.length_map]
  rw [← List.length_eq_zero_iff, hlen, List.length_eq_zero_iff, hnil]
  simp

/-- The entries of a grouping all have an amount, so only an empty one has no sum. -/
theorem sumEntries_eq_none_iff {rows : List Row} {f : Filters} {c : Category} {es : List Entry}
    (h : groupEntries rows f c = .ok es) {total : Option Amount}
    (htotal : sumEntries es = .ok total) : total = none ↔ countedRows rows f c = [] := by
  rw [sumAmounts_eq_none_iff htotal, List.filterMap_eq_nil_iff, ← groupEntries_eq_nil_iff h]
  constructor
  · -- any entry would have an amount, and here none has one
    intro hnone
    rw [List.eq_nil_iff_forall_not_mem]
    intro e he
    have hsome := (mem_groupEntries h he).2.1
    rw [hnone e he] at hsome
    contradiction
  · rintro rfl e he
    exact absurd he List.not_mem_nil

/-- In the exact range the sum of a grouping is the number of the rows it counts. -/
theorem value_of_sumEntries {s : Nat} (hs : s ≤ Amount.maxScale) {rows : List Row} {f : Filters}
    {c : Category} {es : List Entry} (h : Exact s (rows.map Row.amount))
    (hes : groupEntries rows f c = .ok es) {total : Option Amount}
    (htotal : sumEntries es = .ok total) :
    total.map Amount.value = totalValue? ((countedRows rows f c).map Row.amount) := by
  have hnone := sumEntries_eq_none_iff hes htotal
  rw [value_of_sumAmounts hs (exact_grouped h hes) htotal, totalValue?, totalValue?,
    sumValues_groupEntries hs h hes]
  -- both sides are there, or both are absent
  rw [sumAmounts_eq_none_iff htotal] at hnone
  simp only [hnone, List.map_eq_nil_iff]

/-! ## Failures -/

theorem onlyOverflows_add (a b : Amount) : OnlyOverflows (a.add b) := by
  intro e he
  unfold Amount.add at he
  split at he
  · contradiction
  · injection he with he
    exact ⟨.addition, he.symm⟩

theorem onlyOverflows_addAmount (label : Label) (amount : Amount) (parts : List Subtotal) :
    OnlyOverflows (addAmount label amount parts) := by
  -- at every subtotal the amount is added or passed on
  induction parts with
  | nil => exact onlyOverflows_ok _
  | cons p ps ih =>
    rw [addAmount]
    split
    · exact onlyOverflows_bind (onlyOverflows_add _ _) fun _ => onlyOverflows_ok _
    · exact onlyOverflows_bind ih fun _ => onlyOverflows_ok _

theorem onlyOverflows_addRow (f : Filters) (c : Category) (parts : List Subtotal) (r : Row) :
    OnlyOverflows (addRow f c parts r) := by
  unfold addRow
  -- a row that is not counted adds nothing that could fail
  split
  · split
    · exact onlyOverflows_addAmount _ _ _
    · exact onlyOverflows_ok _
  · exact onlyOverflows_ok _

/-- The only failure of a grouping is that of an addition. -/
theorem onlyOverflows_groupEntries (rows : List Row) (f : Filters) (c : Category) :
    OnlyOverflows (groupEntries rows f c) :=
  onlyOverflows_bind (onlyOverflows_foldlM (onlyOverflows_addRow f c) rows [])
    fun _ => onlyOverflows_ok _

theorem onlyOverflows_sumAmounts (as : List Amount) : OnlyOverflows (sumAmounts as) := by
  cases as with
  | nil => exact onlyOverflows_ok none
  | cons a as => exact onlyOverflows_map (onlyOverflows_foldlM onlyOverflows_add as a) some

theorem onlyOverflows_sumEntries (es : List Entry) : OnlyOverflows (sumEntries es) :=
  onlyOverflows_sumAmounts (es.filterMap Entry.amount)

end Obligations
