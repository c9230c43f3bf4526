import Obligations.Proofs.Explorer.Scope
import Obligations.Proofs.Reconciliation

/-!
# Obligations — a period response balances

The total over the results of a period is either the control total, and then one entry
without an id makes up for what the others lack, or it is what the entries add up to. In
both cases the other entries are the grouped rows of the period and nothing else.

The law is about the rows in scope, those of the year and of the last period of the quarter. It is
about numbers, so it holds where no step rounds: the rows and the control rows in scope are
together in the exact range.

* `ClosesGap` — the results with the entry of what was not reported;
* `AddsUp` — the results without it;
* `Explorer.Answers.balances` — an answer of any kind is one or the other;
* `period_response_balances` — so is every revealed response about a period.
-/

namespace Obligations

/-- The results are those of the grouping and one entry without an id, and with it they add
up to the control rows. -/
structure ClosesGap (controls : List Amount) (grouped results : List Entry)
    (total : Option Amount) : Prop where
  single    : ∃ u, results.filter Entry.isUnreported = [u]
  others    : results.filter (fun e => !e.isUnreported) = grouped
  amounts   : ∀ e ∈ results, e.amount.isSome = true
  control   : ∃ t, total = some t ∧ sumAmounts controls = .ok (some t) ∧
                t.value = sumValues controls
  adds_up   : ∀ t, total = some t → sumValues (results.filterMap Entry.amount) = t.value

/-- The results are those of the grouping, under their own sum. -/
structure AddsUp (grouped results : List Entry) (total : Option Amount) : Prop where
  same      : results = grouped
  amounts   : ∀ e ∈ results, e.amount.isSome = true
  adds_up   : ∀ t, total = some t → t.value = sumValues (results.filterMap Entry.amount)
  absent    : total = none ↔ results = []

/-- One or the other, and which of them is told by whether all entries have an id. -/
def Balances (controls : List Amount) (grouped results : List Entry) (total : Option Amount) :
    Prop :=
  ((∃ u ∈ results, u.id = none) → ClosesGap controls grouped results total) ∧
    ((∀ u ∈ results, u.id ≠ none) → AddsUp grouped results total)

section

variable {k : Nat} {rows : List Row} {f : Filters} {c : Category} {grouped : List Entry}

/-- A grouping adds up to its own sum, and there is none for an empty one. -/
theorem addsUp_grouped (hk : k ≤ Amount.maxScale) (hexact : Exact k (rows.map Row.amount))
    (hgrouped : groupEntries rows f c = .ok grouped) {actual : Option Amount}
    (hactual : sumEntries grouped = .ok actual) : AddsUp grouped grouped actual where
  same := rfl
  amounts e he := (mem_groupEntries hgrouped he).2.1
  adds_up t ht := by
    subst ht
    exact value_of_sumAmounts_some hk (exact_grouped hexact hgrouped) hactual
  absent := by
    rw [sumEntries_eq_none_iff hgrouped hactual, groupEntries_eq_nil_iff hgrouped]

/-- **The entry of what was not reported closes the gap.** It is the difference of two exact sums,
and ranking it in leaves the other entries in their order. -/
theorem closesGap_grouped (hk : k ≤ Amount.maxScale) {controls : List Amount}
    (hexact : Exact k (rows.map Row.amount ++ controls))
    (hgrouped : groupEntries rows f c = .ok grouped) {actual expected missing : Amount}
    (hactual : sumEntries grouped = .ok (some actual))
    (hexpected : sumAmounts controls = .ok (some expected))
    (hmissing : expected.sub actual = .ok missing) (name : String) :
    ClosesGap controls grouped (rank (grouped ++ [.unreported c name missing]))
      (some expected) := by
  have hids := ids_groupEntries hgrouped
  have hcontrols := hexact.sublist (List.sublist_append_right _ controls)
  -- the grouped amounts weigh no more than the rows, so they leave the same room
  have hboth := exact_grouped_append hexact hgrouped
  have hamounts := hboth.sublist (List.sublist_append_left _ controls)
  -- the gap is the exact difference of two exact sums
  obtain ⟨hscale, -⟩ := unitsAt_of_sumAmounts hcontrols hexpected
  obtain ⟨hmscale, hfill⟩ := missing_exact hboth hactual hexpected hmissing
  -- wherever ranking puts the entry, the amounts are those of the others and its own
  have hperm : ((rank (grouped ++ [.unreported c name missing])).filterMap Entry.amount).Perm
      (grouped.filterMap Entry.amount ++ [missing]) := by
    have h := (rank_perm (grouped ++ [.unreported c name missing])).filterMap Entry.amount
    rw [List.filterMap_append] at h
    exact h
  refine ⟨⟨_, filter_unreported_rank hids rfl⟩,
    filter_reported_rank (ranked_groupEntries hgrouped) hids rfl, ?_,
    ⟨expected, rfl, hexpected, value_of_sumAmounts_some hk hcontrols hexpected⟩, ?_⟩
  · -- the others have an amount because they were grouped, the new one because it is the difference
    intro e he
    rcases mem_rank_append.mp he with he | rfl
    · exact (mem_groupEntries hgrouped he).2.1
    · rfl
  · -- the amounts are exact at one scale, and there the gap is what is missing in units
    intro t ht
    injection ht with ht
    subst ht
    refine (value_eq_sumValues hk ?_ hscale ?_).symm
    · intro a ha
      rcases List.mem_append.mp (hperm.mem_iff.mp ha) with ha | ha
      · exact hamounts.scale_le a ha
      · rw [List.mem_singleton.mp ha]
        exact hmscale
    · rw [sumUnits_perm k hperm, sumUnits_append, sumUnits_cons, sumUnits_nil, Int.add_zero, hfill]

/-- Without such an entry a grouping balances on its own; none of its entries lacks an id. -/
theorem balances_grouped (hk : k ≤ Amount.maxScale) (hexact : Exact k (rows.map Row.amount))
    (hgrouped : groupEntries rows f c = .ok grouped) {actual : Option Amount}
    (hactual : sumEntries grouped = .ok actual) (controls : List Amount) :
    Balances controls grouped grouped actual := by
  refine ⟨?_, fun _ => addsUp_grouped hk hexact hgrouped hactual⟩
  rintro ⟨u, hu, hnone⟩
  have hsome := ids_groupEntries hgrouped u hu
  rw [hnone] at hsome
  contradiction

/-- With such an entry it balances with the control rows, since one of its entries lacks an id. -/
theorem balances_reconciled {controls : List Amount} {results : List Entry}
    {total : Option Amount} (h : ClosesGap controls grouped results total) :
    Balances controls grouped results total := by
  refine ⟨fun _ => h, fun hall => ?_⟩
  obtain ⟨u, hu⟩ := h.single
  have hmem : u ∈ results.filter Entry.isUnreported := hu ▸ List.mem_singleton_self u
  obtain ⟨hres, hnone⟩ := List.mem_filter.mp hmem
  exact absurd (Option.isNone_iff_eq_none.mp hnone) (hall u hres)

end

/-- An answer about a period balances, whatever kind it is of. -/
theorem Explorer.Answers.balances {e : Explorer} {s : Store} {q : Inquiry} {now : Instant}
    {resp : Response} {results : List Entry} {k : Nat} (h : e.Answers s.source q now resp)
    (hset : q.category.rowSet = .period) (hk : k ≤ Amount.maxScale)
    (hexact : Exact k ((s.programRowsFor q).map Row.amount ++ s.controlAmountsFor q))
    (hresults : resp.results = some results) :
    ∃ grouped, groupEntries (s.programRowsFor q) q.filters q.category = .ok grouped ∧
      Balances (s.controlAmountsFor q) grouped results resp.total := by
  have hrows := hexact.sublist (List.sublist_append_left _ _)
  -- what was grouped is an answer by itself, under its own sum
  have hplain {awards : List Row} {programs : List ProgramRow} {sets : GroupedSets}
      {actual : Option Amount} (hfetched : Fetched s.source q awards programs sets)
      (hactual : sumEntries sets.period = .ok actual) :
      ∃ grouped, groupEntries (s.programRowsFor q) q.filters q.category = .ok grouped ∧
        Balances (s.controlAmountsFor q) grouped sets.period actual := by
    have hgrouped := s.grouped_of_fetched hfetched
    exact ⟨_, hgrouped, balances_grouped hk hrows hgrouped hactual _⟩
  -- an answer is of one of five kinds, two of which are not about a revealed period
  cases h with
  | hidden _ => exact nomatch hresults
  | cumulative _ _ hset' _ =>
    rw [hset] at hset'
    contradiction
  | uncompared _ hfetched _ hactual _ =>
    obtain rfl := Option.some.inj hresults
    exact hplain hfetched hactual
  | incomparable _ hfetched _ hactual _ _ _ =>
    obtain rfl := Option.some.inj hresults
    exact hplain hfetched hactual
  -- the gap was filled, so the total is that of the control rows
  | reconciled _ hfetched _ hactual _ hexpected hsub =>
    have hgrouped := s.grouped_of_fetched hfetched
    have hcontrol := Store.controlTotal_of_ok hexpected
    obtain rfl := Option.some.inj hresults
    exact ⟨_, hgrouped,
      balances_reconciled (closesGap_grouped hk hexact hgrouped hactual hcontrol hsub _)⟩

/-- **Every revealed response about a period balances.** The rows it is about are those of its year
and of the last period of its quarter, wherever they stand in the store. -/
theorem period_response_balances {e : Explorer} {s : Store} {r : Request} {now : Instant}
    {q : Inquiry} {resp : Response} {results : List Entry}
    (hq : (e.check r).2 = .ok q) (hset : q.category.rowSet = .period)
    (hrange : InExactRange ((s.programRows.filter q.coversProgram).map ProgramRow.amount ++
      (s.controlRows.filter q.coversControl).map ControlRow.amount))
    (hresp : (e.explore s.source r now).run.outcome = .ok resp)
    (hresults : resp.results = some results) :
    ∃ grouped, groupEntries ((s.programRows.filter q.coversProgram).map ProgramRow.toRow) q.filters
        q.category = .ok grouped ∧
      Balances ((s.controlRows.filter q.coversControl).map ControlRow.amount) grouped results
        resp.total := by
  -- the store selects the rows in scope, and a row has the same amount whichever way it is seen
  have hamounts : (s.programRowsFor q).map Row.amount =
      (s.programRows.filter q.coversProgram).map ProgramRow.amount := by
    rw [Store.programRowsFor_eq_filter, List.map_map]
    rfl
  rw [← hamounts, ← Store.controlAmountsFor_eq_filter] at hrange
  rw [← Store.programRowsFor_eq_filter, ← Store.controlAmountsFor_eq_filter]
  exact (Explorer.answers_of_checked hq hresp).balances hset (largestScale_le _) hrange.exact
    hresults

/-- Rows out of scope change nothing of the answer. -/
theorem Sample.explore_crowded :
    (explorer.explore crowdedStore.source request today).run.outcome = .ok response :=
  ok_of_toOption (by decide +kernel)

/-- Two of the five program rows and two of the four control rows are out of scope; those in scope
make up for the rest. -/
theorem period_response_balances_sample :
    (Sample.crowdedStore.programRows.filter Sample.inquiry.coversProgram).length = 3 ∧
    (Sample.crowdedStore.controlRows.filter Sample.inquiry.coversControl).map ControlRow.amount =
      [Sample.amount 70 0, Sample.amount 1225 2] ∧
    ∃ grouped, groupEntries ((Sample.crowdedStore.programRows.filter
        Sample.inquiry.coversProgram).map ProgramRow.toRow) Sample.inquiry.filters
        Sample.inquiry.category = .ok grouped ∧
      Balances ((Sample.crowdedStore.controlRows.filter Sample.inquiry.coversControl).map
        ControlRow.amount) grouped Sample.results Sample.response.total :=
  ⟨by decide, by decide, period_response_balances Sample.check_request rfl (by decide +kernel)
    Sample.explore_crowded rfl⟩

end Obligations
