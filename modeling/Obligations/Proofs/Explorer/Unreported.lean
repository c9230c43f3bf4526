import Obligations.Proofs.Explorer.Answers
import Obligations.Proofs.Filters.Keys
import Obligations.Proofs.Reconciliation

/-!
# Obligations — when something is shown as not reported

The entry without an id needs six things that are decided in six places: the schedule, the
category, two settings, the control rows and the rows of the period. Control rows that cancel
out are still there, and so are rows that do. Each answer of an explorer either has them all
and shows the entry, or lacks one and does not.

* `ShowsGap` — the six things;
* `Answers.unreported_iff` — an answer has such an entry just in case they are all there;
* `unreported_entry_iff` — the same for a response, and what the entry looks like.
-/

namespace Obligations

/-- All that has to be there for an entry of what was not reported. -/
structure ShowsGap (e : Explorer) (s : Store) (q : Inquiry) (supplied : KeySet) (now : Instant) :
    Prop where
  revealed    : e.config.schedule.isRevealed q.filters.year q.filters.quarter now = true
  period      : q.category.rowSet = .period
  reconciling : q.category ∈ e.config.reconciling
  base_keys   : supplied = e.config.baseKeys
  control     : ∃ row ∈ s.controlRows, row.year = q.filters.year ∧
                  row.period = 3 * q.filters.quarter
  counted     : ∃ row ∈ s.programRows, row.submission.year = q.filters.year ∧
                  row.submission.period = 3 * q.filters.quarter ∧
                  q.filters.admits row.toRow = true ∧
                  (row.toRow.label? q.category).isSome = true

/-- The entry stands alone among the others, with the configured name and without a code. -/
structure IsGapEntry (e : Explorer) (q : Inquiry) (entries : List Entry) (u : Entry) : Prop where
  single        : entries.filter Entry.isUnreported = [u]
  code          : u.code = none
  accountNumber : u.accountNumber = none
  name          : u.name = e.config.unreportedName
  category      : u.category = q.category

namespace Explorer

variable {e : Explorer} {s : Store} {q : Inquiry} {now : Instant} {resp : Response}

/-- Both totals of a comparison are there if there are rows for them. -/
theorem totals_eq_some {awards : List Row} {programs : List ProgramRow} {sets : GroupedSets}
    (hfetched : Fetched s.source q awards programs sets) {actual expected : Option Amount}
    (hactual : sumEntries sets.period = .ok actual)
    (hexpected : s.source.controlTotal q.filters.year q.finalPeriod = .ok expected) :
    (expected ≠ none ↔ s.controlAmountsFor q ≠ []) ∧
      (actual ≠ none ↔ countedRows (s.programRowsFor q) q.filters q.category ≠ []) :=
  ⟨not_congr (sumAmounts_eq_none_iff (Store.controlTotal_of_ok hexpected)),
    not_congr (sumEntries_eq_none_iff (s.grouped_of_fetched hfetched) hactual)⟩

/-- **The entry is there just in case all six conditions are.** They are said of the schedule, the
settings, the keys and the rows of the store. -/
theorem Answers.unreported_iff (h : e.Answers s.source q now resp) :
    (∃ u ∈ resp.entries, u.id = none) ↔ ShowsGap e s q q.filters.keys now := by
  constructor
  · intro hu
    obtain ⟨sets, _, hcompared⟩ := h.compared_of_unreported hu
    obtain ⟨_, _, hfetched⟩ := hcompared.fetched
    obtain ⟨actual, hactual⟩ := hcompared.reported
    obtain ⟨expected, hexpected⟩ := hcompared.control
    obtain ⟨hreconciling, hkeys⟩ := Config.isEligible_iff.mp hcompared.eligible
    -- a total is there only if a row is
    obtain ⟨hcontrol, hcounted⟩ := totals_eq_some hfetched hactual hexpected
    exact ⟨hcompared.revealed, hcompared.period, hreconciling, hkeys,
      Store.exists_control_iff.mp (hcontrol.mp (Option.some_ne_none _)),
      Store.exists_counted_iff.mp (hcounted.mp (Option.some_ne_none _))⟩
  · intro hgap
    -- each kind of answer without the entry denies one of the six
    have heligible' : e.config.isEligible q.category q.filters = true :=
      Config.isEligible_iff.mpr ⟨hgap.reconciling, hgap.base_keys⟩
    cases h with
    | hidden hhidden =>
      have hrevealed := hgap.revealed
      rw [isRevealed] at hhidden
      rw [hhidden] at hrevealed
      contradiction
    | cumulative _ _ hset _ =>
      rw [hgap.period] at hset
      contradiction
    | uncompared _ _ _ _ heligible =>
      rw [heligible] at heligible'
      contradiction
    | incomparable _ hfetched _ hactual _ hexpected habsent =>
      -- one of the totals is absent, so there were no rows for it
      obtain ⟨hcontrol, hcounted⟩ := totals_eq_some hfetched hactual hexpected
      rcases habsent with hnone | hnone
      · exact absurd hnone (hcontrol.mpr (Store.exists_control_iff.mpr hgap.control))
      · exact absurd hnone (hcounted.mpr (Store.exists_counted_iff.mpr hgap.counted))
    -- the entry was appended and ranked, so it is somewhere in the result
    | reconciled _ _ _ _ _ _ _ => exact ⟨_, mem_rank_append.mpr (Or.inr rfl), rfl⟩

/-- Where it is, it is labelled by the settings, and no other entry lacks an id. -/
theorem Answers.isGapEntry (h : e.Answers s.source q now resp) {u : Entry}
    (hu : u ∈ resp.entries) (hnone : u.id = none) : IsGapEntry e q resp.entries u := by
  obtain ⟨sets, missing, hcompared⟩ := h.compared_of_unreported ⟨u, hu, hnone⟩
  obtain ⟨_, _, hfetched⟩ := hcompared.fetched
  have hsingle : resp.entries.filter Entry.isUnreported =
      [.unreported q.category e.config.unreportedName missing] := by
    rw [hcompared.entries_eq]
    exact filter_unreported_rank (ids_groupEntries hfetched.period_eq) rfl
  -- there is one entry without an id, and `u` is among those
  have hmem : u ∈ resp.entries.filter Entry.isUnreported :=
    List.mem_filter.mpr ⟨hu, by rw [Entry.isUnreported, hnone]; rfl⟩
  rw [hsingle, List.mem_singleton] at hmem
  subst hmem
  exact ⟨hsingle, rfl, rfl, rfl, rfl⟩

end Explorer

/-- **A response shows an entry without an id just in case six things are there.** It is the
only such entry then. -/
theorem unreported_entry_iff {e : Explorer} {s : Store} {r : Request} {now : Instant}
    {resp : Response} (hresp : (e.explore s.source r now).run.outcome = .ok resp) :
    ∃ q mapping, (e.check r).2 = .ok q ∧ r.category = some q.category.name ∧
      r.filters = some mapping ∧
      ((∃ u ∈ resp.entries, u.id = none) ↔ ShowsGap e s q mapping.keys now) ∧
      ∀ u ∈ resp.entries, u.id = none → IsGapEntry e q resp.entries u := by
  obtain ⟨q, hq, hanswer⟩ := Explorer.answers_of_explore hresp
  obtain ⟨hname, hread, -, -⟩ := Explorer.check_eq_ok.mp hq
  obtain ⟨mapping, hmapping, -, hkeys, -⟩ := Filters.read_eq_ok hread
  refine ⟨q, mapping, hq, (Config.category_eq_ok.mp hname).1, hmapping, ?_, fun u hu hnone =>
    hanswer.isGapEntry hu hnone⟩
  rw [← hkeys]
  exact hanswer.unreported_iff

/-- Of the six, the control rows of the sample are two, and all of its rows count. -/
theorem unreported_entry_iff_sample :
    ∃ q mapping, (Sample.explorer.check Sample.request).2 = .ok q ∧
      Sample.request.category = some q.category.name ∧ Sample.request.filters = some mapping ∧
      ((∃ u ∈ Sample.response.entries, u.id = none) ↔
        ShowsGap Sample.explorer Sample.store q mapping.keys Sample.today) ∧
      ∀ u ∈ Sample.response.entries, u.id = none →
        IsGapEntry Sample.explorer q Sample.response.entries u :=
  unreported_entry_iff Sample.explore_request

end Obligations
