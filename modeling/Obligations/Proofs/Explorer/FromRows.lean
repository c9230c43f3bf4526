import Obligations.Proofs.Explorer.Protocol

/-!
# Obligations — responses from the rows of a store

A store that is not set to fail answers every query, so the outcome of a request is computed
from its rows. The award rows are grouped first, whatever is asked for. Then the rows that the
request is answered from are grouped, and the response is made from that grouping and the
control rows alone.

* `Store.awardRowsFor`, `Store.rowsFor` — the award rows that a request is about, and the rows
  that it is answered from;
* `Explorer.respond` — the response to a grouping;
* `outcome_run`, `outcome_of_revealed` — how the outcome of a request follows from the rows: of
  the set that is not answered from, only whether it can be grouped counts.
-/

namespace Obligations

/-! ## What a store gives -/

namespace Store

/-- The award rows that a request is about. -/
def awardRowsFor (s : Store) (q : Inquiry) : List Row :=
  s.awardRowsIn q.filters.year (.throughQuarter q.filters.quarter)

/-- The rows of the set that a request is answered from. -/
def rowsFor (s : Store) (q : Inquiry) : List Row :=
  match q.category.rowSet with
  | .cumulative => s.awardRowsFor q
  | .period => s.programRowsFor q

theorem source_of_open {s : Store} (h : s.failure = none) : s.source = s.answers := by
  simp [source, Source.refusing, refusal, h]

/-- What a store gives for a request, the set that is answered from is grouped from its rows. -/
theorem selected_of_fetched (s : Store) {q : Inquiry} {awards : List Row}
    {programs : List ProgramRow} {sets : GroupedSets}
    (h : Fetched s.source q awards programs sets) :
    groupEntries (s.rowsFor q) q.filters q.category = .ok (sets.select q.category) := by
  unfold rowsFor GroupedSets.select
  -- both sets were grouped from what the store gave; one of them is the one that is asked for
  cases q.category.rowSet with
  | cumulative =>
    have hgrouped := h.cumulative_eq
    rw [awardRows_of_ok h.awards_eq] at hgrouped
    exact hgrouped
  | period => exact s.grouped_of_fetched h

end Store

/-- Program activities concern no award, and so have no entity of a category of awards. -/
theorem ProgramRow.label?_eq_none {c : Category} (h : c.rowSet = .cumulative) (r : ProgramRow) :
    r.toRow.label? c = none := by
  -- the four categories of awards look at the award, of which such a row has none
  cases c with
  | recipient | award | awardCategory | awardingAgency => rfl
  | _ => exact nomatch h

/-- Rows without an entity of the category group into nothing, and no addition is made. -/
theorem groupEntries_of_unlabelled {rows : List Row} {f : Filters} {c : Category}
    (h : ∀ r ∈ rows, r.label? c = none) : groupEntries rows f c = .ok [] := by
  have hnone : countedRows rows f c = [] := by
    rw [countedRows, List.filter_eq_nil_iff]
    intro r hr
    simp [h r hr]
  -- so there is nothing to add that could be too large
  have hexact : Exact 0 ((countedRows rows f c).map Row.amount) := by
    rw [hnone]
    exact ⟨by simp, by decide⟩
  obtain ⟨es, hes, -⟩ := groupEntries_exact hexact
  rw [hes, (groupEntries_eq_nil_iff hes).mpr hnone]

/-- The sets of a quarter are the groupings of the rows that the store holds. -/
theorem GroupedSets.outcome_fetch {s : Store} (hs : s.failure = none) {quarter period : Nat}
    (hperiod : finalPeriod? quarter = some period) (c : Category) (f : Filters) (year : Int) :
    (fetch s.source c f year quarter).outcome =
      ofRows (s.awardRowsIn year (.throughQuarter quarter))
        (s.programRowsIn year (.inPeriod period)) f c := by
  unfold fetch
  rw [hperiod, Store.source_of_open hs]
  rfl

/-! ## The response to a grouping -/

namespace Explorer

/-- Reconciles a grouping with the parts of the control total, if the request asks for that. -/
def reconcileWith (e : Explorer) (q : Inquiry) (entries : List Entry) (actual : Option Amount)
    (controls : List Amount) : Except Failure Reconciled :=
  if e.config.isEligible q.category q.filters then do
    let expected ← sumAmounts controls
    addUnreported e.config.unreportedName q.category entries expected actual
  else .ok ⟨entries, actual⟩

/-- The response to a request whose rows group into `entries`. -/
def respond (e : Explorer) (q : Inquiry) (entries : List Entry) (controls : List Amount) :
    Except Failure Response :=
  match q.category.rowSet with
  | .cumulative => do
    let total ← sumEntries entries
    return ⟨some (total.getD .zero), e.periodEnd? q,
      some (limitResults q.category q.limit entries)⟩
  | .period => do
    let actual ← sumEntries entries
    let reconciled ← e.reconcileWith q entries actual controls
    return ⟨reconciled.total, e.periodEnd? q, some reconciled.results⟩

section

variable {e : Explorer} {s : Store} {q : Inquiry} {now : Instant}

/-- For a revealed window, the fetch gives the groupings of the award rows and of the program
rows. -/
theorem outcome_fetch (hs : s.failure = none) (h : e.isRevealed q now = true) :
    (GroupedSets.fetch s.source q.category q.filters q.filters.year q.filters.quarter).outcome =
      groupEntries (s.awardRowsFor q) q.filters q.category >>= fun cumulative =>
        groupEntries (s.programRowsFor q) q.filters q.category >>= fun period =>
          .ok ⟨cumulative, period⟩ := by
  rw [GroupedSets.outcome_fetch hs (RevealSchedule.finalPeriod?_of_revealed h)]
  rfl

/-- What is reconciled with is the sum of the control rows of the store. -/
theorem outcome_reconcile (hs : s.failure = none) (entries : List Entry)
    (actual : Option Amount) :
    (reconcile e.config s.source q.category q.filters entries actual q.filters.year
      q.finalPeriod).outcome = e.reconcileWith q entries actual (s.controlAmountsFor q) := by
  unfold reconcile reconcileWith
  rw [Store.source_of_open hs]
  -- the control rows are added up only if something is compared
  split
  · exact Run.outcome_bind _ _
  · rfl

/-- The outcome of a request from the two groupings, the second one being the one that the
category says. -/
theorem outcome_run (hs : s.failure = none) (h : e.isRevealed q now = true) :
    (e.run s.source q now).outcome =
      groupEntries (s.awardRowsFor q) q.filters q.category >>= fun cumulative =>
        groupEntries (s.programRowsFor q) q.filters q.category >>= fun period =>
          e.respond q (GroupedSets.select ⟨cumulative, period⟩ q.category)
            (s.controlAmountsFor q) := by
  obtain ⟨last, hlast, hwindow⟩ := RevealSchedule.resolve?_of_revealed h
  have hend : e.periodEnd? q = some last := hlast
  rw [run, hwindow]
  simp only [answer, Run.outcome_bind, outcome_fetch hs h, bind_assoc]
  -- what is done with the two groupings is the same from here on
  congr 1
  funext cumulative
  congr 1
  funext period
  unfold respond
  rw [hend]
  cases q.category.rowSet with
  -- awards are not reconciled, so the response is assembled at once
  | cumulative => rfl
  | period =>
    show (answerPeriod e s.source q _ _).outcome = _
    simp only [answerPeriod, Run.outcome_bind]
    congr 1
    funext actual
    rw [← outcome_reconcile hs]
    rfl

/-- Of the award rows it counts that they can be grouped, whatever the request is answered
from. -/
theorem outcome_of_revealed (hs : s.failure = none) (h : e.isRevealed q now = true) :
    (e.run s.source q now).outcome =
      groupEntries (s.awardRowsFor q) q.filters q.category >>= fun _ =>
        groupEntries (s.rowsFor q) q.filters q.category >>= fun entries =>
          e.respond q entries (s.controlAmountsFor q) := by
  rw [outcome_run hs h]
  unfold Store.rowsFor GroupedSets.select
  cases hset : q.category.rowSet with
  | period => rfl
  | cumulative =>
    -- no program row has an entity of such a category, so their grouping is empty
    have hempty : groupEntries (s.programRowsFor q) q.filters q.category = .ok [] := by
      refine groupEntries_of_unlabelled fun r hr => ?_
      obtain ⟨row, -, rfl⟩ := List.mem_map.mp hr
      exact row.label?_eq_none hset
    rw [hempty]
    cases groupEntries (s.awardRowsFor q) q.filters q.category <;> rfl

end

end Explorer

end Obligations
