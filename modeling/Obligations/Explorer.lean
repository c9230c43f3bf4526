import Obligations.GroupedSets
import Obligations.Reconciliation
import Obligations.Request
import Obligations.Response
import Obligations.Store

/-!
# Obligations — the explorer

An `Explorer` answers requests under settings that can be used. It checks the request,
looks up whether the quarter is revealed, asks the source for its rows, groups them, and

* for a category drawn from the cumulative set, gives the sum of all entries as the total
  and cuts awards to the limit;
* for a category drawn from the period set, reconciles the entries with the control total.

`Explorer.explore` reports the filter keys that were passed over beside the run, since they
are reported whether or not there is a response. `Explorer.serve` answers a list of requests
over one store.
-/

namespace Obligations

/-- Settings under which requests can be answered. -/
structure Explorer where
  config : Config
  valid : config.IsValid

/-- A request that passed every check. -/
structure Inquiry where
  category : Category
  filters : Filters
  limit : Option Nat

/-- What came of a request: the filter keys that were passed over, and the run. -/
structure Report where
  ignoredKeys : List String
  run : Run Response

namespace Explorer

/-- The explorer for these settings, or their fault. -/
def ofConfig (c : Config) : Except ConfigFault Explorer :=
  match h : c.fault? with
  | some fault => .error fault
  | none => .ok ⟨c, c.fault?_eq_none_iff.mp h⟩

/-! ## Checks -/

/-- A limit of nothing is refused. -/
def checkLimit : Option Nat → Except Failure Unit
  | some 0 => .error (.parameter .zeroLimit)
  | _ => .ok ()

/-- Checks a request: the category, the filters, and then the limit. -/
def check (e : Explorer) (r : Request) : List String × Except Failure Inquiry :=
  match e.config.category r.category with
  | .error fault => ([], .error (.category fault))
  | .ok category =>
    let (ignored, filters) := Filters.read r.filters
    (ignored, do
      let filters ← filters.mapError Failure.parameter
      -- a fault of the filters is reported before one of the limit
      checkLimit r.limit
      return ⟨category, filters, r.limit⟩)

/-! ## Answers -/

/-- The answer from the cumulative set, where no entries at all have a total of zero. -/
def answerCumulative (q : Inquiry) (w : FiscalWindow) (results : List Entry) :
    Except Failure Response := do
  let total ← sumEntries results
  return .assemble w (some (total.getD .zero)) (limitResults q.category q.limit results)

/-- The answer from the period set, compared with the control total if the request allows for it. -/
def answerPeriod (e : Explorer) (s : Source) (q : Inquiry) (w : FiscalWindow)
    (results : List Entry) : Run Response := do
  let actual ← Run.lift (sumEntries results)
  let reconciled ← reconcile e.config s q.category q.filters results actual w.year w.finalPeriod
  return .assemble w reconciled.total reconciled.results

/-- The answer to a checked request about a revealed window. -/
def answer (e : Explorer) (s : Source) (q : Inquiry) (w : FiscalWindow) : Run Response := do
  -- both sets are fetched and grouped, though only one of them is answered from
  let sets ← GroupedSets.fetch s q.category q.filters w.year w.quarter
  let results := sets.select q.category
  match q.category.rowSet with
  | .cumulative => Run.lift (answerCumulative q w results)
  | .period => e.answerPeriod s q w results

/-- The run of a checked request at `now`. -/
def run (e : Explorer) (s : Source) (q : Inquiry) (now : Instant) : Run Response :=
  match e.config.schedule.resolve? q.filters.year q.filters.quarter now with
  | none => .pure .unrevealed
  | some w => e.answer s q w

/-- Checks a request and answers it as of `now`. A refused request asks nothing of the source. -/
def explore (e : Explorer) (s : Source) (r : Request) (now : Instant) : Report :=
  let (ignored, inquiry) := e.check r
  match inquiry with
  | .error failure => ⟨ignored, .fail failure⟩
  | .ok q => ⟨ignored, e.run s q now⟩

/-- Answers requests one after the other over a store, which counts what it is asked. -/
def serve (e : Explorer) (s : Store) : List (Request × Instant) → List Report × Store
  | [] => ([], s)
  | (r, now) :: rest =>
    let report := e.explore s.source r now
    let (reports, last) := e.serve (s.after report.run.queries) rest
    (report :: reports, last)

end Explorer

end Obligations
