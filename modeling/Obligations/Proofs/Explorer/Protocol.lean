import Obligations.Proofs.Explorer.Answers
import Obligations.Proofs.Reconciliation

/-!
# Obligations — what a source is asked

A request that is answered from the source asks for the award rows first, then for the
program rows, and then, if the answer is compared with it, for the control total. It stops at
the first query that fails and ends with that failure. Nothing else is asked, nothing is
asked twice, and no other request asks at all.

Failures are those of a source as it is when the request is made. Over a list of requests
each may find other queries failing, so a `Visit` carries the refusals that stand between it
and the store; a refused query does not reach the store and is not counted by it.

* `Explorer.plan`, `Source.issued` — what is to be asked, and what is;
* `Explorer.Goes` — the ways a run goes, and `goes_of_revealed`, that there are no others;
* `FollowsProtocol` — what is asked and how that decides the outcome;
* `Explorer.serveThrough` — visits one after the other;
* `visits_follow_protocol` — each visit follows the protocol and goes as it does alone.
-/

namespace Obligations

/-! ## Queries of a request -/

def Inquiry.awardQuery (q : Inquiry) : Query :=
  .awardRows q.filters.year (.throughQuarter q.filters.quarter)

def Inquiry.programQuery (q : Inquiry) : Query :=
  .programRows q.filters.year (.inPeriod (3 * q.filters.quarter))

def Inquiry.controlQuery (q : Inquiry) : Query :=
  .controlTotal q.filters.year (3 * q.filters.quarter)

/-- The answer to the request is compared with the control total. -/
def Explorer.compares (e : Explorer) (q : Inquiry) : Bool :=
  decide (q.category.rowSet = .period) && e.config.isEligible q.category q.filters

/-- What a checked request about a revealed window asks for, in order. -/
def Explorer.plan (e : Explorer) (q : Inquiry) : List Query :=
  [q.awardQuery, q.programQuery] ++ if e.compares q then [q.controlQuery] else []

/-- How the source fails to answer, if it does. -/
def failureOf {α : Type} : Except Failure α → Option Failure
  | .error f => some f
  | .ok _ => none

/-- A failure is what a computation ended with, if it did not give a value. -/
theorem failureOf_eq_some {α : Type} {x : Except Failure α} {f : Failure} :
    failureOf x = some f ↔ x = .error f := by
  cases x <;> simp [failureOf]

def Source.failure? (s : Source) : Query → Option Failure
  | .awardRows year scope => failureOf (s.awardRows year scope)
  | .programRows year scope => failureOf (s.programRows year scope)
  | .controlTotal year period => failureOf (s.controlTotal year period)

/-- What is asked of a plan: everything up to the first query that fails, and that query. -/
def Source.issued (s : Source) : List Query → List Query
  | [] => []
  | query :: rest => query :: if (s.failure? query).isSome then [] else s.issued rest

/-! ## The ways a run goes -/

namespace Explorer

/-- How the run of a checked request about a revealed window goes. -/
inductive Goes (e : Explorer) (s : Source) (q : Inquiry) : Run Response → Prop
  | awardsFail {f : Failure} :
      s.failure? q.awardQuery = some f → Goes e s q ⟨[q.awardQuery], .error f⟩
  | programsFail {f : Failure} :
      s.failure? q.awardQuery = none → s.failure? q.programQuery = some f →
      Goes e s q ⟨[q.awardQuery, q.programQuery], .error f⟩
  | controlFails {f : Failure} :
      s.failure? q.awardQuery = none → s.failure? q.programQuery = none →
      e.compares q = true → s.failure? q.controlQuery = some f →
      Goes e s q ⟨[q.awardQuery, q.programQuery, q.controlQuery], .error f⟩
  | alone {resp : Response} :
      s.failure? q.awardQuery = none → s.failure? q.programQuery = none →
      e.compares q = false →
      Goes e s q ⟨[q.awardQuery, q.programQuery], .ok resp⟩
  | compared {resp : Response} :
      s.failure? q.awardQuery = none → s.failure? q.programQuery = none →
      e.compares q = true → s.failure? q.controlQuery = none →
      Goes e s q ⟨[q.awardQuery, q.programQuery, q.controlQuery], .ok resp⟩
  /-- A number is too large, whatever was asked until then. -/
  | overflows {queries : List Query} {operation : Arithmetic} :
      Goes e s q ⟨queries, .error (.overflow operation)⟩

theorem onlyOverflows_ofRows (awards : List Row) (programs : List ProgramRow) (f : Filters)
    (c : Category) : OnlyOverflows (GroupedSets.ofRows awards programs f c) :=
  onlyOverflows_bind (onlyOverflows_groupEntries _ f c) fun _ =>
    onlyOverflows_bind (onlyOverflows_groupEntries _ f c) fun _ => onlyOverflows_ok _

theorem onlyOverflows_answerCumulative (q : Inquiry) (w : FiscalWindow) (results : List Entry) :
    OnlyOverflows (answerCumulative q w results) :=
  onlyOverflows_bind (onlyOverflows_sumEntries results) fun _ => onlyOverflows_ok _

section

variable {e : Explorer} {s : Source} {q : Inquiry} {now : Instant}

/-- The rows of a request are asked for, the second ones if there are first ones. -/
theorem fetch_cases (hperiod : finalPeriod? q.filters.quarter = some (3 * q.filters.quarter)) :
    (∃ f, s.failure? q.awardQuery = some f ∧
      GroupedSets.fetch s q.category q.filters q.filters.year q.filters.quarter =
        ⟨[q.awardQuery], .error f⟩) ∨
    (∃ f, s.failure? q.awardQuery = none ∧ s.failure? q.programQuery = some f ∧
      GroupedSets.fetch s q.category q.filters q.filters.year q.filters.quarter =
        ⟨[q.awardQuery, q.programQuery], .error f⟩) ∨
    (∃ awards programs, s.failure? q.awardQuery = none ∧ s.failure? q.programQuery = none ∧
      GroupedSets.fetch s q.category q.filters q.filters.year q.filters.quarter =
        ⟨[q.awardQuery, q.programQuery],
          GroupedSets.ofRows awards programs q.filters q.category⟩) := by
  -- the source is asked twice, and either answer can be a failure
  unfold GroupedSets.fetch
  rw [hperiod]
  simp only
  cases hawards : (s.askAwardRows q.filters.year (.throughQuarter q.filters.quarter)).outcome with
  | error f =>
    have hfail : s.failure? q.awardQuery = some f := congrArg failureOf hawards
    exact Or.inl ⟨f, hfail, Run.bind_of_error hawards _⟩
  | ok awards =>
    have hnone : s.failure? q.awardQuery = none := congrArg failureOf hawards
    -- the award rows are there, so the program rows are asked for
    refine Or.inr ?_
    rw [Run.bind_of_ok hawards]
    cases hprograms : (s.askProgramRows q.filters.year (.inPeriod (3 * q.filters.quarter))).outcome
      with
    | error f =>
      have hfail : s.failure? q.programQuery = some f := congrArg failureOf hprograms
      rw [Run.bind_of_error hprograms]
      exact Or.inl ⟨f, hnone, hfail, rfl⟩
    | ok programs =>
      have hnone' : s.failure? q.programQuery = none := congrArg failureOf hprograms
      rw [Run.bind_of_ok hprograms]
      exact Or.inr ⟨awards, programs, hnone, hnone', rfl⟩

/-- A result of a period asks for the control total if it is compared, and else for nothing. -/
theorem answerPeriod_cases (e : Explorer) (s : Source) (q : Inquiry) (last : Date)
    (results : List Entry) {x : Run Response}
    (hx : x = e.answerPeriod s q
      ⟨q.filters.year, q.filters.quarter, last, 3 * q.filters.quarter, true⟩ results) :
    (∃ queries operation, x = ⟨queries, .error (.overflow operation)⟩) ∨
    (e.config.isEligible q.category q.filters = false ∧ ∃ resp, x = ⟨[], .ok resp⟩) ∨
    (e.config.isEligible q.category q.filters = true ∧
      ((∃ f, s.failure? q.controlQuery = some f ∧ x = ⟨[q.controlQuery], .error f⟩) ∨
        (s.failure? q.controlQuery = none ∧ ∃ resp, x = ⟨[q.controlQuery], .ok resp⟩))) := by
  unfold answerPeriod at hx
  cases hactual : sumEntries results with
  | error f =>
    -- nothing was asked yet: what can fail here is the addition
    obtain ⟨operation, rfl⟩ := onlyOverflows_sumEntries results f hactual
    rw [hactual, Run.bind_of_error rfl] at hx
    exact Or.inl ⟨_, operation, hx⟩
  | ok actual =>
    rw [hactual, Run.bind_of_ok rfl] at hx
    unfold reconcile at hx
    cases heligible : e.config.isEligible q.category q.filters with
    | false =>
      rw [heligible] at hx
      exact Or.inr (Or.inl ⟨rfl, _, hx⟩)
    | true =>
      -- the only query; a failure of it ends the run, an answer is compared
      rw [heligible, if_pos rfl] at hx
      cases hcontrol : (s.askControlTotal q.filters.year (3 * q.filters.quarter)).outcome with
      | error f =>
        have hfail : s.failure? q.controlQuery = some f := congrArg failureOf hcontrol
        rw [Run.bind_of_error hcontrol, Run.bind_of_error rfl] at hx
        exact Or.inr (Or.inr ⟨rfl, Or.inl ⟨f, hfail, hx⟩⟩)
      | ok expected =>
        have hnone : s.failure? q.controlQuery = none := congrArg failureOf hcontrol
        rw [Run.bind_of_ok hcontrol] at hx
        cases hadd : addUnreported e.config.unreportedName q.category results expected actual with
        | error f =>
          -- the gap itself can be too large
          obtain ⟨operation, rfl⟩ := onlyOverflows_addUnreported _ _ _ _ _ f hadd
          rw [hadd, Run.bind_of_error rfl] at hx
          exact Or.inl ⟨_, operation, hx⟩
        | ok reconciled =>
          rw [hadd, Run.bind_of_ok rfl] at hx
          exact Or.inr (Or.inr ⟨rfl, Or.inr ⟨hnone, _, hx⟩⟩)

/-- **The run of a revealed window goes in one of six ways**: one of its queries fails, it ends well
with or without a comparison, or a number is too large. -/
theorem goes_of_revealed (h : e.isRevealed q now = true) : e.Goes s q (e.run s q now) := by
  obtain ⟨last, -, hwindow⟩ := RevealSchedule.resolve?_of_revealed h
  rw [run, hwindow]
  simp only [answer]
  rcases fetch_cases (s := s) (RevealSchedule.finalPeriod?_of_revealed h) with
    ⟨f, hfail, hfetch⟩ | ⟨f, hnone, hfail, hfetch⟩ | ⟨awards, programs, hnone, hnone', hfetch⟩
  -- without the rows there is nothing to go on with
  · rw [hfetch, Run.bind_of_error rfl]
    exact .awardsFail hfail
  · rw [hfetch, Run.bind_of_error rfl]
    exact .programsFail hnone hfail
  · rw [hfetch]
    cases hsets : GroupedSets.ofRows awards programs q.filters q.category with
    | error f =>
      -- both sets are grouped, so either can overflow, whichever is wanted
      obtain ⟨operation, rfl⟩ := onlyOverflows_ofRows _ _ _ _ f hsets
      rw [Run.bind_of_error rfl]
      exact .overflows
    | ok sets =>
      rw [Run.bind_of_ok rfl]
      cases hset : q.category.rowSet with
      | cumulative =>
        -- no control total is asked for here, even for a reconciling category
        have halone : e.compares q = false := by
          rw [compares, hset]
          rfl
        simp only
        cases htotal : answerCumulative q
            ⟨q.filters.year, q.filters.quarter, last, 3 * q.filters.quarter, true⟩
            (sets.select q.category) with
        | error f =>
          obtain ⟨operation, rfl⟩ := onlyOverflows_answerCumulative _ _ _ f htotal
          exact .overflows
        | ok resp => exact .alone hnone hnone' halone
      | period =>
        -- here the settings and the keys decide
        have hcompares : e.compares q = e.config.isEligible q.category q.filters := by
          rw [compares, hset]
          rfl
        simp only
        rcases answerPeriod_cases e s q last (sets.select q.category) rfl with
          ⟨queries, operation, hx⟩ | ⟨heligible, resp, hx⟩ | ⟨heligible, hcontrol⟩
        · rw [hx]
          exact .overflows
        · rw [hx]
          exact .alone hnone hnone' (hcompares.trans heligible)
        · rcases hcontrol with ⟨f, hfail, hx⟩ | ⟨hanswered, resp, hx⟩
          · rw [hx]
            exact .controlFails hnone hnone' (hcompares.trans heligible) hfail
          · rw [hx]
            exact .compared hnone hnone' (hcompares.trans heligible) hanswered

/-- A hidden window is answered without asking. -/
theorem run_of_hidden (h : e.isRevealed q now = false) : e.run s q now = .pure .unrevealed := by
  rw [run, RevealSchedule.resolve?_of_hidden h]

/-- A refused request is answered with what refuses it, and nothing is asked. -/
theorem explore_of_refused {r : Request} {f : Failure} (h : (e.check r).2 = .error f) :
    (e.explore s r now).run = .fail f := by
  unfold explore
  simp only [h]

/-- A request that passes the checks goes as the run of its inquiry. -/
theorem explore_of_checked {r : Request} (h : (e.check r).2 = .ok q) :
    (e.explore s r now).run = e.run s q now := by
  unfold explore
  simp only [h]

end

end Explorer

/-! ## One request -/

/-- The run ended because a number was too large. -/
def Run.overflows {α : Type} (run : Run α) : Bool :=
  match run.outcome with
  | .error (.overflow _) => true
  | _ => false

/-- The failure says that a number was too large, and in which operation. -/
theorem Run.overflows_iff {α : Type} {run : Run α} :
    run.overflows = true ↔ ∃ operation, run.outcome = .error (.overflow operation) := by
  unfold Run.overflows
  -- of all outcomes one says so
  split
  · next operation h => simp [h]
  · next h => simpa using h

/-- A run that can fail by a number that is too large only, and did not, has ended well. -/
theorem Run.exists_ok_of_safe {α : Type} {run : Run α} (honly : OnlyOverflows run.outcome)
    (hsafe : run.overflows = false) : ∃ a, run.outcome = .ok a := by
  -- a failure would be the one that is excluded
  cases houtcome : run.outcome with
  | ok a => exact ⟨a, rfl⟩
  | error f =>
    obtain ⟨operation, rfl⟩ := honly f houtcome
    rw [Run.overflows_iff.mpr ⟨operation, houtcome⟩] at hsafe
    exact nomatch hsafe

/-- The run of a request asks for what it has to, and fails only if a check or a query does. -/
structure FollowsProtocol (e : Explorer) (s : Source) (r : Request) (now : Instant)
    (run : Run Response) : Prop where
  refused : ∀ f, (e.check r).2 = .error f → run.queries = []
  hidden  : ∀ q, (e.check r).2 = .ok q → e.isRevealed q now = false → run.queries = []
  asked   : ∀ q, (e.check r).2 = .ok q → e.isRevealed q now = true →
              run.queries = s.issued (e.plan q)
  once    : run.queries.Nodup
  fails   : ∀ f, run.outcome = .error f ↔
              (e.check r).2 = .error f ∨ ∃ query ∈ run.queries, s.failure? query = some f

section

variable {e : Explorer} {s : Source} {q : Inquiry} {now : Instant} {run : Run Response}

/-- In each of the ways a run goes, it asks what the plan says until a query fails. -/
theorem Explorer.Goes.queries_eq (h : e.Goes s q run) (hsafe : run.overflows = false) :
    run.queries = s.issued (e.plan q) := by
  -- the plan is cut at the query that failed, which the way tells
  cases h with
  | awardsFail hfail => simp [plan, Source.issued, hfail]
  | programsFail hnone hfail => simp [plan, Source.issued, hnone, hfail]
  | controlFails hnone hnone' hcompares hfail =>
    simp [plan, Source.issued, hnone, hnone', hcompares, hfail]
  | alone hnone hnone' hcompares => simp [plan, Source.issued, hnone, hnone', hcompares]
  | compared hnone hnone' hcompares hanswered =>
    simp [plan, Source.issued, hnone, hnone', hcompares, hanswered]
  | overflows => exact nomatch hsafe

/-- No query is asked twice, since each of the three is for rows of its own. -/
theorem Explorer.Goes.nodup (h : e.Goes s q run) (hsafe : run.overflows = false) :
    run.queries.Nodup := by
  cases h with
  | overflows => exact nomatch hsafe
  | _ => simp [Inquiry.awardQuery, Inquiry.programQuery, Inquiry.controlQuery]

/-- A run fails just in case one of its queries does, and with the same failure. -/
theorem Explorer.Goes.error_iff (h : e.Goes s q run) (hsafe : run.overflows = false)
    (f : Failure) :
    run.outcome = .error f ↔ ∃ query ∈ run.queries, s.failure? query = some f := by
  -- only the last query of a run can have failed; the ones before it gave rows
  cases h with
  | awardsFail hfail => simp [hfail]
  | programsFail hnone hfail => simp [hnone, hfail]
  | controlFails hnone hnone' _ hfail => simp [hnone, hnone', hfail]
  | alone hnone hnone' _ => simp [hnone, hnone']
  | compared hnone hnone' _ hanswered => simp [hnone, hnone', hanswered]
  | overflows => exact nomatch hsafe

/-- **Whatever its kind, a request follows the protocol.** -/
theorem followsProtocol_explore {r : Request} (hsafe : (e.explore s r now).run.overflows = false) :
    FollowsProtocol e s r now (e.explore s r now).run := by
  cases hcheck : (e.check r).2 with
  | error failure =>
    -- no inquiry comes out of the checks, so what is said about one holds of none
    rw [Explorer.explore_of_refused hcheck]
    exact {
      refused := fun _ _ => rfl
      hidden  := fun _ h _ => nomatch hcheck.symm.trans h
      asked   := fun _ h _ => nomatch hcheck.symm.trans h
      once    := List.nodup_nil
      fails   := by simp [hcheck, Run.fail] }
  | ok q =>
    rw [Explorer.explore_of_checked hcheck] at hsafe ⊢
    cases hrevealed : e.isRevealed q now with
    | false =>
      rw [Explorer.run_of_hidden hrevealed]
      refine {
        refused := fun _ _ => rfl
        hidden  := fun _ _ _ => rfl
        asked   := ?_
        once    := List.nodup_nil
        fails   := by simp [hcheck, Run.pure] }
      -- the checks give one inquiry, and its window is hidden
      intro q' hq' hrevealed'
      obtain rfl : q = q' := Except.ok.inj (hcheck.symm.trans hq')
      rw [hrevealed] at hrevealed'
      contradiction
    | true =>
      have hgoes := Explorer.goes_of_revealed (s := s) hrevealed
      refine {
        refused := fun _ h => nomatch hcheck.symm.trans h
        hidden  := ?_
        asked   := ?_
        once    := hgoes.nodup hsafe
        fails   := ?_ }
      · intro q' hq' hhidden
        -- both inquiries are what the checks gave
        obtain rfl : q = q' := Except.ok.inj (hcheck.symm.trans hq')
        rw [hrevealed] at hhidden
        contradiction
      · intro q' hq' _
        obtain rfl : q = q' := Except.ok.inj (hcheck.symm.trans hq')
        exact hgoes.queries_eq hsafe
      · intro f
        rw [hgoes.error_iff hsafe, hcheck]
        simp

end

/-! ## One request after the other -/

/-- A request with the time at which it is made and the queries that are refused then. -/
structure Visit where
  request : Request
  now : Instant
  refusal : Query → Option Failure

namespace Visit

/-- The source as the visit finds it. -/
def source (v : Visit) (s : Source) : Source := s.refusing v.refusal

/-- Those of the queries that are not refused on the way to the source. -/
def reaching (v : Visit) (queries : List Query) : List Query :=
  queries.filter fun query => (v.refusal query).isNone

/-- If nothing is refused on the way, all queries reach the source. -/
theorem reaching_of_open {v : Visit} (h : ∀ query, v.refusal query = none)
    (queries : List Query) : v.reaching queries = queries := by
  rw [reaching, List.filter_eq_self]
  intro query _
  rw [h query]
  rfl

end Visit

namespace Explorer

/-- A visit to a source on its own. -/
def visit (e : Explorer) (s : Source) (v : Visit) : Report :=
  e.explore (v.source s) v.request v.now

/-- Visits to a store one after the other. The store counts what reaches it. -/
def serveThrough (e : Explorer) (s : Store) : List Visit → List Report × Store
  | [] => ([], s)
  | v :: rest =>
    let report := e.visit s.source v
    let (reports, last) := e.serveThrough (s.after (v.reaching report.run.queries)) rest
    (report :: reports, last)

/-- **Visits do not influence each other.** The reports are those of each visit alone, and all that
is left of them is a number. -/
theorem serveThrough_eq (e : Explorer) (visits : List Visit) (s : Store) :
    e.serveThrough s visits =
      (visits.map (e.visit s.source),
        s.after (visits.flatMap fun v => v.reaching (e.visit s.source v).run.queries)) := by
  -- on the visits that are left, from any state of the store
  induction visits generalizing s with
  | nil => rfl
  | cons v rest ih =>
    -- what was counted does not change an answer, so the rest goes as from the start
    have hsame : ∀ queries, (s.after queries).source = s.source := fun _ => rfl
    rw [serveThrough, ih]
    simp only [hsame, List.map_cons, List.flatMap_cons]
    rw [Store.after_append]

/-- Where nothing is refused on the way, the requests are served. -/
theorem serve_eq_serveThrough (e : Explorer) (requests : List (Request × Instant)) (s : Store) :
    e.serve s requests =
      e.serveThrough s (requests.map fun x => ⟨x.1, x.2, fun _ => none⟩) := by
  -- on the requests, from any state of the store
  induction requests generalizing s with
  | nil => rfl
  | cons x rest ih =>
    obtain ⟨r, now⟩ := x
    -- without refusals the visit sees the source itself
    have hvisit : e.visit s.source ⟨r, now, fun _ => none⟩ = e.explore s.source r now := rfl
    rw [serve, List.map_cons, serveThrough, Visit.reaching_of_open fun _ => rfl]
    simp only [hvisit, ih]

end Explorer

/-- **Every visit follows the protocol.** Visits to a store one after the other go as each does
alone, and the store counts the queries that reach it. -/
theorem visits_follow_protocol (e : Explorer) (source : Source) (visits : List Visit)
    (hsafe : ∀ v ∈ visits, (e.visit source v).run.overflows = false) :
    (∀ v ∈ visits,
      FollowsProtocol e (v.source source) v.request v.now (e.visit source v).run) ∧
    ∀ s : Store, s.source = source →
      (e.serveThrough s visits).1 = visits.map (e.visit source) ∧
      (e.serveThrough s visits).2 =
        s.after (visits.flatMap fun v => v.reaching (e.visit source v).run.queries) ∧
      ((∀ v ∈ visits, ∀ query, v.refusal query = none) →
        (e.serveThrough s visits).2.served =
          s.served + (visits.map fun v => (e.visit source v).run.queries.length).sum) := by
  refine ⟨fun v hv => followsProtocol_explore (hsafe v hv), ?_⟩
  rintro s rfl
  rw [Explorer.serveThrough_eq]
  refine ⟨rfl, rfl, fun hopen => ?_⟩
  -- the store has served as many queries as all visits sent, since none was refused
  show s.served + (List.flatMap _ visits).length = _
  rw [List.length_flatMap]
  congr 2
  refine List.map_congr_left fun v hv => ?_
  rw [Visit.reaching_of_open (hopen v hv)]

namespace Sample

/-- The source does not answer for the program rows. -/
def refusePrograms (query : Query) : Option Failure :=
  if query = inquiry.programQuery then some (.source "program_activity_rows: down") else none

/-- One request goes through, one fails on its way, one is early, and one names no category. -/
def visits : List Visit :=
  [⟨request, today, fun _ => none⟩,
   ⟨request, today, refusePrograms⟩,
   ⟨request, .midnight lastDay, fun _ => none⟩,
   ⟨{ request with category := none }, today, fun _ => none⟩]

theorem overflows_visits :
    ∀ v ∈ visits, (explorer.visit store.source v).run.overflows = false := by
  decide +kernel

end Sample

/-- Each visit of the sample goes as it does alone, also after one that failed. -/
theorem visits_follow_protocol_sample :
    (∀ v ∈ Sample.visits, FollowsProtocol Sample.explorer (v.source Sample.store.source) v.request
      v.now (Sample.explorer.visit Sample.store.source v).run) ∧
    (Sample.explorer.serveThrough Sample.store Sample.visits).1 =
      Sample.visits.map (Sample.explorer.visit Sample.store.source) := by
  obtain ⟨hfollows, hserved⟩ := visits_follow_protocol Sample.explorer Sample.store.source
    Sample.visits Sample.overflows_visits
  exact ⟨hfollows, (hserved Sample.store rfl).1⟩

/-- Three queries of the first visit and one of the second. -/
example : (Sample.explorer.serveThrough Sample.store Sample.visits).2.served = 4 := by
  decide +kernel

end Obligations
