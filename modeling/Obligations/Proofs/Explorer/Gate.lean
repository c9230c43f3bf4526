import Obligations.Proofs.Explorer.FromRows
import Obligations.Proofs.Explorer.Protocol

/-!
# Obligations — what time has to do with it

What is wrong with a request is wrong at every time, under every schedule and for every store,
and the first thing that is wrong is what it is refused with. A request that is not refused is
about the window of its quarter. Before that window is revealed nothing is asked and nothing
shown, and from that instant on the request always goes the same way. Time has no other
influence.

* `Failure.isRefusal`, `Refuses` — a request and the first thing that is wrong with it;
* `Explorer.check_eq_error`, `Explorer.refused_iff` — the checks find that, and no failure of
  what is done after them is taken for it;
* `Explorer.run_congr`, `Explorer.Answers.shown` — the run of a revealed window;
* `OpensOnce` — how a checked request depends on time;
* `time_acts_through_gate` — a request is refused at all times alike, or opens once.
-/

namespace Obligations

/-! ## Refused requests -/

/-- The failure is the fault of a request. -/
def Failure.isRefusal : Failure → Bool
  | .category _ | .parameter _ => true
  | _ => false

/-- The first thing that is wrong with a request. -/
inductive Refuses (c : Config) (r : Request) : Failure → Prop
  | category {fault : CategoryFault} :
      c.category r.category = .error fault → Refuses c r (.category fault)
  | filters {x : Category} {fault : ParameterFault} :
      c.category r.category = .ok x → (Filters.read r.filters).2 = .error fault →
      Refuses c r (.parameter fault)
  | limit {x : Category} {f : Filters} :
      c.category r.category = .ok x → (Filters.read r.filters).2 = .ok f → r.limit = some 0 →
      Refuses c r (.parameter .zeroLimit)

namespace Explorer

/-- The same settings but for the schedule. -/
def withSchedule (e : Explorer) (schedule : RevealSchedule) : Explorer :=
  ⟨{ e.config with schedule := schedule }, e.valid⟩

theorem check_withSchedule (e : Explorer) (schedule : RevealSchedule) (r : Request) :
    (e.withSchedule schedule).check r = e.check r := rfl

theorem checkLimit_eq_error {limit : Option Nat} {f : Failure} :
    checkLimit limit = .error f ↔ limit = some 0 ∧ f = .parameter .zeroLimit := by
  cases limit with
  | none => simp [checkLimit]
  | some n => cases n <;> simp [checkLimit, eq_comm]

/-- **What a request is refused with is the first thing that is wrong with it.** The category is
looked at first, then the filters, then the limit. -/
theorem check_eq_error {e : Explorer} {r : Request} {f : Failure} :
    (e.check r).2 = .error f ↔ Refuses e.config r f := by
  unfold check
  cases hcategory : e.config.category r.category with
  | error fault =>
    -- nothing else is looked at
    constructor
    · intro h
      injection h with h
      exact h ▸ .category hcategory
    · intro h
      cases h with
      | category h =>
        rw [hcategory] at h
        injection h with h
        rw [h]
      | filters h _ => exact nomatch hcategory.symm.trans h
      | limit h _ _ => exact nomatch hcategory.symm.trans h
  | ok x =>
    show (_ >>= _) = _ ↔ _
    rw [bind_eq_error, mapError_eq_error]
    constructor
    · rintro (⟨fault, hread, rfl⟩ | ⟨filters, hread, h⟩)
      · exact .filters hcategory hread
      · -- what fails after the filters are read is the limit
        obtain hlimit | ⟨_, _, h⟩ := bind_eq_error.mp h
        · obtain ⟨hzero, rfl⟩ := checkLimit_eq_error.mp hlimit
          exact .limit hcategory (mapError_eq_ok.mp hread) hzero
        · exact nomatch h
    · intro h
      cases h with
      | category h => exact nomatch hcategory.symm.trans h
      | filters _ hread => exact Or.inl ⟨_, hread, rfl⟩
      | limit _ hread hzero =>
        exact Or.inr ⟨_, mapError_eq_ok.mpr hread,
          bind_eq_error.mpr (Or.inl (checkLimit_eq_error.mpr ⟨hzero, rfl⟩))⟩

end Explorer

/-! ## Failures of accepted requests -/

/-- A store does not fail with the fault of a request. -/
theorem Store.not_refusal_of_failure? {s : Store} {query : Query} {f : Failure}
    (h : s.source.failure? query = some f) : f.isRefusal = false := by
  cases hfailing : s.failure with
  | some message =>
    -- every query is refused, in the words of the store
    have hrefused : s.source.failure? query = some (.source (query.name ++ ": " ++ message)) := by
      cases query <;> simp only [Source.failure?, source, Source.refusing, refusal, hfailing,
        Option.map_some, failureOf]
    rw [hrefused] at h
    injection h with h
    exact h ▸ rfl
  | none =>
    -- rows are there, so what can fail is to add the control rows up
    rw [source_of_open hfailing] at h
    cases query with
    | awardRows year scope =>
      have hgiven : s.answers.failure? (.awardRows year scope) = none := rfl
      rw [hgiven] at h
      contradiction
    | programRows year scope =>
      have hgiven : s.answers.failure? (.programRows year scope) = none := rfl
      rw [hgiven] at h
      contradiction
    | controlTotal year period =>
      obtain ⟨operation, rfl⟩ := onlyOverflows_sumAmounts _ f (failureOf_eq_some.mp h)
      rfl

namespace Explorer

section

variable {e : Explorer} {s : Store} {q : Inquiry} {now later : Instant}

/-- A run fails as one of its queries does, or because a number is too large. Neither is the fault
of the request. -/
theorem Goes.not_refusal {run : Run Response} {f : Failure} (h : e.Goes s.source q run)
    (hfail : run.outcome = .error f) : f.isRefusal = false := by
  cases hsafe : run.overflows with
  | true =>
    obtain ⟨operation, hoverflow⟩ := Run.overflows_iff.mp hsafe
    rw [hfail] at hoverflow
    injection hoverflow with hoverflow
    exact hoverflow ▸ rfl
  | false =>
    -- a run that does not leave the range fails as one of its queries does
    obtain ⟨query, -, hquery⟩ := (h.error_iff hsafe f).mp hfail
    exact Store.not_refusal_of_failure? hquery

theorem not_refusal_of_run {f : Failure} (h : (e.run s.source q now).outcome = .error f) :
    f.isRefusal = false := by
  cases hrevealed : e.isRevealed q now with
  | false =>
    rw [run_of_hidden hrevealed] at h
    exact nomatch h
  | true => exact (goes_of_revealed hrevealed).not_refusal h

/-- So an explorer refuses a request just in case the checks do, whatever the store and the time
are. -/
theorem refused_iff {r : Request} {f : Failure} (hrefusal : f.isRefusal = true) :
    (e.explore s.source r now).run.outcome = .error f ↔ Refuses e.config r f := by
  rw [← check_eq_error]
  cases hcheck : (e.check r).2 with
  | error failure =>
    rw [explore_of_refused hcheck]
    simp [Run.fail]
  | ok q =>
    rw [explore_of_checked hcheck]
    constructor
    · -- the run may fail as well, but not with a refusal
      intro h
      rw [not_refusal_of_run h] at hrefusal
      contradiction
    · intro h
      contradiction

/-! ## The run of a revealed window -/

/-- The window of the quarter that is asked about. -/
def window? (e : Explorer) (q : Inquiry) : Option SubmissionWindow :=
  e.config.schedule.window? q.filters.year q.filters.quarter

/-- To be revealed is to have a window with a reveal that is not in the future. -/
theorem isRevealed_iff :
    e.isRevealed q now = true ↔ ∃ w, e.window? q = some w ∧ w.reveal ≤ now :=
  RevealSchedule.isRevealed_iff

/-- **Once its window is revealed a request always goes the same way.** -/
theorem run_congr (h : e.isRevealed q now = true) (h' : e.isRevealed q later = true) :
    e.run s.source q now = e.run s.source q later := by
  obtain ⟨last, hlast, hwindow⟩ := RevealSchedule.resolve?_of_revealed h
  obtain ⟨last', hlast', hwindow'⟩ := RevealSchedule.resolve?_of_revealed h'
  -- both windows are made from the schedule, and `now` is not part of them
  rw [hlast] at hlast'
  injection hlast' with hsame
  rw [run, run, hwindow, hwindow', hsame]

/-- A revealed response shows the end of its quarter and some results, if only an empty list. -/
theorem Answers.shown {resp : Response} (h : e.Answers s.source q now resp)
    (hrevealed : e.isRevealed q now = true) :
    resp.endDate = e.periodEnd? q ∧ resp.results.isSome = true := by
  cases h with
  | hidden hhidden =>
    rw [hrevealed] at hhidden
    contradiction
  | _ => exact ⟨rfl, rfl⟩

theorem Answers.unrevealed_of_hidden {resp : Response} (h : e.Answers s.source q now resp)
    (hhidden : e.isRevealed q now = false) : resp = .unrevealed := by
  cases h with
  | hidden _ => rfl
  | cumulative hrevealed | uncompared hrevealed | incomparable hrevealed
  | reconciled hrevealed =>
    rw [hhidden] at hrevealed
    contradiction

/-- So whether there are results tells whether the window was revealed. -/
theorem Answers.results_eq_none_iff {resp : Response} (h : e.Answers s.source q now resp) :
    resp.results = none ↔ e.isRevealed q now = false := by
  constructor
  · intro hnone
    by_contra hrevealed
    have hsome := (h.shown (Bool.eq_true_of_not_eq_false hrevealed)).2
    rw [hnone] at hsome
    contradiction
  · intro hhidden
    rw [h.unrevealed_of_hidden hhidden]
    rfl

end

end Explorer

/-! ## What time has to do with it -/

/-- The request goes one way until the window is revealed, and one way from then on. -/
structure OpensOnce (e : Explorer) (s : Store) (r : Request) (window : Option SubmissionWindow) :
    Prop where
  /-- Without a window this is so at every time. -/
  hidden : ∀ now, (∀ w, window = some w → now < w.reveal) →
    (e.explore s.source r now).run = .pure .unrevealed
  same : ∀ w, window = some w → ∀ now later, w.reveal ≤ now → w.reveal ≤ later →
    (e.explore s.source r now).run = (e.explore s.source r later).run
  shown : ∀ w, window = some w → ∀ now resp, w.reveal ≤ now →
    (e.explore s.source r now).run.outcome = .ok resp →
    resp.endDate = some w.periodEnd ∧ resp.results.isSome = true
  empty_iff : ∀ now resp, (e.explore s.source r now).run.outcome = .ok resp →
    (resp.results = none ↔ ¬ ∃ w, window = some w ∧ w.reveal ≤ now)
  stays : ∀ now later resp, now ≤ later → (e.explore s.source r now).run.outcome = .ok resp →
    resp.results.isSome = true → (e.explore s.source r later).run = (e.explore s.source r now).run

theorem opensOnce_of_checked {e : Explorer} {s : Store} {r : Request} {q : Inquiry}
    (h : (e.check r).2 = .ok q) : OpensOnce e s r (e.window? q) := by
  -- the request passed the checks, so from here on only the run depends on time
  have hrun (now : Instant) : (e.explore s.source r now).run = e.run s.source q now :=
    Explorer.explore_of_checked h
  have hanswers {now : Instant} {resp : Response}
      (hresp : (e.explore s.source r now).run.outcome = .ok resp) :
      e.Answers s.source q now resp := Explorer.answers_of_checked h hresp
  have hrevealed {w : SubmissionWindow} {now : Instant} (hw : e.window? q = some w)
      (hle : w.reveal ≤ now) : e.isRevealed q now = true :=
    Explorer.isRevealed_iff.mpr ⟨w, hw, hle⟩
  refine { hidden := ?_, same := ?_, shown := ?_, empty_iff := ?_, stays := ?_ }
  · intro now hearly
    -- a window that were revealed would be revealed before its time
    have hhidden : e.isRevealed q now = false := by
      rw [← Bool.not_eq_true, Explorer.isRevealed_iff]
      rintro ⟨w, hw, hle⟩
      exact Int.not_le.mpr (hearly w hw) hle
    rw [hrun, Explorer.run_of_hidden hhidden]
  · -- from the reveal on, both instants are behind it
    intro w hw now later hle hle'
    rw [hrun, hrun, Explorer.run_congr (hrevealed hw hle) (hrevealed hw hle')]
  · intro w hw now resp hle hresp
    obtain ⟨hend, hresults⟩ := (hanswers hresp).shown (hrevealed hw hle)
    have hlast : e.periodEnd? q = some w.periodEnd := congrArg (Option.map _) hw
    exact ⟨hend.trans hlast, hresults⟩
  · intro now resp hresp
    rw [(hanswers hresp).results_eq_none_iff, ← Explorer.isRevealed_iff, Bool.not_eq_true]
  · intro now later resp hle hresp hresults
    -- there are results, so it was revealed already
    have hopen : e.isRevealed q now = true := by
      rw [← Bool.not_eq_false, ← (hanswers hresp).results_eq_none_iff]
      exact Option.isSome_iff_ne_none.mp hresults
    rw [hrun, hrun, Explorer.run_congr (RevealSchedule.isRevealed_of_le hle hopen) hopen]

/-- **Time acts through the schedule alone.** What refuses a request is the first thing that is
wrong with it, at every time, under every schedule and for every store. A request that is not
refused opens once, when the window of its quarter is revealed. -/
theorem time_acts_through_gate (e : Explorer) (r : Request) :
    (∀ schedule (s : Store) now f, f.isRefusal = true →
      (((e.withSchedule schedule).explore s.source r now).run.outcome = .error f ↔
        Refuses e.config r f)) ∧
    ∀ (s : Store) q, (e.check r).2 = .ok q →
      OpensOnce e s r (e.config.schedule.window? q.filters.year q.filters.quarter) := by
  refine ⟨fun schedule s now f hrefusal => ?_, fun s q hq => opensOnce_of_checked hq⟩
  -- the schedule is not part of what refuses a request
  rw [Explorer.refused_iff hrefusal, ← Explorer.check_eq_error, Explorer.check_withSchedule,
    Explorer.check_eq_error]

namespace Sample

/-- It names no category, and its limit is zero. -/
def faultyRequest : Request := { request with category := none, limit := some 0 }

end Sample

/-- The first of the faults counts. A sound request is hidden on the last day of its quarter and
shown from the very instant of the reveal. -/
theorem time_acts_through_gate_sample :
    (∀ schedule (s : Store) now,
      ((Sample.explorer.withSchedule schedule).explore s.source Sample.faultyRequest
        now).run.outcome = .error (.category .missing)) ∧
    (Sample.explorer.explore Sample.store.source Sample.request
      (.midnight Sample.lastDay)).run = .pure .unrevealed ∧
    (Sample.explorer.explore Sample.store.source Sample.request
      (.midnight Sample.revealDay)).run.outcome = .ok Sample.response := by
  refine ⟨fun schedule s now => ?_, ?_⟩
  · have hrefuses : Refuses Sample.explorer.config Sample.faultyRequest (.category .missing) :=
      .category rfl
    exact ((time_acts_through_gate Sample.explorer Sample.faultyRequest).1 schedule s now _
      rfl).mpr hrefuses
  · have hopens := (time_acts_through_gate Sample.explorer Sample.request).2 Sample.store
      Sample.inquiry Sample.check_request
    refine ⟨hopens.hidden _ ?_, ?_⟩
    · -- the last day of the quarter comes before the reveal
      intro w hw
      injection hw with hw
      rw [← hw]
      decide
    · rw [hopens.same _ rfl _ Sample.today (by decide) (by decide)]
      exact Sample.explore_request

end Obligations
