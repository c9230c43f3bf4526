import Obligations.Proofs.Explorer.FromRows

/-!
# Obligations — rows that do not count

A request is answered from the rows of one set, year and quarter or period. Both sets are
asked for and grouped, but the other rows can act in one way only: their amounts may be too
large to be added. Apart from that, two stores that hold the same rows in scope give the same
answer, down to the order of the entries and the scale of each amount.

* `Inquiry.coversAward`, `Inquiry.coversProgram`, `Inquiry.coversControl` — the rows in scope;
* `Store.AgreeInScope` — two stores have the same rows in scope;
* `outcome_eq_of_agreeInScope` — such stores give the same outcome.
-/

namespace Obligations

/-! ## Scope -/

namespace Inquiry

/-- The award row belongs to the year, from its start through the quarter. -/
def coversAward (q : Inquiry) (r : Row) : Bool :=
  decide (r.submission.year = q.filters.year ∧ r.submission.quarter ≤ q.filters.quarter)

/-- The program row belongs to the last period of the quarter. -/
def coversProgram (q : Inquiry) (r : ProgramRow) : Bool :=
  decide (r.submission.year = q.filters.year ∧ r.submission.period = 3 * q.filters.quarter)

/-- The control row belongs to the last period of the quarter. -/
def coversControl (q : Inquiry) (r : ControlRow) : Bool :=
  decide (r.year = q.filters.year ∧ r.period = 3 * q.filters.quarter)

end Inquiry

namespace Store

variable {s t : Store} {q : Inquiry}

/-- What the store selects are the award rows in scope. -/
theorem awardRowsFor_eq_filter : s.awardRowsFor q = s.awardRows.filter q.coversAward := by
  unfold awardRowsFor awardRowsIn
  refine List.filter_congr fun r _ => ?_
  simp [Scope.includes, Inquiry.coversAward, Bool.decide_and, beq_eq_decide]

/-- And the program rows in scope, seen as rows without an award. -/
theorem programRowsFor_eq_filter :
    s.programRowsFor q = (s.programRows.filter q.coversProgram).map ProgramRow.toRow := by
  unfold programRowsFor programRowsIn
  congr 1
  refine List.filter_congr fun r _ => ?_
  simp [Scope.includes, Inquiry.coversProgram, Inquiry.finalPeriod, Bool.decide_and,
    beq_eq_decide]

/-- And the amounts of the control rows in scope. -/
theorem controlAmountsFor_eq_filter :
    s.controlAmountsFor q = (s.controlRows.filter q.coversControl).map ControlRow.amount := by
  unfold controlAmountsFor controlRowsIn
  congr 1
  refine List.filter_congr fun r _ => ?_
  simp [Inquiry.coversControl, Inquiry.finalPeriod, Bool.decide_and, beq_eq_decide]

/-- The stores have the same rows, in the same order, where the request is answered from.
Nothing is said about the other set, nor about rows out of scope. -/
structure AgreeInScope (s t : Store) (q : Inquiry) : Prop where
  awards   : q.category.rowSet = .cumulative →
               s.awardRows.filter q.coversAward = t.awardRows.filter q.coversAward
  programs : q.category.rowSet = .period →
               s.programRows.filter q.coversProgram = t.programRows.filter q.coversProgram
  controls : q.category.rowSet = .period →
               s.controlRows.filter q.coversControl = t.controlRows.filter q.coversControl

/-- Stores that agree in scope give the same rows to answer from, whichever set it is. -/
theorem AgreeInScope.rowsFor_eq (h : s.AgreeInScope t q) : s.rowsFor q = t.rowsFor q := by
  unfold rowsFor
  -- for each set, nothing is known of the rows of the other one
  cases hset : q.category.rowSet with
  | cumulative =>
    simp only
    rw [awardRowsFor_eq_filter, awardRowsFor_eq_filter, h.awards hset]
  | period =>
    simp only
    rw [programRowsFor_eq_filter, programRowsFor_eq_filter, h.programs hset]

end Store

/-! ## Outcomes -/

section

variable {e : Explorer} {s t : Store} {q : Inquiry} {now : Instant}

/-- The control rows are those in scope, or they are not looked at. -/
theorem Explorer.respond_of_agreeInScope (h : s.AgreeInScope t q) (entries : List Entry) :
    e.respond q entries (s.controlAmountsFor q) = e.respond q entries (t.controlAmountsFor q) := by
  unfold respond
  cases hset : q.category.rowSet with
  | cumulative => rfl
  | period =>
    simp only
    rw [Store.controlAmountsFor_eq_filter, Store.controlAmountsFor_eq_filter, h.controls hset]

/-- Where no number is too large, the outcome is that of the rows in scope. -/
theorem Explorer.outcome_of_safe (hs : s.failure = none) (hrevealed : e.isRevealed q now = true)
    (hsafe : (e.run s.source q now).overflows = false) :
    (e.run s.source q now).outcome =
      groupEntries (s.rowsFor q) q.filters q.category >>= fun entries =>
        e.respond q entries (s.controlAmountsFor q) := by
  rw [outcome_of_revealed hs hrevealed]
  -- what the award rows group into is not looked at, only whether they can be grouped
  cases hawards : groupEntries (s.awardRowsFor q) q.filters q.category with
  | ok awards => rfl
  | error f =>
    -- the grouping of the award rows could only fail by an overflow
    obtain ⟨operation, rfl⟩ := onlyOverflows_groupEntries _ _ _ f hawards
    rw [Run.overflows, outcome_of_revealed hs hrevealed, hawards] at hsafe
    exact nomatch hsafe

/-- **Rows out of scope never influence an answer.** -/
theorem outcome_eq_of_agreeInScope {r : Request} (hs : s.failure = none) (ht : t.failure = none)
    (hscope : ∀ q, (e.check r).2 = .ok q → s.AgreeInScope t q)
    (hsafe : (e.explore s.source r now).run.overflows = false)
    (hsafe' : (e.explore t.source r now).run.overflows = false) :
    (e.explore s.source r now).run.outcome = (e.explore t.source r now).run.outcome := by
  -- the checks and the gate do not look at the store at all
  cases hcheck : (e.check r).2 with
  | error f => rw [Explorer.explore_of_refused hcheck, Explorer.explore_of_refused hcheck]
  | ok q =>
    have hagree := hscope q hcheck
    rw [Explorer.explore_of_checked hcheck] at hsafe hsafe' ⊢
    rw [Explorer.explore_of_checked hcheck]
    cases hrevealed : e.isRevealed q now with
    | false => rw [Explorer.run_of_hidden hrevealed, Explorer.run_of_hidden hrevealed]
    | true =>
      rw [Explorer.outcome_of_safe hs hrevealed hsafe, Explorer.outcome_of_safe ht hrevealed hsafe',
        hagree.rowsFor_eq]
      -- the same rows group into the same entries, and these are answered with the same controls
      congr 1
      funext entries
      exact Explorer.respond_of_agreeInScope hagree entries

end

namespace Sample

/-- An award row of the same object class, in the same quarter. -/
def awardRow : Row where
  submission     := .ofPeriod 2020 6
  classification := (row 1 10 .zero).classification
  award          := some ⟨7, some "W911", none, none, some "A", none, none⟩
  amount         := amount 999 1

/-- The rows of the sample between rows of another set, other periods and another year. -/
def crowdedStore : Store where
  awardRows   := [awardRow]
  programRows :=
    [⟨.ofPeriod 2020 5, (row 1 10 .zero).classification, amount 4 0⟩]
      ++ store.programRows ++ [⟨.ofPeriod 2019 6, (row 1 11 .zero).classification, amount 8 0⟩]
  controlRows := [⟨2020, 3, amount 1 0⟩] ++ store.controlRows ++ [⟨2021, 6, amount 2 0⟩]
  failure     := none
  served      := 0

/-- The crowd around the rows of the sample is out of scope. -/
theorem agreeInScope_crowded {q : Inquiry} (hq : (explorer.check request).2 = .ok q) :
    store.AgreeInScope crowdedStore q := by
  rw [check_request] at hq
  injection hq with hq
  subst hq
  exact ⟨fun h => (nomatch h), fun _ => by decide, fun _ => by decide⟩

end Sample

/-- So the crowded store answers as the sample does. -/
theorem outcome_eq_of_agreeInScope_sample :
    (Sample.explorer.explore Sample.store.source Sample.request Sample.today).run.outcome =
      (Sample.explorer.explore Sample.crowdedStore.source Sample.request
        Sample.today).run.outcome :=
  outcome_eq_of_agreeInScope rfl rfl (fun _ => Sample.agreeInScope_crowded) (by decide +kernel)
    (by decide +kernel)

end Obligations
