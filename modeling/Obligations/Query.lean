import Obligations.Failure
import Obligations.Row

/-!
# Obligations — queries

What is asked of a source of reported data, and computations that ask.

* `Query` — a question about a fiscal year;
* `Source` — a source as the answers it gives; it may refuse any of them
  (`Source.refusing`);
* `Run` — a computation with the queries it issued, in order. A failure ends it.
-/

namespace Obligations

/-! ## Queries -/

/-- Which submissions of a fiscal year are meant. -/
inductive Scope where
  /-- All from the start of the year through a quarter. -/
  | throughQuarter (quarter : Nat)
  /-- Those of a single period. -/
  | inPeriod (period : Nat)
deriving DecidableEq

/-- The submission belongs to the year and the scope. -/
def Scope.includes (s : Scope) (year : Int) (submission : Submission) : Bool :=
  submission.year == year &&
    match s with
    | throughQuarter quarter => decide (submission.quarter ≤ quarter)
    | inPeriod period => submission.period == period

/-- A question about a fiscal year. -/
inductive Query where
  | awardRows (year : Int) (scope : Scope)
  | programRows (year : Int) (scope : Scope)
  | controlTotal (year : Int) (period : Nat)
deriving DecidableEq

/-- The name under which the refusal of a query is reported. -/
def Query.name : Query → String
  | awardRows _ _ => "award_financial_rows"
  | programRows _ _ => "program_activity_rows"
  | controlTotal _ _ => "control_total"

/-- A source of reported data, as the answers it gives. -/
structure Source where
  /-- The rows of awards within the scope. -/
  awardRows : Int → Scope → Except Failure (List Row)
  /-- The rows of program activities within the scope. -/
  programRows : Int → Scope → Except Failure (List ProgramRow)
  /-- The total of the control rows of a period; none if there are none, which is not the
  same as a total of zero. -/
  controlTotal : Int → Nat → Except Failure (Option Amount)

/-! ## Runs -/

/-- A computation that has ended: the queries it issued and how it ended. -/
structure Run (α : Type) where
  queries : List Query
  outcome : Except Failure α

namespace Run

variable {α β : Type}

def pure (a : α) : Run α := ⟨[], .ok a⟩

def fail (f : Failure) : Run α := ⟨[], .error f⟩

/-- An outcome without queries. -/
def lift (x : Except Failure α) : Run α := ⟨[], x⟩

/-- One query and its answer. -/
def ask (q : Query) (answer : Except Failure α) : Run α := ⟨[q], answer⟩

/-- Goes on with `f` unless the computation failed. -/
def bind (x : Run α) (f : α → Run β) : Run β :=
  match x.outcome with
  | .error e => ⟨x.queries, .error e⟩
  | .ok a => ⟨x.queries ++ (f a).queries, (f a).outcome⟩

instance : Monad Run where
  pure := pure
  bind := bind

end Run

namespace Source

/-- The source, but with the queries refused for which `refusal` gives a failure. -/
def refusing (refusal : Query → Option Failure) (s : Source) : Source where
  awardRows year scope :=
    match refusal (.awardRows year scope) with
    | some failure => .error failure
    | none => s.awardRows year scope
  programRows year scope :=
    match refusal (.programRows year scope) with
    | some failure => .error failure
    | none => s.programRows year scope
  controlTotal year period :=
    match refusal (.controlTotal year period) with
    | some failure => .error failure
    | none => s.controlTotal year period

def askAwardRows (s : Source) (year : Int) (scope : Scope) : Run (List Row) :=
  .ask (.awardRows year scope) (s.awardRows year scope)

def askProgramRows (s : Source) (year : Int) (scope : Scope) : Run (List ProgramRow) :=
  .ask (.programRows year scope) (s.programRows year scope)

def askControlTotal (s : Source) (year : Int) (period : Nat) : Run (Option Amount) :=
  .ask (.controlTotal year period) (s.controlTotal year period)

end Source

end Obligations
