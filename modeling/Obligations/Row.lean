import Obligations.Amount.Basic

/-!
# Obligations — reported rows

What agencies submit. A row belongs to the submission it was filed under, is classified
along the dimensions of the budget, may concern an award, and obligates an amount.

* `Row` — a row as grouping and filtering see it; the rows of awards are of this form;
* `ProgramRow` — a row of a program activity, which concerns no award (`ProgramRow.toRow`);
* `ControlRow` — a line of the government's own totals.
-/

namespace Obligations

/-- The period a row was filed under. -/
structure Submission where
  year : Int
  quarter : Nat
  period : Nat
deriving DecidableEq

/-- The submission of a period, in the quarter it belongs to. -/
def Submission.ofPeriod (year : Int) (period : Nat) : Submission :=
  ⟨year, (period + 2) / 3, period⟩

/-! ## Dimensions -/

/-- An agency, program activity or object class. -/
structure Entity where
  id : Nat
  code : String
  name : String
deriving DecidableEq

/-- A budget function or subfunction, which has no id besides its code. -/
structure BudgetLabel where
  code : String
  title : String
deriving DecidableEq

/-- An account of the federal government. -/
structure FederalAccount where
  id : Nat
  agencyIdentifier : String
  mainAccountCode : String
  title : String
deriving DecidableEq

def FederalAccount.number (a : FederalAccount) : String :=
  a.agencyIdentifier ++ "-" ++ a.mainAccountCode

/-- Where a row stands in the budget. -/
structure Classification where
  agency : Option Entity
  subtierAgency : Option Entity
  federalAccount : Option FederalAccount
  budgetFunction : Option BudgetLabel
  budgetSubfunction : Option BudgetLabel
  programActivity : Option Entity
  objectClass : Option Entity
deriving DecidableEq

def Classification.none : Classification := ⟨.none, .none, .none, .none, .none, .none, .none⟩

/-! ## Awards -/

/-- Who an award was made to. -/
structure Recipient where
  id : Nat
  uniqueId : Option String
  name : String
deriving DecidableEq

/-- A contract, grant, loan or other award. -/
structure Award where
  id : Nat
  piid : Option String
  fain : Option String
  uri : Option String
  category : Option String
  recipient : Option Recipient
  awardingAgency : Option Entity
deriving DecidableEq

/-- The code an award is shown with: its PIID, FAIN or URI, whichever is the first that is
given and not empty. -/
def Award.displayCode? (a : Award) : Option String :=
  [a.piid, a.fain, a.uri].findSome? fun code => code.filter (· ≠ "")

/-! ## Rows -/

/-- A row as grouping and filtering see it. -/
structure Row where
  submission : Submission
  classification : Classification
  award : Option Award
  amount : Amount
deriving DecidableEq

/-- A row of a program activity, which concerns no award. -/
structure ProgramRow where
  submission : Submission
  classification : Classification
  amount : Amount
deriving DecidableEq

/-- The row as one without an award. -/
def ProgramRow.toRow (r : ProgramRow) : Row := ⟨r.submission, r.classification, none, r.amount⟩

/-- A part of the total obligations of the government in a period. -/
structure ControlRow where
  year : Int
  period : Nat
  amount : Amount
deriving DecidableEq

end Obligations
