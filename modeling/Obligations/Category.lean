import Obligations.Json.Decode

/-!
# Obligations — spending categories

The dimensions by which obligations can be grouped, in the order in which they are listed
to users, with the name each goes by and the set of rows each is drawn from.
-/

namespace Obligations

/-- The dimensions by which obligations can be grouped. -/
inductive Category where
  | budgetFunction
  | budgetSubfunction
  | federalAccount
  | programActivity
  | objectClass
  | recipient
  | award
  | awardCategory
  | agency
  | awardingAgency
  | subtierAgency
deriving DecidableEq, Repr

/-- The rows a category is drawn from. -/
inductive RowSet where
  /-- Awards from the start of the fiscal year through the quarter. -/
  | cumulative
  /-- Program activities of the final period of the quarter. -/
  | period
deriving DecidableEq, Repr

namespace Category

/-- All categories, in the order in which they are listed. -/
def all : List Category :=
  [budgetFunction, budgetSubfunction, federalAccount, programActivity, objectClass, recipient,
   award, awardCategory, agency, awardingAgency, subtierAgency]

/-- The name of a category in requests, filters and entries. -/
def name : Category → String
  | budgetFunction => "budget_function"
  | budgetSubfunction => "budget_subfunction"
  | federalAccount => "federal_account"
  | programActivity => "program_activity"
  | objectClass => "object_class"
  | recipient => "recipient"
  | award => "award"
  | awardCategory => "award_category"
  | agency => "agency"
  | awardingAgency => "agency_type"
  | subtierAgency => "agency_sub"

/-- The category of this name. -/
def ofName? (s : String) : Option Category := all.find? (·.name == s)

/-- The rows a category is drawn from. -/
def rowSet : Category → RowSet
  | recipient | award | awardCategory | awardingAgency => .cumulative
  | _ => .period

def json (c : Category) : Json := .string c.name

/-- A category is given by its name, or by an object with the name over a null. -/
def ofJson? : Json → Option Category
  | .string s => ofName? s
  | .object [(s, .null)] => ofName? s
  | _ => none

theorem ofName?_name (c : Category) : ofName? c.name = some c := by
  cases c <;> decide

/-- No two categories go by one name. -/
theorem name_injective {c d : Category} (h : c.name = d.name) : c = d := by
  have hc := ofName?_name c
  rw [h, ofName?_name] at hc
  exact (Option.some.inj hc).symm

theorem name_of_ofName? {s : String} {c : Category} (h : ofName? s = some c) : c.name = s := by
  simpa using List.find?_some h

end Category

end Obligations
