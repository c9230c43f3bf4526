import Obligations.Filters
import Obligations.Ranking
import Obligations.Row

/-!
# Obligations — grouping

Rows that pass the filters are grouped by their entity of a category and summed.

* `Row.label?` — the entity of a row along a category, if the row has one;
* `Filters.admits` — the row passes every narrowing;
* `subtotals` — one subtotal per entity in the order in which they first occur, labelled
  as there, with the amounts added in the order of the rows;
* `groupEntries` — the subtotals as a ranked result.
-/

namespace Obligations

/-! ## Labels -/

/-- How an entity is identified and shown. -/
structure Label where
  id : String
  code : Option String
  name : String
  accountNumber : Option String
deriving DecidableEq

def Entity.label (e : Entity) : Label := ⟨toString e.id, some e.code, e.name, none⟩

/-- The label of a budget function or subfunction, identified by its code. -/
def BudgetLabel.label (l : BudgetLabel) : Label := ⟨l.code, some l.code, l.title, none⟩

def FederalAccount.label (a : FederalAccount) : Label :=
  ⟨toString a.id, some a.mainAccountCode, a.title, some a.number⟩

def Recipient.label (r : Recipient) : Label := ⟨toString r.id, r.uniqueId, r.name, none⟩

/-- The label of an award, shown by its code or else its id. -/
def Award.label (a : Award) : Label :=
  ⟨toString a.id, a.displayCode?, a.displayCode?.getD (toString a.id), none⟩

/-- The label of an award that has a category, shown by its recipient or else the category. -/
def Award.categoryLabel? (a : Award) : Option Label :=
  a.category.map fun category =>
    ⟨toString a.id, a.displayCode?, (a.recipient.map Recipient.name).getD category, none⟩

/-- The entity of a row along a category, if the row has one. -/
def Row.label? (r : Row) : Category → Option Label
  | .budgetFunction => r.classification.budgetFunction.map BudgetLabel.label
  | .budgetSubfunction => r.classification.budgetSubfunction.map BudgetLabel.label
  | .federalAccount => r.classification.federalAccount.map FederalAccount.label
  | .programActivity => r.classification.programActivity.map Entity.label
  | .objectClass => r.classification.objectClass.map Entity.label
  | .agency => r.classification.agency.map Entity.label
  | .subtierAgency => r.classification.subtierAgency.map Entity.label
  -- a row that concerns no award has none of the last four
  | .awardingAgency => (r.award.bind Award.awardingAgency).map Entity.label
  | .recipient => (r.award.bind Award.recipient).map Recipient.label
  | .award => r.award.map Award.label
  | .awardCategory => r.award.bind Award.categoryLabel?

/-! ## Filtering -/

/-- The entity goes by `value`, as its id or its code. -/
def Label.isNamed (l : Label) (value : String) : Bool := l.id == value || l.code == some value

/-- The row is about the entity of the narrowing. -/
def Narrowing.admits (n : Narrowing) (r : Row) : Bool :=
  (r.label? n.category).any (·.isNamed n.value)

/-- The row passes every narrowing. -/
def Filters.admits (f : Filters) (r : Row) : Bool := f.narrowing.all (·.admits r)

/-! ## Subtotals -/

/-- An entity with the sum of its rows. -/
structure Subtotal where
  label : Label
  total : Amount
deriving DecidableEq

/-- Adds an amount to the subtotal with the id of `label`, or starts it. -/
def addAmount (label : Label) (amount : Amount) : List Subtotal → Except Failure (List Subtotal)
  | [] => .ok [⟨label, amount⟩]
  | s :: rest =>
    -- entities are told apart by id alone, and the label that was there first stays
    if s.label.id = label.id then do
      let total ← s.total.add amount
      return { s with total } :: rest
    else do
      let rest ← addAmount label amount rest
      return s :: rest

/-- Adds a row to the subtotals if it passes the filters and has an entity. -/
def addRow (f : Filters) (c : Category) (subtotals : List Subtotal) (r : Row) :
    Except Failure (List Subtotal) :=
  if f.admits r then
    match r.label? c with
    | some label => addAmount label r.amount subtotals
    | none => .ok subtotals
  else .ok subtotals

/-- One subtotal for each entity, in the order in which they first occur. -/
def subtotals (rows : List Row) (f : Filters) (c : Category) : Except Failure (List Subtotal) :=
  rows.foldlM (addRow f c) []

/-- The line of a result for a subtotal. -/
def Subtotal.entry (c : Category) (s : Subtotal) : Entry :=
  ⟨some s.label.id, s.label.code, c, s.label.name, some s.total, s.label.accountNumber⟩

/-- The subtotals of the rows that pass the filters, as a ranked result. -/
def groupEntries (rows : List Row) (f : Filters) (c : Category) : Except Failure (List Entry) := do
  let parts ← subtotals rows f c
  return rank (parts.map (Subtotal.entry c))

end Obligations
