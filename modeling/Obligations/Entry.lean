import Obligations.Amount.Json
import Obligations.Category
import Obligations.Failure

/-!
# Obligations — result entries

An `Entry` is a line of a result: an entity of a category with its amount. The entry of
what was not reported has no id.

* `Amount.add`, `Amount.sub` — amounts with overflow as a failure;
* `sumAmounts` — the sum of a list from left to right, none for no amounts at all.
-/

namespace Obligations

/-! ## Sums -/

/-- The sum of two amounts, or an overflow. -/
def Amount.add (a b : Amount) : Except Failure Amount :=
  match a.add? b with
  | some c => .ok c
  | none => .error (.overflow .addition)

/-- Their difference, or an overflow. -/
def Amount.sub (a b : Amount) : Except Failure Amount :=
  match a.sub? b with
  | some c => .ok c
  | none => .error (.overflow .subtraction)

/-- The sum of amounts from left to right. No amounts have no sum, which is not a sum of zero. -/
def sumAmounts : List Amount → Except Failure (Option Amount)
  | [] => .ok none
  | a :: as => some <$> as.foldlM Amount.add a

/-! ## Entries -/

/-- A line of a result. -/
structure Entry where
  /-- What identifies the entity; none only for what was not reported. -/
  id : Option String
  code : Option String
  category : Category
  name : String
  amount : Option Amount
  accountNumber : Option String
deriving DecidableEq

namespace Entry

/-- The entry of what was not reported. -/
def unreported (category : Category) (name : String) (amount : Amount) : Entry :=
  ⟨none, none, category, name, some amount, none⟩

/-- The entry stands for what was not reported. -/
def isUnreported (e : Entry) : Bool := e.id.isNone

/-- An entry as a record, with amounts as `amount` writes them. -/
def json (amount : Amount → Json) (e : Entry) : Json :=
  .object ([("id", .ofOption .string e.id), ("code", .ofOption .string e.code),
    ("type", e.category.json), ("name", .string e.name), ("amount", .ofOption amount e.amount)]
    ++ (e.accountNumber.map fun n => ("account_number", Json.string n)).toList)

def ofJson? (j : Json) : Option Entry := do
  match ← j.slots? ["id", "code", "type", "name", "amount", "account_number"] with
  | [id, code, category, name, amount, accountNumber] =>
    return {
      id := ← id.optional? Json.string?
      code := ← code.optional? Json.string?
      category := ← category.required? Category.ofJson?
      name := ← name.required? Json.string?
      amount := ← amount.optional? Amount.ofJson?
      accountNumber := ← accountNumber.orElse? (·.nullable? Json.string?) none }
  | _ => none

end Entry

/-- The sum of the amounts of the entries that have one. -/
def sumEntries (es : List Entry) : Except Failure (Option Amount) :=
  sumAmounts (es.filterMap Entry.amount)

end Obligations
