import Obligations.Amount.Json
import Obligations.Calendar.Text
import Obligations.Entry
import Obligations.Fiscal.Schedule

/-!
# Obligations — responses

The envelope of a result: its total, the last day it covers, and its entries. A response
about a quarter that is not revealed has none of them.
-/

namespace Obligations

/-- The envelope of a result. -/
structure Response where
  total : Option Amount
  endDate : Option Date
  results : Option (List Entry)
deriving DecidableEq

namespace Response

/-- The answer about a quarter that is not revealed. -/
def unrevealed : Response := ⟨none, none, none⟩

/-- The answer about a revealed window. -/
def assemble (w : FiscalWindow) (total : Option Amount) (results : List Entry) : Response :=
  ⟨total, some w.periodEnd, some results⟩

/-- The entries, none being as good as an empty list. -/
def entries (r : Response) : List Entry := r.results.getD []

/-- The entry of what was not reported. -/
def unreported? (r : Response) : Option Entry := r.entries.find? Entry.isUnreported

/-! ## JSON -/

/-- A response as a record, with amounts as `amount` writes them and without what it has
not. -/
def json (amount : Amount → Json) (r : Response) : Json :=
  .object ([("total", Json.ofOption amount r.total)]
    ++ (r.endDate.map fun d => ("end_date", d.json)).toList
    ++ (r.results.map fun es => ("results", Json.array (es.map (Entry.json amount)))).toList)

def ofJson? (j : Json) : Option Response := do
  match ← j.slots? ["total", "end_date", "results"] with
  | [total, endDate, results] =>
    return {
      total := ← total.optional? Amount.ofJson?
      endDate := ← endDate.orElse? (·.nullable? Date.ofJson?) none
      results := ← results.orElse? (·.nullable? (·.list? Entry.ofJson?)) none }
  | _ => none

end Response

/-- The results of an award request are cut to the limit. Those of other categories are
given whole, so that they still add up to the total. -/
def limitResults (category : Category) (limit : Option Nat) (results : List Entry) : List Entry :=
  match category, limit with
  | .award, some n => results.take n
  | _, _ => results

end Obligations
