import Obligations.Amount.Text
import Obligations.Amount.Wire
import Obligations.Decimal.Shortest
import Obligations.Json.Basic

/-!
# Obligations — amounts in JSON

Amounts are published as doubles (`Amount.wire`) and taken as integers, doubles or text
(`Amount.ofJson?`). A double counts as the shortest decimal that rounds to it.
-/

namespace Obligations.Amount

/-- A double as an amount: its shortest decimal, without an exponent, read as text. -/
def ofDouble? (x : Float) : Option Amount :=
  let sign := if Binary.isNegative x then ['-'] else []
  match Binary.ofFloat? x with
  | some b => ofPlain? (sign ++ (b.shortest .up).positional [])
  | none => if x.isFinite then ofPlain? (sign ++ ['0']) else none

def ofJson? : Json → Option Amount
  | .number (.integer n) => ofParts? n 0
  | .number (.double x) => ofDouble? x
  | .string s => ofText? s
  | _ => none

def wire (a : Amount) : Json := .number (.double a.toFloat)

end Obligations.Amount
