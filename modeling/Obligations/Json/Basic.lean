import Obligations.KeyMap

/-!
# Obligations — JSON values

`Json` is a value as it stands in a JSON text: the members of an object in the order
of the text, repeated keys included, because a record refuses a repeated field while a
table lets the last one count. `Json.settled?` is the value with its objects as tables.

Some literals are well formed but denote no value: text with an unpaired surrogate, a
number beyond the doubles, an object whose keys hold such text, a container nested too
deep. They are read as `unreadable`, which no decoder accepts and which does no harm
where a value is ignored.
-/

namespace Obligations

/-- A JSON number: an integer of 64 bits, signed or unsigned, or a double. -/
inductive Json.Number where
  | integer (n : Int)
  | double (x : Float)

inductive Json where
  | null
  | bool (b : Bool)
  | number (n : Json.Number)
  | string (s : String)
  | array (items : List Json)
  | object (members : List (String × Json))
  | unreadable

namespace Json

instance : Inhabited Json := ⟨null⟩

def int (n : Int) : Json := number (.integer n)

def nat (n : Nat) : Json := number (.integer n)

def ofOption {α : Type} (f : α → Json) : Option α → Json
  | none => null
  | some a => f a

mutual

/-- The value with repeated keys resolved in favour of the last and the members in key
order, if all of it is readable. -/
def settled? : Json → Option Json
  | null => some null
  | bool b => some (bool b)
  | number n => some (number n)
  | string s => some (string s)
  | array items => (settledItems? items).map array
  | object members =>
    (settledMembers? members).map fun ms => object (KeyMap.ofList ms).entries
  | unreadable => none

def settledItems? : List Json → Option (List Json)
  | [] => some []
  | j :: js => do
    let j ← settled? j
    let js ← settledItems? js
    return j :: js

def settledMembers? : List (String × Json) → Option (List (String × Json))
  | [] => some []
  | (k, j) :: ms => do
    let j ← settled? j
    let ms ← settledMembers? ms
    return (k, j) :: ms

end

end Json

end Obligations
