import Obligations.Json.Reader

/-!
# Obligations — decoding JSON

Decoders from `Json` to the types of the library; each gives nothing where the value does
not fit.

A record is an object with its fields by name, in any order and with others between them
(`Json.slots?`), and a field may not be repeated. It can also be an array with its fields
in order. What an absent field means is said per field: `Slot.required?`,
`Slot.optional?` and `Slot.orElse?`.
-/

namespace Obligations.Json

/-! ## Plain values -/

def string? : Json → Option String
  | string s => some s
  | _ => none

def bool? : Json → Option Bool
  | bool b => some b
  | _ => none

def int32? : Json → Option Int
  | number (.integer n) => if isInt32 n then some n else none
  | _ => none

/-- A natural number below `size`. -/
def natBelow? (size : Nat) : Json → Option Nat
  | number (.integer n) => if 0 ≤ n ∧ n.toNat < size then some n.toNat else none
  | _ => none

def nat32? (j : Json) : Option Nat := j.natBelow? size32

def nat64? (j : Json) : Option Nat := j.natBelow? size64

def list? {α : Type} (f : Json → Option α) : Json → Option (List α)
  | array items => items.mapM f
  | _ => none

/-- A set of keys. -/
def keySet? (j : Json) : Option KeySet := (j.list? string?).map KeySet.ofList

/-- A table of arbitrary values; of several under one key the last counts. -/
def table? (j : Json) : Option (KeyMap Json) :=
  match j with
  | object members => (settledMembers? members).map KeyMap.ofList
  | _ => none

/-- What `f` decodes, or null. -/
def nullable? {α : Type} (f : Json → Option α) : Json → Option (Option α)
  | null => some none
  | j => (f j).map some

/-! ## Records -/

/-- What a record holds in the place of a field. -/
inductive Slot where
  /-- The field is there. -/
  | present (value : Json)
  /-- The object has no such field. -/
  | absent
  /-- The array ended before the field. -/
  | ended

namespace Slot

/-- The field has to be there. -/
def required? {α : Type} (f : Json → Option α) : Slot → Option α
  | present j => f j
  | _ => none

/-- An object may leave the field out or give null; an array has to give it. -/
def optional? {α : Type} (f : Json → Option α) : Slot → Option (Option α)
  | present j => j.nullable? f
  | absent => some none
  | ended => none

/-- A field that is left out has the value `d`. -/
def orElse? {α : Type} (f : Json → Option α) (d : α) : Slot → Option α
  | present j => f j
  | _ => some d

end Slot

/-- The slot of a field in an object; none if the field is repeated. -/
def memberSlot? (members : List (String × Json)) (name : String) : Option Slot :=
  match members.filter (·.1 == name) with
  | [] => some .absent
  | [m] => some (.present m.2)
  | _ => none

/-- The slots of the fields in an array; none if it is too long. -/
def itemSlots? : (names : List String) → List Json → Option (List Slot)
  | [], [] => some []
  | [], _ :: _ => none
  | _ :: names, [] => (itemSlots? names []).map (.ended :: ·)
  | _ :: names, j :: js => (itemSlots? names js).map (.present j :: ·)

/-- The slots of the fields of a record, in the order of `names`. -/
def slots? (names : List String) : Json → Option (List Slot)
  | object members => names.mapM (memberSlot? members)
  | array items => itemSlots? names items
  | _ => none

end Obligations.Json
