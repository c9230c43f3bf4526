import Obligations.Failure
import Obligations.Json.Writer
import Obligations.Text.Blank
import Obligations.Text.Integer

/-!
# Obligations — request filters

A request names a fiscal year and quarter and can narrow the rows to single entities of a
category. `Filters` are the checked form; they also remember every key that was given,
because only a request with nothing but the base keys speaks for the whole government.

* `Filters.forQuarter`, `Filters.narrow` — filters built step by step;
* `Filters.read` — filters from the mapping of a request, or the first fault, together
  with the keys that were passed over because they name no category.

Faults are reported in a fixed order: the mapping, the presence of year and quarter, the
year, the quarter, and then the other keys in ascending order.
-/

namespace Obligations

def yearKey : String := "fy"

def quarterKey : String := "quarter"

/-- Restricts the rows to one entity of a category, given by id or code. -/
structure Narrowing where
  category : Category
  value : String
deriving DecidableEq

/-- What a request asks for besides its category. -/
structure Filters where
  year : Int
  quarter : Nat
  /-- Every key of the request, whether it means something or not. -/
  keys : KeySet
  narrowing : List Narrowing
deriving DecidableEq

namespace Filters

/-! ## Step by step -/

/-- Filters for a quarter and nothing else. -/
def forQuarter (year : Int) (quarter : Nat) : Filters :=
  ⟨year, quarter, .ofList [yearKey, quarterKey], []⟩

/-- The filters, narrowed further to one entity of a category. -/
def narrow (f : Filters) (category : Category) (value : String) : Filters :=
  { f with keys := f.keys.insert category.name, narrowing := f.narrowing ++ [⟨category, value⟩] }

/-! ## From a request -/

/-- The first fiscal year that can be asked for. -/
def minYear : Int := 1000

/-- The last fiscal year that can be asked for. -/
def maxYear : Int := 9999

/-- A 64-bit integer given as a number or as text with white space around it. -/
def yearValue? : Json → Option Int
  | .number (.integer n) => if isInt64 n then some n else none
  | .string s => Integer.int64? (String.ofList (trimBlanks s.toList))
  | _ => none

/-- The fiscal year of a request, which has four digits. -/
def readYear (j : Json) : Except ParameterFault Int :=
  match yearValue? j with
  | none => .error .malformedYear
  | some y => if minYear ≤ y ∧ y ≤ maxYear then .ok y else .error (.yearOutOfRange y)

/-- The fiscal quarter of a request, a number or a single digit. -/
def readQuarter : Json → Except ParameterFault Nat
  | .number (.integer n) =>
    if 1 ≤ n ∧ n ≤ 4 then .ok n.toNat else .error .malformedQuarter
  | .string s =>
    -- a text has to be the digit itself, without anything around it
    if s = "1" then .ok 1
    else if s = "2" then .ok 2
    else if s = "3" then .ok 3
    else if s = "4" then .ok 4
    else .error .malformedQuarter
  | _ => .error .malformedQuarter

/-- The text an entity is looked up by: a text itself, or a number as JSON writes it. -/
def narrowingValue? : Json → Option String
  | .string s => some s
  | .number n => some n.text
  | _ => none

/-- Reads the entries beside year and quarter, in order: the keys that name no category, as
far as the reading gets, and the narrowing or the first fault. -/
def readNarrowing : List (String × Json) → List String × Except ParameterFault (List Narrowing)
  | [] => ([], .ok [])
  | (key, value) :: rest =>
    if key = yearKey ∨ key = quarterKey then readNarrowing rest
    else
      match Category.ofName? key with
      | none =>
        let (ignored, narrowing) := readNarrowing rest
        (key :: ignored, narrowing)
      | some category =>
        -- at a fault the reading ends, and the keys passed over behind it are not reported
        match narrowingValue? value with
        | none => ([], .error (.malformedFilter key))
        | some value =>
          let (ignored, narrowing) := readNarrowing rest
          (ignored, narrowing.map (⟨category, value⟩ :: ·))

/-- The year and quarter of a mapping, which come before everything else. -/
def readQuarterOf (mapping : KeyMap Json) : Except ParameterFault (Int × Nat) :=
  match mapping.get? yearKey, mapping.get? quarterKey with
  -- both have to be there before either is read
  | none, _ => .error .missingYear
  | some _, none => .error .missingQuarter
  | some year, some quarter => do
    let year ← readYear year
    let quarter ← readQuarter quarter
    return (year, quarter)

/-- Reads the mapping of a request: the keys that were passed over, and the filters or the
first fault. -/
def read : Option (KeyMap Json) → List String × Except ParameterFault Filters
  | none => ([], .error .missingFilters)
  | some mapping =>
    match readQuarterOf mapping with
    | .error fault => ([], .error fault)
    | .ok (year, quarter) =>
      let (ignored, narrowing) := readNarrowing mapping.entries
      (ignored, narrowing.map fun narrowing => ⟨year, quarter, mapping.keys, narrowing⟩)

end Filters

/-- What is reported about a filter key that names no category. -/
def ignoredKeyText (key : String) : String :=
  "Ignoring unrecognized spending filter " ++ inQuotes key

end Obligations
