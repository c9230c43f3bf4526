import Obligations.Category

/-!
# Obligations — failures

Why an operation gives no result (`Failure`), by cause, and the text that reports it
(`Failure.message`). Refused input names the fault; a source failure carries the text of
the source; arithmetic beyond the range of amounts is a failure of its own, since no
input is at fault.
-/

namespace Obligations

/-- What is wrong with the requested category. -/
inductive CategoryFault where
  | missing
  | unknown (name : String)
  | disabled (category : Category)
deriving DecidableEq

/-- What is wrong with a request parameter. -/
inductive ParameterFault where
  | missingFilters
  | missingYear
  | missingQuarter
  | malformedYear
  | yearOutOfRange (year : Int)
  | malformedQuarter
  /-- The value under a category key is neither text nor a number. -/
  | malformedFilter (key : String)
  | zeroLimit
  | noFinalPeriod (quarter : Nat)
deriving DecidableEq

/-- What is wrong with a configuration. -/
inductive ConfigFault where
  | noCategories
  | reconcilingNotEnabled (category : Category)
  | missingBaseKey (key : String)
  | blankName
  | windowQuarter (year : Int) (quarter : Nat)
  | duplicateWindow (year : Int) (quarter : Nat)
deriving DecidableEq

/-- An operation on amounts. -/
inductive Arithmetic where
  | addition
  | subtraction
deriving DecidableEq

/-- Why an operation gives no result. -/
inductive Failure where
  | category (fault : CategoryFault)
  | parameter (fault : ParameterFault)
  | config (fault : ConfigFault)
  /-- The source could not answer a query. -/
  | source (text : String)
  /-- A text does not decode to what it should hold. -/
  | malformed
  /-- A file cannot be read. -/
  | unreadable
  /-- A result is too large for an amount. -/
  | overflow (operation : Arithmetic)
deriving DecidableEq

/-- The category of this name, or the fault that there is none. -/
def Category.read (name : String) : Except CategoryFault Category :=
  match Category.ofName? name with
  | some c => .ok c
  | none => .error (.unknown name)

/-! ## Texts -/

def inQuotes (s : String) : String := "\"" ++ s ++ "\""

def CategoryFault.text : CategoryFault → String
  | .missing => "Missing required request parameter \"type\""
  | .unknown name =>
    inQuotes name ++ " is not a valid type. Valid types: "
      ++ String.intercalate ", " (Category.all.map Category.name)
  | .disabled c => inQuotes c.name ++ " is not enabled"

/-- The parameter that a fault is about. -/
def ParameterFault.field : ParameterFault → String
  | .missingFilters => "filters"
  | .missingYear | .malformedYear | .yearOutOfRange _ => "fy"
  | .missingQuarter | .malformedQuarter | .noFinalPeriod _ => "quarter"
  | .malformedFilter key => key
  | .zeroLimit => "limit"

def ParameterFault.text : ParameterFault → String
  | .missingFilters => "Missing required request parameter \"filters\""
  | .missingYear => "Missing required parameter \"fy\""
  | .missingQuarter => "Missing required parameter \"quarter\""
  | .malformedYear => "Incorrect or missing fiscal year parameter, expected \"fy\": \"YYYY\""
  | .yearOutOfRange year =>
    "Incorrect fiscal year parameter " ++ toString year ++ ", expected \"fy\": \"YYYY\""
  | .malformedQuarter =>
    "Incorrect value provided for quarter parameter. Must be between 1 and 4"
  | .malformedFilter _ => "Filter value must be a string or a number"
  | .zeroLimit => "Limit must be a positive integer"
  | .noFinalPeriod quarter => "Quarter " ++ toString quarter ++ " has no final period"

def ConfigFault.text : ConfigFault → String
  | .noCategories => "At least one category must be enabled"
  | .reconcilingNotEnabled c =>
    "Reconciling category " ++ inQuotes c.name ++ " is not an enabled category"
  | .missingBaseKey key => "Base filter keys must include " ++ inQuotes key
  | .blankName => "Unreported data name must not be empty"
  | .windowQuarter year quarter =>
    "Submission window for FY" ++ toString year ++ " has quarter " ++ toString quarter
      ++ "; must be between 1 and 4"
  | .duplicateWindow year quarter =>
    "Duplicate submission window for FY" ++ toString year ++ " Q" ++ toString quarter

def Arithmetic.text : Arithmetic → String
  | .addition => "Addition overflowed"
  | .subtraction => "Subtraction overflowed"

def Failure.message : Failure → String
  | .category fault => "Invalid spending category: " ++ fault.text
  | .parameter fault => "Invalid parameter " ++ inQuotes fault.field ++ ": " ++ fault.text
  | .config fault => "Invalid explorer configuration: " ++ fault.text
  | .source text => "Aggregate source failure: " ++ text
  | .malformed => "Serialization error"
  | .unreadable => "IO error"
  | .overflow operation => operation.text

end Obligations
