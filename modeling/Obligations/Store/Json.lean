import Obligations.Row.Json
import Obligations.Store

/-!
# Obligations — stores in JSON

The record of a store has its three lists of rows, each of which may be left out. Whether
it is set to fail and what it was asked are not part of it.
-/

namespace Obligations.Store

/-- The rows of a store as a record. -/
def json (s : Store) : Json :=
  .object [("award_financial", .array (s.awardRows.map Row.json)),
    ("program_activity", .array (s.programRows.map ProgramRow.json)),
    ("control_totals", .array (s.controlRows.map ControlRow.json))]

def ofJson? (j : Json) : Option Store := do
  match ← j.slots? ["award_financial", "program_activity", "control_totals"] with
  | [awards, programs, controls] =>
    return {
      awardRows := ← awards.orElse? (·.list? Row.ofJson?) []
      programRows := ← programs.orElse? (·.list? ProgramRow.ofJson?) []
      controlRows := ← controls.orElse? (·.list? ControlRow.ofJson?) []
      failure := none
      served := 0 }
  | _ => none

def ofText (s : String) : Except Failure Store :=
  match (Json.ofText? s).bind ofJson? with
  | some store => .ok store
  | none => .error .malformed

/-- Reads a store from the contents of a file, which are absent if it cannot be read. -/
def ofFile (contents : Option String) : Except Failure Store :=
  match contents with
  | some s => ofText s
  | none => .error .unreadable

end Obligations.Store
