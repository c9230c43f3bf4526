import Obligations.Config
import Obligations.Fiscal.Schedule.Json

/-!
# Obligations — configuration in JSON

A field that is left out has its default. `Config.ofText` reads settings that can be used,
`Config.ofJson?` any settings.
-/

namespace Obligations.Config

def json (c : Config) : Json :=
  .object [("categories", .array (c.categories.map Category.json)),
    ("reconciling_categories", .array (c.reconciling.map Category.json)),
    ("base_filter_keys", .array (c.baseKeys.toList.map Json.string)),
    ("unreported_data_name", .string c.unreportedName), ("reveal_schedule", c.schedule.json)]

/-- Decodes settings, taking from `defaults` what is left out. -/
def ofJson? (defaults : Config) (j : Json) : Option Config := do
  let names := ["categories", "reconciling_categories", "base_filter_keys",
    "unreported_data_name", "reveal_schedule"]
  match ← j.slots? names with
  | [categories, reconciling, baseKeys, name, schedule] =>
    return {
      categories := ← categories.orElse? (·.list? Category.ofJson?) defaults.categories
      reconciling := ← reconciling.orElse? (·.list? Category.ofJson?) defaults.reconciling
      baseKeys := ← baseKeys.orElse? Json.keySet? defaults.baseKeys
      unreportedName := ← name.orElse? Json.string? defaults.unreportedName
      schedule := ← schedule.orElse? RevealSchedule.ofJson? defaults.schedule }
  | _ => none

def decode (defaults : Config) (s : String) : Except Failure Config :=
  match (Json.ofText? s).bind (ofJson? defaults) with
  | some c => .ok c
  | none => .error .malformed

def ofText (defaults : Config) (s : String) : Except Failure Config := do
  let c ← decode defaults s
  c.validate.mapError Failure.config
  return c

/-- Reads settings that can be used from the contents of a file, which are absent if it
cannot be read. -/
def ofFile (defaults : Config) (contents : Option String) : Except Failure Config :=
  match contents with
  | some s => ofText defaults s
  | none => .error .unreadable

end Obligations.Config
