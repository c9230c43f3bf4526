import Obligations.Json.Decode

/-!
# Obligations — requests

What a user asks for: a category by name, a mapping of filters, and for awards a limit on
the number of entries. Nothing is checked yet, so each part may be missing.

* `Request.json`, `Request.ofJson?` — requests in JSON;
* `Request.description` — what the parts are for, in words.
-/

namespace Obligations

/-- What a user asks for. -/
structure Request where
  category : Option String
  filters : Option (KeyMap Json)
  limit : Option Nat

namespace Request

/-- A request for a category with filters; anything but an object gives no filters. -/
def make (category : String) (filters : Json) : Request := ⟨some category, filters.table?, none⟩

def withLimit (r : Request) (limit : Nat) : Request := { r with limit := some limit }

/-! ## JSON -/

/-- A request as a record, without a limit that it has not. -/
def json (r : Request) : Json :=
  .object ([("type", Json.ofOption .string r.category),
      ("filters", Json.ofOption (fun t => .object t.entries) r.filters)]
    ++ (r.limit.map fun n => ("limit", Json.nat n)).toList)

def ofJson? (j : Json) : Option Request := do
  match ← j.slots? ["type", "filters", "limit"] with
  | [category, filters, limit] =>
    return {
      category := ← category.optional? Json.string?
      filters := ← filters.optional? Json.table?
      limit := ← limit.orElse? (·.nullable? Json.nat64?) none }
  | _ => none

/-! ## Description -/

/-- A record type in words: its title, what each field is for, and which ones are needed. -/
structure Description where
  title : String
  fields : List (String × String)
  required : List String
deriving DecidableEq

/-- The description of requests that is given to their authors. -/
def description : Description where
  title := "ExplorerRequest"
  fields := [
    ("type",
      "The spending category to aggregate by, e.g. 'agency' or 'object_class'"),
    ("filters",
      "Filter mapping. Must contain 'fy' (fiscal year, YYYY) and 'quarter' (1-4). "
        ++ "Any other key whose name is a category type narrows results to that entity, "
        ++ "e.g. \x7b\"agency\": \"012\"\x7d."),
    ("limit",
      "Maximum number of award rows to return. Only applies to the 'award' type.")]
  required := []

end Request

end Obligations
