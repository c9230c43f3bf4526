import Obligations.Amount.Json
import Obligations.Json.Decode
import Obligations.Row

/-!
# Obligations — rows in JSON

For each type `X` of a row and its parts, `X.json` is the record in which an `X` is
delivered, and `X.ofJson?` decodes what a record holds. Amounts are written as the doubles
they are published as. A classification may be left out but not be null; of an award only
the id is needed.
-/

namespace Obligations

/-! ## Submissions -/

def Submission.json (s : Submission) : Json :=
  .object [("reporting_fiscal_year", .int s.year), ("reporting_fiscal_quarter", .nat s.quarter),
    ("reporting_fiscal_period", .nat s.period)]

def Submission.ofJson? (j : Json) : Option Submission := do
  let names := ["reporting_fiscal_year", "reporting_fiscal_quarter", "reporting_fiscal_period"]
  match ← j.slots? names with
  | [year, quarter, period] =>
    return {
      year := ← year.required? Json.int32?
      quarter := ← quarter.required? Json.nat32?
      period := ← period.required? Json.nat32? }
  | _ => none

/-! ## Dimensions -/

def Entity.json (e : Entity) : Json :=
  .object [("id", .nat e.id), ("code", .string e.code), ("name", .string e.name)]

def Entity.ofJson? (j : Json) : Option Entity := do
  match ← j.slots? ["id", "code", "name"] with
  | [id, code, name] =>
    return {
      id := ← id.required? Json.nat64?
      code := ← code.required? Json.string?
      name := ← name.required? Json.string? }
  | _ => none

def BudgetLabel.json (l : BudgetLabel) : Json :=
  .object [("code", .string l.code), ("title", .string l.title)]

def BudgetLabel.ofJson? (j : Json) : Option BudgetLabel := do
  match ← j.slots? ["code", "title"] with
  | [code, title] =>
    return { code := ← code.required? Json.string?, title := ← title.required? Json.string? }
  | _ => none

def FederalAccount.json (a : FederalAccount) : Json :=
  .object [("id", .nat a.id), ("agency_identifier", .string a.agencyIdentifier),
    ("main_account_code", .string a.mainAccountCode), ("account_title", .string a.title)]

def FederalAccount.ofJson? (j : Json) : Option FederalAccount := do
  match ← j.slots? ["id", "agency_identifier", "main_account_code", "account_title"] with
  | [id, agency, main, title] =>
    return {
      id := ← id.required? Json.nat64?
      agencyIdentifier := ← agency.required? Json.string?
      mainAccountCode := ← main.required? Json.string?
      title := ← title.required? Json.string? }
  | _ => none

def Classification.json (c : Classification) : Json :=
  .object [("toptier_agency", .ofOption Entity.json c.agency),
    ("subtier_agency", .ofOption Entity.json c.subtierAgency),
    ("federal_account", .ofOption FederalAccount.json c.federalAccount),
    ("budget_function", .ofOption BudgetLabel.json c.budgetFunction),
    ("budget_subfunction", .ofOption BudgetLabel.json c.budgetSubfunction),
    ("program_activity", .ofOption Entity.json c.programActivity),
    ("object_class", .ofOption Entity.json c.objectClass)]

def Classification.ofJson? (j : Json) : Option Classification := do
  let names := ["toptier_agency", "subtier_agency", "federal_account", "budget_function",
    "budget_subfunction", "program_activity", "object_class"]
  match ← j.slots? names with
  | [agency, subtier, account, function, subfunction, activity, objectClass] =>
    return {
      agency := ← agency.orElse? (·.nullable? Entity.ofJson?) .none
      subtierAgency := ← subtier.orElse? (·.nullable? Entity.ofJson?) .none
      federalAccount := ← account.orElse? (·.nullable? FederalAccount.ofJson?) .none
      budgetFunction := ← function.orElse? (·.nullable? BudgetLabel.ofJson?) .none
      budgetSubfunction := ← subfunction.orElse? (·.nullable? BudgetLabel.ofJson?) .none
      programActivity := ← activity.orElse? (·.nullable? Entity.ofJson?) .none
      objectClass := ← objectClass.orElse? (·.nullable? Entity.ofJson?) .none }
  | _ => .none

/-! ## Awards -/

def Recipient.json (r : Recipient) : Json :=
  .object [("id", .nat r.id), ("unique_id", .ofOption .string r.uniqueId),
    ("name", .string r.name)]

def Recipient.ofJson? (j : Json) : Option Recipient := do
  match ← j.slots? ["id", "unique_id", "name"] with
  | [id, uniqueId, name] =>
    return {
      id := ← id.required? Json.nat64?
      uniqueId := ← uniqueId.orElse? (·.nullable? Json.string?) none
      name := ← name.required? Json.string? }
  | _ => none

def Award.json (a : Award) : Json :=
  .object [("id", .nat a.id), ("piid", .ofOption .string a.piid),
    ("fain", .ofOption .string a.fain), ("uri", .ofOption .string a.uri),
    ("category", .ofOption .string a.category),
    ("recipient", .ofOption Recipient.json a.recipient),
    ("awarding_agency", .ofOption Entity.json a.awardingAgency)]

def Award.ofJson? (j : Json) : Option Award := do
  let names := ["id", "piid", "fain", "uri", "category", "recipient", "awarding_agency"]
  match ← j.slots? names with
  | [id, piid, fain, uri, category, recipient, agency] =>
    return {
      id := ← id.required? Json.nat64?
      piid := ← piid.orElse? (·.nullable? Json.string?) none
      fain := ← fain.orElse? (·.nullable? Json.string?) none
      uri := ← uri.orElse? (·.nullable? Json.string?) none
      category := ← category.orElse? (·.nullable? Json.string?) none
      recipient := ← recipient.orElse? (·.nullable? Recipient.ofJson?) none
      awardingAgency := ← agency.orElse? (·.nullable? Entity.ofJson?) none }
  | _ => none

/-! ## Rows -/

def Row.json (r : Row) : Json :=
  .object [("submission", r.submission.json), ("classification", r.classification.json),
    ("award", .ofOption Award.json r.award), ("transaction_obligated_amount", r.amount.wire)]

def Row.ofJson? (j : Json) : Option Row := do
  match ← j.slots? ["submission", "classification", "award", "transaction_obligated_amount"] with
  | [submission, classification, award, amount] =>
    return {
      submission := ← submission.required? Submission.ofJson?
      classification := ← classification.orElse? Classification.ofJson? .none
      award := ← award.orElse? (·.nullable? Award.ofJson?) none
      amount := ← amount.required? Amount.ofJson? }
  | _ => none

def ProgramRow.amountField : String := "obligations_incurred_by_program_object_class_cpe"

def ProgramRow.json (r : ProgramRow) : Json :=
  .object [("submission", r.submission.json), ("classification", r.classification.json),
    (amountField, r.amount.wire)]

def ProgramRow.ofJson? (j : Json) : Option ProgramRow := do
  match ← j.slots? ["submission", "classification", amountField] with
  | [submission, classification, amount] =>
    return {
      submission := ← submission.required? Submission.ofJson?
      classification := ← classification.orElse? Classification.ofJson? .none
      amount := ← amount.required? Amount.ofJson? }
  | _ => none

def ControlRow.json (r : ControlRow) : Json :=
  .object [("fiscal_year", .int r.year), ("fiscal_period", .nat r.period),
    ("obligations_incurred_total_cpe", r.amount.wire)]

def ControlRow.ofJson? (j : Json) : Option ControlRow := do
  match ← j.slots? ["fiscal_year", "fiscal_period", "obligations_incurred_total_cpe"] with
  | [year, period, amount] =>
    return {
      year := ← year.required? Json.int32?
      period := ← period.required? Json.nat32?
      amount := ← amount.required? Amount.ofJson? }
  | _ => none

end Obligations
