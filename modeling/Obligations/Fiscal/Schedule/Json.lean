import Obligations.Calendar.Text
import Obligations.Fiscal.Schedule
import Obligations.Json.Decode

/-!
# Obligations — schedules and windows in JSON

Windows are records, and a schedule is the list of its windows; decoding one refuses what
`RevealSchedule.ofWindows` refuses.
-/

namespace Obligations

def SubmissionWindow.json (w : SubmissionWindow) : Json :=
  .object [("fiscal_year", .int w.year), ("fiscal_quarter", .nat w.quarter),
    ("period_end_date", w.periodEnd.json), ("reveal_date", w.reveal.json)]

def SubmissionWindow.ofJson? (j : Json) : Option SubmissionWindow := do
  match ← j.slots? ["fiscal_year", "fiscal_quarter", "period_end_date", "reveal_date"] with
  | [year, quarter, periodEnd, reveal] =>
    return {
      year := ← year.required? Json.int32?
      quarter := ← quarter.required? Json.nat32?
      periodEnd := ← periodEnd.required? Date.ofJson?
      reveal := ← reveal.required? Instant.ofJson? }
  | _ => none

def RevealSchedule.json (s : RevealSchedule) : Json := .array (s.windows.map SubmissionWindow.json)

def RevealSchedule.ofJson? (j : Json) : Option RevealSchedule := do
  (RevealSchedule.ofWindows (← j.list? SubmissionWindow.ofJson?)).toOption

def FiscalWindow.json (w : FiscalWindow) : Json :=
  .object [("fiscal_year", .int w.year), ("fiscal_quarter", .nat w.quarter),
    ("period_end_date", w.periodEnd.json), ("final_period", .nat w.finalPeriod),
    ("revealed", .bool w.revealed)]

def FiscalWindow.ofJson? (j : Json) : Option FiscalWindow := do
  let names := ["fiscal_year", "fiscal_quarter", "period_end_date", "final_period", "revealed"]
  match ← j.slots? names with
  | [year, quarter, periodEnd, finalPeriod, revealed] =>
    return {
      year := ← year.required? Json.int32?
      quarter := ← quarter.required? Json.nat32?
      periodEnd := ← periodEnd.required? Date.ofJson?
      finalPeriod := ← finalPeriod.required? Json.nat32?
      revealed := ← revealed.required? Json.bool? }
  | _ => none

end Obligations
