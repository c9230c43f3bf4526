import Obligations.Calendar.Date

/-!
# Obligations — the fiscal calendar

A fiscal year starts in October of the calendar year before it and has four quarters and
twelve periods, its months. Nothing is reported for period 1 alone; it is part of period 2.

* `Date.fiscalYear`, `Date.fiscalMonth`, `Date.fiscalQuarter` — where a date lies;
* `fiscalYearBounds?`, `quarterEnd?` — the dates that delimit a year and a quarter;
* `finalPeriod?`, `periodsOfQuarter?`, `quarterOfPeriod?` — quarters against periods.
-/

namespace Obligations

/-! ## Months -/

/-- The calendar month in which a fiscal year starts. -/
def fiscalYearStart : Nat := 10

/-- The day before the first of the month that follows `month`. Only that month has to exist,
so 0 is taken for the month before January. -/
def lastDayOfMonth? (year : Int) (month : Nat) : Option Date := do
  let first ← if month = 12 then Date.of? (year + 1) 1 1 else Date.of? year (month + 1) 1
  first.prev?

/-! ## Where a date lies -/

namespace Date

/-- The fiscal year of a date. From October on it is the next calendar year. -/
def fiscalYear (d : Date) : Int := if fiscalYearStart ≤ d.month then d.year + 1 else d.year

/-- The fiscal month of a date, October being 1. -/
def fiscalMonth (d : Date) : Nat := (d.month + 12 - fiscalYearStart) % 12 + 1

def fiscalQuarter (d : Date) : Nat := (d.fiscalMonth + 2) / 3

/-- Fiscal year and quarter as text, such as `2020-Q2`. -/
def fiscalLabel (d : Date) : String := toString d.fiscalYear ++ "-Q" ++ toString d.fiscalQuarter

end Date

/-! ## Years -/

/-- The first and the last day of a fiscal year. -/
def fiscalYearBounds? (year : Int) : Option (Date × Date) := do
  let first ← Date.of? (year - 1) fiscalYearStart 1
  let last ← Date.of? year (fiscalYearStart - 1) 30
  return (first, last)

/-- The dates are the first day of a fiscal year and the last day of the same or a later
one. -/
def areYearBookends (first last : Date) : Bool :=
  first.month == fiscalYearStart && first.day == 1
    && last.month == fiscalYearStart - 1 && last.day == 30
    && decide (first.fiscalYear ≤ last.fiscalYear)

/-- The year is one of those requests are about, 1 to 9999. -/
def isCalendarYear (year : Int) : Bool := decide (1 ≤ year ∧ year ≤ 9999)

/-! ## Quarters and periods -/

def isQuarter (quarter : Nat) : Bool := decide (1 ≤ quarter ∧ quarter ≤ 4)

/-- There are reports for such a period. -/
def isReportedPeriod (period : Nat) : Bool := decide (2 ≤ period ∧ period ≤ 12)

/-- The last period of a quarter. -/
def finalPeriod? (quarter : Nat) : Option Nat :=
  if isQuarter quarter then some (quarter * 3) else none

def isFinalPeriod (period quarter : Nat) : Bool :=
  isReportedPeriod period && finalPeriod? quarter == some period

/-- The periods of a quarter that are reported. -/
def periodsOfQuarter? (quarter : Nat) : Option (List Nat) :=
  (finalPeriod? quarter).map fun last => [last - 2, last - 1, last].filter isReportedPeriod

/-- The quarter that a period is counted to. -/
def quarterOfPeriod? (period : Nat) : Option Nat :=
  if isReportedPeriod period then some ((period + 2) / 3) else none

/-- The last day of a fiscal quarter. The first quarter ends in the calendar year before. -/
def quarterEnd? (year : Int) (quarter : Nat) : Option Date := do
  let period ← finalPeriod? quarter
  -- period 1 is October, and the count goes on through January
  let month := (period + fiscalYearStart - 2) % 12 + 1
  lastDayOfMonth? (if fiscalYearStart ≤ month then year - 1 else year) month

/-! ## Small facts -/

/-- Every quarter there is ends with its third period. -/
theorem finalPeriod?_eq_some {q p : Nat} :
    finalPeriod? q = some p ↔ 1 ≤ q ∧ q ≤ 4 ∧ p = 3 * q := by
  simp only [finalPeriod?, isQuarter, decide_eq_true_eq]
  split
  · simp only [Option.some.injEq]
    omega
  · simp only [reduceCtorEq, false_iff]
    omega

end Obligations
