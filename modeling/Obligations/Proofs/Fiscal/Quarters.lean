import Obligations.Fiscal.Year
import Obligations.Proofs.Calendar.Neighbours

/-!
# Obligations — fiscal quarters on the calendar

The fiscal months of all years are the calendar months, three further on, and three of them make a
quarter. A date therefore lies in a quarter that its month alone decides, and it is no later than
the last day of a quarter if and only if its own quarter is no later than that one. That the
quarters follow each other without a gap, and that each ends where its end date says, are
consequences.

* `quarterIndex`, `Date.quarterIndex` — the quarters of all years in one row;
* `Date.quarterIndex_eq`, `Date.lt_of_quarterIndex_lt` — the quarter of a date by its month;
* `quarterEnd?_eq_some_iff`, `exists_quarterEnd?` — which date a quarter ends on, and when there
  is one;
* `le_quarterEnd_iff` — the dates up to the end of a quarter;
* `quarters_tile` — where quarters end, and which one a date lies in.
-/

namespace Obligations

/-! ## Quarters in a row -/

/-- The number of a quarter, where every quarter of every year has its own. -/
def quarterIndex (year : Int) (quarter : Nat) : Int := 4 * year + quarter

/-- The quarter after this one. -/
def nextQuarter (year : Int) (quarter : Nat) : Int × Nat :=
  if quarter = 4 then (year + 1, 1) else (year, quarter + 1)

namespace Date

variable {a b d e : Date} {year : Int} {quarter : Nat}

def quarterIndex (d : Date) : Int := Obligations.quarterIndex d.fiscalYear d.fiscalQuarter

/-- The date lies in this fiscal quarter. -/
def IsIn (d : Date) (year : Int) (quarter : Nat) : Prop :=
  d.fiscalYear = year ∧ d.fiscalQuarter = quarter

/-- Fiscal months are the calendar months, three further on. -/
theorem fiscalMonths_eq (d : Date) : 12 * d.fiscalYear + d.fiscalMonth = d.monthIndex + 3 := by
  have hpos := d.month_pos
  have hle := d.month_le
  unfold fiscalYear fiscalMonth fiscalYearStart monthIndex
  split <;> omega

theorem fiscalMonth_pos (d : Date) : 1 ≤ d.fiscalMonth := Nat.le_add_left 1 _

theorem fiscalMonth_le (d : Date) : d.fiscalMonth ≤ 12 := by
  unfold fiscalMonth
  omega

theorem fiscalQuarter_pos (d : Date) : 1 ≤ d.fiscalQuarter := by
  have hpos := d.fiscalMonth_pos
  unfold fiscalQuarter
  omega

theorem fiscalQuarter_le (d : Date) : d.fiscalQuarter ≤ 4 := by
  have hle := d.fiscalMonth_le
  unfold fiscalQuarter
  omega

/-- The month of a date decides its quarter. -/
theorem quarterIndex_eq (d : Date) : d.quarterIndex = (d.monthIndex + 5) / 3 := by
  have hmonths := d.fiscalMonths_eq
  -- twelve months are four quarters, so the division goes through the year
  unfold quarterIndex Obligations.quarterIndex fiscalQuarter
  omega

/-- A date of an earlier quarter is an earlier date. -/
theorem lt_of_quarterIndex_lt (h : a.quarterIndex < b.quarterIndex) : a < b := by
  rw [quarterIndex_eq, quarterIndex_eq] at h
  exact lt_iff.mpr (Or.inl (by omega))

/-- No two quarters have the same number. -/
theorem isIn_of_quarterIndex (h : d.quarterIndex = Obligations.quarterIndex year quarter)
    (hpos : 1 ≤ quarter) (hle : quarter ≤ 4) : d.IsIn year quarter := by
  have hpos' := d.fiscalQuarter_pos
  have hle' := d.fiscalQuarter_le
  unfold quarterIndex Obligations.quarterIndex at h
  exact ⟨by omega, by omega⟩

theorem isIn_nextQuarter (h : d.quarterIndex = Obligations.quarterIndex year quarter + 1)
    (hpos : 1 ≤ quarter) (hle : quarter ≤ 4) :
    d.IsIn (nextQuarter year quarter).1 (nextQuarter year quarter).2 := by
  unfold nextQuarter
  split
  · next hlast =>
    -- after the fourth quarter comes the first of the next year
    refine isIn_of_quarterIndex ?_ (Nat.le_refl 1) (by omega)
    rw [h, hlast]
    unfold Obligations.quarterIndex
    omega
  · -- the year stays
    refine isIn_of_quarterIndex ?_ (by omega) (by omega)
    rw [h]
    unfold Obligations.quarterIndex
    omega

end Date

/-! ## Last days -/

section

variable {year : Int} {month quarter : Nat} {d e : Date}

/-- Every month has a last day that is found, except for the last month of all. -/
theorem lastDayOfMonth?_eq_some_iff (hpos : 1 ≤ month) (hle : month ≤ 12) :
    lastDayOfMonth? year month = some e ↔
      e.monthIndex = 12 * year + month ∧ e.IsMonthEnd ∧
        e.monthIndex < 12 * Date.maxYear + 12 := by
  -- it is the day before the first of the next month, in the next year after December
  have hbefore : lastDayOfMonth? year month =
      (if month = 12 then Date.of? (year + 1) 1 1 else Date.of? year (month + 1) 1).bind
        Date.prev? := by
    unfold lastDayOfMonth?
    split <;> rfl
  rw [hbefore, Option.bind_eq_some_iff]
  constructor
  · rintro ⟨first, hfirst, hlast⟩
    rw [Date.prev?_of_first hpos hfirst] at hlast
    obtain ⟨rfl, rfl, hday⟩ := Date.of?_eq_some hlast
    -- the first day of the next month is a date, so this month is not the last one
    have hnext := (Date.nextMonth?_eq_some hfirst).1
    have hmax := first.le_maxMonth
    exact ⟨rfl, hday, by omega⟩
  · rintro ⟨hmonth, hend, hmax⟩
    obtain ⟨first, hfirst⟩ := Date.exists_nextMonth? hmax
    obtain ⟨rfl, rfl⟩ := Date.eq_of_monthIndex hmonth hpos hle
    refine ⟨first, hfirst, ?_⟩
    rw [Date.prev?_of_first hpos hfirst, ← hend]
    exact e.of?_self

/-- A quarter ends with its third month. -/
theorem quarterEnd?_eq_some_iff :
    quarterEnd? year quarter = some e ↔
      (1 ≤ quarter ∧ quarter ≤ 4) ∧ e.monthIndex + 3 = 12 * year + 3 * quarter ∧ e.IsMonthEnd ∧
        e.monthIndex < 12 * Date.maxYear + 12 := by
  -- the fiscal month of the quarter goes back to the calendar month that it is
  have hperiod : quarterEnd? year quarter = (finalPeriod? quarter).bind fun period =>
      lastDayOfMonth? (if fiscalYearStart ≤ (period + fiscalYearStart - 2) % 12 + 1 then year - 1
        else year) ((period + fiscalYearStart - 2) % 12 + 1) := rfl
  rw [hperiod, Option.bind_eq_some_iff]
  unfold fiscalYearStart
  constructor
  · rintro ⟨period, hperiod, hlast⟩
    obtain ⟨hpos, hle, rfl⟩ := finalPeriod?_eq_some.mp hperiod
    obtain ⟨hmonth, hend, hmax⟩ := (lastDayOfMonth?_eq_some_iff (by omega) (by omega)).mp hlast
    refine ⟨⟨hpos, hle⟩, ?_, hend, hmax⟩
    -- the month is December of the year before, or one of the year itself
    split at hmonth <;> omega
  · rintro ⟨⟨hpos, hle⟩, hmonth, hend, hmax⟩
    refine ⟨3 * quarter, finalPeriod?_eq_some.mpr ⟨hpos, hle, rfl⟩,
      (lastDayOfMonth?_eq_some_iff (by omega) (by omega)).mpr ⟨?_, hend, hmax⟩⟩
    split <;> omega

/-- In every year but the outermost, each of the four quarters ends on a date. -/
theorem exists_quarterEnd? (hlow : Date.minYear < year) (hhigh : year ≤ Date.maxYear)
    (hpos : 1 ≤ quarter) (hle : quarter ≤ 4) : ∃ e, quarterEnd? year quarter = some e := by
  rcases Nat.lt_or_eq_of_le hpos with hlater | rfl
  · obtain ⟨e, hmonth, hend⟩ := Date.exists_isMonthEnd (y := year) (m := 3 * quarter - 3)
      (by omega) hhigh (by omega) (by omega)
    exact ⟨e, quarterEnd?_eq_some_iff.mpr ⟨⟨hpos, hle⟩, by omega, hend, by omega⟩⟩
  · -- the first quarter ends in December of the year before
    obtain ⟨e, hmonth, hend⟩ := Date.exists_isMonthEnd (y := year - 1) (m := 12)
      (by omega) (by omega) (by omega) (by omega)
    exact ⟨e, quarterEnd?_eq_some_iff.mpr ⟨⟨hpos, hle⟩, by omega, hend, by omega⟩⟩

theorem quarterIndex_quarterEnd (h : quarterEnd? year quarter = some e) :
    e.quarterIndex = quarterIndex year quarter := by
  obtain ⟨-, hmonth, -⟩ := quarterEnd?_eq_some_iff.mp h
  rw [Date.quarterIndex_eq]
  unfold quarterIndex
  omega

/-- The dates up to the end of a quarter are those of this quarter and the earlier ones. -/
theorem le_quarterEnd_iff (h : quarterEnd? year quarter = some e) :
    d ≤ e ↔ d.quarterIndex ≤ quarterIndex year quarter := by
  obtain ⟨-, hmonth, hend, -⟩ := quarterEnd?_eq_some_iff.mp h
  -- the quarter ends with a month, so the months compare as the dates do
  rw [Date.le_iff_of_isMonthEnd hend, Date.quarterIndex_eq]
  unfold quarterIndex
  omega

/-! ## Quarters tile the calendar -/

/-- The date lies in the quarter, in its final period, and the first later date in the next one. -/
structure EndsQuarter (e : Date) (year : Int) (quarter : Nat) : Prop where
  isIn  : e.IsIn year quarter
  final : finalPeriod? quarter = some e.fiscalMonth
  next  : ∀ d, IsLeast {x | e < x} d →
            d.IsIn (nextQuarter year quarter).1 (nextQuarter year quarter).2

/-- A quarter ends in its final period, and the next day starts the next quarter. -/
theorem endsQuarter_of_quarterEnd (h : quarterEnd? year quarter = some e) :
    EndsQuarter e year quarter := by
  obtain ⟨⟨hpos, hle⟩, hmonth, hend, -⟩ := quarterEnd?_eq_some_iff.mp h
  have hquarter := quarterIndex_quarterEnd h
  obtain ⟨hyear, hquarter'⟩ := Date.isIn_of_quarterIndex hquarter hpos hle
  refine ⟨⟨hyear, hquarter'⟩, ?_, ?_⟩
  · have hmonths := e.fiscalMonths_eq
    refine finalPeriod?_eq_some.mpr ⟨hpos, hle, ?_⟩
    rw [hyear] at hmonths
    omega
  · intro d hd
    -- the next day of the last of a month is in the next month
    have hnext := Date.next?_eq_some_iff.mpr hd
    rw [Date.next?_of_isMonthEnd hend] at hnext
    have hmonth' := (Date.nextMonth?_eq_some hnext).1
    refine Date.isIn_nextQuarter ?_ hpos hle
    rw [Date.quarterIndex_eq]
    unfold quarterIndex
    omega

/-- The quarter of a date is the first of its year that does not end before the date. -/
theorem isLeast_fiscalQuarter (hlow : Date.minYear < d.fiscalYear)
    (hhigh : d.fiscalYear ≤ Date.maxYear) :
    IsLeast {q | ∃ e, quarterEnd? d.fiscalYear q = some e ∧ d ≤ e} d.fiscalQuarter := by
  constructor
  · -- its own quarter does not end before the date
    obtain ⟨e, he⟩ := exists_quarterEnd? hlow hhigh d.fiscalQuarter_pos d.fiscalQuarter_le
    exact ⟨e, he, (le_quarterEnd_iff he).mpr (Int.le_refl _)⟩
  · rintro q ⟨e, he, hle⟩
    -- both quarters are of the same year, so their numbers compare as they do
    have hquarter := (le_quarterEnd_iff he).mp hle
    unfold Date.quarterIndex quarterIndex at hquarter
    omega

/-- A fiscal month but the first is a period, which is counted to the quarter of the month. -/
theorem quarterOfPeriod?_fiscalMonth (h : 2 ≤ d.fiscalMonth) :
    quarterOfPeriod? d.fiscalMonth = some d.fiscalQuarter :=
  if_pos (decide_eq_true ⟨h, d.fiscalMonth_le⟩)

end

/-- **Quarters tile the calendar.** A quarter of a year that the calendar reaches ends on a date
that lies in it, and the next day starts the next quarter; and a date lies in the first quarter of
its year that does not end before it, which is also the one its fiscal month is counted to. -/
theorem quarters_tile :
    (∀ year quarter, Date.minYear < year → year ≤ Date.maxYear → 1 ≤ quarter → quarter ≤ 4 →
      ∃ e, quarterEnd? year quarter = some e ∧ EndsQuarter e year quarter) ∧
    (∀ d : Date, Date.minYear < d.fiscalYear → d.fiscalYear ≤ Date.maxYear →
      IsLeast {q | ∃ e, quarterEnd? d.fiscalYear q = some e ∧ d ≤ e} d.fiscalQuarter ∧
      (2 ≤ d.fiscalMonth → quarterOfPeriod? d.fiscalMonth = some d.fiscalQuarter)) := by
  constructor
  · intro year quarter hlow hhigh hpos hle
    obtain ⟨e, he⟩ := exists_quarterEnd? hlow hhigh hpos hle
    exact ⟨e, he, endsQuarter_of_quarterEnd he⟩
  · intro d hlow hhigh
    exact ⟨isLeast_fiscalQuarter hlow hhigh, quarterOfPeriod?_fiscalMonth⟩

namespace Sample

def leapDay : Date := (Date.of? 2020 2 29).get (by decide)

end Sample

/-- The first quarter of the first year there is ends in the year before. -/
theorem quarters_tile_sample :
    (∃ e, quarterEnd? (-262142) 1 = some e ∧ EndsQuarter e (-262142) 1) ∧
    IsLeast {q | ∃ e, quarterEnd? 2020 q = some e ∧ Sample.leapDay ≤ e} 2 ∧
    quarterOfPeriod? 5 = some 2 := by
  obtain ⟨hends, hlies⟩ := quarters_tile
  obtain ⟨hleast, hperiod⟩ := hlies Sample.leapDay (by decide) (by decide)
  exact ⟨hends (-262142) 1 (by decide) (by decide) (by decide) (by decide), hleast,
    hperiod (by decide)⟩

end Obligations
