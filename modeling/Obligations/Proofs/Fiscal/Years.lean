import Obligations.Proofs.Fiscal.Quarters

/-!
# Obligations — fiscal years and the dates that delimit them

A fiscal year is asked for in four ways: by its first and last day, as the year of a date, as the
end of its fourth quarter, and as a pair of dates that begin and end whole years. What they share is
that a date is not before the first day of a year just in case its own year is not an earlier one,
and not after the last day just in case its own year is not a later one. The dates between the two
are then the dates of the year, and the first day after them starts the next one.

* `Date.StartsYear`, `Date.EndsYear` — the first and the last day of a fiscal year;
* `Date.StartsYear.le_iff`, `Date.EndsYear.le_iff` — the dates from a year on, and up to it;
* `fiscalYearBounds?_eq_some_iff`, `exists_fiscalYearBounds?_iff` — which dates delimit a year, and
  which years have such dates;
* `areYearBookends_iff` — two dates that begin and end whole years;
* `year_bounds_agree` — all of them are about the same years.
-/

namespace Obligations

variable {year : Int} {a b d first last : Date}

/-! ## First and last days -/

namespace Date

/-- It is the first of October before the calendar year of this number. -/
structure StartsYear (d : Date) (year : Int) : Prop where
  year  : d.year = year - 1
  month : d.month = 10
  day   : d.day = 1

/-- It is the last of September in the calendar year of this number. -/
structure EndsYear (d : Date) (year : Int) : Prop where
  year  : d.year = year
  month : d.month = 9
  day   : d.day = 30

theorem StartsYear.monthIndex_eq (h : d.StartsYear year) : d.monthIndex = 12 * year - 2 := by
  rw [monthIndex, h.year, h.month]
  omega

theorem EndsYear.monthIndex_eq (h : d.EndsYear year) : d.monthIndex = 12 * year + 9 := by
  rw [monthIndex, h.year, h.month]
  rfl

theorem EndsYear.isMonthEnd (h : d.EndsYear year) : d.IsMonthEnd := by
  rw [IsMonthEnd, h.day, h.month]
  rfl

theorem StartsYear.fiscalYear_eq (h : d.StartsYear year) : d.fiscalYear = year := by
  rw [fiscalYear, h.month, h.year]
  exact Int.sub_add_cancel year 1

theorem EndsYear.fiscalYear_eq (h : d.EndsYear year) : d.fiscalYear = year := by
  rw [fiscalYear, h.month, h.year]
  rfl

/-- The dates from the first day of a year on are those of this year and the later ones. -/
theorem StartsYear.le_iff (h : a.StartsYear year) : a ≤ d ↔ year ≤ d.fiscalYear := by
  have hmonths := d.fiscalMonths_eq
  have hpos := d.fiscalMonth_pos
  have hle := d.fiscalMonth_le
  -- what counts is the month, and the fiscal year is the division of the months by twelve
  rw [le_iff_of_first h.day, h.monthIndex_eq]
  omega

/-- The dates up to the last day of a year are those of this year and the earlier ones. -/
theorem EndsYear.le_iff (h : b.EndsYear year) : d ≤ b ↔ d.fiscalYear ≤ year := by
  -- as above, with September the last of the twelve months
  have hmonths := d.fiscalMonths_eq
  have hpos := d.fiscalMonth_pos
  have hle := d.fiscalMonth_le
  rw [le_iff_of_isMonthEnd h.isMonthEnd, h.monthIndex_eq]
  omega

/-- A year does not start after it ends, nor after a later one does. -/
theorem StartsYear.lt_of_endsYear {year' : Int} (ha : a.StartsYear year) (hb : b.EndsYear year')
    (h : year ≤ year') : a < b := by
  refine lt_iff.mpr (Or.inl ?_)
  rw [ha.monthIndex_eq, hb.monthIndex_eq]
  omega

/-- After the last day of a year comes the first of the next. -/
theorem EndsYear.exists_next (h : a.EndsYear year) :
    ∃ d, IsLeast {x | a < x} d ∧ d.StartsYear (year + 1) := by
  have hindex := h.monthIndex_eq
  have hyear := h.year
  have hhigh := a.le_maxYear
  -- it is October, also of the last year there is
  obtain ⟨d, hd⟩ := exists_nextMonth? (d := a) (by omega)
  obtain ⟨hmonth, hday⟩ := nextMonth?_eq_some hd
  obtain ⟨hyear', hmonth'⟩ := eq_of_monthIndex (d := d) (y := year) (m := 10) (by omega)
    (by omega) (by omega)
  rw [← next?_of_isMonthEnd h.isMonthEnd] at hd
  exact ⟨d, next?_eq_some_iff.mp hd, by omega, hmonth', hday⟩

/-- Every year but the first that dates are in has its first day. -/
theorem exists_startsYear (hlow : minYear < year) (hhigh : year ≤ maxYear) :
    ∃ d : Date, d.StartsYear year := by
  -- October exists in every calendar year, and the year before must be one
  obtain ⟨d, hd⟩ := exists_of? (y := year - 1) (m := 10) (n := 1) (by omega) (by omega)
    (Nat.le_refl 1) (show 1 ≤ 31 by decide)
  obtain ⟨hyear, hmonth, hday⟩ := of?_eq_some hd
  exact ⟨d, hyear, hmonth, hday⟩

theorem exists_endsYear (hlow : minYear < year) (hhigh : year ≤ maxYear) :
    ∃ d : Date, d.EndsYear year := by
  obtain ⟨d, hd⟩ := exists_of? (m := 9) (n := 30) (Int.le_of_lt hlow) hhigh (by decide)
    (Nat.le_refl 30)
  obtain ⟨hyear, hmonth, hday⟩ := of?_eq_some hd
  exact ⟨d, hyear, hmonth, hday⟩

end Date

/-! ## Bounds -/

/-- The bounds of a year are its first and its last day. -/
theorem fiscalYearBounds?_eq_some_iff :
    fiscalYearBounds? year = some (first, last) ↔ first.StartsYear year ∧ last.EndsYear year := by
  -- both days have to be found
  have hdates : fiscalYearBounds? year = (Date.of? (year - 1) 10 1).bind fun first =>
      (Date.of? year 9 30).bind fun last => some (first, last) := rfl
  rw [hdates, Option.bind_eq_some_iff]
  constructor
  · rintro ⟨first', hfirst, hrest⟩
    obtain ⟨last', hlast, hpair⟩ := Option.bind_eq_some_iff.mp hrest
    obtain ⟨rfl, rfl⟩ := Prod.mk.inj (Option.some.inj hpair)
    obtain ⟨hyear, hmonth, hday⟩ := Date.of?_eq_some hfirst
    obtain ⟨hyear', hmonth', hday'⟩ := Date.of?_eq_some hlast
    exact ⟨⟨hyear, hmonth, hday⟩, ⟨hyear', hmonth', hday'⟩⟩
  · intro ⟨hfirst, hlast⟩
    refine ⟨first, Date.of?_eq_some_iff.mpr ⟨hfirst.year, hfirst.month, hfirst.day⟩, ?_⟩
    rw [Date.of?_eq_some_iff.mpr ⟨hlast.year, hlast.month, hlast.day⟩]
    rfl

/-- The first of the years there are lacks its first day, and the year after the last one would
lack all but three months. -/
theorem exists_fiscalYearBounds?_iff :
    (∃ bounds, fiscalYearBounds? year = some bounds) ↔
      Date.minYear < year ∧ year ≤ Date.maxYear := by
  constructor
  · rintro ⟨⟨first, last⟩, h⟩
    obtain ⟨hfirst, hlast⟩ := fiscalYearBounds?_eq_some_iff.mp h
    have hlow := first.minYear_le
    have hhigh := last.le_maxYear
    -- the first day is one of the calendar year before
    have hyear := hfirst.year
    have hyear' := hlast.year
    exact ⟨by omega, by omega⟩
  · intro ⟨hlow, hhigh⟩
    obtain ⟨first, hfirst⟩ := Date.exists_startsYear hlow hhigh
    obtain ⟨last, hlast⟩ := Date.exists_endsYear hlow hhigh
    exact ⟨(first, last), fiscalYearBounds?_eq_some_iff.mpr ⟨hfirst, hlast⟩⟩

/-- The dates are the bounds of the year, and the next day starts the next year. -/
structure DelimitYear (first last : Date) (year : Int) : Prop where
  mem_iff : ∀ d : Date, (first ≤ d ∧ d ≤ last) ↔ d.fiscalYear = year
  quarter : quarterEnd? year 4 = some last
  next    : ∃ d, IsLeast {x | last < x} d ∧
              ∀ bounds, fiscalYearBounds? d.fiscalYear = some bounds →
                ∃ last', fiscalYearBounds? (year + 1) = some (d, last')

theorem delimitYear_of_bounds (h : fiscalYearBounds? year = some (first, last)) :
    DelimitYear first last year := by
  obtain ⟨hfirst, hlast⟩ := fiscalYearBounds?_eq_some_iff.mp h
  refine { mem_iff := ?_, quarter := ?_, next := ?_ }
  · intro d
    rw [hfirst.le_iff, hlast.le_iff, and_comm]
    exact Int.le_antisymm_iff.symm
  · -- September is the third month of the fourth quarter, and never the last month of all
    have hmonth := hlast.monthIndex_eq
    have hhigh := last.le_maxYear
    have hyear := hlast.year
    exact quarterEnd?_eq_some_iff.mpr
      ⟨⟨by omega, by omega⟩, by omega, hlast.isMonthEnd, by omega⟩
  · -- the next day is in the next year, so the bounds it is asked for are those of that year
    obtain ⟨d, hnext, hstarts⟩ := hlast.exists_next
    refine ⟨d, hnext, ?_⟩
    rw [hstarts.fiscalYear_eq]
    rintro ⟨first', last'⟩ hbounds
    obtain ⟨-, hends⟩ := fiscalYearBounds?_eq_some_iff.mp hbounds
    exact ⟨last', fiscalYearBounds?_eq_some_iff.mpr ⟨hstarts, hends⟩⟩

/-! ## Whole years -/

/-- Bookends are the first day of a year and the last day of this year or a later one. -/
theorem areYearBookends_iff :
    areYearBookends a b = true ↔
      a.StartsYear a.fiscalYear ∧ b.EndsYear b.fiscalYear ∧ a.fiscalYear ≤ b.fiscalYear := by
  simp only [areYearBookends, fiscalYearStart, Bool.and_eq_true, beq_iff_eq, decide_eq_true_eq]
  constructor
  · rintro ⟨⟨⟨⟨hmonth, hday⟩, hmonth'⟩, hday'⟩, hle⟩
    -- the calendar year of a date follows from its fiscal year and its month
    refine ⟨⟨?_, hmonth, hday⟩, ⟨?_, hmonth', hday'⟩, hle⟩
    · rw [Date.fiscalYear, hmonth]
      exact (Int.add_sub_cancel _ _).symm
    · rw [Date.fiscalYear, hmonth']
      rfl
  · intro ⟨hfirst, hlast, hle⟩
    exact ⟨⟨⟨⟨hfirst.month, hfirst.day⟩, hlast.month⟩, hlast.day⟩, hle⟩

/-- Bookends are the outer bounds of two years, of which the second is not the earlier one. -/
theorem areYearBookends_iff_exists :
    areYearBookends a b = true ↔
      ∃ f g, f ≤ g ∧ (∃ last, fiscalYearBounds? f = some (a, last)) ∧
        ∃ first, fiscalYearBounds? g = some (first, b) := by
  rw [areYearBookends_iff]
  constructor
  · intro ⟨hfirst, hlast, hle⟩
    have hlow := a.minYear_le
    have hhigh := b.le_maxYear
    have hyear := hfirst.year
    have hyear' := hlast.year
    -- a year that starts and is not later than one that ends has both its days, and so has that one
    obtain ⟨last, hends⟩ : ∃ d : Date, d.EndsYear a.fiscalYear :=
      Date.exists_endsYear (by omega) (by omega)
    obtain ⟨first, hstarts⟩ : ∃ d : Date, d.StartsYear b.fiscalYear :=
      Date.exists_startsYear (by omega) (by omega)
    exact ⟨a.fiscalYear, b.fiscalYear, hle,
      ⟨last, fiscalYearBounds?_eq_some_iff.mpr ⟨hfirst, hends⟩⟩,
      ⟨first, fiscalYearBounds?_eq_some_iff.mpr ⟨hstarts, hlast⟩⟩⟩
  · rintro ⟨f, g, hle, ⟨last, hf⟩, ⟨first, hg⟩⟩
    obtain ⟨hfirst, -⟩ := fiscalYearBounds?_eq_some_iff.mp hf
    obtain ⟨-, hlast⟩ := fiscalYearBounds?_eq_some_iff.mp hg
    rw [hfirst.fiscalYear_eq, hlast.fiscalYear_eq]
    exact ⟨hfirst, hlast, hle⟩

/-- **What is said of fiscal years agrees.** The bounds of a year, which all years but the outermost
have, enclose just its dates, and end with its last quarter and before the next year; and bookends
are the start of a year and the end of the same or a later one, in this order. -/
theorem year_bounds_agree :
    (∀ year, (∃ bounds, fiscalYearBounds? year = some bounds) ↔
      Date.minYear < year ∧ year ≤ Date.maxYear) ∧
    (∀ year first last, fiscalYearBounds? year = some (first, last) →
      DelimitYear first last year) ∧
    (∀ a b : Date, (areYearBookends a b = true ↔
      ∃ f g, f ≤ g ∧ (∃ last, fiscalYearBounds? f = some (a, last)) ∧
        ∃ first, fiscalYearBounds? g = some (first, b)) ∧
      (areYearBookends a b = true → a < b)) := by
  refine ⟨fun year => exists_fiscalYearBounds?_iff,
    fun year first last => delimitYear_of_bounds, fun a b => ⟨areYearBookends_iff_exists, ?_⟩⟩
  intro h
  obtain ⟨hfirst, hlast, hle⟩ := areYearBookends_iff.mp h
  exact hfirst.lt_of_endsYear hlast hle

namespace Sample

def firstOctober : Date := (Date.of? (-262143) 10 1).get (by decide)

def firstSeptember : Date := (Date.of? (-262142) 9 30).get (by decide)

def lastSeptember : Date := (Date.of? 262142 9 30).get (by decide)

end Sample

/-- The first year that has bounds, and all years from it to the last. -/
theorem year_bounds_agree_sample :
    (∃ bounds, fiscalYearBounds? (-262142) = some bounds) ∧
    DelimitYear Sample.firstOctober Sample.firstSeptember (-262142) ∧
    (areYearBookends Sample.firstOctober Sample.lastSeptember = true ∧
      Sample.firstOctober < Sample.lastSeptember) := by
  obtain ⟨hexists, hdelimit, hbookends⟩ := year_bounds_agree
  exact ⟨(hexists (-262142)).mpr ⟨by decide, by decide⟩, hdelimit _ _ _ (by decide), by decide,
    (hbookends Sample.firstOctober Sample.lastSeptember).2 (by decide)⟩

end Obligations
