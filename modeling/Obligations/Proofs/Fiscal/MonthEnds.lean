import Obligations.Proofs.Fiscal.Quarters

/-!
# Obligations — the last day of a month

The last day of a month is found by going back from the first of the month after it. For the months
there are, this is the greatest date of the month, and only the last month of all has no month after
it to go back from. Whether the month itself is one of the twelve is never asked, only whether the
month after it is. So the numbers above 12 are refused, but not the number 0: the month after it is
January, and the day before is in the year before.

* `Date.ofMonth` — the dates of a month;
* `isGreatest_ofMonth_iff` — the last of them;
* `exists_lastDayOfMonth?_iff` — the months that have a last day;
* `lastDayOfMonth?_of_gt`, `lastDayOfMonth?_zero` — the numbers on both sides of the months;
* `findsLastDay_iff` — for which years and numbers of months the right day is found, or none;
* `month_zero_has_last_day` — a last day of a month that does not exist.
-/

namespace Obligations

/-- The dates of a calendar month; none if there is no such month. -/
def Date.ofMonth (year : Int) (month : Nat) : Set Date := {d | d.year = year ∧ d.month = month}

/-- A day is found for every month that has a next one, it is the last of its month, and for other
numbers there is none. -/
structure FindsLastDay (year : Int) (month : Nat) : Prop where
  isLast  : ∀ d, lastDayOfMonth? year month = some d →
              (1 ≤ month ∧ month ≤ 12) ∧ IsGreatest (Date.ofMonth year month) d
  refused : ¬ (1 ≤ month ∧ month ≤ 12) → lastDayOfMonth? year month = none
  found   : 1 ≤ month ∧ month ≤ 12 → Date.minYear ≤ year → year < Date.maxYear →
              ∃ d, lastDayOfMonth? year month = some d

variable {year : Int} {month : Nat} {d : Date}

/-! ## The last date -/

/-- A date is in a month if its number of months is that of the month. -/
theorem Date.mem_ofMonth_iff (hpos : 1 ≤ month) (hle : month ≤ 12) :
    d ∈ Date.ofMonth year month ↔ d.monthIndex = 12 * year + month := by
  constructor
  · rintro ⟨rfl, rfl⟩
    rfl
  · intro h
    exact Date.eq_of_monthIndex h hpos hle

/-- The greatest date of a month is the one on which the month ends. -/
theorem isGreatest_ofMonth_iff (hpos : 1 ≤ month) (hle : month ≤ 12) :
    IsGreatest (Date.ofMonth year month) d ↔ d.monthIndex = 12 * year + month ∧ d.IsMonthEnd := by
  constructor
  · intro ⟨hmem, hlast⟩
    obtain ⟨rfl, rfl⟩ := hmem
    -- the last day of the month is a date too, and `d` is not before it
    obtain ⟨e, hmonth, hend⟩ := Date.exists_isMonthEnd d.minYear_le d.le_maxYear hpos hle
    have hed := hlast ((Date.mem_ofMonth_iff hpos hle).mpr hmonth)
    have hde := (Date.le_iff_of_isMonthEnd hend).mpr (Int.le_of_eq hmonth.symm)
    obtain rfl : d = e := Date.index_injective (Int.le_antisymm hde hed)
    exact ⟨rfl, hend⟩
  · rintro ⟨hmonth, hend⟩
    refine ⟨(Date.mem_ofMonth_iff hpos hle).mpr hmonth, fun x hx => ?_⟩
    have hmonth' := (Date.mem_ofMonth_iff hpos hle).mp hx
    exact (Date.le_iff_of_isMonthEnd hend).mpr (by omega)

/-- A month of the twelve has a last day, unless it is the last month of all or of a year that no
date is in. -/
theorem exists_lastDayOfMonth?_iff (hpos : 1 ≤ month) (hle : month ≤ 12) :
    (∃ d, lastDayOfMonth? year month = some d) ↔
      Date.minYear ≤ year ∧ 12 * year + month < 12 * Date.maxYear + 12 := by
  constructor
  · rintro ⟨d, h⟩
    obtain ⟨hmonth, -, hmax⟩ := (lastDayOfMonth?_eq_some_iff hpos hle).mp h
    -- the day lies in the month, so the year is that of a date
    obtain ⟨rfl, -⟩ := Date.eq_of_monthIndex hmonth hpos hle
    exact ⟨d.minYear_le, by omega⟩
  · intro ⟨hlow, hmax⟩
    obtain ⟨d, hmonth, hend⟩ := Date.exists_isMonthEnd hlow (by omega) hpos hle
    exact ⟨d, (lastDayOfMonth?_eq_some_iff hpos hle).mpr ⟨hmonth, hend, by omega⟩⟩

/-! ## Numbers of months -/

/-- After such a month there is none. -/
theorem lastDayOfMonth?_of_gt (h : 12 < month) : lastDayOfMonth? year month = none := by
  have hnext : Date.of? year (month + 1) 1 = none := by
    -- the first of the next month would be a date in a month after the twelfth
    refine Option.eq_none_iff_forall_ne_some.mpr fun e he => ?_
    have hmonth := (Date.of?_eq_some he).2.1
    have hle := e.month_le
    omega
  unfold lastDayOfMonth?
  rw [if_neg (by omega), hnext]
  rfl

/-- The number 0 stands for December of the year before. -/
theorem lastDayOfMonth?_zero : lastDayOfMonth? year 0 = lastDayOfMonth? (year - 1) 12 := by
  unfold lastDayOfMonth?
  rw [if_neg (by omega), if_pos rfl, Int.sub_add_cancel]

theorem lastDayOfMonth?_zero_eq_none_iff :
    lastDayOfMonth? year 0 = none ↔ year ≤ Date.minYear ∨ Date.maxYear < year := by
  have hexists : (∃ d, lastDayOfMonth? (year - 1) 12 = some d) ↔ _ :=
    exists_lastDayOfMonth?_iff (by decide) (by decide)
  rw [lastDayOfMonth?_zero, Option.eq_none_iff_forall_ne_some, ← not_exists, hexists]
  omega

/-! ## Right days -/

/-- For every number but 0 the right day is found, or none. -/
theorem findsLastDay_of_pos (hpos : 1 ≤ month) : FindsLastDay year month := by
  -- above 12 nothing is found, and up to 12 it is the last date
  rcases Nat.lt_or_ge 12 month with hgt | hle
  · have hnone : lastDayOfMonth? year month = none := lastDayOfMonth?_of_gt hgt
    refine { isLast := ?_, refused := fun _ => hnone, found := ?_ }
    · intro d h
      rw [hnone] at h
      contradiction
    · intro hmonth
      omega
  · refine { isLast := ?_, refused := ?_, found := ?_ }
    · intro d h
      obtain ⟨hmonth, hend, -⟩ := (lastDayOfMonth?_eq_some_iff hpos hle).mp h
      exact ⟨⟨hpos, hle⟩, (isGreatest_ofMonth_iff hpos hle).mpr ⟨hmonth, hend⟩⟩
    · intro h
      exact absurd ⟨hpos, hle⟩ h
    · intro _ hlow hhigh
      exact (exists_lastDayOfMonth?_iff hpos hle).mpr ⟨hlow, by omega⟩

/-- **Which last days are right.** All but those of month 0, for which a day is found in every year
that has a year before. -/
theorem findsLastDay_iff (year : Int) (month : Nat) :
    FindsLastDay year month ↔ (month = 0 → year ≤ Date.minYear ∨ Date.maxYear < year) := by
  rcases Nat.eq_zero_or_pos month with rfl | hpos
  · rw [← lastDayOfMonth?_zero_eq_none_iff]
    constructor
    · intro h _
      exact h.refused (by omega)
    · intro hzero
      -- without a day there is nothing that could be wrong about it
      refine { isLast := ?_, refused := fun _ => hzero rfl, found := ?_ }
      · intro d h
        rw [hzero rfl] at h
        contradiction
      · intro hmonth
        omega
  · constructor
    · intro _ hzero
      omega
    · intro _
      exact findsLastDay_of_pos hpos

namespace Sample

def newYearsEve : Date := (Date.of? 2019 12 31).get (by decide)

end Sample

/-- Month 0 of 2020 ends with 2019. -/
theorem month_zero_has_last_day :
    lastDayOfMonth? 2020 0 = some Sample.newYearsEve ∧ ¬ FindsLastDay 2020 0 := by
  have hlast : lastDayOfMonth? 2020 0 = some Sample.newYearsEve := by decide
  refine ⟨hlast, fun h => ?_⟩
  have hpos := (h.isLast _ hlast).1.1
  omega

end Obligations
