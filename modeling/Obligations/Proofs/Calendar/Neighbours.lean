import Mathlib.Order.Bounds.Defs
import Obligations.Calendar.Date

/-!
# Obligations — days one after the other

Dates are in the order of their months, and within a month in the order of their days. The next day
of a date is the first of all later ones, so whoever goes on day by day leaves none out; and to go
on by whole months arrives at the same day.

* `Date.monthIndex` — the months of all years in one row;
* `Date.lt_iff`, `Date.IsMonthEnd` — the order of dates, told by months and days;
* `Date.exists_nextMonth?` — only the last month has no next one;
* `Date.next?_eq_some_iff` — the next day is the first of the later ones;
* `Date.later?`, `Date.addDays?_eq_later?` — a number of days on, counted one by one.
-/

namespace Obligations

namespace Date

variable {a b c d e : Date} {y : Int} {m n : Nat}

/-! ## The order of dates -/

/-- The number of the month of a date, where every month of every year has its own. -/
def monthIndex (d : Date) : Int := 12 * d.year + d.month

/-- It is the last day of its month. -/
def IsMonthEnd (d : Date) : Prop := d.day = monthLength d.year d.month

/-- No month is longer than 31 days, so days take less room than the index leaves them. -/
theorem day_le_31 (d : Date) : d.day ≤ 31 := Nat.le_trans d.day_le (monthLength_le d.year d.month)

/-- The months of a year come after those of all earlier years. -/
theorem lt_monthIndex (d : Date) : 12 * d.year < d.monthIndex := by
  have hpos := d.month_pos
  unfold monthIndex
  omega

theorem monthIndex_le (d : Date) : d.monthIndex ≤ 12 * d.year + 12 := by
  have hle := d.month_le
  unfold monthIndex
  omega

/-- No date is in a month after the last December. -/
theorem le_maxMonth (d : Date) : d.monthIndex ≤ 12 * maxYear + 12 := by
  have hyear := d.le_maxYear
  have hmonth := d.monthIndex_le
  omega

/-- The number tells the year and the month. -/
theorem eq_of_monthIndex (h : d.monthIndex = 12 * y + m) (hpos : 1 ≤ m) (hle : m ≤ 12) :
    d.year = y ∧ d.month = m := by
  have hpos' := d.month_pos
  have hle' := d.month_le
  unfold monthIndex at h
  exact ⟨by omega, by omega⟩

/-- Two dates are in one month if they have the same number. -/
theorem monthIndex_eq_iff : a.monthIndex = b.monthIndex ↔ a.year = b.year ∧ a.month = b.month := by
  constructor
  · intro h
    exact eq_of_monthIndex h b.month_pos b.month_le
  · rintro ⟨hyear, hmonth⟩
    rw [monthIndex, monthIndex, hyear, hmonth]

/-- Dates are ordered by their months first, then by their days. -/
theorem lt_iff :
    a < b ↔ a.monthIndex < b.monthIndex ∨ a.monthIndex = b.monthIndex ∧ a.day < b.day := by
  have ha := a.month_pos
  have ha' := a.month_le
  have hb := b.month_pos
  have hb' := b.month_le
  have hdays := a.day_le_31
  have hdays' := b.day_le_31
  -- the index leaves more room for the days of a month and the months of a year than they take
  show a.index < b.index ↔ _
  unfold index monthIndex
  omega

theorem not_lt : ¬ a < b ↔ b ≤ a := Int.not_lt

theorem not_le : ¬ a ≤ b ↔ b < a := Int.not_le

/-- No day of the month comes after the last one. -/
theorem le_iff_of_isMonthEnd (h : b.IsMonthEnd) : a ≤ b ↔ a.monthIndex ≤ b.monthIndex := by
  rw [← not_lt, lt_iff]
  constructor
  · -- whatever is not later is not in a later month
    omega
  · intro hle hlt
    obtain hlt | ⟨hmonth, hday⟩ := hlt
    · omega
    · -- both are days of one month, which is no longer than `b.day`
      obtain ⟨hyear', hmonth'⟩ := monthIndex_eq_iff.mp hmonth
      have hday' := a.day_le
      rw [← hyear', ← hmonth', ← h] at hday'
      omega

/-- Whatever is later than the end of a month is in a later month. -/
theorem lt_iff_of_isMonthEnd (h : a.IsMonthEnd) : a < b ↔ a.monthIndex < b.monthIndex := by
  rw [← not_le, le_iff_of_isMonthEnd h, Int.not_le]

/-- No day of the month comes before the first one. -/
theorem le_iff_of_first (h : a.day = 1) : a ≤ b ↔ a.monthIndex ≤ b.monthIndex := by
  have hpos := b.day_pos
  rw [← not_lt, lt_iff]
  omega

/-! ## Dates that exist -/

/-- Within the range of years there is a date for every day that the month has. -/
theorem exists_of? (hlow : minYear ≤ y) (hhigh : y ≤ maxYear) (hpos : 1 ≤ n)
    (hle : n ≤ monthLength y m) : ∃ e, of? y m n = some e :=
  ⟨_, dif_pos ⟨hlow, hhigh, hpos, hle⟩⟩

/-- A date is told by its year, month and day. -/
theorem of?_eq_some_iff {m d : Nat} :
    of? y m d = some e ↔ e.year = y ∧ e.month = m ∧ e.day = d := by
  constructor
  · exact of?_eq_some
  · rintro ⟨rfl, rfl, rfl⟩
    exact e.of?_self

/-- Where there is a date, it is in the month that was asked for. -/
theorem monthIndex_of? (h : of? y m n = some e) : e.monthIndex = 12 * y + m ∧ e.day = n := by
  obtain ⟨rfl, rfl, rfl⟩ := of?_eq_some h
  exact ⟨rfl, rfl⟩

/-- Every month has a 28th day; a month that does not exist has none at all. -/
theorem le_monthLength (hpos : 1 ≤ m) (hle : m ≤ 12) : 28 ≤ monthLength y m := by
  unfold monthLength
  grind

theorem exists_isMonthEnd (hlow : minYear ≤ y) (hhigh : y ≤ maxYear) (hpos : 1 ≤ m)
    (hle : m ≤ 12) : ∃ e : Date, e.monthIndex = 12 * y + m ∧ e.IsMonthEnd := by
  have hlength : 28 ≤ monthLength y m := le_monthLength hpos hle
  obtain ⟨e, he⟩ := exists_of? (n := monthLength y m) hlow hhigh (by omega) (Nat.le_refl _)
  obtain ⟨rfl, rfl, hday⟩ := of?_eq_some he
  exact ⟨e, rfl, hday⟩

/-! ## The next month -/

/-- The next month is the one with the next number, and it is entered on its first day. -/
theorem nextMonth?_eq_some (h : a.nextMonth? = some b) :
    b.monthIndex = a.monthIndex + 1 ∧ b.day = 1 := by
  have hindex : a.monthIndex = 12 * a.year + a.month := rfl
  unfold nextMonth? at h
  split at h
  · -- January of the next year
    obtain ⟨hmonth, hday⟩ := monthIndex_of? h
    exact ⟨by omega, hday⟩
  · -- another month of the same year
    obtain ⟨hmonth, hday⟩ := monthIndex_of? h
    exact ⟨by omega, hday⟩

/-- Only the last month of the range has no next one. -/
theorem exists_nextMonth? (h : d.monthIndex < 12 * maxYear + 12) : ∃ e, d.nextMonth? = some e := by
  have hpos := d.month_pos
  have hle := d.month_le
  have hlow := d.minYear_le
  unfold monthIndex at h
  unfold nextMonth?
  -- December is followed by a month of another year, which has to exist
  split
  · have hlength : 28 ≤ monthLength (d.year + 1) 1 := le_monthLength (by omega) (by omega)
    exact exists_of? (by omega) (by omega) (Nat.le_refl 1) (by omega)
  · have hlength : 28 ≤ monthLength d.year (d.month + 1) := le_monthLength (by omega) (by omega)
    exact exists_of? hlow d.le_maxYear (Nat.le_refl 1) (by omega)

/-- All days of a month have the same next month. -/
theorem nextMonth?_congr (h : a.monthIndex = b.monthIndex) : a.nextMonth? = b.nextMonth? := by
  obtain ⟨hyear, hmonth⟩ := monthIndex_eq_iff.mp h
  rw [nextMonth?, nextMonth?, hyear, hmonth]

/-- The day before the first of the next month is the last of this one. -/
theorem prev?_of_first (hpos : 1 ≤ m)
    (h : (if m = 12 then of? (y + 1) 1 1 else of? y (m + 1) 1) = some b) :
    b.prev? = of? y m (monthLength y m) := by
  split at h
  · next hlast =>
    obtain ⟨hyear, hmonth, hday⟩ := of?_eq_some h
    rw [prev?, if_neg (by omega), if_pos hmonth, hyear, Int.add_sub_cancel, hlast]
    rfl
  · obtain ⟨hyear, hmonth, hday⟩ := of?_eq_some h
    rw [prev?, if_neg (by omega), if_neg (by omega), hyear, hmonth, Nat.add_sub_cancel]

/-! ## The next day -/

/-- Before the end of a month, the next day has the next number. -/
theorem next?_of_day_lt (h : d.day < monthLength d.year d.month) :
    d.next? = of? d.year d.month (d.day + 1) := by
  obtain ⟨e, he⟩ := exists_of? d.minYear_le d.le_maxYear (Nat.le_add_left 1 d.day) h
  rw [next?, he]
  rfl

/-- At the end of a month, it is the first of the next month. -/
theorem next?_of_isMonthEnd (h : d.IsMonthEnd) : d.next? = d.nextMonth? := by
  -- the month has no day after its last one
  have hnone : of? d.year d.month (d.day + 1) = none := by
    refine dif_neg fun ⟨_, _, _, hle⟩ => ?_
    rw [← h] at hle
    omega
  rw [next?, hnone]
  rfl

/-- A step to the next day is one of these two. -/
theorem next?_cases (h : a.next? = some b) :
    (b.monthIndex = a.monthIndex ∧ b.day = a.day + 1) ∨
    (a.IsMonthEnd ∧ b.monthIndex = a.monthIndex + 1 ∧ b.day = 1) := by
  rcases Nat.lt_or_eq_of_le a.day_le with hlt | hend
  · rw [next?_of_day_lt hlt] at h
    exact Or.inl (monthIndex_of? h)
  · rw [next?_of_isMonthEnd hend] at h
    exact Or.inr ⟨hend, nextMonth?_eq_some h⟩

/-- The next day is later, and there is no date in between. -/
theorem isLeast_of_next? (h : a.next? = some b) : IsLeast {c | a < c} b := by
  obtain ⟨hmonth, hday⟩ | ⟨hend, hmonth, hday⟩ := next?_cases h
  · refine ⟨lt_iff.mpr (by omega), fun c hc => not_lt.mp fun hlt => ?_⟩
    -- a date strictly between the two would have a day between theirs
    have hac := lt_iff.mp hc
    have hcb := lt_iff.mp hlt
    omega
  · refine ⟨lt_iff.mpr (by omega), fun c hc => not_lt.mp fun hlt => ?_⟩
    -- such a date is in a later month, where no day comes before the first
    have hac := (lt_iff_of_isMonthEnd hend).mp hc
    have hcb := lt_iff.mp hlt
    have hpos := c.day_pos
    omega

/-- A date that is not the last of all has a next one. -/
theorem exists_next?_of_lt (h : a < c) : ∃ b, a.next? = some b := by
  rcases Nat.lt_or_eq_of_le a.day_le with hlt | hend
  · rw [next?_of_day_lt hlt]
    exact exists_of? a.minYear_le a.le_maxYear (Nat.le_add_left 1 a.day) hlt
  · -- the month of `c` comes later, so this one is not the last
    have hlater := (lt_iff_of_isMonthEnd hend).mp h
    rw [next?_of_isMonthEnd hend]
    exact exists_nextMonth? (Int.lt_of_lt_of_le hlater c.le_maxMonth)

/-- **The next day is the first of all later ones.** -/
theorem next?_eq_some_iff : a.next? = some b ↔ IsLeast {c | a < c} b := by
  constructor
  · exact isLeast_of_next?
  · intro h
    obtain ⟨b', hb'⟩ := exists_next?_of_lt h.1
    obtain ⟨hlater, hfirst⟩ := isLeast_of_next? hb'
    -- neither of two first dates comes before the other
    have hle := h.2 hlater
    have hle' := hfirst h.1
    rw [hb', index_injective (Int.le_antisymm hle' hle)]

/-! ## Some days on -/

/-- The date `n` days on, one after the other. -/
def later? : (n : Nat) → Date → Option Date
  | 0, d => some d
  | n + 1, d => d.next?.bind (later? n)

/-- To go on by two numbers of days, one after the other, is to go on by their sum. -/
theorem later?_add (m n : Nat) (d : Date) : later? (m + n) d = (later? m d).bind (later? n) := by
  induction m generalizing d with
  | zero =>
    rw [Nat.zero_add]
    rfl
  | succ m ih =>
    rw [Nat.succ_add]
    show d.next?.bind (later? (m + n)) = (d.next?.bind (later? m)).bind (later? n)
    -- the step in front is the same on both sides
    rw [Option.bind_assoc]
    exact congrArg _ (funext ih)

/-- Up to the end of the month the days are counted on. -/
theorem later?_of_le (h : d.day + n ≤ monthLength d.year d.month) :
    later? n d = of? d.year d.month (d.day + n) := by
  -- on the number of days, from any day of the month
  induction n generalizing d with
  | zero => exact (of?_self d).symm
  | succ n ih =>
    -- the next day is one of the same month
    obtain ⟨e, he⟩ := exists_of? d.minYear_le d.le_maxYear (Nat.le_add_left 1 d.day)
      (show d.day + 1 ≤ monthLength d.year d.month by omega)
    obtain ⟨hyear, hmonth, hday⟩ := of?_eq_some he
    have hrest := ih (d := e) (by rw [hyear, hmonth, hday]; omega)
    show d.next?.bind (later? n) = _
    rw [next?_of_day_lt (by omega), he, Option.bind_some, hrest, hyear, hmonth, hday,
      Nat.add_assoc, Nat.add_comm 1 n]

/-- After the days that are left of a month comes the next month. -/
theorem later?_monthLength (d : Date) :
    later? (monthLength d.year d.month - d.day + 1) d = d.nextMonth? := by
  have hday := d.day_le
  -- the last day of the month, and one more
  obtain ⟨e, he⟩ := exists_of? (m := d.month) (n := monthLength d.year d.month) d.minYear_le
    d.le_maxYear (Nat.le_trans d.day_pos hday) (Nat.le_refl _)
  obtain ⟨hyear, hmonth, hlast⟩ := of?_eq_some he
  have hend : e.IsMonthEnd := by
    rw [IsMonthEnd, hlast, hyear, hmonth]
  rw [later?_add, later?_of_le (by omega), Nat.add_sub_of_le hday, he]
  show e.next?.bind some = _
  rw [next?_of_isMonthEnd hend, nextMonth?_congr (monthIndex_eq_iff.mpr ⟨hyear, hmonth⟩)]
  exact Option.bind_fun_some _

/-- Further days are counted from the first of the next month. -/
theorem later?_of_gt (h : monthLength d.year d.month < d.day + n) :
    later? n d =
      d.nextMonth?.bind (later? (n - (monthLength d.year d.month - d.day) - 1)) := by
  have hday := d.day_le
  -- so many days to the first of the next month, and the rest from there
  have hsplit : n = monthLength d.year d.month - d.day + 1 +
      (n - (monthLength d.year d.month - d.day) - 1) := by omega
  calc
    later? n d = later? (monthLength d.year d.month - d.day + 1 +
        (n - (monthLength d.year d.month - d.day) - 1)) d := congrArg (later? · d) hsplit
    _ = d.nextMonth?.bind (later? (n - (monthLength d.year d.month - d.day) - 1)) := by
      rw [later?_add, later?_monthLength]

/-- The fuel is enough if it exceeds the number of days: every round but the last takes a month off,
which is one day at least. -/
theorem addDaysWith?_eq_later? {fuel : Nat} (h : n < fuel) :
    addDaysWith? fuel n d = later? n d := by
  -- on the fuel, one month a round
  induction fuel generalizing n d with
  | zero => omega
  | succ fuel ih =>
    have hday := d.day_le
    rw [addDaysWith?]
    split
    · next hle => exact (later?_of_le (by omega)).symm
    · next hgt =>
      -- what is left of `n` after this month is less than the fuel that is left
      rw [later?_of_gt (by omega)]
      exact congrArg _ (funext fun e => ih (by omega))

/-- Going on by whole months is going on day by day. -/
theorem addDays?_eq_later? (d : Date) (n : Nat) : d.addDays? n = later? n d :=
  addDaysWith?_eq_later? (Nat.lt_succ_self n)

end Date

end Obligations
