/-!
# Obligations — dates

Dates of the Gregorian calendar, extended to both sides and with a year 0, from the first
day of year -262143 to the last of year 262142.

* `Date.of?` — the date with this year, month and day, if there is one;
* `Date.next?`, `Date.prev?`, `Date.addDays?` — neighbours; none outside the range;
* `Date.index` — a number per date that grows with the date, which orders them.
-/

namespace Obligations

/-- The year has a 29 February. -/
def isLeapYear (y : Int) : Bool := y % 4 == 0 && (y % 100 != 0 || y % 400 == 0)

/-- The number of days of a month; 0 if there is no such month. -/
def monthLength (y : Int) (m : Nat) : Nat :=
  match m with
  | 1 | 3 | 5 | 7 | 8 | 10 | 12 => 31
  | 4 | 6 | 9 | 11 => 30
  | 2 => if isLeapYear y then 29 else 28
  | _ => 0

def Date.minYear : Int := -262143

def Date.maxYear : Int := 262142

/-- A day of the calendar. -/
structure Date where
  year : Int
  month : Nat
  day : Nat
  minYear_le : Date.minYear ≤ year
  le_maxYear : year ≤ Date.maxYear
  day_pos : 1 ≤ day
  day_le : day ≤ monthLength year month
deriving DecidableEq

namespace Date

/-- The date with this year, month and day, if there is one. -/
def of? (y : Int) (m d : Nat) : Option Date :=
  if h : minYear ≤ y ∧ y ≤ maxYear ∧ 1 ≤ d ∧ d ≤ monthLength y m then
    some ⟨y, m, d, h.1, h.2.1, h.2.2.1, h.2.2.2⟩
  else none

/-- The first day of the month after the one of `d`. -/
def nextMonth? (d : Date) : Option Date :=
  if d.month = 12 then of? (d.year + 1) 1 1 else of? d.year (d.month + 1) 1

/-- The day after. -/
def next? (d : Date) : Option Date :=
  (of? d.year d.month (d.day + 1)) <|> d.nextMonth?

def prev? (d : Date) : Option Date :=
  if d.day ≠ 1 then of? d.year d.month (d.day - 1)
  else if d.month = 1 then of? (d.year - 1) 12 31
  else of? d.year (d.month - 1) (monthLength d.year (d.month - 1))

/-- The day `n` days after `d`, going on by whole months; `fuel` bounds their number. -/
def addDaysWith? : (fuel : Nat) → (n : Nat) → Date → Option Date
  | 0, _, _ => none
  | fuel + 1, n, d =>
    -- what is left of the month
    let left := monthLength d.year d.month - d.day
    if n ≤ left then of? d.year d.month (d.day + n)
    else d.nextMonth?.bind (addDaysWith? fuel (n - left - 1))

/-- The day `n` days after `d`. Every month that is passed takes at least one of them. -/
def addDays? (d : Date) (n : Nat) : Option Date := addDaysWith? (n + 1) n d

/-! ## Order -/

/-- A number that grows with the date. -/
def index (d : Date) : Int := (d.year * 13 + d.month) * 32 + d.day

instance : LE Date := ⟨fun a b => a.index ≤ b.index⟩
instance : LT Date := ⟨fun a b => a.index < b.index⟩
instance (a b : Date) : Decidable (a ≤ b) := inferInstanceAs (Decidable (a.index ≤ b.index))
instance (a b : Date) : Decidable (a < b) := inferInstanceAs (Decidable (a.index < b.index))

/-! ## Small facts -/

/-- Months are counted from 1. -/
theorem month_pos (d : Date) : 1 ≤ d.month := by
  have h₁ := d.day_pos
  have h₂ := d.day_le
  -- a month that does not exist has no days, and the date has one
  rcases Nat.eq_zero_or_pos d.month with h | h
  · rw [h] at h₂
    simp only [monthLength] at h₂
    omega
  · exact h

theorem month_le (d : Date) : d.month ≤ 12 := by
  have h₁ := d.day_pos
  have h₂ := d.day_le
  rcases Nat.lt_or_ge 12 d.month with h | h
  · have none : monthLength d.year d.month = 0 := by
      unfold monthLength
      split <;> omega
    omega
  · exact h

theorem monthLength_le (y : Int) (m : Nat) : monthLength y m ≤ 31 := by
  unfold monthLength
  split <;> try split
  all_goals omega

theorem of?_self (d : Date) : of? d.year d.month d.day = some d := by
  rw [of?, dif_pos ⟨d.minYear_le, d.le_maxYear, d.day_pos, d.day_le⟩]

theorem of?_eq_some {y : Int} {m d : Nat} {e : Date} (h : of? y m d = some e) :
    e.year = y ∧ e.month = m ∧ e.day = d := by
  rw [of?] at h
  split at h
  · injection h with h
    subst h
    exact ⟨rfl, rfl, rfl⟩
  · contradiction

/-- The number tells the date. -/
theorem index_injective {a b : Date} (h : a.index = b.index) : a = b := by
  have ha := a.month_le
  have hb := b.month_le
  have ha' := Nat.le_trans a.day_le (monthLength_le a.year a.month)
  have hb' := Nat.le_trans b.day_le (monthLength_le b.year b.month)
  unfold index at h
  -- no month and no day is so large that it would run over
  have hy : a.year = b.year := by omega
  have hm : a.month = b.month := by omega
  have hd : a.day = b.day := by omega
  obtain ⟨ya, ma, da, _, _, _, _⟩ := a
  obtain ⟨yb, mb, db, _, _, _, _⟩ := b
  subst hy hm hd
  rfl

end Date

end Obligations
