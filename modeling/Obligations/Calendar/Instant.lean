import Obligations.Calendar.Date

/-!
# Obligations — instants

A point in time in UTC: a date, a second of the day and a fraction in nanoseconds. Inside
a leap second the fraction runs past one second.
-/

namespace Obligations

def Instant.nanosPerSecond : Nat := 1000000000

/-- A point in time. -/
structure Instant where
  date : Date
  second : Nat
  nano : Nat
  second_lt : second < 86400
  nano_lt : nano < 2 * Instant.nanosPerSecond
deriving DecidableEq

namespace Instant

def of? (date : Date) (second nano : Nat) : Option Instant :=
  if h : second < 86400 ∧ nano < 2 * nanosPerSecond then some ⟨date, second, nano, h.1, h.2⟩
  else none

def midnight (d : Date) : Instant := ⟨d, 0, 0, by decide, by decide⟩

/-- The instant of a local time that is `offset` seconds ahead of UTC, by less than a day. -/
def ofLocal? (date : Date) (second nano : Nat) (offset : Int) : Option Instant := do
  let utc := (second : Int) - offset
  -- the offset can lead into the day before or the day after
  if utc < 0 then of? (← date.prev?) (utc + 86400).toNat nano
  else if 86400 ≤ utc then of? (← date.next?) (utc - 86400).toNat nano
  else of? date utc.toNat nano

/-- A number that grows with time. -/
def index (t : Instant) : Int := (t.date.index * 86400 + t.second) * 2000000000 + t.nano

instance : LE Instant := ⟨fun a b => a.index ≤ b.index⟩
instance : LT Instant := ⟨fun a b => a.index < b.index⟩
instance (a b : Instant) : Decidable (a ≤ b) := inferInstanceAs (Decidable (a.index ≤ b.index))
instance (a b : Instant) : Decidable (a < b) := inferInstanceAs (Decidable (a.index < b.index))

theorem le_trans {a b c : Instant} (h : a ≤ b) (h' : b ≤ c) : a ≤ c := Int.le_trans h h'

end Instant

end Obligations
