import Obligations.Power

/-!
# Obligations — integers in text

Decimal integers as they are written in filters, exponents and entity ids: an
optional sign and one or more ASCII digits, leading zeros allowed.

* `zeroPadded` — the digits of a number, to a least width;
* `Integer.digits?` — a run of digits and nothing else;
* `Integer.natural?` — the same after an optional `+`;
* `Integer.signed?` — the same after an optional `+` or `-`.

The value of the digits is `Nat.ofDigitChars 10`, so the digits that
`Nat.toDigits 10` writes read back (`digits?_toDigits`).
-/

namespace Obligations

/-- The digits of `n`, with zeros in front up to `width` digits. -/
def zeroPadded (width n : Nat) : List Char :=
  let ds := Nat.toDigits 10 n
  List.replicate (width - ds.length) '0' ++ ds

namespace Integer

/-- The number that one or more ASCII digits denote. -/
def digits? (cs : List Char) : Option Nat :=
  if cs ≠ [] ∧ cs.all Char.isDigit then some (Nat.ofDigitChars 10 cs 0) else none

/-- Digits after a plus sign or without one. -/
def natural? : List Char → Option Nat
  | '+' :: cs => digits? cs
  | cs => digits? cs

/-- Digits after a sign or without one. -/
def signed? : List Char → Option Int
  | '-' :: cs => (digits? cs).map fun n => -(n : Int)
  | '+' :: cs => (digits? cs).map fun n => (n : Int)
  | cs => (digits? cs).map fun n => (n : Int)

/-- A natural number of 64 bits. -/
def nat64? (s : String) : Option Nat := (natural? s.toList).filter (· < size64)

/-- An integer of 64 bits. -/
def int64? (s : String) : Option Int := (signed? s.toList).filter isInt64

/-- Digits that were written are read back. -/
theorem digits?_toDigits (n : Nat) : digits? (Nat.toDigits 10 n) = some n := by
  have hdigits : (Nat.toDigits 10 n).all Char.isDigit = true := by
    rw [List.all_eq_true]
    intro c hc
    exact Nat.isDigit_of_mem_toDigits (by decide) (by decide) hc
  simp [digits?, hdigits, Nat.ofDigitChars_toDigits, Nat.toDigits_ne_nil]

end Integer

end Obligations
