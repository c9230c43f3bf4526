import Obligations.Calendar.Instant
import Obligations.Json.Basic
import Obligations.Power
import Obligations.Text.Blank
import Obligations.Text.Integer

/-!
# Obligations — dates and instants as text

Written, a date is `YYYY-MM-DD`, and an instant has a `T`, the time of day, as many
fraction digits as are exact out of 0, 3, 6 and 9, and `Z`. A year outside 0 to 9999 has a
sign and at least four digits.

Reading is more lenient: white space may stand around the parts, months and other two-digit
parts may have one digit, a year with a sign may have any number of digits, the `T` may be
small or a blank, fraction digits after the ninth are dropped, and the time can be local
with an offset from UTC.
-/

namespace Obligations

/-! ## Writing -/

/-- A year of at least four digits, with a sign unless it has just four of them. -/
def yearChars (y : Int) : List Char :=
  if y < 0 then '-' :: zeroPadded 4 y.natAbs
  else if 9999 < y then '+' :: zeroPadded 4 y.natAbs
  else zeroPadded 4 y.natAbs

def Date.chars (d : Date) : List Char :=
  yearChars d.year ++ '-' :: zeroPadded 2 d.month ++ '-' :: zeroPadded 2 d.day

def Date.text (d : Date) : String := String.ofList d.chars

/-- The fraction of a second that `nano` nanoseconds are. -/
def fractionChars (nano : Nat) : List Char :=
  if nano = 0 then []
  else if nano % tenTo 6 = 0 then '.' :: zeroPadded 3 (nano / tenTo 6)
  else if nano % tenTo 3 = 0 then '.' :: zeroPadded 6 (nano / tenTo 3)
  else '.' :: zeroPadded 9 nano

/-- An instant in UTC. A leap second counts as the sixtieth of its minute. -/
def Instant.chars (t : Instant) : List Char :=
  let leap := t.nano / nanosPerSecond
  t.date.chars ++ 'T' :: zeroPadded 2 (t.second / 3600)
    ++ ':' :: zeroPadded 2 (t.second / 60 % 60)
    ++ ':' :: zeroPadded 2 (t.second % 60 + leap)
    ++ fractionChars (t.nano % nanosPerSecond) ++ ['Z']

def Instant.text (t : Instant) : String := String.ofList t.chars

/-! ## Reading

A reading function takes the characters that are left and returns what it found with the
characters after it, or nothing.
-/

/-- A number of at most `width` digits. -/
def digitsUpTo? (width : Nat) (cs : List Char) : Option (Nat × List Char) :=
  match (cs.take width).takeWhile Char.isDigit with
  | [] => none
  | ds => some (Nat.ofDigitChars 10 ds 0, cs.drop ds.length)

/-- A number of one or two digits after white space. -/
def twoDigits? (cs : List Char) : Option (Nat × List Char) := digitsUpTo? 2 (skipBlanks cs)

/-- The text after white space and the character `c`. -/
def after? (c : Char) (cs : List Char) : Option (List Char) :=
  match skipBlanks cs with
  | [] => none
  | x :: xs => if x = c then some xs else none

/-- A year after white space; with a sign it may have any number of digits. -/
def year? (cs : List Char) : Option (Int × List Char) :=
  match skipBlanks cs with
  -- after a sign there is no bound on the digits
  | '-' :: cs => (digitsUpTo? cs.length cs).map fun p => (-(p.1 : Int), p.2)
  | '+' :: cs => (digitsUpTo? cs.length cs).map fun p => ((p.1 : Int), p.2)
  | cs => (digitsUpTo? 4 cs).map fun p => ((p.1 : Int), p.2)

/-- A date and what follows it. -/
def datePart? (cs : List Char) : Option (Date × List Char) := do
  let (y, cs) ← year? cs
  let (m, cs) ← twoDigits? (← after? '-' cs)
  let (d, cs) ← twoDigits? (← after? '-' cs)
  return (← Date.of? y m d, cs)

/-- A date, with nothing but white space around it. -/
def Date.ofText? (s : String) : Option Date := do
  let (d, rest) ← datePart? s.toList
  if skipBlanks rest = [] then some d else none

/-- A fraction of a second in nanoseconds, if there is one. -/
def fraction? : List Char → Option (Nat × List Char)
  | '.' :: cs =>
    match cs.takeWhile Char.isDigit with
    | [] => none
    | ds =>
      let kept := ds.take 9
      some (Nat.ofDigitChars 10 kept 0 * tenTo (9 - kept.length), cs.dropWhile Char.isDigit)
  | cs => some (0, cs)

/-- A time of day as the second of the day and nanoseconds. The sixtieth second of a minute
is the one before it, lengthened. -/
def timePart? (cs : List Char) : Option ((Nat × Nat) × List Char) := do
  let (h, cs) ← twoDigits? cs
  let (m, cs) ← twoDigits? (← after? ':' cs)
  let (s, cs) ← twoDigits? (← after? ':' cs)
  let (f, cs) ← fraction? cs
  if h < 24 ∧ m < 60 ∧ s ≤ 60 then
    let minute := h * 3600 + m * 60
    let time := if s = 60 then (minute + 59, f + Instant.nanosPerSecond) else (minute + s, f)
    some (time, cs)
  else none

/-- Exactly two digits. -/
def pair? : List Char → Option (Nat × List Char)
  | a :: b :: cs =>
    if a.isDigit && b.isDigit then some (Nat.ofDigitChars 10 [a, b] 0, cs) else none
  | _ => none

/-- Hours and minutes of an offset, with colons or white space between them. -/
def offsetDigits? (cs : List Char) : Option (Nat × List Char) := do
  let (h, cs) ← pair? cs
  let (m, cs) ← pair? (cs.dropWhile fun c => c == ':' || isBlank c)
  if m < 60 ∧ h < 24 then some (h * 3600 + m * 60, cs) else none

/-- An offset from UTC in seconds: `UTC`, `Z`, or a sign with hours and minutes. -/
def offset? (cs : List Char) : Option (Int × List Char) :=
  match cs with
  | 'Z' :: cs => some (0, cs)
  | 'z' :: cs => some (0, cs)
  | '+' :: cs => (offsetDigits? cs).map fun p => ((p.1 : Int), p.2)
  | '-' :: cs => (offsetDigits? cs).map fun p => (-(p.1 : Int), p.2)
  | '\u2212' :: cs => (offsetDigits? cs).map fun p => (-(p.1 : Int), p.2)
  | cs =>
    if (cs.take 3).map Char.toUpper = ['U', 'T', 'C'] then some (0, cs.drop 3) else none

/-- An instant, with nothing but white space around it. -/
def Instant.ofText? (s : String) : Option Instant := do
  let (d, cs) ← datePart? s.toList
  match cs with
  | [] => none
  | c :: cs =>
    if c = 'T' ∨ c = 't' ∨ c = ' ' then
      let (time, cs) ← timePart? cs
      let (offset, cs) ← offset? (skipBlanks cs)
      if skipBlanks cs = [] then Instant.ofLocal? d time.1 time.2 offset else none
    else none

/-! ## JSON -/

def Date.json (d : Date) : Json := .string d.text

def Instant.json (t : Instant) : Json := .string t.text

def Date.ofJson? : Json → Option Date
  | .string s => Date.ofText? s
  | _ => none

def Instant.ofJson? : Json → Option Instant
  | .string s => Instant.ofText? s
  | _ => none

end Obligations
