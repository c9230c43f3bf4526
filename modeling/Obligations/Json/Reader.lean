import Obligations.Json.Basic
import Obligations.Power

/-!
# Obligations — reading JSON

`Json.ofText?` reads one value with nothing but white space around it. The grammar is
that of JSON, with these decisions:

* an integer of 64 bits is kept as an integer, except for a negative zero; any other
  number is a double;
* a double is the integer of its leading digits, as many as fit into 64 bits, converted
  and then multiplied or divided by a power of ten (`scaled?`);
* containers may be nested 127 deep; a deeper one is read to its end, but as
  `unreadable`.

A reading function takes the characters that are left and returns what it found with
the characters after it, or nothing.
-/

namespace Obligations.Json

/-- White space between tokens. -/
def isSpace (c : Char) : Bool := c == ' ' || c == '\n' || c == '\t' || c == '\r'

def skipSpace (cs : List Char) : List Char := cs.dropWhile isSpace

/-! ## Text literals -/

/-- A part of a text literal: a character, or a UTF-16 code unit given by its number. -/
inductive Piece where
  | char (c : Char)
  | unit (n : Nat)

def hexValue? (c : Char) : Option Nat :=
  if c.isDigit then some (c.toNat - '0'.toNat)
  else if 'a' ≤ c ∧ c ≤ 'f' then some (c.toNat - 'a'.toNat + 10)
  else if 'A' ≤ c ∧ c ≤ 'F' then some (c.toNat - 'A'.toNat + 10)
  else none

/-- The code unit that four hexadecimal digits give. -/
def unit? (a b c d : Char) : Option Nat := do
  return 4096 * (← hexValue? a) + 256 * (← hexValue? b) + 16 * (← hexValue? c) + (← hexValue? d)

/-- The character that a one-letter escape stands for. -/
def unescaped? (c : Char) : Option Char :=
  if c = '"' ∨ c = '\\' ∨ c = '/' then some c
  else if c = 'b' then some '\x08'
  else if c = 'f' then some '\x0c'
  else if c = 'n' then some '\n'
  else if c = 'r' then some '\r'
  else if c = 't' then some '\t'
  else none

/-- The pieces up to the closing quote, put in front of `done` in reverse. -/
def pieces? (done : List Piece) : List Char → Option (List Piece × List Char)
  | [] => none
  | '"' :: cs => some (done.reverse, cs)
  | '\\' :: 'u' :: a :: b :: c :: d :: cs =>
    match unit? a b c d with
    | some n => pieces? (.unit n :: done) cs
    | none => none
  | '\\' :: c :: cs =>
    match unescaped? c with
    | some c => pieces? (.char c :: done) cs
    | none => none
  | c :: cs => if c.toNat < 0x20 then none else pieces? (.char c :: done) cs

def isHighSurrogate (n : Nat) : Bool := 0xD800 ≤ n && n < 0xDC00

def isLowSurrogate (n : Nat) : Bool := 0xDC00 ≤ n && n < 0xE000

/-- The characters of the pieces, put in front of `done` in reverse; none if a surrogate
is not paired. -/
def joined? (done : List Char) : List Piece → Option (List Char)
  | [] => some done.reverse
  | .char c :: ps => joined? (c :: done) ps
  | .unit h :: .unit l :: ps =>
    -- a high surrogate needs a low one behind it, and a low one never stands alone
    if isHighSurrogate h then
      if isLowSurrogate l then
        joined? (Char.ofNat (0x10000 + (h - 0xD800) * 0x400 + (l - 0xDC00)) :: done) ps
      else none
    else if isLowSurrogate h then none
    else joined? (Char.ofNat h :: done) (.unit l :: ps)
  | .unit n :: ps =>
    if isHighSurrogate n || isLowSurrogate n then none else joined? (Char.ofNat n :: done) ps

/-- The text after an opening quote; no text if a surrogate is not paired. -/
def textLiteral? (cs : List Char) : Option (Option String × List Char) := do
  let (ps, rest) ← pieces? [] cs
  return ((joined? [] ps).map String.ofList, rest)

/-! ## Numbers -/

/-- The parts of a number literal, the digits as they stand. -/
structure NumberLiteral where
  negative : Bool
  whole : List Char
  fraction : List Char
  exponent : Option Int

def someDigits? (cs : List Char) : Option (List Char × List Char) :=
  match cs.takeWhile Char.isDigit with
  | [] => none
  | ds => some (ds, cs.dropWhile Char.isDigit)

/-- The digits before the point: no zero in front of another digit. -/
def wholeDigits? : List Char → Option (List Char × List Char)
  | '0' :: cs =>
    match cs with
    | c :: _ => if c.isDigit then none else some (['0'], cs)
    | [] => some (['0'], [])
  | cs => someDigits? cs

/-- The digits after a point, if there is one. -/
def fractionDigits? : List Char → Option (List Char × List Char)
  | '.' :: cs => someDigits? cs
  | cs => some ([], cs)

/-- An exponent with an optional sign, after its mark. -/
def exponentDigits? : List Char → Option (Int × List Char)
  | '-' :: cs => (someDigits? cs).map fun p => (-(Nat.ofDigitChars 10 p.1 0 : Int), p.2)
  | '+' :: cs => (someDigits? cs).map fun p => (Nat.ofDigitChars 10 p.1 0, p.2)
  | cs => (someDigits? cs).map fun p => (Nat.ofDigitChars 10 p.1 0, p.2)

/-- The exponent, if there is one. -/
def exponentPart? : List Char → Option (Option Int × List Char)
  | 'e' :: cs => (exponentDigits? cs).map fun p => (some p.1, p.2)
  | 'E' :: cs => (exponentDigits? cs).map fun p => (some p.1, p.2)
  | cs => some (none, cs)

/-- The parts of a number, from its sign to its exponent. -/
def numberLiteral? (cs : List Char) : Option (NumberLiteral × List Char) := do
  let negative := cs.head? == some '-'
  -- a number without digits in front of the point is none
  let (whole, cs) ← wholeDigits? (if negative then cs.drop 1 else cs)
  let (fraction, cs) ← fractionDigits? cs
  let (exponent, cs) ← exponentPart? cs
  return (⟨negative, whole, fraction, exponent⟩, cs)

/-- Appends digits to `n` while the number stays within 64 bits; also how many were
left out. -/
def leading (n : Nat) : List Char → Nat × Nat
  | [] => (n, 0)
  | c :: cs =>
    let next := 10 * n + (c.toNat - '0'.toNat)
    if next < size64 then leading next cs else (n, cs.length + 1)

/-- A power of ten that is a double. -/
def powerOfTen (k : Nat) : Float := Float.ofScientific 1 false k

/-- The double `x * 10 ^ e`; none beyond the largest. Below the smallest power of ten
the division is done in two steps. -/
def scaled? (x : Float) (e : Int) : Option Float :=
  if 308 < e then if x == 0 then some x else none
  else if 0 ≤ e then
    let y := x * powerOfTen e.toNat
    if y.isFinite then some y else none
  else if -308 ≤ e then some (x / powerOfTen (-e).toNat)
  else some (x / powerOfTen 308 / powerOfTen (min 308 (-e - 308).toNat))

namespace NumberLiteral

/-- The literal as a double; none if it is too large. -/
def double? (l : NumberLiteral) : Option Float :=
  let (n, left) := leading 0 l.whole
  let (m, cut) := leading n l.fraction
  let e := (left : Int) - (l.fraction.length - cut : Nat) + l.exponent.getD 0
  (scaled? (UInt64.ofNat m).toFloat e).map fun x => if l.negative then -x else x

/-- The literal as an integer of 64 bits, if it is one. -/
def integer? (l : NumberLiteral) : Option Int :=
  let n := Nat.ofDigitChars 10 l.whole 0
  if l.fraction ≠ [] ∨ l.exponent.isSome then none
  else if l.negative then if n ≠ 0 ∧ isInt64 (-(n : Int)) then some (-(n : Int)) else none
  else if n < size64 then some n
  else none

def json (l : NumberLiteral) : Json :=
  match l.integer?, l.double? with
  | some n, _ => number (.integer n)
  | none, some x => number (.double x)
  | none, none => unreadable

end NumberLiteral

/-! ## Values -/

/-- `word`, giving `j`. -/
def keyword? (word : List Char) (j : Json) (cs : List Char) : Option (Json × List Char) :=
  if word.isPrefixOf cs then some (j, cs.drop word.length) else none

/-- A container with the given items or members, if it is not nested too deep. -/
def atDepth (room : Nat) (j : Json) : Json := if room = 0 then unreadable else j

mutual

/-- Reads a value. `room` is how many containers may still be opened, and `fuel` bounds
the calls, of which each takes at least one character. -/
def value? (room : Nat) : (fuel : Nat) → List Char → Option (Json × List Char)
  | 0, _ => none
  | fuel + 1, cs =>
    match skipSpace cs with
    | [] => none
    | '"' :: cs => (textLiteral? cs).map fun p => (p.1.elim unreadable string, p.2)
    | '[' :: cs =>
      match skipSpace cs with
      | ']' :: cs => some (atDepth room (array []), cs)
      | cs => (items? (room - 1) fuel [] cs).map fun p => (atDepth room (array p.1), p.2)
    | '{' :: cs =>
      match skipSpace cs with
      | '}' :: cs => some (atDepth room (object []), cs)
      | cs =>
        (members? (room - 1) fuel (some []) cs).map fun p =>
          (atDepth room (p.1.elim unreadable object), p.2)
    | 'n' :: cs => keyword? ['u', 'l', 'l'] null cs
    | 't' :: cs => keyword? ['r', 'u', 'e'] (bool true) cs
    | 'f' :: cs => keyword? ['a', 'l', 's', 'e'] (bool false) cs
    | cs => (numberLiteral? cs).map fun p => (p.1.json, p.2)

/-- Reads the items of an array after those in `done`, which is reversed. -/
def items? (room : Nat) : (fuel : Nat) → (done : List Json) → List Char →
    Option (List Json × List Char)
  | 0, _, _ => none
  | fuel + 1, done, cs => do
    let (j, cs) ← value? room fuel cs
    match skipSpace cs with
    | ',' :: cs => items? room fuel (j :: done) cs
    | ']' :: cs => some ((j :: done).reverse, cs)
    | _ => none

/-- Reads the members of an object after those in `done`, which is reversed, and absent
once a key has been unreadable. -/
def members? (room : Nat) : (fuel : Nat) → (done : Option (List (String × Json))) → List Char →
    Option (Option (List (String × Json)) × List Char)
  | 0, _, _ => none
  | fuel + 1, done, cs =>
    match skipSpace cs with
    | '"' :: cs => do
      let (key, cs) ← textLiteral? cs
      match skipSpace cs with
      | ':' :: cs =>
        let (j, cs) ← value? room fuel cs
        let done := done.bind fun ms => key.map fun k => (k, j) :: ms
        match skipSpace cs with
        | ',' :: cs => members? room fuel done cs
        | '}' :: cs => some (done.map List.reverse, cs)
        | _ => none
      | _ => none
    | _ => none

end

def maxDepth : Nat := 127

def ofChars? (cs : List Char) : Option Json :=
  match value? maxDepth (2 * cs.length + 2) cs with
  | some (j, rest) => if skipSpace rest = [] then some j else none
  | none => none

def ofText? (s : String) : Option Json := ofChars? s.toList

end Obligations.Json
