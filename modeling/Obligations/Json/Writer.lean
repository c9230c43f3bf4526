import Obligations.Decimal.Shortest
import Obligations.Json.Basic

/-!
# Obligations — writing JSON

`Json.text` writes a value without white space. Numbers have one text each, which is
also what a numeric filter value is compared by:

* an integer is written plainly;
* a double has the fewest digits that read back, a tie going to the even digit. It is
  positional with at least one digit after the point from `0.00001` up to below
  `10 ^ 16`, and has a signed exponent otherwise.
-/

namespace Obligations.Json

/-! ## Numbers -/

/-- The text of a finite double; other doubles have none and are written as null. -/
def doubleChars (x : Float) : List Char :=
  let sign := if Binary.isNegative x then ['-'] else []
  match Binary.ofFloat? x with
  | some b =>
    let d := b.shortest .toEven
    if -5 < d.point ∧ d.point ≤ 16 then sign ++ d.positional ['.', '0']
    else sign ++ d.exponential
  | none => if x.isFinite then sign ++ ['0', '.', '0'] else ['n', 'u', 'l', 'l']

def integerChars (n : Int) : List Char :=
  let ds := Nat.toDigits 10 n.natAbs
  if n < 0 then '-' :: ds else ds

def Number.chars : Number → List Char
  | .integer n => integerChars n
  | .double x => doubleChars x

def Number.text (n : Number) : String := String.ofList n.chars

/-! ## Text -/

/-- A character of a text literal: the quote, the backslash and the control characters
below the blank are escaped. -/
def escaped (c : Char) : List Char :=
  if c = '"' then ['\\', '"']
  else if c = '\\' then ['\\', '\\']
  else if c = '\n' then ['\\', 'n']
  else if c = '\r' then ['\\', 'r']
  else if c = '\t' then ['\\', 't']
  else if c = '\x08' then ['\\', 'b']
  else if c = '\x0c' then ['\\', 'f']
  else if c.toNat < 0x20 then
    ['\\', 'u', '0', '0', Nat.digitChar (c.toNat / 16), Nat.digitChar (c.toNat % 16)]
  else [c]

def quoted (s : String) : List Char := '"' :: s.toList.flatMap escaped ++ ['"']

/-! ## Values -/

mutual

def chars : Json → List Char
  | null => ['n', 'u', 'l', 'l']
  | bool b => if b then ['t', 'r', 'u', 'e'] else ['f', 'a', 'l', 's', 'e']
  | number n => n.chars
  | string s => quoted s
  | array items => '[' :: itemChars items ++ [']']
  | object members => '{' :: memberChars members ++ ['}']
  | unreadable => ['n', 'u', 'l', 'l']

def itemChars : List Json → List Char
  | [] => []
  | [j] => chars j
  | j :: js => chars j ++ ',' :: itemChars js

def memberChars : List (String × Json) → List Char
  | [] => []
  | [(k, j)] => quoted k ++ ':' :: chars j
  | (k, j) :: ms => quoted k ++ ':' :: chars j ++ ',' :: memberChars ms

end

def text (j : Json) : String := String.ofList j.chars

end Obligations.Json
