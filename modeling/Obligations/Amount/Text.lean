import Obligations.Amount.Basic
import Obligations.Text.Integer

/-!
# Obligations — amounts as text

Writing (`Amount.text`): a sign if negative, the integer part, and exactly
`scale` digits after the point.

Reading (`Amount.ofText?`) takes more than what is written.

* A plain decimal has an optional sign, digits with at most one point among or
  around them, and underscores anywhere after the first digit. Its scale is the
  number of digits after the point.
* A plain decimal with more digits than an amount can hold is cut: after 28 digits
  behind the point, or where the next digit behind the point would overflow the
  magnitude. The first digit that is cut decides (5 and above go away from zero),
  and only digits and underscores may follow it. Too many digits before the point are
  refused.
* Otherwise a plain decimal can be followed by `e` or `E` and an exponent of at most 28.
  A positive exponent lowers the scale, and multiplies once the scale is used up. A
  negative one raises the scale; digits that this would take beyond 28 places are
  rounded away, a half going away from zero.
-/

namespace Obligations.Amount

/-! ## Writing -/

/-- An amount as it is shown, with as many digits behind the point as its scale says. -/
def text (a : Amount) : String :=
  -- at least one digit stands in front of the point
  let ds := zeroPadded (a.scale + 1) a.magnitude
  let whole := ds.take (ds.length - a.scale)
  let fraction := ds.drop (ds.length - a.scale)
  let sign := if a.negative then ['-'] else []
  let point := if a.scale = 0 then [] else ['.']
  String.ofList (sign ++ whole ++ point ++ fraction)

/-! ## Reading a plain decimal -/

/-- Cuts a number before the digit `d`: `m / 10 ^ s` moves away from zero by one unit
if `d` is at least 5. If that leaves the magnitudes, one more digit is dropped. -/
def cut? (m s d : Nat) : Option (Nat × Nat) :=
  if d < 5 then some (m, s)
  else if m + 1 < limit then some (m + 1, s)
  else
    match s with
    | 0 => none
    | s + 1 => some ((m + 5) / 10, s)

/-- The text may follow the digit that decides a cut. -/
def isTail (cs : List Char) : Bool := cs.all fun c => c.isDigit || c == '_'

/-- Where the deciding digit of a cut after 28 places is expected, an underscore stands for
the digit 0 as long as the digits read so far are a number below this bound. From there on
it is passed over as it is elsewhere. -/
def underscoreBound : Nat := 10 * (size64 / 10 - 255)

/-- Reads the rest of an unsigned plain decimal, `m / 10 ^ s` being read so far.
`point` says that the point was seen, `digit` that a digit was. -/
def scan? (m s : Nat) (point digit : Bool) : List Char → Option (Nat × Nat)
  | [] => if digit then some (m, s) else none
  | c :: cs =>
    if c.isDigit then
      let d := c.toNat - '0'.toNat
      -- the digit is taken as long as it fits on both counts
      if s < maxScale ∧ 10 * m + d < limit then
        scan? (10 * m + d) (if point then s + 1 else s) point true cs
      else if point ∧ isTail cs then cut? m s d
      else none
    else if c = '_' ∧ digit then
      if s = maxScale ∧ m < underscoreBound then
        if isTail cs then some (m, s) else none
      else scan? m s point digit cs
    else if c = '.' ∧ !point then scan? m s true digit cs
    else none

/-- The amount `m / 10 ^ s` with a sign, which a zero does not keep. -/
def ofUnsigned? (negative : Bool) (p : Nat × Nat) : Option Amount :=
  ofSigned? (negative && p.1 != 0) p.1 p.2

def ofPlain? : List Char → Option Amount
  | '-' :: cs => (scan? 0 0 false false cs).bind (ofUnsigned? true)
  | '+' :: cs => (scan? 0 0 false false cs).bind (ofUnsigned? false)
  | cs => (scan? 0 0 false false cs).bind (ofUnsigned? false)

/-! ## Reading with an exponent -/

/-- The amount `a * 10 ^ e`, the scale being lowered first. -/
def raise? (a : Amount) (e : Nat) : Option Amount :=
  if e ≤ a.scale then ofSigned? a.negative a.magnitude (a.scale - e)
  else if e ≤ maxScale then ofSigned? a.negative (a.magnitude * tenTo (e - a.scale)) 0
  else none

/-- The integer nearest to `m / d`, a half going up. -/
def roundHalfUp (m d : Nat) : Nat := (2 * m + d) / (2 * d)

/-- The amount nearest to `a / 10 ^ e`, by raising the scale. An amount that is rounded to
zero keeps its sign. -/
def lower? (a : Amount) (e : Nat) : Option Amount :=
  if e ≤ maxScale then
    ofSigned? a.negative (roundHalfUp a.magnitude (tenTo (a.scale + e - maxScale)))
      (min (a.scale + e) maxScale)
  else none

/-- Applies the exponent that `cs` spells to `a`. -/
def shift? (a : Amount) : List Char → Option Amount
  | '-' :: cs => (Integer.natural? cs).bind a.lower?
  | cs => (Integer.natural? cs).bind a.raise?

/-- Reads a plain decimal, `e` or `E`, and an exponent. -/
def ofExponential? (cs : List Char) : Option Amount :=
  let isMark := fun c : Char => c == 'e' || c == 'E'
  match cs.dropWhile (!isMark ·) with
  | [] => none
  | _ :: exponent => (ofPlain? (cs.takeWhile (!isMark ·))).bind (shift? · exponent)

def ofText? (s : String) : Option Amount := ofPlain? s.toList <|> ofExponential? s.toList

end Obligations.Amount
