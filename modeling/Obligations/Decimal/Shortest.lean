import Obligations.Power

/-!
# Obligations — the shortest decimal of a double

A finite double is `m * 2 ^ e`; the reals that round to it form an interval, which
contains its ends exactly when `m` is even (`Binary`). The shortest decimal of the
double (`Binary.shortest`) lies in that interval, has as few digits as possible, and
is the nearest of those; how a tie is broken is a parameter.

On the grid of the multiples of `10 ^ k` it is enough to look at the two neighbours
of the double: if the interval holds any point of the grid, it holds one of these.
The coarsest grid with a hit gives the fewest digits.
-/

namespace Obligations

/-- The decimal `digits * 10 ^ exponent`. -/
structure Decimal where
  digits : Nat
  exponent : Int
deriving DecidableEq, Repr

/-- Which of two equally near decimals is taken. -/
inductive Tie where
  /-- The one with the even last digit. -/
  | toEven
  /-- The larger one. -/
  | up
deriving DecidableEq

/-- The positive number `m * 2 ^ e` among the doubles. `narrow` says that the next
smaller double is only half as far away as the next larger one. -/
structure Binary where
  m : Nat
  e : Int
  narrow : Bool

namespace Binary

/-- The double has its sign bit set; so has the negative zero. -/
def isNegative (x : Float) : Bool := decide (twoTo 63 ≤ x.toBits.toNat)

/-- The magnitude of a double that is finite and not zero. -/
def ofFloat? (x : Float) : Option Binary :=
  let bits : Nat := x.toBits.toNat
  let field : Nat := bits / twoTo 52 % twoTo 11
  let fraction : Nat := bits % twoTo 52
  if field = 2047 then none
  else if field = 0 then
    if fraction = 0 then none else some ⟨fraction, -1074, false⟩
  else some ⟨twoTo 52 + fraction, (field : Int) - 1075, fraction == 0 && field != 1⟩

/-- The numerators, over one denominator, of the lower end, the value and the upper end
of the interval of reals that round to `b`, in units of `10 ^ k`. -/
def scaled (b : Binary) (k : Int) : (Nat × Nat × Nat) × Nat :=
  let up := twoTo (b.e - 2).toNat * tenTo (-k).toNat
  let down := twoTo (2 - b.e).toNat * tenTo k.toNat
  (((4 * b.m - if b.narrow then 1 else 2) * up, 4 * b.m * up, (4 * b.m + 2) * up), down)

/-- The multiple of `10 ^ k`, as a number of such units, that rounds to `b` and is
nearest to it, if there is one. -/
def onGrid? (b : Binary) (tie : Tie) (k : Int) : Option Nat :=
  let ((low, value, high), unit) := b.scaled k
  let inside := fun n : Nat =>
    if b.m % 2 = 0 then low ≤ n * unit && n * unit ≤ high
    else low < n * unit && n * unit < high
  let below := value / unit
  let rest := value % unit
  let belowFirst : Bool :=
    if 2 * rest = unit then
      match tie with
      | .toEven => below % 2 == 0
      | .up => false
    else decide (2 * rest < unit)
  let candidates := if belowFirst then [below, below + 1] else [below + 1, below]
  candidates.find? fun n => n ≠ 0 && inside n

/-- An exponent of ten above that of any decimal near `b`. -/
def topExponent (b : Binary) : Int :=
  (b.e + (Nat.log2 b.m : Int) + 1) * 30103 / 100000 + 1

/-- The shortest decimal that rounds to `b`. Eighteen grids below the first are more
than enough, since seventeen digits always suffice. -/
def shortest (b : Binary) (tie : Tie) : Decimal :=
  let hit := (List.range 21).findSome? fun (i : Nat) =>
    (b.onGrid? tie (b.topExponent - i)).map fun n => Decimal.mk n (b.topExponent - i)
  hit.getD ⟨0, 0⟩

end Binary

/-! ## Layout -/

namespace Decimal

def chars (d : Decimal) : List Char := Nat.toDigits 10 d.digits

/-- The number of places by which the point stands to the right of the first digit's
left edge: `0.5` has 0, `5` has 1, `50` has 2. -/
def point (d : Decimal) : Int := d.chars.length + d.exponent

/-- Positional notation, `none` standing for a missing fraction. -/
def positional (d : Decimal) (missing : List Char) : List Char :=
  let ds := d.chars
  if 0 ≤ d.exponent then
    ds ++ List.replicate d.exponent.toNat '0' ++ missing
  else if 0 < d.point then
    ds.take d.point.toNat ++ '.' :: ds.drop d.point.toNat
  else
    ['0', '.'] ++ List.replicate (-d.point).toNat '0' ++ ds

/-- One digit, the others after a point, and a signed exponent. -/
def exponential (d : Decimal) : List Char :=
  let power := d.point - 1
  let sign := if power < 0 then '-' else '+'
  let mantissa :=
    match d.chars with
    | first :: second :: rest => first :: '.' :: second :: rest
    | ds => ds
  mantissa ++ 'e' :: sign :: Nat.toDigits 10 power.natAbs

end Decimal

end Obligations
