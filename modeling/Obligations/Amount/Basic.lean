import Obligations.Power

/-!
# Obligations — amounts of money

An `Amount` is a decimal number: a sign, a `magnitude` of at most 96 bits, and a power
of ten, `scale`, of at most 28, to divide by. Two amounts can denote the same number at
different scales (`5` and `5.00`), and the scale is kept because it is shown. So is the
sign of a zero; only a small negative number that was rounded away has it
(`Amount.lower?`), and every computed zero is a plain one.

* `Amount.coefficient` — sign and magnitude as an integer;
* `Amount.value` — the number behind the representation, as a count of the smallest unit;
* `Amount.cmp` — comparison by value, whatever the scales;
* `Amount.fit?` — the nearest amount to an exact decimal: digits are dropped from
  the end, as few as possible, a half going to the even neighbour;
* `Amount.add?`, `Amount.sub?` — exact at the larger scale, then fitted.

A zero operand leaves the other one as it is, so a sum of zeros keeps the last
scale and sign, and adding zero never changes how a number is shown.
-/

namespace Obligations

/-- One more than the largest magnitude: two to the power 96. -/
def Amount.limit : Nat := 79228162514264337593543950336

/-- The number of fraction digits an amount can have at most. -/
def Amount.maxScale : Nat := 28

/-- The decimal number `magnitude / 10 ^ scale`, or its opposite. -/
structure Amount where
  negative : Bool
  magnitude : Nat
  scale : Nat
  bounded : magnitude < Amount.limit
  scale_le : scale ≤ Amount.maxScale
deriving DecidableEq

namespace Amount

/-- The amount with these parts, if they are in range. -/
def ofSigned? (negative : Bool) (m s : Nat) : Option Amount :=
  if h : m < limit ∧ s ≤ maxScale then some ⟨negative, m, s, h.1, h.2⟩ else none

/-- The amount `c / 10 ^ s`, if it is in range. A zero has no sign. -/
def ofParts? (c : Int) (s : Nat) : Option Amount := ofSigned? (decide (c < 0)) c.natAbs s

def zero : Amount := ⟨false, 0, 0, by decide, by decide⟩

instance : Inhabited Amount := ⟨zero⟩

/-- Sign and magnitude as an integer. -/
def coefficient (a : Amount) : Int := if a.negative then -(a.magnitude : Int) else a.magnitude

def isZero (a : Amount) : Bool := a.magnitude == 0

/-- The opposite amount. A zero is its own opposite, sign included. -/
def neg (a : Amount) : Amount := if a.isZero then a else { a with negative := !a.negative }

/-! ## Value -/

/-- The amount in units of `10 ^ -s`, exact when `s` is at least its scale. -/
def unitsAt (a : Amount) (s : Nat) : Int := a.coefficient * tenTo (s - a.scale)

/-- The number an amount denotes, in units of `10 ^ -28`. -/
def value (a : Amount) : Int := a.unitsAt maxScale

/-- Amounts are compared by value, whatever their scales. -/
def cmp (a b : Amount) : Ordering := compare a.value b.value

/-! ## Rounding to fit -/

/-- The integer nearest to `n / d`, a half going to the even neighbour. -/
def roundEven (n : Int) (d : Nat) : Int :=
  let q := n.natAbs / d
  let r := n.natAbs % d
  -- a half goes up only from an odd neighbour
  let up := if 2 * r > d ∨ (2 * r = d ∧ q % 2 = 1) then q + 1 else q
  if n < 0 then -(up : Int) else up

/-- The amount nearest to `c / 10 ^ s` among those with the largest scale of at
most `t` at which one fits. -/
def fitFrom? (c : Int) (s : Nat) : Nat → Option Amount
  | 0 => ofParts? (roundEven c (tenTo s)) 0
  | t + 1 => ofParts? (roundEven c (tenTo (s - (t + 1)))) (t + 1) <|> fitFrom? c s t

/-- The amount for the exact decimal `c / 10 ^ s`: itself if it fits, otherwise
with as few digits dropped as possible; none if it does not fit at scale 0. -/
def fit? (c : Int) (s : Nat) : Option Amount := fitFrom? c s s

/-! ## Arithmetic -/

/-- The sum, exact at the larger scale and then fitted. -/
def add? (a b : Amount) : Option Amount :=
  -- a zero gives way to the other operand, scale and all
  if a.isZero then some b
  else if b.isZero then some a
  else
    let s := max a.scale b.scale
    fit? (a.unitsAt s + b.unitsAt s) s

/-- The difference, as the sum with the opposite. -/
def sub? (a b : Amount) : Option Amount := a.add? b.neg

/-! ## Small facts -/

/-- Parts in range make an amount. -/
theorem ofParts?_of_lt {c : Int} {s : Nat} (hc : c.natAbs < limit) (hs : s ≤ maxScale) :
    ofParts? c s = some ⟨decide (c < 0), c.natAbs, s, hc, hs⟩ := by
  rw [ofParts?, ofSigned?, dif_pos ⟨hc, hs⟩]

/-- And the amount has these parts. -/
theorem coefficient_of_ofParts? {c : Int} {s : Nat} {a : Amount} (h : ofParts? c s = some a) :
    a.coefficient = c ∧ a.scale = s := by
  rw [ofParts?, ofSigned?] at h
  split at h
  · injection h with h
    subst h
    simp only [coefficient, decide_eq_true_eq, and_true]
    split <;> omega
  · contradiction

theorem roundEven_one (n : Int) : roundEven n 1 = n := by
  have hn : (n.natAbs : Int) = n ∨ (n.natAbs : Int) = -n := by omega
  simp only [roundEven, Nat.div_one, Nat.mod_one]
  split <;> split <;> omega

/-- A decimal that fits at its own scale is kept as it is. -/
theorem fit?_of_lt {c : Int} {s : Nat} (hc : c.natAbs < limit) (hs : s ≤ maxScale) :
    fit? c s = some ⟨decide (c < 0), c.natAbs, s, hc, hs⟩ := by
  cases s with
  | zero => simp [fit?, fitFrom?, roundEven_one, ofParts?_of_lt hc]
  | succ t => simp [fit?, fitFrom?, roundEven_one, ofParts?_of_lt hc hs]

end Amount

end Obligations
