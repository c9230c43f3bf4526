/-!
# Obligations — powers and word sizes

Powers of ten and of two, and how many numbers 32 and 64 bits hold.
-/

namespace Obligations

def tenTo (n : Nat) : Nat := Nat.pow 10 n

def twoTo (n : Nat) : Nat := Nat.pow 2 n

/-- The number of values of 32 bits. -/
def size32 : Nat := 4294967296

/-- The number of values of 64 bits. -/
def size64 : Nat := 18446744073709551616

/-- The integer is a signed one of 32 bits. -/
def isInt32 (n : Int) : Bool := decide (-2147483648 ≤ n ∧ n < 2147483648)

/-- The integer is a signed one of 64 bits. -/
def isInt64 (n : Int) : Bool := decide (-9223372036854775808 ≤ n ∧ n < 9223372036854775808)

@[simp] theorem tenTo_zero : tenTo 0 = 1 := rfl

theorem tenTo_succ (n : Nat) : tenTo (n + 1) = tenTo n * 10 := rfl

theorem tenTo_pos (n : Nat) : 0 < tenTo n := by
  induction n with
  | zero => decide
  | succ n ih =>
    rw [tenTo_succ]
    omega

/-- Powers of ten are multiplied by adding exponents. -/
theorem tenTo_add (m n : Nat) : tenTo (m + n) = tenTo m * tenTo n := by
  induction n with
  | zero => simp
  | succ n ih => rw [← Nat.add_assoc, tenTo_succ, ih, tenTo_succ, Nat.mul_assoc]

end Obligations
