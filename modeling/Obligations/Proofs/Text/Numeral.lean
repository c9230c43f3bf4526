import Mathlib.Data.List.DropRight
import Obligations.Text.Blank
import Obligations.Text.Integer

/-!
# Obligations — numerals

What is read as a decimal integer: one or more ASCII digits, with a sign in front or without, and
in some places with white space around it. There are no other ways to write one, and each way
denotes one number. What is written are such digits, and where they end is told by what stands
behind them.

* `IsPadded`, `trimBlanks_of_isPadded`, `isPadded_trimBlanks` — white space around a text;
* `EndsDigits`, `span_digits` — digits in front of something that is no digit;
* `Integer.IsDigits`, `Integer.Numeral`, `Integer.Natural` — digits, and numerals with a sign or a
  plus sign, with the number they denote;
* `Integer.digits?_eq_some`, `Integer.signed?_eq_some`, `Integer.nat64?_eq_some` — the readers
  accept these and no others;
* `Integer.isDigits_zeroPadded`, `Integer.length_zeroPadded` — written digits;
* `Integer.toString_injective` — different numbers are written differently.
-/

namespace Obligations

/-! ## White space around a text -/

/-- The text is `inner` with white space in front of it and behind it, or none. -/
def IsPadded (inner cs : List Char) : Prop :=
  ∃ before after, cs = before ++ inner ++ after ∧ (∀ c ∈ before, isBlank c = true) ∧
    ∀ c ∈ after, isBlank c = true

section

variable {inner cs : List Char}

theorem isPadded_self (cs : List Char) : IsPadded cs cs := ⟨[], [], by simp, by simp, by simp⟩

/-- What is trimmed off is white space. -/
theorem isPadded_trimBlanks (cs : List Char) : IsPadded (trimBlanks cs) cs := by
  -- what was trimmed in front and behind
  refine ⟨cs.takeWhile isBlank, (skipBlanks cs).rtakeWhile isBlank, ?_, ?_, ?_⟩
  · have htrim : trimBlanks cs = (skipBlanks cs).rdropWhile isBlank := rfl
    rw [htrim, List.append_assoc, List.rdropWhile_append_rtakeWhile]
    exact List.takeWhile_append_dropWhile.symm
  · intro c hc
    exact List.mem_takeWhile_imp hc
  · intro c hc
    exact List.mem_rtakeWhile_imp hc

theorem skipBlanks_append {before : List Char} (h : ∀ c ∈ before, isBlank c = true)
    (cs : List Char) : skipBlanks (before ++ cs) = skipBlanks cs :=
  List.dropWhile_append_of_pos h

theorem skipBlanks_cons {c : Char} (h : isBlank c = false) (cs : List Char) :
    skipBlanks (c :: cs) = c :: cs :=
  List.dropWhile_cons_of_neg (Bool.eq_false_iff.mp h)

theorem skipBlanks_of_solid (hne : cs ≠ []) (h : ∀ c ∈ cs, isBlank c = false)
    (rest : List Char) : skipBlanks (cs ++ rest) = cs ++ rest := by
  cases cs with
  | nil => contradiction
  | cons c cs => exact skipBlanks_cons (h c List.mem_cons_self) _

/-- Trimming finds the text that the white space is around, as long as it has none in it. -/
theorem trimBlanks_of_isPadded (h : IsPadded inner cs) (hne : inner ≠ [])
    (hsolid : ∀ c ∈ inner, isBlank c = false) : trimBlanks cs = inner := by
  obtain ⟨before, after, rfl, hbefore, hafter⟩ := h
  unfold trimBlanks
  -- first the front is trimmed
  rw [List.append_assoc, skipBlanks_append hbefore, skipBlanks_of_solid hne hsolid]
  -- from behind, it is the other way round
  have hsolid' := skipBlanks_of_solid (List.reverse_ne_nil_iff.mpr hne) (by simpa using hsolid) []
  rw [List.append_nil] at hsolid'
  rw [List.reverse_append, skipBlanks_append (by simpa using hafter), hsolid', List.reverse_reverse]

end

/-! ## Digits in front of something else -/

theorem toNat_of_isDigit {c : Char} (h : c.isDigit = true) : 48 ≤ c.toNat ∧ c.toNat ≤ 57 := by
  simp only [Char.isDigit, Bool.and_eq_true, decide_eq_true_eq] at h
  exact h

/-- The text does not begin with a digit. -/
def EndsDigits (rest : List Char) : Prop := ∀ c ∈ rest.head?, c.isDigit = false

/-- Digits are taken off a text up to the first character that is none. -/
theorem span_digits {ds rest : List Char} (hds : ∀ c ∈ ds, c.isDigit = true)
    (hrest : EndsDigits rest) :
    (ds ++ rest).takeWhile Char.isDigit = ds ∧ (ds ++ rest).dropWhile Char.isDigit = rest := by
  rw [List.takeWhile_append_of_pos hds, List.dropWhile_append_of_pos hds]
  -- the digits may be followed by the end of the text
  cases rest with
  | nil => simp
  | cons c rest =>
    have hc := Bool.eq_false_iff.mp (hrest c rfl)
    rw [List.takeWhile_cons_of_neg hc, List.dropWhile_cons_of_neg hc]
    simp

namespace Integer

/-! ## Numerals -/

/-- One or more digits, and the number they denote. -/
structure IsDigits (ds : List Char) (n : Nat) : Prop where
  ne_nil   : ds ≠ []
  digits   : ∀ c ∈ ds, c.isDigit = true
  value_eq : n = Nat.ofDigitChars 10 ds 0

/-- Digits after a single sign, or without one, and the number they denote. -/
inductive Numeral : List Char → Int → Prop
  | unsigned {ds : List Char} {n : Nat} : IsDigits ds n → Numeral ds n
  | plus {ds : List Char} {n : Nat} : IsDigits ds n → Numeral ('+' :: ds) n
  | minus {ds : List Char} {n : Nat} : IsDigits ds n → Numeral ('-' :: ds) (-n)

/-- Digits after a single plus sign, or without one, and the number they denote. -/
inductive Natural : List Char → Nat → Prop
  | unsigned {ds : List Char} {n : Nat} : IsDigits ds n → Natural ds n
  | plus {ds : List Char} {n : Nat} : IsDigits ds n → Natural ('+' :: ds) n

variable {cs : List Char} {n : Nat} {i : Int}

/-- Digits are read as the number they denote, and nothing else is read. -/
theorem digits?_eq_some : digits? cs = some n ↔ IsDigits cs n := by
  unfold digits?
  -- the reader asks for the same two conditions
  split
  · next h =>
    constructor
    · intro hn
      exact ⟨h.1, List.all_eq_true.mp h.2, (Option.some.inj hn).symm⟩
    · intro hn
      rw [hn.value_eq]
  · next h =>
    constructor
    · intro hn
      contradiction
    · intro hn
      exact absurd ⟨hn.ne_nil, List.all_eq_true.mpr hn.digits⟩ h

/-- The sign is not a digit, so digits do not begin with it. -/
theorem IsDigits.not_signed {sign : Char} {ds : List Char} (h : IsDigits (sign :: ds) n) :
    sign ≠ '+' ∧ sign ≠ '-' := by
  have hdigit := h.digits sign List.mem_cons_self
  constructor
  · rintro rfl
    contradiction
  · rintro rfl
    contradiction

/-- A text that begins with digits does not begin with a sign. -/
theorem IsDigits.head_ne {ds rest : List Char} {c : Char} (h : IsDigits ds n)
    (hcs : ds ++ rest = c :: cs) : c ≠ '+' ∧ c ≠ '-' := by
  cases ds with
  | nil => exact absurd rfl h.ne_nil
  | cons d ds =>
    obtain rfl := (List.cons.inj hcs).1
    exact h.not_signed

/-- A signed numeral is read from the digits behind the sign. -/
theorem map_coe_eq_some {x : Option Nat} {f : Int → Int} :
    (do let n ← x; pure (n : Int)).map f = some i ↔ ∃ n : Nat, x = some n ∧ f n = i := by
  cases x <;> simp

theorem signed?_of_isDigits (h : IsDigits cs n) : signed? cs = some (n : Int) := by
  unfold signed?
  split
  · exact absurd rfl h.not_signed.2
  · exact absurd rfl h.not_signed.1
  · exact map_coe_eq_some.mpr ⟨n, digits?_eq_some.mpr h, rfl⟩

/-- What is read as an integer is a numeral, and denotes that integer. -/
theorem signed?_eq_some : signed? cs = some i ↔ Numeral cs i := by
  constructor
  · intro h
    unfold signed? at h
    -- one case for each way to begin
    split at h
    · obtain ⟨n, hn, rfl⟩ := map_coe_eq_some.mp h
      exact .minus (digits?_eq_some.mp hn)
    · obtain ⟨n, hn, rfl⟩ := map_coe_eq_some.mp h
      exact .plus (digits?_eq_some.mp hn)
    · obtain ⟨n, hn, rfl⟩ := map_coe_eq_some.mp h
      exact .unsigned (digits?_eq_some.mp hn)
  · intro h
    cases h with
    | unsigned hn => exact signed?_of_isDigits hn
    | plus hn => exact map_coe_eq_some.mpr ⟨_, digits?_eq_some.mpr hn, rfl⟩
    | minus hn => exact map_coe_eq_some.mpr ⟨_, digits?_eq_some.mpr hn, rfl⟩

/-- What is read as a natural number is digits, after a plus sign or without one. -/
theorem natural?_eq_some : natural? cs = some n ↔ Natural cs n := by
  constructor
  · intro h
    -- without a sign the first character is a digit
    unfold natural? at h
    split at h
    · exact .plus (digits?_eq_some.mp h)
    · exact .unsigned (digits?_eq_some.mp h)
  · intro h
    cases h with
    | plus hn => exact digits?_eq_some.mpr hn
    | unsigned hn =>
      unfold natural?
      split
      · exact absurd rfl hn.not_signed.1
      · exact digits?_eq_some.mpr hn

/-- A number of 64 bits is read where the digits denote one. Zeros in front do not count, so there
is no bound on how many digits there are. -/
theorem nat64?_eq_some {s : String} :
    nat64? s = some n ↔ Natural s.toList n ∧ n < size64 := by
  rw [nat64?, Option.filter_eq_some_iff, natural?_eq_some, decide_eq_true_iff]

/-! ## Written digits -/

theorem isDigits_toDigits (n : Nat) : IsDigits (Nat.toDigits 10 n) n :=
  digits?_eq_some.mp (digits?_toDigits n)

/-- Numbers that are written alike are the same, since what is written is read back. -/
theorem toString_injective {m n : Nat} (h : toString m = toString n) : m = n := by
  have hdigits : Nat.toDigits 10 m = Nat.toDigits 10 n := String.ofList_injective h
  have hread := congrArg digits? hdigits
  rw [digits?_toDigits, digits?_toDigits] at hread
  exact Option.some.inj hread

/-- Padded with zeros, a number is still written in digits that denote it. -/
theorem isDigits_zeroPadded (width n : Nat) : IsDigits (zeroPadded width n) n := by
  have hdigits := isDigits_toDigits n
  refine ⟨?_, ?_, ?_⟩
  · exact List.append_ne_nil_of_right_ne_nil _ hdigits.ne_nil
  · intro c hc
    rcases List.mem_append.mp hc with hzero | hc
    · rw [List.eq_of_mem_replicate hzero]
      rfl
    · exact hdigits.digits c hc
  · -- zeros in front do not count
    rw [zeroPadded, Nat.ofDigitChars_append, Nat.ofDigitChars_replicate_zero]
    simp

/-- A number that fits in the width is padded to just that width. -/
theorem length_zeroPadded {width n : Nat} (hwidth : 0 < width) (h : n < tenTo width) :
    (zeroPadded width n).length = width := by
  -- the number has no more digits than the width
  have hle : (Nat.toDigits 10 n).length ≤ width :=
    (Nat.length_toDigits_le_iff (by decide) hwidth).mpr h
  rw [zeroPadded, List.length_append, List.length_replicate]
  omega

/-- The digit in front counts a power of ten, at most nine times. -/
theorem ofDigitChars_lt {ds : List Char} (h : ∀ c ∈ ds, c.isDigit = true) :
    Nat.ofDigitChars 10 ds 0 < tenTo ds.length := by
  induction ds with
  | nil => simp
  | cons c cs ih =>
    have hcs := ih fun x hx => h x (List.mem_cons_of_mem _ hx)
    have hc : c.toNat - '0'.toNat ≤ 9 := by
      have hzero : '0'.toNat = 48 := rfl
      have hhigh := (toNat_of_isDigit (h c List.mem_cons_self)).2
      omega
    -- the number is told by its first digit and the number of the others
    have hsum : Nat.ofDigitChars 10 (c :: cs) 0 =
        tenTo cs.length * (c.toNat - '0'.toNat) + Nat.ofDigitChars 10 cs 0 := by
      rw [Nat.ofDigitChars_cons, Nat.mul_zero, Nat.zero_add, Nat.ofDigitChars_eq_ofDigitChars_zero]
      rfl
    have hle := Nat.mul_le_mul_left (tenTo cs.length) hc
    rw [hsum, List.length_cons, tenTo_succ]
    omega

/-- A number is below the power of ten that has one more digit. -/
theorem IsDigits.lt {ds : List Char} {n : Nat} (h : IsDigits ds n) : n < tenTo ds.length := by
  rw [h.value_eq]
  exact ofDigitChars_lt h.digits

/-- A number other than zero is written without a zero in front. -/
theorem head?_toDigits {n : Nat} (h : n ≠ 0) : (Nat.toDigits 10 n).head? ≠ some '0' := by
  induction n using Nat.strongRecOn with
  | ind n ih =>
    -- a number below ten is its own first digit, and any other begins as its tenth does
    rcases Nat.lt_or_ge n 10 with hlt | hge
    · rw [Nat.toDigits_of_lt_base hlt]
      have hsmall : ∀ k < 10, k ≠ 0 → [Nat.digitChar k].head? ≠ some '0' := by decide
      exact hsmall n hlt h
    · rw [Nat.toDigits_of_base_le (by decide) hge,
        List.head?_append_of_ne_nil _ Nat.toDigits_ne_nil]
      exact ih (n / 10) (by omega) (by omega)

/-! ## Numerals with white space around them -/

theorem isBlank_of_isDigit {c : Char} (h : c.isDigit = true) : isBlank c = false := by
  obtain ⟨hlow, hhigh⟩ := toNat_of_isDigit h
  -- none of the ranges of white space reaches the digits
  simp only [isBlank, blankRanges, List.any_cons, List.any_nil, Bool.or_false, Bool.or_eq_false_iff,
    Bool.and_eq_false_iff, decide_eq_false_iff_not]
  omega

theorem Numeral.ne_nil (h : Numeral cs i) : cs ≠ [] := by
  cases h with
  | unsigned hn => exact hn.ne_nil
  | plus _ => exact List.cons_ne_nil _ _
  | minus _ => exact List.cons_ne_nil _ _

/-- A numeral has digits and signs, and nothing else. -/
theorem Numeral.digit_or_sign (h : Numeral cs i) :
    ∀ c ∈ cs, c.isDigit = true ∨ c = '+' ∨ c = '-' := by
  intro c hc
  cases h with
  | unsigned hn => exact Or.inl (hn.digits c hc)
  | plus hn =>
    rcases List.mem_cons.mp hc with rfl | hc
    · exact Or.inr (Or.inl rfl)
    · exact Or.inl (hn.digits c hc)
  | minus hn =>
    rcases List.mem_cons.mp hc with rfl | hc
    · exact Or.inr (Or.inr rfl)
    · exact Or.inl (hn.digits c hc)

theorem Numeral.solid (h : Numeral cs i) : ∀ c ∈ cs, isBlank c = false := by
  intro c hc
  rcases h.digit_or_sign c hc with hdigit | rfl | rfl
  · exact isBlank_of_isDigit hdigit
  · decide
  · decide

/-- A numeral denotes one integer. -/
theorem Numeral.unique {j : Int} (hi : Numeral cs i) (hj : Numeral cs j) : i = j := by
  -- what it denotes is what is read
  have hsame := (signed?_eq_some.mpr hi).symm.trans (signed?_eq_some.mpr hj)
  exact Option.some.inj hsame

/-- What is trimmed and read is a numeral with white space around it. -/
theorem signed?_trimBlanks :
    signed? (trimBlanks cs) = some i ↔ ∃ inner, IsPadded inner cs ∧ Numeral inner i := by
  rw [signed?_eq_some]
  constructor
  · intro h
    exact ⟨_, isPadded_trimBlanks cs, h⟩
  · rintro ⟨inner, hpadded, h⟩
    rw [trimBlanks_of_isPadded hpadded h.ne_nil h.solid]
    exact h

end Integer

end Obligations
