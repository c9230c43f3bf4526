import Obligations.Filters
import Obligations.Proofs.Text.Numeral

/-!
# Obligations — the values of filters

The year is an integer or a numeral with white space around it; the quarter is 1, 2, 3 or 4, as a
number or as this one digit and nothing else; an entity goes by a text or a number. For each of
the three there is a relation that says which values give what, and a reader that finds it.

* `GivesYear`, `GivesQuarter`, `GivesText` — the values that give a year, a quarter, and the text
  that an entity goes by;
* `readYear_eq_ok`, `readQuarter_eq_ok`, `narrowingValue?_eq_some` — what is read;
* `readYear_eq_error`, `readQuarter_eq_error`, `narrowingValue?_eq_none` — what is not, and why.
-/

namespace Obligations.Filters

/-! ## Values -/

/-- The value gives a year, as an integer or as a numeral with white space around it. -/
inductive GivesYear : Json → Int → Prop
  | number (y : Int) : GivesYear (.number (.integer y)) y
  | text {s : String} {inner : List Char} {y : Int} :
      IsPadded inner s.toList → Integer.Numeral inner y → GivesYear (.string s) y

/-- The value gives a quarter, as an integer or as a single digit. -/
inductive GivesQuarter : Json → Nat → Prop
  | number {q : Nat} : 1 ≤ q → q ≤ 4 → GivesQuarter (.number (.integer q)) q
  | text {s : String} {q : Nat} :
      (s, q) ∈ [("1", 1), ("2", 2), ("3", 3), ("4", 4)] → GivesQuarter (.string s) q

/-- The value gives the text of an entity, as a text or as a number. -/
inductive GivesText : Json → String → Prop
  | string (s : String) : GivesText (.string s) s
  | number (n : Json.Number) : GivesText (.number n) (Json.number n).text

/-! ## Readers -/

section

variable {j : Json} {y : Int} {q : Nat} {text : String}

/-- A year is found in a value that gives one of 64 bits. -/
theorem yearValue?_eq_some : yearValue? j = some y ↔ GivesYear j y ∧ isInt64 y = true := by
  unfold yearValue?
  split
  · next n =>
    constructor
    · intro h
      split at h
      · next hsize =>
        injection h with h
        exact ⟨h ▸ .number n, h ▸ hsize⟩
      · contradiction
    · rintro ⟨hgives, hsize⟩
      cases hgives
      exact if_pos hsize
  · next s =>
    -- a text is read like any numeral, once the white space around it is gone
    have hread : Integer.int64? (String.ofList (trimBlanks s.toList)) = some y ↔
        Integer.signed? (trimBlanks s.toList) = some y ∧ isInt64 y = true := by
      rw [Integer.int64?, String.toList_ofList, Option.filter_eq_some_iff]
    rw [hread, Integer.signed?_trimBlanks]
    refine and_congr_left fun _ => ?_
    constructor
    · rintro ⟨inner, hpadded, hnumeral⟩
      exact .text hpadded hnumeral
    · rintro ⟨⟩
      next hpadded hnumeral => exact ⟨_, hpadded, hnumeral⟩
  · -- no other kind of value gives a year
    next hnumber hstring =>
    constructor
    · intro h
      contradiction
    · rintro ⟨hgives, -⟩
      cases hgives with
      | number => exact absurd rfl (hnumber y)
      | @text s _ _ _ _ => exact absurd rfl (hstring s)

theorem isInt64_of_range (h : 1000 ≤ y ∧ y ≤ 9999) : isInt64 y = true := by
  unfold isInt64
  rw [decide_eq_true_eq]
  omega

/-- The years that are read are those of four digits that a value gives. -/
theorem readYear_eq_ok : readYear j = .ok y ↔ GivesYear j y ∧ 1000 ≤ y ∧ y ≤ 9999 := by
  unfold readYear
  constructor
  · intro h
    cases hvalue : yearValue? j with
    | none =>
      rw [hvalue] at h
      contradiction
    | some y' =>
      rw [hvalue] at h
      simp only at h
      split at h
      · next hrange =>
        injection h with h
        exact h ▸ ⟨(yearValue?_eq_some.mp hvalue).1, hrange⟩
      · contradiction
  · -- four digits fit in 64 bits
    rintro ⟨hgives, hrange⟩
    rw [yearValue?_eq_some.mpr ⟨hgives, isInt64_of_range hrange⟩]
    exact if_pos hrange

/-- Zeros in front do not count. -/
example : readYear (.string "\t+002020 ") = .ok 2020 := by rfl

/-- A value without a year of 64 bits is malformed, and one with a year of another length is out of
range. -/
theorem readYear_eq_error {fault : ParameterFault} : readYear j = .error fault ↔
    (fault = .malformedYear ∧ ∀ y, GivesYear j y → isInt64 y = false) ∨
      ∃ y, fault = .yearOutOfRange y ∧ GivesYear j y ∧ isInt64 y = true ∧
        ¬ (1000 ≤ y ∧ y ≤ 9999) := by
  unfold readYear
  cases hvalue : yearValue? j with
  | none =>
    -- no year is given that has 64 bits, so none that is out of range
    have hnone (y : Int) (hgives : GivesYear j y) : isInt64 y = false := by
      rw [← Bool.not_eq_true]
      intro hsize
      rw [yearValue?_eq_some.mpr ⟨hgives, hsize⟩] at hvalue
      contradiction
    constructor
    · intro h
      injection h with h
      exact Or.inl ⟨h.symm, hnone⟩
    · rintro (⟨rfl, -⟩ | ⟨y, -, hgives, hsize, -⟩)
      · rfl
      · rw [hnone y hgives] at hsize
        contradiction
  | some y' =>
    obtain ⟨hgives', hsize'⟩ := yearValue?_eq_some.mp hvalue
    simp only
    constructor
    · intro h
      split at h
      · contradiction
      · next hrange =>
        injection h with h
        exact Or.inr ⟨y', h.symm, hgives', hsize', hrange⟩
    · rintro (⟨-, hnone⟩ | ⟨y, rfl, hgives, hsize, hrange⟩)
      · rw [hnone y' hgives'] at hsize'
        contradiction
      · -- a value gives one year
        have hsame := yearValue?_eq_some.mpr ⟨hgives, hsize⟩
        rw [hvalue] at hsame
        obtain rfl := Option.some.inj hsame
        exact if_neg hrange

/-- The quarters that are read are those that a value gives. -/
theorem readQuarter_eq_ok : readQuarter j = .ok q ↔ GivesQuarter j q := by
  constructor
  · intro h
    unfold readQuarter at h
    split at h
    · next n =>
      split at h
      · next hrange =>
        injection h with h
        -- the number is positive, so it is the one that counts the quarter
        obtain ⟨k, rfl⟩ := Int.eq_ofNat_of_zero_le (by omega : 0 ≤ n)
        obtain rfl : k = q := h
        exact .number (by omega) (by omega)
      · contradiction
    · next s =>
      refine .text ?_
      -- four texts are compared one after the other, and each is in the table
      split_ifs at h with h1 h2 h3 h4
      all_goals
        injection h with h
        simp_all
    · contradiction
  · intro h
    cases h with
    | number hpos hle => exact if_pos (by omega)
    | text hmem =>
      simp only [List.mem_cons, Prod.mk.injEq, List.not_mem_nil, or_false] at hmem
      rcases hmem with ⟨rfl, rfl⟩ | ⟨rfl, rfl⟩ | ⟨rfl, rfl⟩ | ⟨rfl, rfl⟩ <;> rfl

theorem fault_of_readQuarter {fault : ParameterFault} (h : readQuarter j = .error fault) :
    fault = .malformedQuarter := by
  unfold readQuarter at h
  split at h
  · split at h
    · contradiction
    · injection h with h
      exact h.symm
  · split_ifs at h
    injection h with h
    exact h.symm
  · injection h with h
    exact h.symm

/-- Every other value is malformed. -/
theorem readQuarter_eq_error {fault : ParameterFault} :
    readQuarter j = .error fault ↔ fault = .malformedQuarter ∧ ∀ q, ¬ GivesQuarter j q := by
  constructor
  · intro h
    refine ⟨fault_of_readQuarter h, fun q hgives => ?_⟩
    rw [readQuarter_eq_ok.mpr hgives] at h
    contradiction
  · rintro ⟨rfl, hnone⟩
    cases h : readQuarter j with
    | ok q => exact absurd (readQuarter_eq_ok.mp h) (hnone q)
    | error fault => rw [fault_of_readQuarter h]

/-- An entity goes by the text of a value, or by the number as it is written. -/
theorem narrowingValue?_eq_some : narrowingValue? j = some text ↔ GivesText j text := by
  constructor
  · intro h
    unfold narrowingValue? at h
    split at h
    · next s =>
      obtain rfl := Option.some.inj h
      exact .string s
    · next n =>
      obtain rfl := Option.some.inj h
      exact .number n
    · contradiction
  · intro h
    cases h <;> rfl

theorem narrowingValue?_eq_none : narrowingValue? j = none ↔ ∀ text, ¬ GivesText j text := by
  rw [Option.eq_none_iff_forall_ne_some]
  exact forall_congr' fun text => not_congr narrowingValue?_eq_some

end

end Obligations.Filters
