import Mathlib.Algebra.BigOperators.Group.List.Basic
import Mathlib.Algebra.Order.Ring.Int
import Obligations.Entry

/-!
# Obligations — exact sums of amounts

Adding amounts rounds only when the exact sum has more digits than an amount can hold.
Here is a condition under which no addition in a whole computation rounds, whatever its
order: at a scale that no amount exceeds, the magnitudes together stay in range. Partial
sums, sums of partial sums and differences of them then stay in range too.

* `Amount.add?_exact`, `Amount.sub?_exact` — one exact step, counted in units at a scale;
* `Exact` — the condition on a list of amounts, for a given scale;
* `InExactRange` — the same at the largest scale that occurs, with a bit to spare;
* `sumAmounts_exact` — under the condition a sum exists and is the sum of the numbers;
* `totalValue?`, `value_of_sumAmounts` — this number, and none for the sum of nothing;
* `sumAmounts_congr` — so it is the same number for all lists of the same numbers.
-/

namespace Obligations

namespace Amount

/-! ## Units at a scale -/

/-- Counting at a larger scale multiplies by the power of ten between the two. -/
theorem unitsAt_rescale {a : Amount} {s t : Nat} (ha : a.scale ≤ s) (hst : s ≤ t) :
    a.unitsAt t = a.unitsAt s * tenTo (t - s) := by
  unfold unitsAt
  have hsplit : t - a.scale = (s - a.scale) + (t - s) := by omega
  rw [hsplit, tenTo_add, Int.natCast_mul, Int.mul_assoc]

/-- Counted at a larger scale an amount is at least as large, so what is in range there is in range
below. -/
theorem natAbs_unitsAt_le {a : Amount} {s t : Nat} (ha : a.scale ≤ s) (hst : s ≤ t) :
    (a.unitsAt s).natAbs ≤ (a.unitsAt t).natAbs := by
  rw [unitsAt_rescale ha hst, Int.natAbs_mul, Int.natAbs_natCast]
  exact Nat.le_mul_of_pos_right _ (tenTo_pos _)

/-- A zero counts nothing at any scale, whatever scale and sign it has itself. -/
theorem unitsAt_of_isZero {a : Amount} (h : a.isZero = true) (s : Nat) : a.unitsAt s = 0 := by
  have hm : a.magnitude = 0 := by simpa [isZero] using h
  have hc : a.coefficient = 0 := by simp [coefficient, hm]
  rw [unitsAt, hc, Int.zero_mul]

/-- Negation turns the sign, but a zero keeps the one it has. -/
theorem coefficient_neg (a : Amount) : a.neg.coefficient = -a.coefficient := by
  unfold neg
  -- zeros are negated to themselves, so they are apart from the rest
  split
  · next h =>
    have hm : a.magnitude = 0 := by simpa [isZero] using h
    simp [coefficient, hm]
  · cases hn : a.negative <;> simp [coefficient, hn]

theorem scale_neg (a : Amount) : a.neg.scale = a.scale := by
  unfold neg
  split <;> rfl

theorem unitsAt_neg (a : Amount) (s : Nat) : a.neg.unitsAt s = -a.unitsAt s := by
  rw [unitsAt, coefficient_neg, scale_neg, Int.neg_mul, unitsAt]

/-! ## One step -/

/-- Amounts whose magnitudes together are in range at some scale add up exactly. -/
theorem add?_exact {a b : Amount} {s : Nat} (ha : a.scale ≤ s) (hb : b.scale ≤ s)
    (hfit : (a.unitsAt s).natAbs + (b.unitsAt s).natAbs < limit) :
    ∃ c, a.add? b = some c ∧ c.scale ≤ s ∧ c.unitsAt s = a.unitsAt s + b.unitsAt s := by
  unfold add?
  -- next to a zero the other amount is kept as it is, at its own scale
  by_cases hza : a.isZero = true
  · exact ⟨b, if_pos hza, hb, by rw [unitsAt_of_isZero hza, Int.zero_add]⟩
  by_cases hzb : b.isZero = true
  · exact ⟨a, by rw [if_neg hza, if_pos hzb], ha, by rw [unitsAt_of_isZero hzb, Int.add_zero]⟩
  rw [if_neg hza, if_neg hzb]
  -- the sum is taken at the larger of both scales, where the magnitudes are smaller still
  have ham : a.scale ≤ max a.scale b.scale := Nat.le_max_left _ _
  have hbm : b.scale ≤ max a.scale b.scale := Nat.le_max_right _ _
  have hms : max a.scale b.scale ≤ s := Nat.max_le.mpr ⟨ha, hb⟩
  have hm : max a.scale b.scale ≤ maxScale := Nat.max_le.mpr ⟨a.scale_le, b.scale_le⟩
  generalize max a.scale b.scale = m at ham hbm hms hm
  -- so the coefficient fits, and nothing is cut off
  have hla := natAbs_unitsAt_le ham hms
  have hlb := natAbs_unitsAt_le hbm hms
  have hsum : (a.unitsAt m + b.unitsAt m).natAbs < limit := by omega
  refine ⟨_, fit?_of_lt hsum hm, hms, ?_⟩
  obtain ⟨hcoeff, -⟩ := coefficient_of_ofParts? (ofParts?_of_lt hsum hm)
  rw [unitsAt, hcoeff, unitsAt_rescale ham hms, unitsAt_rescale hbm hms, ← Int.add_mul]

/-- And the same for a difference, which needs no more room than the sum of the magnitudes. -/
theorem sub?_exact {a b : Amount} {s : Nat} (ha : a.scale ≤ s) (hb : b.scale ≤ s)
    (hfit : (a.unitsAt s).natAbs + (b.unitsAt s).natAbs < limit) :
    ∃ c, a.sub? b = some c ∧ c.scale ≤ s ∧ c.unitsAt s = a.unitsAt s - b.unitsAt s := by
  -- to subtract is to add the negated amount, which is as large as the amount
  have hfit' : (a.unitsAt s).natAbs + (b.neg.unitsAt s).natAbs < limit := by
    rw [unitsAt_neg, Int.natAbs_neg]
    exact hfit
  obtain ⟨c, hc, hcs, hcu⟩ := add?_exact ha (scale_neg b ▸ hb) hfit'
  exact ⟨c, hc, hcs, by rw [hcu, unitsAt_neg, Int.sub_eq_add_neg]⟩

end Amount

/-! ## Lists of amounts -/

/-- The sum of the numbers, in units at scale `s`. -/
def sumUnits (s : Nat) (as : List Amount) : Int := (as.map (·.unitsAt s)).sum

/-- The sum of the magnitudes, in units at scale `s`. -/
def weight (s : Nat) (as : List Amount) : Nat := (as.map fun a => (a.unitsAt s).natAbs).sum

/-- The sum of the numbers, whatever their scales. -/
def sumValues (as : List Amount) : Int := (as.map Amount.value).sum

@[simp] theorem sumUnits_nil (s : Nat) : sumUnits s [] = 0 := rfl

@[simp] theorem sumUnits_cons (s : Nat) (a : Amount) (as : List Amount) :
    sumUnits s (a :: as) = a.unitsAt s + sumUnits s as := rfl

@[simp] theorem sumUnits_append (s : Nat) (as bs : List Amount) :
    sumUnits s (as ++ bs) = sumUnits s as + sumUnits s bs := by
  simp [sumUnits]

/-- The order in which amounts are listed does not enter into their sum. -/
theorem sumUnits_perm (s : Nat) {as bs : List Amount} (h : as.Perm bs) :
    sumUnits s as = sumUnits s bs :=
  (h.map _).sum_eq

theorem sumValues_append (as bs : List Amount) :
    sumValues (as ++ bs) = sumValues as + sumValues bs := by
  simp [sumValues]

theorem sumValues_perm {as bs : List Amount} (h : as.Perm bs) : sumValues as = sumValues bs :=
  (h.map _).sum_eq

@[simp] theorem weight_nil (s : Nat) : weight s [] = 0 := rfl

@[simp] theorem weight_cons (s : Nat) (a : Amount) (as : List Amount) :
    weight s (a :: as) = (a.unitsAt s).natAbs + weight s as := rfl

@[simp] theorem weight_append (s : Nat) (as bs : List Amount) :
    weight s (as ++ bs) = weight s as + weight s bs := by
  simp [weight]

/-- Nor does the weight, so the condition below survives any reordering. -/
theorem weight_perm (s : Nat) {as bs : List Amount} (h : as.Perm bs) :
    weight s as = weight s bs := by
  exact (h.map _).sum_nat

/-- Leaving amounts out makes the list no heavier, whatever their signs. -/
theorem weight_sublist (s : Nat) {as bs : List Amount} (h : as.Sublist bs) :
    weight s as ≤ weight s bs := by
  induction h with
  | slnil => exact Nat.le_refl _
  | cons b _ ih =>
    rw [weight_cons]
    omega
  | cons_cons a _ ih =>
    rw [weight_cons, weight_cons]
    omega

/-- However the signs fall, a sum is no larger than all magnitudes together. This is why the weight
bounds every partial sum. -/
theorem natAbs_sumUnits_le (s : Nat) (as : List Amount) :
    (sumUnits s as).natAbs ≤ weight s as := by
  induction as with
  | nil => simp
  | cons a as ih =>
    rw [sumUnits_cons, weight_cons]
    omega

/-- Values are units at the largest scale there is. -/
theorem sumValues_eq {s : Nat} (hs : s ≤ Amount.maxScale) {as : List Amount}
    (h : ∀ a ∈ as, a.scale ≤ s) :
    sumValues as = sumUnits s as * tenTo (Amount.maxScale - s) := by
  induction as with
  | nil => simp [sumValues]
  | cons a as ih =>
    have hrest := ih fun x hx => h x (List.mem_cons_of_mem a hx)
    -- the value of an amount counts units at the largest scale of all
    have hhead : a.value = a.unitsAt s * tenTo (Amount.maxScale - s) :=
      Amount.unitsAt_rescale (h a List.mem_cons_self) hs
    rw [sumUnits_cons, Int.add_mul, ← hhead, ← hrest]
    rfl

/-! ## The condition -/

/-- Nothing is lost at scale `s`: no amount has more fraction digits, and all magnitudes
together are in range. -/
structure Exact (s : Nat) (as : List Amount) : Prop where
  scale_le  : ∀ a ∈ as, a.scale ≤ s
  weight_lt : weight s as < Amount.limit

/-- The condition is about the amounts, not about their order. -/
theorem Exact.perm {s : Nat} {as bs : List Amount} (h : Exact s as) (hperm : as.Perm bs) :
    Exact s bs where
  scale_le a ha := h.scale_le a (hperm.mem_iff.mpr ha)
  weight_lt := weight_perm s hperm ▸ h.weight_lt

/-- It passes from a list to every part of it, so a group of rows has it if all rows have. -/
theorem Exact.sublist {s : Nat} {as bs : List Amount} (h : Exact s bs) (hsub : as.Sublist bs) :
    Exact s as where
  scale_le a ha := h.scale_le a (hsub.subset ha)
  weight_lt := Nat.lt_of_le_of_lt (weight_sublist s hsub) h.weight_lt

/-- The largest number of fraction digits that occurs. -/
def largestScale (as : List Amount) : Nat := (as.map Amount.scale).foldr max 0

/-- At their largest scale all magnitudes together take at most 95 bits. -/
def InExactRange (as : List Amount) : Prop := weight (largestScale as) as < 2 ^ 95

instance (as : List Amount) : Decidable (InExactRange as) :=
  inferInstanceAs (Decidable (_ < _))

/-- Every amount can be counted at the largest scale of the list. -/
theorem scale_le_largestScale {as : List Amount} {a : Amount} (h : a ∈ as) :
    a.scale ≤ largestScale as := by
  induction as with
  | nil => exact absurd h List.not_mem_nil
  | cons x xs ih =>
    show a.scale ≤ max x.scale (largestScale xs)
    -- either the maximum is taken with `a` itself, or `a` is further down
    rcases List.mem_cons.mp h with rfl | h
    · exact Nat.le_max_left _ _
    · exact Nat.le_trans (ih h) (Nat.le_max_right _ _)

/-- The largest scale is one that an amount can have, so no sum at it is cut off for its digits. -/
theorem largestScale_le (as : List Amount) : largestScale as ≤ Amount.maxScale := by
  induction as with
  | nil => exact Nat.zero_le _
  | cons a as ih => exact Nat.max_le.mpr ⟨a.scale_le, ih⟩

/-- Being in range at the largest scale with a bit to spare is more than enough. -/
theorem InExactRange.exact {as : List Amount} (h : InExactRange as) :
    Exact (largestScale as) as where
  scale_le _ ha := scale_le_largestScale ha
  weight_lt := Nat.lt_trans h (by decide)

/-! ## Sums -/

/-- The sum that is reported as an error when it does not exist; in range it exists and is exact. -/
theorem Amount.add_exact {a b : Amount} {s : Nat} (ha : a.scale ≤ s) (hb : b.scale ≤ s)
    (hfit : (a.unitsAt s).natAbs + (b.unitsAt s).natAbs < limit) :
    ∃ c, a.add b = .ok c ∧ c.scale ≤ s ∧ c.unitsAt s = a.unitsAt s + b.unitsAt s := by
  obtain ⟨c, hc, hcs, hcu⟩ := add?_exact ha hb hfit
  exact ⟨c, by rw [add, hc], hcs, hcu⟩

theorem Amount.sub_exact {a b : Amount} {s : Nat} (ha : a.scale ≤ s) (hb : b.scale ≤ s)
    (hfit : (a.unitsAt s).natAbs + (b.unitsAt s).natAbs < limit) :
    ∃ c, a.sub b = .ok c ∧ c.scale ≤ s ∧ c.unitsAt s = a.unitsAt s - b.unitsAt s := by
  obtain ⟨c, hc, hcs, hcu⟩ := sub?_exact ha hb hfit
  exact ⟨c, by rw [sub, hc], hcs, hcu⟩

/-- A running sum that starts at `a`. -/
theorem foldlM_add_exact {s : Nat} {as : List Amount} {a : Amount} (h : Exact s (a :: as)) :
    ∃ t, as.foldlM Amount.add a = .ok t ∧ t.scale ≤ s ∧
      t.unitsAt s = sumUnits s (a :: as) := by
  -- on the amounts that are left; the running sum changes from step to step
  induction as generalizing a with
  | nil => exact ⟨a, rfl, h.scale_le a List.mem_cons_self, by simp⟩
  | cons b as ih =>
    -- the first two amounts make room for their sum, which is no heavier than both
    have hw := h.weight_lt
    rw [weight_cons, weight_cons] at hw
    obtain ⟨c, hc, hcs, hcu⟩ := Amount.add_exact (h.scale_le a (by simp))
      (h.scale_le b (by simp)) (by omega : (a.unitsAt s).natAbs + (b.unitsAt s).natAbs < _)
    -- so the invariant goes on from the new running sum
    have hnext : Exact s (c :: as) := by
      refine ⟨fun x hx => ?_, ?_⟩
      · rcases List.mem_cons.mp hx with rfl | hx
        · exact hcs
        · exact h.scale_le x (by simp [hx])
      · rw [weight_cons, hcu]
        omega
    obtain ⟨t, ht, hts, htu⟩ := ih hnext
    refine ⟨t, ?_, hts, ?_⟩
    · rw [List.foldlM_cons, hc]
      exact ht
    · rw [htu, sumUnits_cons, hcu, sumUnits_cons, sumUnits_cons, Int.add_assoc]

/-- **In the exact range a sum exists, and no addition on the way rounds.** What it counts is what
the amounts count, in whatever order they are added. -/
theorem sumAmounts_exact {s : Nat} {as : List Amount} (h : Exact s as) :
    ∃ t, sumAmounts as = .ok t ∧
      ∀ a, t = some a → a.scale ≤ s ∧ a.unitsAt s = sumUnits s as := by
  -- there is nothing to start from in an empty list, and no sum
  cases as with
  | nil => exact ⟨none, rfl, fun a ha => nomatch ha⟩
  | cons a as =>
    obtain ⟨t, ht, hts, htu⟩ := foldlM_add_exact h
    refine ⟨some t, by rw [sumAmounts, ht]; rfl, fun x hx => ?_⟩
    injection hx with hx
    subst hx
    exact ⟨hts, htu⟩

/-- A sum that exists in the exact range is the sum of the numbers. -/
theorem unitsAt_of_sumAmounts {s : Nat} {as : List Amount} (h : Exact s as) {a : Amount}
    (ha : sumAmounts as = .ok (some a)) : a.scale ≤ s ∧ a.unitsAt s = sumUnits s as := by
  obtain ⟨t, ht, hsum⟩ := sumAmounts_exact h
  rw [ha] at ht
  injection ht with ht
  exact hsum a ht.symm

/-- What is counted right at one scale is the right number. -/
theorem value_eq_sumValues {s : Nat} (hs : s ≤ Amount.maxScale) {as : List Amount} {a : Amount}
    (has : ∀ x ∈ as, x.scale ≤ s) (ha : a.scale ≤ s) (h : a.unitsAt s = sumUnits s as) :
    a.value = sumValues as := by
  rw [sumValues_eq hs has, ← h]
  exact Amount.unitsAt_rescale ha hs

/-- The number of a sum is the sum of the numbers. -/
theorem value_of_sumAmounts_some {s : Nat} (hs : s ≤ Amount.maxScale) {as : List Amount}
    (h : Exact s as) {a : Amount} (ha : sumAmounts as = .ok (some a)) : a.value = sumValues as := by
  obtain ⟨hscale, hunits⟩ := unitsAt_of_sumAmounts h ha
  exact value_eq_sumValues hs h.scale_le hscale hunits

/-- Only the sum of nothing is absent. -/
theorem sumAmounts_eq_none_iff {as : List Amount} {t : Option Amount}
    (h : sumAmounts as = .ok t) : t = none ↔ as = [] := by
  cases as with
  | nil =>
    injection h with h
    simp [← h]
  | cons a as =>
    simp only [sumAmounts] at h
    -- with a first amount to start from, the fold either fails or gives a sum
    cases hs : as.foldlM Amount.add a with
    | error e => simp [hs, Functor.map, Except.map] at h
    | ok x =>
      simp only [hs, Functor.map, Except.map, Except.ok.injEq] at h
      simp [← h]

/-- The number that amounts add up to, none for no amounts at all. -/
def totalValue? (as : List Amount) : Option Int := if as = [] then none else some (sumValues as)

/-- The same with the sum of nothing, which is no number at all and not zero. -/
theorem value_of_sumAmounts {s : Nat} (hs : s ≤ Amount.maxScale) {as : List Amount}
    (h : Exact s as) {t : Option Amount} (ht : sumAmounts as = .ok t) :
    t.map Amount.value = totalValue? as := by
  unfold totalValue?
  cases t with
  | none => rw [if_pos ((sumAmounts_eq_none_iff ht).mp rfl), Option.map_none]
  | some a =>
    have hne : as ≠ [] := fun hnil => nomatch (sumAmounts_eq_none_iff ht).mpr hnil
    rw [if_neg hne, Option.map_some, value_of_sumAmounts_some hs h ht]

/-- In the exact range the sum of amounts is told by their numbers, in whatever order and at
whatever scales they are added. -/
theorem sumAmounts_congr {s : Nat} (hs : s ≤ Amount.maxScale) {as bs : List Amount}
    (has : Exact s as) (hbs : Exact s bs)
    (hvalues : (as.map Amount.value).Perm (bs.map Amount.value)) :
    ∃ x y, sumAmounts as = .ok x ∧ sumAmounts bs = .ok y ∧
      x.map Amount.value = y.map Amount.value := by
  obtain ⟨x, hx, -⟩ := sumAmounts_exact has
  obtain ⟨y, hy, -⟩ := sumAmounts_exact hbs
  refine ⟨x, y, hx, hy, ?_⟩
  -- one list is empty just in case the other is, so the sums are absent together
  have hempty : as = [] ↔ bs = [] := by
    rw [← List.map_eq_nil_iff (f := Amount.value), ← List.map_eq_nil_iff (f := Amount.value)]
    exact ⟨fun h => (h ▸ hvalues).nil_eq.symm, fun h => (h ▸ hvalues).eq_nil⟩
  -- the sums are told by the numbers, and these are the same numbers
  have hsum : sumValues as = sumValues bs := hvalues.sum_eq
  rw [value_of_sumAmounts hs has hx, value_of_sumAmounts hs hbs hy, totalValue?, totalValue?, hsum]
  simp only [hempty]

end Obligations
