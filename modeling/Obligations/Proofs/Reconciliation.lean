import Obligations.Proofs.Grouping.Totals
import Obligations.Reconciliation

/-!
# Obligations — the entry of what was not reported

The entry is appended to a ranked result and the whole is ranked again, so it can end up
anywhere. It can still be told from the others, which all have an id, and taking it out
leaves them as they were. What it is worth is the difference of two sums, which is exact
when both sums together are in range.

* `Config.isEligible_iff` — what is compared with a control total;
* `filter_reported_rank` — taking the entry out again;
* `filter_unreported_rank` — there is one such entry and no other;
* `sub_of_sums`, `value_of_sub` — the difference of both sums exists, and is the difference
  of the numbers;
* `missing_exact` — with the entry a result adds up to the control total.
-/

namespace Obligations

theorem onlyOverflows_sub (a b : Amount) : OnlyOverflows (a.sub b) := by
  intro e he
  unfold Amount.sub at he
  split at he
  · contradiction
  · injection he with he
    exact ⟨.subtraction, he.symm⟩

/-- What is compared with a control total depends on the category and the keys alone. -/
theorem Config.isEligible_iff {c : Config} {category : Category} {f : Filters} :
    c.isEligible category f = true ↔ category ∈ c.reconciling ∧ f.keys = c.baseKeys := by
  simp [isEligible, isReconciling]

/-- The only failure of adding the entry is that of the subtraction. -/
theorem onlyOverflows_addUnreported (name : String) (category : Category)
    (results : List Entry) (expected actual : Option Amount) :
    OnlyOverflows (addUnreported name category results expected actual) := by
  -- without one of the two sums nothing is subtracted
  cases expected with
  | none => exact onlyOverflows_ok _
  | some x =>
    cases actual with
    | none => exact onlyOverflows_ok _
    | some y => exact onlyOverflows_bind (onlyOverflows_sub x y) fun _ => onlyOverflows_ok _

variable {results : List Entry} {u : Entry}

/-! ## Among the others -/

theorem filter_reported_of_ids (hids : ∀ e ∈ results, e.id.isSome = true) :
    results.filter (fun e => !e.isUnreported) = results := by
  rw [List.filter_eq_self]
  intro e he
  simp [Entry.isUnreported, hids e he]

/-- Without the entry the results are as they were. -/
theorem filter_reported_rank (hranked : Ranked results)
    (hids : ∀ e ∈ results, e.id.isSome = true) (hu : u.isUnreported = true) :
    (rank (results ++ [u])).filter (fun e => !e.isUnreported) = results := by
  -- the filter keeps all results and drops the entry, and what is left is ranked already
  rw [filter_rank, List.filter_append, filter_reported_of_ids hids, List.filter_cons, hu]
  exact (List.append_nil results).symm ▸ rank_of_ranked hranked

theorem filter_unreported_eq_nil (hids : ∀ e ∈ results, e.id.isSome = true) :
    results.filter Entry.isUnreported = [] := by
  rw [List.filter_eq_nil_iff]
  intro e he
  simp [Entry.isUnreported, Option.isNone_iff_eq_none, Option.isSome_iff_ne_none.mp (hids e he)]

/-- Besides the entry there is no other without an id. -/
theorem filter_unreported_rank (hids : ∀ e ∈ results, e.id.isSome = true)
    (hu : u.isUnreported = true) :
    (rank (results ++ [u])).filter Entry.isUnreported = [u] := by
  rw [filter_rank, List.filter_append, filter_unreported_eq_nil hids, List.filter_cons, hu]
  rfl

theorem mem_rank_append {e : Entry} : e ∈ rank (results ++ [u]) ↔ e ∈ results ∨ e = u := by
  rw [(rank_perm _).mem_iff]
  simp

/-! ## Its amount -/

/-- The difference of two exact sums is exact. -/
theorem sub_of_sums {s : Nat} {as bs : List Amount} (h : Exact s (as ++ bs))
    {actual expected : Amount} (hactual : sumAmounts as = .ok (some actual))
    (hexpected : sumAmounts bs = .ok (some expected)) :
    ∃ missing, expected.sub actual = .ok missing ∧ missing.scale ≤ s ∧
      missing.unitsAt s = expected.unitsAt s - actual.unitsAt s := by
  obtain ⟨hascale, haunits⟩ :=
    unitsAt_of_sumAmounts (h.sublist (List.sublist_append_left as bs)) hactual
  obtain ⟨hbscale, hbunits⟩ :=
    unitsAt_of_sumAmounts (h.sublist (List.sublist_append_right as bs)) hexpected
  -- both sums are no heavier than what they are sums of
  have hroom := h.weight_lt
  have haweight := natAbs_sumUnits_le s as
  have hbweight := natAbs_sumUnits_le s bs
  rw [weight_append] at hroom
  exact Amount.sub_exact hbscale hascale (by rw [haunits, hbunits]; omega)

/-- As numbers, what is missing is the one sum less the other. -/
theorem value_of_sub {s : Nat} (hs : s ≤ Amount.maxScale) {as bs : List Amount}
    (h : Exact s (as ++ bs)) {actual expected : Amount}
    (hactual : sumAmounts as = .ok (some actual))
    (hexpected : sumAmounts bs = .ok (some expected)) :
    ∃ missing, expected.sub actual = .ok missing ∧
      missing.value = expected.value - actual.value := by
  obtain ⟨missing, hmissing, hscale, hunits⟩ := sub_of_sums h hactual hexpected
  obtain ⟨hascale, -⟩ := unitsAt_of_sumAmounts (h.sublist (List.sublist_append_left as bs)) hactual
  obtain ⟨hbscale, -⟩ :=
    unitsAt_of_sumAmounts (h.sublist (List.sublist_append_right as bs)) hexpected
  refine ⟨missing, hmissing, ?_⟩
  -- values are units at the largest scale, which all three are rescaled to
  unfold Amount.value
  rw [Amount.unitsAt_rescale hscale hs, Amount.unitsAt_rescale hascale hs,
    Amount.unitsAt_rescale hbscale hs, hunits, Int.sub_mul]

/-- It fills the smaller sum up to the larger. -/
theorem missing_exact {s : Nat} {as bs : List Amount} (h : Exact s (as ++ bs))
    {actual expected missing : Amount} (hactual : sumAmounts as = .ok (some actual))
    (hexpected : sumAmounts bs = .ok (some expected)) (hsub : expected.sub actual = .ok missing) :
    missing.scale ≤ s ∧ sumUnits s as + missing.unitsAt s = expected.unitsAt s := by
  -- the difference that exists is the one at hand
  obtain ⟨d, hd, hdscale, hdunits⟩ := sub_of_sums h hactual hexpected
  rw [hsub] at hd
  injection hd with hd
  subst hd
  obtain ⟨-, haunits⟩ :=
    unitsAt_of_sumAmounts (h.sublist (List.sublist_append_left as bs)) hactual
  refine ⟨hdscale, ?_⟩
  rw [hdunits, haunits]
  omega

end Obligations
