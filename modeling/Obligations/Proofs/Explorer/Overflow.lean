import Obligations.Proofs.Explorer.Scope
import Obligations.Proofs.Grouping.Groups

/-!
# Obligations — what can be too large

A response is computed from the amounts of one set, and from the control rows if the set is
that of a period. If these are in the exact range, no step from the grouping to the response
fails. That is enough for the categories of awards, since program rows have no entity of such
a category and are never added. It is not enough for the categories of a period: the award
rows are grouped along them too, before the result is dropped, and this fails if the amounts
of one entity do not add up.

* `Store.amountsFor` — the amounts that a response is computed from;
* `Store.AwardsAddUp` — the sum of the award rows exists for each entity;
* `Explorer.respond_of_exact` — in the exact range a grouping has a response;
* `response_iff_awardsAddUp` — which requests have a response in the exact range;
* `unused_awards_overflow` — award rows that are too large for a request about a period.
-/

namespace Obligations

/-! ## Amounts -/

namespace Store

/-- The amounts that a response is computed from. -/
def amountsFor (s : Store) (q : Inquiry) : List Amount :=
  match q.category.rowSet with
  | .cumulative => (s.awardRows.filter q.coversAward).map Row.amount
  | .period =>
    (s.programRows.filter q.coversProgram).map ProgramRow.amount
      ++ (s.controlRows.filter q.coversControl).map ControlRow.amount

/-- For each entity the amounts of its award rows can be added from left to right. -/
def AwardsAddUp (s : Store) (q : Inquiry) : Prop :=
  ∀ id, ∃ total, sumAmounts
    (groupAmounts (s.awardRows.filter q.coversAward) q.filters q.category id) = .ok total

variable {s : Store} {q : Inquiry}

/-- For categories of awards these are the amounts of the award rows. -/
theorem amountsFor_of_cumulative (h : q.category.rowSet = .cumulative) :
    s.amountsFor q = (s.rowsFor q).map Row.amount := by
  rw [amountsFor, rowsFor, h, awardRowsFor_eq_filter]

/-- For those of a period, of the program rows and the control rows. -/
theorem amountsFor_of_period (h : q.category.rowSet = .period) :
    s.amountsFor q = (s.rowsFor q).map Row.amount ++ s.controlAmountsFor q := by
  simp only [amountsFor, rowsFor, h, programRowsFor_eq_filter, controlAmountsFor_eq_filter,
    List.map_map]
  rfl

/-- The award rows add up for each entity just in case they can be grouped. -/
theorem awardsAddUp_iff :
    s.AwardsAddUp q ↔ ∃ es, groupEntries (s.awardRowsFor q) q.filters q.category = .ok es := by
  rw [groupEntries_isOk_iff, awardRowsFor_eq_filter]
  rfl

end Store

/-! ## Responses -/

theorem Run.not_ok_of_overflows {α : Type} {run : Run α} (h : run.overflows = true) :
    ¬ ∃ a, run.outcome = .ok a := by
  -- a run that overflows has ended with a failure
  rintro ⟨a, ha⟩
  rw [Run.overflows, ha] at h
  simp at h

namespace Explorer

variable {e : Explorer} {s : Store} {q : Inquiry} {now : Instant} {k : Nat}
  {entries : List Entry} {controls : List Amount}

/-- If the grouped amounts are exact together with the control rows, so is their difference, and
reconciling does not fail. -/
theorem reconcileWith_of_exact (h : Exact k (entries.filterMap Entry.amount ++ controls))
    {actual : Option Amount} (hactual : sumEntries entries = .ok actual) :
    ∃ reconciled, e.reconcileWith q entries actual controls = .ok reconciled := by
  unfold reconcileWith
  split
  · obtain ⟨expected, hexpected, -⟩ :=
      sumAmounts_exact (h.sublist (List.sublist_append_right _ controls))
    rw [hexpected]
    show ∃ reconciled, addUnreported _ _ _ expected actual = .ok reconciled
    -- there is something to subtract only if both totals are there
    cases expected with
    | none => exact ⟨_, rfl⟩
    | some x =>
      cases actual with
      | none => exact ⟨_, rfl⟩
      | some y =>
        obtain ⟨missing, hmissing, -⟩ := sub_of_sums h hactual hexpected
        exact ⟨_, bind_eq_ok.mpr ⟨missing, hmissing, rfl⟩⟩
  · exact ⟨_, rfl⟩

theorem respond_of_exact (h : Exact k (entries.filterMap Entry.amount ++ controls)) :
    ∃ resp, e.respond q entries controls = .ok resp := by
  obtain ⟨total, htotal, -⟩ :=
    sumAmounts_exact (h.sublist (List.sublist_append_left _ controls))
  have hsum : sumEntries entries = .ok total := htotal
  unfold respond
  -- what is added up first is in range, and only a period is reconciled after that
  cases q.category.rowSet with
  | cumulative => exact ⟨_, bind_eq_ok.mpr ⟨total, hsum, rfl⟩⟩
  | period =>
    obtain ⟨reconciled, hreconciled⟩ := reconcileWith_of_exact (e := e) (q := q) h hsum
    exact ⟨_, bind_eq_ok.mpr ⟨total, hsum, bind_eq_ok.mpr ⟨reconciled, hreconciled, rfl⟩⟩⟩

/-- A response about awards does not look at control rows. -/
theorem respond_of_cumulative (h : q.category.rowSet = .cumulative) :
    e.respond q entries controls = e.respond q entries [] := by
  unfold respond
  rw [h]

/-- From the amounts in the exact range to a response only the grouping of the award rows is in
between. -/
theorem response_of_amounts (hs : s.failure = none) (hrevealed : e.isRevealed q now = true)
    (hrange : InExactRange (s.amountsFor q)) (hawards : s.AwardsAddUp q) :
    ∃ resp, (e.run s.source q now).outcome = .ok resp := by
  obtain ⟨awards, hawards⟩ := Store.awardsAddUp_iff.mp hawards
  rw [outcome_of_revealed hs hrevealed, hawards]
  show ∃ resp, (groupEntries (s.rowsFor q) q.filters q.category >>= _) = .ok resp
  -- the scale is the same for all that follows
  have hexact := hrange.exact
  generalize largestScale (s.amountsFor q) = k at hexact
  cases hset : q.category.rowSet with
  | cumulative =>
    rw [Store.amountsFor_of_cumulative hset] at hexact
    obtain ⟨entries, hentries⟩ := groupEntries_of_exact q.filters q.category hexact
    -- grouped amounts are exact as the rows are, and no control rows are needed
    have hamounts := exact_grouped hexact hentries
    rw [← List.append_nil (entries.filterMap Entry.amount)] at hamounts
    obtain ⟨resp, hresp⟩ := respond_of_exact (e := e) (q := q) hamounts
    exact ⟨resp, bind_eq_ok.mpr ⟨entries, hentries, (respond_of_cumulative hset).trans hresp⟩⟩
  | period =>
    rw [Store.amountsFor_of_period hset] at hexact
    obtain ⟨entries, hentries⟩ := groupEntries_of_exact q.filters q.category
      (hexact.sublist (List.sublist_append_left _ _))
    obtain ⟨resp, hresp⟩ := respond_of_exact (e := e) (q := q)
      (exact_grouped_append hexact hentries)
    exact ⟨resp, bind_eq_ok.mpr ⟨entries, hentries, hresp⟩⟩

/-- Award rows that do not add up stop every revealed request, as they are grouped first. -/
theorem overflows_of_awards (hs : s.failure = none) (hrevealed : e.isRevealed q now = true)
    (hawards : ¬ s.AwardsAddUp q) : (e.run s.source q now).overflows = true := by
  unfold Run.overflows
  rw [outcome_of_revealed hs hrevealed]
  -- the grouping fails, and it can fail in one way only
  cases hgrouped : groupEntries (s.awardRowsFor q) q.filters q.category with
  | ok es => exact absurd (Store.awardsAddUp_iff.mpr ⟨es, hgrouped⟩) hawards
  | error f =>
    obtain ⟨operation, rfl⟩ := onlyOverflows_groupEntries _ _ _ f hgrouped
    rfl

end Explorer

section

variable {e : Explorer} {s : Store} {r : Request} {now : Instant} {q : Inquiry}

/-- **In the exact range a request about awards has a response, and one about a period just in
case the award rows add up.** -/
theorem response_iff_awardsAddUp (hs : s.failure = none) (hq : (e.check r).2 = .ok q)
    (hrevealed : e.isRevealed q now = true) (hrange : InExactRange (s.amountsFor q)) :
    (q.category.rowSet = .cumulative → ∃ resp, (e.explore s.source r now).run.outcome = .ok resp) ∧
    (q.category.rowSet = .period →
      ((∃ resp, (e.explore s.source r now).run.outcome = .ok resp) ↔ s.AwardsAddUp q) ∧
      (¬ s.AwardsAddUp q → (e.explore s.source r now).run.overflows = true)) := by
  rw [Explorer.explore_of_checked hq]
  have hfails : ¬ s.AwardsAddUp q → (e.run s.source q now).overflows = true :=
    Explorer.overflows_of_awards hs hrevealed
  refine ⟨fun hset => ?_, fun _ => ⟨⟨fun hresp => ?_, ?_⟩, hfails⟩⟩
  · -- the amounts in the exact range are those of the award rows themselves
    refine Explorer.response_of_amounts hs hrevealed hrange (Store.awardsAddUp_iff.mpr ?_)
    have hexact := hrange.exact
    rw [Store.amountsFor_of_cumulative hset, Store.rowsFor, hset] at hexact
    exact groupEntries_of_exact q.filters q.category hexact
  · -- a response exists, so the award rows were grouped
    by_contra hawards
    exact Run.not_ok_of_overflows (hfails hawards) hresp
  · exact Explorer.response_of_amounts hs hrevealed hrange

end

namespace Sample

/-- The largest amount there is. -/
def largest : Amount := amount 79228162514264337593543950335 0

/-- Award rows of one object class that do not add up. -/
def largeAwardsStore : Store :=
  { store with awardRows := [{ awardRow with amount := largest }, awardRow] }

/-- Program rows of one object class that do not add up, beside award rows that do. -/
def largeProgramsStore : Store :=
  { store with awardRows := [awardRow], programRows := [row 1 10 largest, row 1 10 largest] }

def awardRequest : Request := { request with category := some "award" }

def awardInquiry : Inquiry := { inquiry with category := .award }

end Sample

/-- The large program rows do not keep a request about awards from its response. -/
theorem response_iff_awardsAddUp_sample :
    (∃ resp, (Sample.explorer.explore Sample.largeProgramsStore.source Sample.awardRequest
      Sample.today).run.outcome = .ok resp) ∧
    ((∃ resp, (Sample.explorer.explore Sample.crowdedStore.source Sample.request
      Sample.today).run.outcome = .ok resp) ↔ Sample.crowdedStore.AwardsAddUp Sample.inquiry) :=
  ⟨(response_iff_awardsAddUp (q := Sample.awardInquiry) rfl (by rfl) (by decide)
      (by decide +kernel)).1 rfl,
    ((response_iff_awardsAddUp rfl Sample.check_request (by decide)
      (by decide +kernel)).2 rfl).1⟩

/-- The rows and control rows of the period are in the exact range, and there is no response
because award rows of the same quarter are too large. -/
theorem unused_awards_overflow :
    Sample.largeAwardsStore.failure = none ∧
    (Sample.explorer.check Sample.request).2 = .ok Sample.inquiry ∧
    Sample.explorer.isRevealed Sample.inquiry Sample.today = true ∧
    InExactRange (Sample.largeAwardsStore.amountsFor Sample.inquiry) ∧
    (Sample.explorer.explore Sample.largeAwardsStore.source Sample.request
      Sample.today).run.overflows = true ∧
    ¬ ∃ resp, (Sample.explorer.explore Sample.largeAwardsStore.source Sample.request
      Sample.today).run.outcome = .ok resp := by
  have hoverflows : (Sample.explorer.explore Sample.largeAwardsStore.source Sample.request
      Sample.today).run.overflows = true := by
    decide +kernel
  exact ⟨rfl, by rfl, by decide, by decide +kernel, hoverflows,
    Run.not_ok_of_overflows hoverflows⟩

end Obligations
