import Obligations.Proofs.Explorer.Overflow

/-!
# Obligations — one set along two dimensions

Grouped along another category of the same set, the same rows give other entries in another
number and order. What a response says on the whole does not depend on that. Its total, and
what it shows as not reported, are numbers of the rows that are counted and of the control
rows; and if every row that passes the filters has both dimensions, the same rows are counted
along both.

* `Sums` — the total of a response, and what it shows as not reported;
* `Explorer.sums` — the same, from the rows of a store and without grouping them;
* `Response.ShowsSums`, `Explorer.Answers.showsSums` — in the exact range a response shows them;
* `Explorer.sums_congr` — they are the same along both dimensions;
* `totals_agree` — hence the responses agree on them.
-/

namespace Obligations

/-! ## What a response says on the whole -/

structure Sums where
  total : Option Int
  /-- What was not reported, if that is shown. -/
  missing : Option Int

/-- A control total is compared with what was reported, if both are there. -/
def Sums.compare (control reported : Option Int) : Sums :=
  match control, reported with
  | some x, some y => ⟨some x, some (x - y)⟩
  | _, _ => ⟨reported, none⟩

/-- The response has this total, and one entry without an id if anything is missing. -/
structure Response.ShowsSums (resp : Response) (sums : Sums) : Prop where
  total_eq   : resp.total.map Amount.value = sums.total
  missing_eq : (resp.entries.filter Entry.isUnreported).map (fun u => u.amount.map Amount.value) =
                 sums.missing.toList.map some

namespace Response.ShowsSums

variable {resp : Response} {sums : Sums}

/-- A response shows an entry without an id just in case something is missing. -/
theorem exists_unreported_iff (h : resp.ShowsSums sums) :
    (∃ u ∈ resp.entries, u.id = none) ↔ sums.missing ≠ none := by
  -- the entries without an id are as many as the sums that are missing, one or none
  have hempty : resp.entries.filter Entry.isUnreported = [] ↔ sums.missing = none := by
    rw [← List.map_eq_nil_iff, h.missing_eq]
    cases sums.missing <;> simp
  rw [Ne, ← hempty, List.filter_eq_nil_iff]
  simp [Entry.isUnreported]

/-- And that entry shows what is missing. -/
theorem amount_of_unreported (h : resp.ShowsSums sums) {u : Entry} (hu : u ∈ resp.entries)
    (hnone : u.id = none) : u.amount.map Amount.value = sums.missing := by
  have hmem : u ∈ resp.entries.filter Entry.isUnreported :=
    List.mem_filter.mpr ⟨hu, by rw [Entry.isUnreported, hnone]; rfl⟩
  have hvalue := List.mem_map_of_mem (f := fun u => u.amount.map Amount.value) hmem
  rw [h.missing_eq] at hvalue
  -- it is the one number that is missing
  obtain ⟨n, hn, hsame⟩ := List.mem_map.mp hvalue
  rw [← hsame, Option.mem_toList.mp hn]

end Response.ShowsSums

/-! ## The same from the rows -/

namespace Store

/-- What the counted rows of a request add up to. -/
def reported (s : Store) (q : Inquiry) : Option Int :=
  totalValue? ((countedRows (s.rowsFor q) q.filters q.category).map Row.amount)

/-- What the control rows of a request add up to. -/
def control (s : Store) (q : Inquiry) : Option Int := totalValue? (s.controlAmountsFor q)

/-- At one scale, the rows of a request are exact, and so are the rows and the control rows of a
period together. -/
theorem exact_rowsFor {s : Store} {q : Inquiry} (h : InExactRange (s.amountsFor q)) :
    ∃ k ≤ Amount.maxScale, Exact k ((s.rowsFor q).map Row.amount) ∧
      (q.category.rowSet = .period →
        Exact k ((s.rowsFor q).map Row.amount ++ s.controlAmountsFor q)) := by
  have hexact := h.exact
  refine ⟨_, largestScale_le (s.amountsFor q), ?_⟩
  -- which scale it is does not matter from here on
  generalize largestScale (s.amountsFor q) = k at hexact
  cases hset : q.category.rowSet with
  | cumulative =>
    rw [amountsFor_of_cumulative hset] at hexact
    exact ⟨hexact, fun h => nomatch h⟩
  | period =>
    rw [amountsFor_of_period hset] at hexact
    exact ⟨hexact.sublist (List.sublist_append_left _ _), fun _ => hexact⟩

/-- The rows that a request is answered from are told by its filters and the set. -/
theorem rowsFor_congr (s : Store) {q q' : Inquiry} (hfilters : q'.filters = q.filters)
    (hset : q'.category.rowSet = q.category.rowSet) : s.rowsFor q' = s.rowsFor q := by
  simp only [rowsFor, awardRowsFor, programRowsFor, Inquiry.finalPeriod, hfilters, hset]

theorem controlAmountsFor_congr (s : Store) {q q' : Inquiry}
    (hfilters : q'.filters = q.filters) : s.controlAmountsFor q' = s.controlAmountsFor q := by
  simp only [controlAmountsFor, Inquiry.finalPeriod, hfilters]

/-- So are the amounts that a response is computed from, but for the set they come from. -/
theorem amountsFor_congr (s : Store) {q q' : Inquiry} (hfilters : q'.filters = q.filters)
    (hset : q'.category.rowSet = q.category.rowSet) : s.amountsFor q' = s.amountsFor q := by
  cases hcase : q.category.rowSet with
  | cumulative =>
    rw [amountsFor_of_cumulative hcase, amountsFor_of_cumulative (hset.trans hcase),
      s.rowsFor_congr hfilters hset]
  | period =>
    rw [amountsFor_of_period hcase, amountsFor_of_period (hset.trans hcase),
      s.rowsFor_congr hfilters hset, s.controlAmountsFor_congr hfilters]

end Store

namespace Explorer

/-- What a response about the rows of the store has to say on the whole. -/
def sums (e : Explorer) (s : Store) (q : Inquiry) (now : Instant) : Sums :=
  if e.isRevealed q now then
    match q.category.rowSet with
    | .cumulative => ⟨some ((s.reported q).getD 0), none⟩
    | .period =>
      if e.config.isEligible q.category q.filters then .compare (s.control q) (s.reported q)
      else ⟨s.reported q, none⟩
  else ⟨none, none⟩

section

variable {e : Explorer} {s : Store} {q : Inquiry} {now : Instant} {resp : Response}

/-- Entries of a grouping show no gap. -/
theorem showsSums_of_ids {total : Option Amount} {last : Option Date} {entries : List Entry}
    (hids : ∀ x ∈ entries, x.id.isSome = true) :
    Response.ShowsSums ⟨total, last, some entries⟩ ⟨total.map Amount.value, none⟩ := by
  refine ⟨rfl, ?_⟩
  show (entries.filter Entry.isUnreported).map _ = []
  rw [filter_unreported_eq_nil hids, List.map_nil]

/-- **What a response shows on the whole are numbers of the rows.** Of whatever kind it is, no
grouping is needed to tell its total and what is missing. -/
theorem Answers.showsSums (h : e.Answers s.source q now resp)
    (hrange : InExactRange (s.amountsFor q)) : resp.ShowsSums (e.sums s q now) := by
  obtain ⟨k, hk, hrows, hboth⟩ := Store.exact_rowsFor hrange
  -- what is answered from is the grouping of the rows, and its sum is their number
  have hreported {awards : List Row} {programs : List ProgramRow} {sets : GroupedSets}
      {t : Option Amount} (hfetched : Fetched s.source q awards programs sets)
      (ht : sumEntries (sets.select q.category) = .ok t) : t.map Amount.value = s.reported q :=
    value_of_sumEntries hk hrows (s.selected_of_fetched hfetched) ht
  -- and the control total is the number of the control rows
  have hcontrol {t : Option Amount} (hset : q.category.rowSet = .period)
      (ht : s.source.controlTotal q.filters.year q.finalPeriod = .ok t) :
      t.map Amount.value = s.control q :=
    value_of_sumAmounts hk ((hboth hset).sublist (List.sublist_append_right _ _))
      (Store.controlTotal_of_ok ht)
  unfold sums
  cases h with
  -- nothing is shown of a window that is not revealed
  | hidden hhidden =>
    rw [hhidden]
    exact ⟨rfl, rfl⟩
  | @cumulative _ _ sets total hrevealed hfetched hset htotal =>
    have hids := ids_groupEntries hfetched.cumulative_eq
    rw [← sets.select_of_cumulative hset] at htotal
    rw [if_pos hrevealed, hset, ← hreported hfetched htotal]
    -- the sum of nothing is shown as zero
    have hzero : some ((total.map Amount.value).getD 0) =
        (some (total.getD .zero)).map Amount.value := by
      cases total <;> rfl
    simp only [hzero]
    exact showsSums_of_ids fun x hx => hids x ((limitResults_sublist _ _ _).subset hx)
  | @uncompared _ _ sets _ hrevealed hfetched hset hactual heligible =>
    rw [← sets.select_of_period hset] at hactual
    rw [if_pos hrevealed, hset, heligible, ← hreported hfetched hactual]
    exact showsSums_of_ids (ids_groupEntries hfetched.period_eq)
  | @incomparable _ _ sets actual expected hrevealed hfetched hset hactual heligible hexpected
      habsent =>
    rw [← sets.select_of_period hset] at hactual
    rw [if_pos hrevealed, hset, heligible, ← hcontrol hset hexpected, ← hreported hfetched hactual]
    -- with one of the totals absent the comparison gives what was reported
    have hsums : Sums.compare (expected.map Amount.value) (actual.map Amount.value) =
        ⟨actual.map Amount.value, none⟩ := by
      rcases habsent with rfl | rfl
      · rfl
      · cases expected <;> rfl
    simp only [if_true, hsums]
    exact showsSums_of_ids (ids_groupEntries hfetched.period_eq)
  | @reconciled _ _ sets actual expected missing hrevealed hfetched hset hactual heligible
      hexpected hmissing =>
    have hids := ids_groupEntries hfetched.period_eq
    rw [← sets.select_of_period hset] at hactual hids ⊢
    rw [if_pos hrevealed, hset, heligible, ← hcontrol hset hexpected, ← hreported hfetched hactual]
    -- the gap is the difference of the two numbers
    obtain ⟨missing', hmissing', hgap⟩ :=
      value_of_sub hk (exact_grouped_append (hboth hset) (s.selected_of_fetched hfetched)) hactual
        (Store.controlTotal_of_ok hexpected)
    rw [hmissing] at hmissing'
    injection hmissing' with hmissing'
    subst hmissing'
    refine ⟨rfl, ?_⟩
    show ((rank _).filter Entry.isUnreported).map _ = [some (expected.value - actual.value)]
    rw [filter_unreported_rank hids rfl, ← hgap]
    rfl

end

/-! ## Along two dimensions -/

variable {e : Explorer} {s : Store} {q q' : Inquiry}

/-- None of these numbers depends on the category, if the rows that are counted are the same. -/
theorem sums_congr (hfilters : q'.filters = q.filters)
    (hset : q'.category.rowSet = q.category.rowSet)
    (hreconciling : q'.category ∈ e.config.reconciling ↔ q.category ∈ e.config.reconciling)
    (hrows : ∀ r ∈ s.rowsFor q, q.filters.admits r = true →
      (r.label? q.category).isSome = true ∧ (r.label? q'.category).isSome = true)
    (now : Instant) : e.sums s q' now = e.sums s q now := by
  have hrevealed : e.isRevealed q' now = e.isRevealed q now := by
    rw [isRevealed, hfilters, isRevealed]
  -- the rows that are counted are those that pass the filters, along both
  have hreported : s.reported q' = s.reported q := by
    rw [Store.reported, Store.reported, s.rowsFor_congr hfilters hset, hfilters,
      countedRows_eq_filter fun r hr hadmits => (hrows r hr hadmits).2,
      countedRows_eq_filter fun r hr hadmits => (hrows r hr hadmits).1]
  have hcontrol : s.control q' = s.control q := by
    rw [Store.control, Store.control, s.controlAmountsFor_congr hfilters]
  have heligible : e.config.isEligible q'.category q'.filters =
      e.config.isEligible q.category q.filters := by
    rw [Bool.eq_iff_iff, Config.isEligible_iff, Config.isEligible_iff, hreconciling, hfilters]
  rw [sums, sums, hrevealed, hset, hreported, hcontrol, heligible]

end Explorer

/-- The same for a request of which it is known what the checks make of it. -/
theorem showsSums_of_explore {e : Explorer} {s : Store} {r : Request} {now : Instant} {q : Inquiry}
    {resp : Response} (hq : (e.check r).2 = .ok q) (hrange : InExactRange (s.amountsFor q))
    (hresp : (e.explore s.source r now).run.outcome = .ok resp) :
    resp.ShowsSums (e.sums s q now) :=
  (Explorer.answers_of_checked hq hresp).showsSums hrange

/-- **Categories of one set agree on the total**, on whether anything was not reported, and on how
much. Limits do not matter for that. -/
theorem totals_agree {e : Explorer} {s : Store} {r r' : Request} {now : Instant} {q q' : Inquiry}
    {resp resp' : Response} (hsame : r'.filters = r.filters) (hq : (e.check r).2 = .ok q)
    (hq' : (e.check r').2 = .ok q') (hset : q'.category.rowSet = q.category.rowSet)
    (hreconciling : q'.category ∈ e.config.reconciling ↔ q.category ∈ e.config.reconciling)
    (hrows : ∀ row ∈ s.rowsFor q, q.filters.admits row = true →
      (row.label? q.category).isSome = true ∧ (row.label? q'.category).isSome = true)
    (hrange : InExactRange (s.amountsFor q))
    (hresp : (e.explore s.source r now).run.outcome = .ok resp)
    (hresp' : (e.explore s.source r' now).run.outcome = .ok resp') :
    resp.total.map Amount.value = resp'.total.map Amount.value ∧
    ((∃ u ∈ resp.entries, u.id = none) ↔ ∃ u ∈ resp'.entries, u.id = none) ∧
    ∀ u ∈ resp.entries, ∀ u' ∈ resp'.entries, u.id = none → u'.id = none →
      u.amount.map Amount.value = u'.amount.map Amount.value := by
  -- the same mapping is read into the same filters
  have hfilters : q'.filters = q.filters := by
    have hread := (Explorer.check_eq_ok.mp hq).2.1
    have hread' := (Explorer.check_eq_ok.mp hq').2.1
    rw [hsame, hread] at hread'
    exact (Except.ok.inj hread').symm
  -- both responses show the sums of their categories, which are the same sums
  have hshows := showsSums_of_explore hq hrange hresp
  have hshows' := showsSums_of_explore hq' ((s.amountsFor_congr hfilters hset).symm ▸ hrange) hresp'
  rw [Explorer.sums_congr hfilters hset hreconciling hrows now] at hshows'
  refine ⟨by rw [hshows.total_eq, hshows'.total_eq],
    by rw [hshows.exists_unreported_iff, hshows'.exists_unreported_iff], ?_⟩
  intro u hu u' hu' hnone hnone'
  rw [hshows.amount_of_unreported hu hnone, hshows'.amount_of_unreported hu' hnone']

namespace Sample

/-- The same as `request`, along the agencies of its rows. -/
def byAgencyRequest : Request := { request with category := some "agency" }

def byAgencyInquiry : Inquiry := { inquiry with category := .agency }

def byAgencyResults : List Entry :=
  [⟨some "1", some "012", .agency, "Agriculture", some (amount 8525 2), none⟩,
   ⟨some "2", some "012", .agency, "Agriculture", some (amount (-5) 1), none⟩,
   ⟨none, none, .agency, "Unreported Data", some (amount (-250) 2), none⟩]

def byAgencyResponse : Response := { response with results := some byAgencyResults }

/-- Along agencies, the rows of the sample fall into other groups. -/
theorem check_byAgencyRequest : (explorer.check byAgencyRequest).2 = .ok byAgencyInquiry := by
  rfl

/-- The total and the gap are as before, although the other entries are not. -/
theorem explore_byAgencyRequest :
    (explorer.explore store.source byAgencyRequest today).run.outcome = .ok byAgencyResponse :=
  ok_of_toOption (by decide +kernel)

end Sample

/-- Object classes and agencies of the same rows miss the same amount. -/
theorem totals_agree_sample :
    (∃ u ∈ Sample.response.entries, u.id = none) ∧
    (∃ u ∈ Sample.byAgencyResponse.entries, u.id = none) ∧
    ∀ u ∈ Sample.response.entries, ∀ u' ∈ Sample.byAgencyResponse.entries,
      u.id = none → u'.id = none → u.amount.map Amount.value = u'.amount.map Amount.value := by
  have hmissing : ∃ u ∈ Sample.response.entries, u.id = none := by decide
  have hsame : Sample.byAgencyRequest.filters = Sample.request.filters := rfl
  obtain ⟨-, hboth, hamounts⟩ := totals_agree hsame Sample.check_request
    Sample.check_byAgencyRequest rfl (by decide) (by decide +kernel) (by decide +kernel)
    Sample.explore_request Sample.explore_byAgencyRequest
  exact ⟨hmissing, hboth.mp hmissing, hamounts⟩

end Obligations
