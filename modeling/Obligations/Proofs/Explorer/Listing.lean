import Obligations.Proofs.Explorer.Answers
import Obligations.Proofs.Grouping.Groups
import Obligations.Proofs.Grouping.Labels
import Obligations.Proofs.Ranking.Figures
import Obligations.Proofs.Reconciliation

/-!
# Obligations — what can be relied on of the results

Whatever a response shows, its entries are about the requested category and have an amount, no
two of them have one id, and they are in strict order. Each step on the way keeps that: a
grouping has it, the entry of what was not reported is ranked in under no id, and a limit only
cuts the end off.

* `Entry.IsShownFor` — what every single entry has;
* `Listing` — what the list has;
* `listing_groupEntries`, `Listing.withUnreported`, `Listing.sublist` — the three steps;
* `listing_of_response` — every response with results has it.
-/

namespace Obligations

/-- The entry has the category, an amount, and an account number just in case it is that of an
account. -/
structure Entry.IsShownFor (c : Category) (x : Entry) : Prop where
  category      : x.category = c
  amount        : x.amount.isSome = true
  accountNumber : x.accountNumber.isSome = true ↔ c = .federalAccount ∧ x.id.isSome = true

/-- The results are well-formed. Distinct ids leave room for one entry without an id. -/
structure Listing (c : Category) (results : List Entry) : Prop where
  shown     : ∀ x ∈ results, x.IsShownFor c
  ids_nodup : (results.map Entry.id).Nodup
  ordered   : results.Pairwise Entry.StandsBefore

/-- Ranked entries with distinct ids and amounts are in strict order, since no two of them tie. -/
theorem Listing.of_ranked {c : Category} {results : List Entry} (hranked : Ranked results)
    (hids : (results.map Entry.id).Nodup) (hshown : ∀ x ∈ results, x.IsShownFor c) :
    Listing c results :=
  ⟨hshown, hids, standsBefore_of_ranked hranked hids fun x hx => (hshown x hx).amount⟩

/-- What a limit leaves of a listing is one again. -/
theorem Listing.sublist {c : Category} {results shorter : List Entry} (h : Listing c results)
    (hsub : shorter.Sublist results) : Listing c shorter where
  shown x hx := h.shown x (hsub.subset hx)
  ids_nodup := h.ids_nodup.sublist (hsub.map Entry.id)
  ordered := h.ordered.sublist hsub

/-! ## Groupings -/

/-- Accounts have a number, and no other entity has. -/
theorem accountNumber_of_label? {r : Row} {c : Category} {label : Label}
    (h : r.label? c = some label) :
    label.accountNumber.isSome = true ↔ c = .federalAccount := by
  -- in the table of labels only the line of federal accounts has a number
  cases Row.isLabelled_of_label? h with
  | federalAccount _ => simp
  | _ => simp

section

variable {rows : List Row} {f : Filters} {c : Category} {grouped : List Entry}

/-- Every entry of a grouping is shown as it has to be, as it has the label of a row. -/
theorem isShownFor_of_mem_groupEntries (h : groupEntries rows f c = .ok grouped) {x : Entry}
    (hx : x ∈ grouped) : x.IsShownFor c := by
  obtain ⟨hid, hamount, hcategory⟩ := mem_groupEntries h hx
  -- its number is that of the label of some row
  obtain ⟨r, -, label, hlabel, -, -, -, hnumber⟩ := exists_row_of_mem_groupEntries h hx
  refine ⟨hcategory, hamount, ?_⟩
  rw [hnumber, accountNumber_of_label? hlabel]
  simp [hid]

/-- **A grouping is a listing.** -/
theorem listing_groupEntries (h : groupEntries rows f c = .ok grouped) : Listing c grouped :=
  .of_ranked (ranked_groupEntries h) (ids_nodup_groupEntries h) fun _ hx =>
    isShownFor_of_mem_groupEntries h hx

end

/-! ## The entry of what was not reported -/

/-- The entry of what was not reported has an amount, but neither an id nor a number. -/
theorem isShownFor_unreported (c : Category) (name : String) (amount : Amount) :
    (Entry.unreported c name amount).IsShownFor c :=
  ⟨rfl, rfl, by simp [Entry.unreported]⟩

/-- **Ranking that entry in keeps a listing one.** No other entry lacks an id, so ids stay
distinct. -/
theorem Listing.withUnreported {c : Category} {results : List Entry} (h : Listing c results)
    (hids : ∀ x ∈ results, x.id.isSome = true) (name : String) (amount : Amount) :
    Listing c (rank (results ++ [.unreported c name amount])) := by
  refine .of_ranked (ranked_rank _) ?_ fun x hx => ?_
  · -- the entry is the only one without an id
    rw [((rank_perm _).map Entry.id).nodup_iff, List.map_append, List.nodup_append]
    refine ⟨h.ids_nodup, List.nodup_singleton _, ?_⟩
    intro id hid id' hid'
    obtain ⟨x, hx, rfl⟩ := List.mem_map.mp hid
    have hnone : id' = none := List.mem_singleton.mp hid'
    rw [hnone]
    exact Option.isSome_iff_ne_none.mp (hids x hx)
  · -- what was there is shown as before
    rcases mem_rank_append.mp hx with hx | rfl
    · exact h.shown x hx
    · exact isShownFor_unreported c name amount

/-! ## Responses -/

/-- **The results of a response are well-formed**, for the category that was asked for. -/
theorem listing_of_response {e : Explorer} {s : Store} {r : Request} {now : Instant}
    {resp : Response} {results : List Entry}
    (hresp : (e.explore s.source r now).run.outcome = .ok resp)
    (hresults : resp.results = some results) :
    ∃ c : Category, r.category = some c.name ∧ Listing c results := by
  obtain ⟨q, hq, hanswer⟩ := Explorer.answers_of_explore hresp
  obtain ⟨hname, -, -, -⟩ := Explorer.check_eq_ok.mp hq
  refine ⟨q.category, (Config.category_eq_ok.mp hname).1, ?_⟩
  -- a listing by grouping, cut by a limit or with one more entry
  cases hanswer with
  | hidden _ => exact nomatch hresults
  | cumulative _ hfetched _ _ =>
    -- a limit only cuts the end off
    obtain rfl := Option.some.inj hresults
    exact (listing_groupEntries hfetched.cumulative_eq).sublist (limitResults_sublist _ _ _)
  | uncompared _ hfetched _ _ _ =>
    obtain rfl := Option.some.inj hresults
    exact listing_groupEntries hfetched.period_eq
  | incomparable _ hfetched _ _ _ _ _ =>
    obtain rfl := Option.some.inj hresults
    exact listing_groupEntries hfetched.period_eq
  | reconciled _ hfetched _ _ _ _ _ =>
    obtain rfl := Option.some.inj hresults
    exact (listing_groupEntries hfetched.period_eq).withUnreported
      (ids_groupEntries hfetched.period_eq) _ _

namespace Sample

/-- Rows of two object classes with the same amount, and a control row leaving a gap of as much. -/
def tiedStore : Store where
  awardRows   := []
  programRows := [row 1 10 (amount 500 2), row 2 9 (amount 50 1)]
  controlRows := [⟨2020, 6, amount 15 0⟩]
  failure     := none
  served      := 0

def tiedResults : List Entry :=
  [⟨none, none, .objectClass, "Unreported Data", some (amount 500 2), none⟩,
   ⟨some "9", some "110", .objectClass, "Personnel", some (amount 50 1), none⟩,
   ⟨some "10", some "110", .objectClass, "Personnel", some (amount 500 2), none⟩]

/-- The gap has the same amount as each of the object classes. -/
theorem explore_tied : (explorer.explore tiedStore.source request today).run.outcome =
    .ok ⟨some (amount 15 0), some lastDay, some tiedResults⟩ :=
  ok_of_toOption (by decide +kernel)

end Sample

/-- All three amounts are five, so the ids alone put the results in order: what has none is first,
and nine is listed before ten. -/
theorem listing_of_response_sample :
    (∀ x ∈ Sample.tiedResults, x.amount.map Amount.value = some (Sample.amount 5 0).value) ∧
    ∃ c : Category, Sample.request.category = some c.name ∧ Listing c Sample.tiedResults :=
  ⟨by decide, listing_of_response Sample.explore_tied rfl⟩

end Obligations
