import Obligations.Proofs.Explorer.Gate
import Obligations.Proofs.Explorer.Listing

/-!
# Obligations — what a limit does

A limit is for awards and cuts their results at the end. It is looked at last, when the total is
there and the results are in order. So a request with a limit asks what it asks without one and
ends the same way, the first entries of its results are the largest ones, and its total is that of
all entries. For other categories a limit says nothing; a limit of zero is refused for each.

* `Response.cut` — a response with the results that a limit leaves;
* `Run.map` — what is done with the response of a run;
* `Explorer.check_withLimit`, `Explorer.answer_withLimit`, `Explorer.run_withLimit` — the checks,
  the answer and the run with a limit, from those without;
* `LargestFirst`, `largestFirst_of_explore` — the results that are cut;
* `limit_cuts_awards` — what a limit does.
-/

namespace Obligations

/-! ## Cut responses -/

/-- The response with the first `n` of its results, if they are awards. -/
def Response.cut (category : Option String) (n : Nat) (resp : Response) : Response :=
  if category = some Category.award.name then
    { resp with results := resp.results.map (List.take n) }
  else resp

/-- The run, with its response changed. -/
def Run.map {α β : Type} (f : α → β) (run : Run α) : Run β := ⟨run.queries, run.outcome.map f⟩

namespace Run

variable {α β γ : Type}

/-- To change the response of a computation is to change its value. -/
theorem map_lift (f : α → β) (x : Except Failure α) : (Run.lift x).map f = .lift (x.map f) := rfl

/-- What is done with the response in the end can be done in each branch of the run. -/
theorem map_bind (x : Run α) (g : α → Run β) (f : β → γ) :
    (x >>= g).map f = x >>= fun a => (g a).map f := by
  cases h : x.outcome with
  -- a run that failed before has no response to change
  | error e =>
    rw [bind_of_error h, bind_of_error h]
    rfl
  | ok a =>
    rw [bind_of_ok h, bind_of_ok h]
    rfl

end Run

namespace Response

theorem cut_of_award (n : Nat) (resp : Response) :
    resp.cut (some Category.award.name) n =
      { resp with results := resp.results.map (List.take n) } := if_pos rfl

theorem cut_of_ne {c : Category} (h : c ≠ .award) (n : Nat) (resp : Response) :
    resp.cut (some c.name) n = resp :=
  if_neg fun hname => h (Category.name_injective (Option.some.inj hname))

theorem cut_unrevealed (category : Option String) (n : Nat) :
    unrevealed.cut category n = unrevealed := by
  unfold cut
  split <;> rfl

end Response

/-- A limit leaves other results than those of awards as they are. -/
theorem limitResults_of_ne {c : Category} (h : c ≠ .award) (limit : Option Nat)
    (es : List Entry) : limitResults c limit es = es := by
  unfold limitResults
  split
  · contradiction
  · rfl

/-- Awards are not drawn from the period set. -/
theorem ne_award_of_period {c : Category} (h : c.rowSet = .period) : c ≠ .award := by
  intro haward
  rw [haward] at h
  contradiction

/-- The results that a limit leaves are those of the cut response. -/
theorem assemble_limitResults (w : FiscalWindow) (total : Option Amount) (c : Category) (n : Nat)
    (es : List Entry) :
    Response.assemble w total (limitResults c (some n) es) =
      (Response.assemble w total (limitResults c none es)).cut (some c.name) n := by
  -- the total and the last day are put beside the results either way
  by_cases h : c = .award
  · rw [h, Response.cut_of_award]
    rfl
  · rw [Response.cut_of_ne h, limitResults_of_ne h, limitResults_of_ne h]

/-! ## With a limit -/

def Inquiry.withLimit (q : Inquiry) (n : Nat) : Inquiry := { q with limit := some n }

namespace Explorer

variable {e : Explorer} {s : Source} {r : Request} {q : Inquiry} {now : Instant}

/-- A limit that is not zero passes the checks, and is all that it adds to what is inquired
about. -/
theorem check_withLimit {n : Nat} (hr : r.limit = none) (hn : 1 ≤ n) :
    (e.check (r.withLimit n)).2 = (e.check r).2.map (·.withLimit n) := by
  have hlimit : checkLimit (some n) = .ok () :=
    checkLimit_eq_ok.mpr fun h => absurd (Option.some.inj h) (Nat.ne_of_gt hn)
  unfold check
  rw [Request.withLimit, hr]
  -- the limit is looked at last, so what fails before fails as it did
  cases e.config.category r.category with
  | error fault => rfl
  | ok c =>
    cases hread : (Filters.read r.filters).2 with
    | error fault =>
      simp only [hread]
      rfl
    | ok f =>
      simp only [hread, hlimit]
      rfl

/-- The answer about awards is the one without a limit, cut. -/
theorem answerCumulative_withLimit (hq : q.limit = none) (n : Nat) (w : FiscalWindow)
    (results : List Entry) :
    answerCumulative (q.withLimit n) w results =
      (answerCumulative q w results).map (Response.cut (some q.category.name) n) := by
  unfold answerCumulative
  -- all entries are added up, whatever is left of them
  cases sumEntries results with
  | error f => rfl
  | ok total =>
    have hcut := assemble_limitResults w (some (total.getD .zero)) q.category n results
    rw [← hq] at hcut
    exact congrArg Except.ok hcut

/-- A response about a period is never cut, since its category is not that of awards. -/
theorem map_cut_of_period (h : q.category.rowSet = .period) (n : Nat) (run : Run Response) :
    run.map (Response.cut (some q.category.name) n) = run := by
  have hid : Response.cut (some q.category.name) n = id :=
    funext (Response.cut_of_ne (ne_award_of_period h) n)
  obtain ⟨queries, outcome⟩ := run
  rw [Run.map, hid]
  cases outcome <;> rfl

/-- **Whatever set is answered from, a limit only cuts the response.** -/
theorem answer_withLimit (hq : q.limit = none) (n : Nat) (w : FiscalWindow) :
    e.answer s (q.withLimit n) w =
      (e.answer s q w).map (Response.cut (some q.category.name) n) := by
  unfold answer
  rw [Run.map_bind]
  -- what is fetched and grouped are the same sets, and of them the same one is selected
  refine congrArg (_ >>= ·) (funext fun sets => ?_)
  have hset' : (q.withLimit n).category.rowSet = q.category.rowSet := rfl
  rw [hset']
  cases hset : q.category.rowSet with
  | cumulative =>
    have hselect : sets.select (q.withLimit n).category = sets.select q.category := rfl
    simp only
    rw [hselect, answerCumulative_withLimit hq, Run.map_lift]
  | period =>
    -- the comparison with the control total does not know of the limit
    exact (map_cut_of_period hset n _).symm

/-- So the run asks the same queries and ends with the cut response, or as it did. -/
theorem run_withLimit (hq : q.limit = none) (n : Nat) :
    e.run s (q.withLimit n) now =
      (e.run s q now).map (Response.cut (some q.category.name) n) := by
  have hsame : (q.withLimit n).filters = q.filters := rfl
  unfold run
  rw [hsame]
  cases e.config.schedule.resolve? q.filters.year q.filters.quarter now with
  -- a hidden window has the response that shows nothing, cut or not
  | none =>
    show _ = Run.pure (Response.unrevealed.cut _ n)
    rw [Response.cut_unrevealed]
  | some w => exact answer_withLimit hq n w

/-- From the request on, with its checks. -/
theorem explore_withLimit {n : Nat} (hr : r.limit = none) (hn : 1 ≤ n) :
    (e.explore s (r.withLimit n) now).run =
      (e.explore s r now).run.map (Response.cut r.category n) := by
  have hcheck := check_withLimit (e := e) hr hn
  cases h : (e.check r).2 with
  | error f =>
    rw [h] at hcheck
    rw [explore_of_refused hcheck, explore_of_refused h]
    rfl
  | ok q =>
    rw [h] at hcheck
    obtain ⟨hcategory, -, -, hlimit⟩ := check_eq_ok.mp h
    rw [explore_of_checked hcheck, explore_of_checked h, (Config.category_eq_ok.mp hcategory).1]
    exact run_withLimit (hlimit.trans hr) n

end Explorer

/-! ## What is cut off -/

/-- Wherever the results are cut, no entry that is kept is smaller than one that is dropped, and
the total is that of all of them. -/
structure LargestFirst (total : Option Amount) (results : List Entry) : Prop where
  kept_ge : ∀ n, ∀ kept ∈ results.take n, ∀ dropped ∈ results.drop n,
    ∃ x y, kept.amount = some x ∧ dropped.amount = some y ∧ y.value ≤ x.value
  total_eq : ∃ sum, sumEntries results = .ok sum ∧ total = some (sum.getD .zero)

/-- In an ordered listing no entry in front of a cut is smaller than one behind it. -/
theorem Listing.kept_ge {c : Category} {results : List Entry} (h : Listing c results) {n : Nat}
    {kept dropped : Entry} (hkept : kept ∈ results.take n) (hdropped : dropped ∈ results.drop n) :
    ∃ x y, kept.amount = some x ∧ dropped.amount = some y ∧ y.value ≤ x.value := by
  -- whatever is in front of the cut stands before whatever is behind it
  have hordered := h.ordered
  rw [← List.take_append_drop n results, List.pairwise_append] at hordered
  obtain ⟨x, y, hx, hy, hlt | ⟨heq, -⟩⟩ := hordered.2.2 kept hkept dropped hdropped
  · exact ⟨x, y, hx, hy, Int.le_of_lt hlt⟩
  · exact ⟨x, y, hx, hy, Int.le_of_eq heq.symm⟩

/-- **Without a limit the results of awards are in order, and their total is the sum of all of
them.** So a limit keeps the largest. -/
theorem largestFirst_of_explore {e : Explorer} {s : Source} {r : Request} {now : Instant}
    {resp : Response} {results : List Entry} (hr : r.limit = none)
    (haward : r.category = some Category.award.name)
    (hresp : (e.explore s r now).run.outcome = .ok resp) (hresults : resp.results = some results) :
    LargestFirst resp.total results := by
  obtain ⟨q, hq, hanswer⟩ := Explorer.answers_of_explore hresp
  obtain ⟨hname, -, -, hlimit⟩ := Explorer.check_eq_ok.mp hq
  have hcategory : q.category = .award := by
    have hsame := (Config.category_eq_ok.mp hname).1
    rw [haward] at hsame
    exact (Category.name_injective (Option.some.inj hsame)).symm
  have hset : q.category.rowSet = .cumulative := by
    rw [hcategory]
    rfl
  -- awards are not drawn from the period set, so the answer is of the second kind or the first
  cases hanswer with
  | hidden _ => exact nomatch hresults
  | @cumulative _ _ sets total _ hfetched _ htotal =>
    -- without a limit the results are the whole grouping, which is what is added up
    rw [hlimit, hr] at hresults
    have hall : limitResults q.category none sets.cumulative = sets.cumulative := by
      rw [hcategory]
      rfl
    rw [hall] at hresults
    injection hresults with hresults
    subst hresults
    have hlisting := listing_groupEntries hfetched.cumulative_eq
    exact ⟨fun _ _ hkept _ hdropped => hlisting.kept_ge hkept hdropped, total, htotal, rfl⟩
  | uncompared _ _ hperiod _ _ => exact nomatch hset.symm.trans hperiod
  | incomparable _ _ hperiod _ _ _ _ => exact nomatch hset.symm.trans hperiod
  | reconciled _ _ hperiod _ _ _ _ => exact nomatch hset.symm.trans hperiod

/-! ## What a limit does -/

/-- **A limit only cuts the end off awards.** With a limit a request goes as without one, but for
the results of awards that are left out at the end. A limit of zero is refused. -/
theorem limit_cuts_awards {e : Explorer} {s : Source} {r : Request} {now : Instant}
    (hr : r.limit = none) :
    (∀ n, 1 ≤ n → (e.explore s (r.withLimit n) now).run =
      (e.explore s r now).run.map (Response.cut r.category n)) ∧
    (∀ resp results, r.category = some Category.award.name →
      (e.explore s r now).run.outcome = .ok resp → resp.results = some results →
      LargestFirst resp.total results) ∧
    ((∃ q, (e.check r).2 = .ok q) → ∃ fault : ParameterFault, fault.field = "limit" ∧
      (e.explore s (r.withLimit 0) now).run = .fail (.parameter fault)) := by
  refine ⟨fun _ hn => Explorer.explore_withLimit hr hn, ?_, ?_⟩
  · intro resp results haward hresp hresults
    exact largestFirst_of_explore hr haward hresp hresults
  · rintro ⟨q, hq⟩
    -- nothing else is wrong, so the limit is what the request is refused for
    obtain ⟨hcategory, hread, -, -⟩ := Explorer.check_eq_ok.mp hq
    have hrefuses : Refuses e.config (r.withLimit 0) (.parameter .zeroLimit) :=
      .limit hcategory hread rfl
    exact ⟨.zeroLimit, rfl, Explorer.explore_of_refused (Explorer.check_eq_error.mpr hrefuses)⟩

namespace Sample

def grant (id : Nat) (a : Amount) : Row where
  submission     := .ofPeriod 2020 6
  classification := .none
  award          := some ⟨id, none, none, none, none, none, none⟩
  amount         := a

/-- Two grants, the smaller one in two rows. -/
def grantStore : Store :=
  { store with awardRows := [grant 1 (amount 30 0), grant 2 (amount 50 0), grant 1 (amount 5 0)] }

def grantRequest : Request := { request with category := some "award" }

def grantResults : List Entry :=
  [⟨some "2", none, .award, "2", some (amount 50 0), none⟩,
   ⟨some "1", none, .award, "1", some (amount 35 0), none⟩]

def grantResponse : Response := ⟨some (amount 85 0), some lastDay, some grantResults⟩

/-- The smaller grant is listed with the sum of its two rows. -/
theorem explore_grantRequest : (explorer.explore grantStore.source grantRequest today).run.outcome =
    .ok grantResponse :=
  ok_of_toOption (by decide +kernel)

end Sample

/-- With a limit of one the larger grant is left, and the total is that of both. -/
theorem limit_cuts_awards_sample :
    (Sample.explorer.explore Sample.grantStore.source (Sample.grantRequest.withLimit 1)
      Sample.today).run.outcome =
        .ok { Sample.grantResponse with results := some (Sample.grantResults.take 1) } ∧
    LargestFirst Sample.grantResponse.total Sample.grantResults ∧
    ∃ fault : ParameterFault, fault.field = "limit" ∧
      (Sample.explorer.explore Sample.grantStore.source (Sample.grantRequest.withLimit 0)
        Sample.today).run = .fail (.parameter fault) := by
  obtain ⟨hcut, hlargest, hzero⟩ := limit_cuts_awards (e := Sample.explorer)
    (s := Sample.grantStore.source) (r := Sample.grantRequest) rfl
  refine ⟨?_, hlargest _ _ rfl Sample.explore_grantRequest rfl, hzero ⟨_, rfl⟩⟩
  rw [hcut 1 (Nat.le_refl 1), Run.map, Sample.explore_grantRequest]
  rfl

end Obligations
