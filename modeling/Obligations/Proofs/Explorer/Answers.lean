import Obligations.Explorer
import Obligations.Proofs.Fiscal.Window
import Obligations.Proofs.Grouping.Totals
import Obligations.Proofs.Outcome
import Obligations.Proofs.Store

/-!
# Obligations — how a response comes about

Every response is of one of five kinds: the quarter is not revealed; the category is drawn
from the cumulative set; the period set is not compared with a control total; it could be
compared but one of the totals is absent; or both are there and the gap is filled.
`Answers` lists them, each with all that has to hold for it, and `answers_of_explore` says
that there are no others. What a response looks like is read off the list.

* `Config.category_eq_ok`, `Explorer.check_eq_ok` — what passes the checks;
* `Fetched` — what the source gave for the quarter, and the two sets grouped from it;
* `Answers` — the five kinds;
* `answers_of_run`, `answers_of_explore`, `answers_of_checked` — every response is of one of
  them;
* `Compared`, `Answers.compared_of_unreported` — a response with an entry without an id is of
  the last kind;
* `Sample` — a small store and a request about it, with its response.
-/

namespace Obligations

/-! ## What passes the checks -/

theorem Config.category_eq_ok {c : Config} {name : Option String} {category : Category} :
    c.category name = .ok category ↔ name = some category.name ∧ category ∈ c.categories := by
  cases name with
  | none => simp [Config.category]
  | some text =>
    rw [Config.category, bind_eq_ok]
    constructor
    · -- the name was that of a category, and this one is enabled
      rintro ⟨x, hread, h⟩
      unfold Category.read at hread
      split at hread
      · next c' hname =>
        injection hread with hread
        subst hread
        split at h
        · next henabled =>
          injection h with h
          subst h
          exact ⟨congrArg some (Category.name_of_ofName? hname).symm, henabled⟩
        · exact nomatch h
      · exact nomatch hread
    · rintro ⟨hname, henabled⟩
      injection hname with hname
      subst hname
      refine ⟨category, ?_, if_pos henabled⟩
      rw [Category.read, Category.ofName?_name]

/-- The one limit that is refused is zero, even if it would not be applied. -/
theorem Explorer.checkLimit_eq_ok {limit : Option Nat} :
    checkLimit limit = .ok () ↔ limit ≠ some 0 := by
  cases limit with
  | none => simp [checkLimit]
  | some n => cases n <;> simp [checkLimit]

/-- **What passes the checks is a request with a category that is enabled, filters that can be read
and a limit that is not zero.** What is inquired about is what was read. -/
theorem Explorer.check_eq_ok {e : Explorer} {r : Request} {q : Inquiry} :
    (e.check r).2 = .ok q ↔
      e.config.category r.category = .ok q.category ∧ (Filters.read r.filters).2 = .ok q.filters ∧
        r.limit ≠ some 0 ∧ q.limit = r.limit := by
  unfold Explorer.check
  -- the checks come one after the other: the category, the filters, the limit
  cases hcategory : e.config.category r.category with
  | error fault => simp
  | ok category =>
    show (_ >>= _) = _ ↔ _
    rw [bind_eq_ok]
    constructor
    · rintro ⟨f, hread, h⟩
      obtain ⟨⟨⟩, hlimit, h⟩ := bind_eq_ok.mp h
      injection h with h
      subst h
      exact ⟨rfl, mapError_eq_ok.mp hread, checkLimit_eq_ok.mp hlimit, rfl⟩
    · rintro ⟨hname, hread, hlimit, hsame⟩
      obtain ⟨name, f, limit⟩ := q
      injection hname with hname
      subst hname hsame
      exact ⟨f, mapError_eq_ok.mpr hread, bind_eq_ok.mpr ⟨(), checkLimit_eq_ok.mpr hlimit, rfl⟩⟩

/-! ## What is answered -/

theorem limitResults_sublist (c : Category) (limit : Option Nat) (es : List Entry) :
    (limitResults c limit es).Sublist es := by
  unfold limitResults
  -- a limit is looked at only where it applies
  split
  · exact List.take_sublist _ es
  · exact List.Sublist.refl es

/-- Of the two sets, the category says which one is answered from. -/
theorem GroupedSets.select_of_cumulative {c : Category} (h : c.rowSet = .cumulative)
    (sets : GroupedSets) : sets.select c = sets.cumulative := by
  rw [select, h]

theorem GroupedSets.select_of_period {c : Category} (h : c.rowSet = .period)
    (sets : GroupedSets) : sets.select c = sets.period := by
  rw [select, h]

/-- The source gave these rows for the quarter, and they group into these sets. -/
structure Fetched (s : Source) (q : Inquiry) (awards : List Row) (programs : List ProgramRow)
    (sets : GroupedSets) : Prop where
  awards_eq     : s.awardRows q.filters.year (.throughQuarter q.filters.quarter) = .ok awards
  programs_eq   : s.programRows q.filters.year (.inPeriod q.finalPeriod) = .ok programs
  cumulative_eq : groupEntries awards q.filters q.category = .ok sets.cumulative
  period_eq     : groupEntries (programs.map ProgramRow.toRow) q.filters q.category =
                    .ok sets.period

/-- What a store gives for the period is grouped from its own rows. -/
theorem Store.grouped_of_fetched (s : Store) {q : Inquiry} {awards : List Row}
    {programs : List ProgramRow} {sets : GroupedSets}
    (h : Fetched s.source q awards programs sets) :
    groupEntries (s.programRowsFor q) q.filters q.category = .ok sets.period := by
  have hgrouped := h.period_eq
  -- the rows that were given are those that the store selects
  rw [programRows_of_ok h.programs_eq] at hgrouped
  exact hgrouped

namespace Explorer

/-- The window of the request is revealed at `now`. -/
def isRevealed (e : Explorer) (q : Inquiry) (now : Instant) : Bool :=
  e.config.schedule.isRevealed q.filters.year q.filters.quarter now

/-- The last day of the quarter of a request, as the schedule has it. -/
def periodEnd? (e : Explorer) (q : Inquiry) : Option Date :=
  e.config.schedule.periodEnd? q.filters.year q.filters.quarter

/-- The kinds of responses to a checked request. -/
inductive Answers (e : Explorer) (s : Source) (q : Inquiry) (now : Instant) : Response → Prop
  /-- The window is not revealed. -/
  | hidden :
      e.isRevealed q now = false →
      Answers e s q now .unrevealed
  /-- The cumulative set, with its own sum as the total. -/
  | cumulative {awards : List Row} {programs : List ProgramRow} {sets : GroupedSets}
      {total : Option Amount} :
      e.isRevealed q now = true → Fetched s q awards programs sets →
      q.category.rowSet = .cumulative → sumEntries sets.cumulative = .ok total →
      Answers e s q now ⟨some (total.getD .zero), e.periodEnd? q,
        some (limitResults q.category q.limit sets.cumulative)⟩
  /-- The period set of a request that is not compared with a control total. -/
  | uncompared {awards : List Row} {programs : List ProgramRow} {sets : GroupedSets}
      {actual : Option Amount} :
      e.isRevealed q now = true → Fetched s q awards programs sets →
      q.category.rowSet = .period → sumEntries sets.period = .ok actual →
      e.config.isEligible q.category q.filters = false →
      Answers e s q now ⟨actual, e.periodEnd? q, some sets.period⟩
  /-- The period set where there is nothing to compare, on one side or both. -/
  | incomparable {awards : List Row} {programs : List ProgramRow} {sets : GroupedSets}
      {actual expected : Option Amount} :
      e.isRevealed q now = true → Fetched s q awards programs sets →
      q.category.rowSet = .period → sumEntries sets.period = .ok actual →
      e.config.isEligible q.category q.filters = true →
      s.controlTotal q.filters.year q.finalPeriod = .ok expected →
      (expected = none ∨ actual = none) →
      Answers e s q now ⟨actual, e.periodEnd? q, some sets.period⟩
  /-- The period set with the gap to the control total. -/
  | reconciled {awards : List Row} {programs : List ProgramRow} {sets : GroupedSets}
      {actual expected missing : Amount} :
      e.isRevealed q now = true → Fetched s q awards programs sets →
      q.category.rowSet = .period → sumEntries sets.period = .ok (some actual) →
      e.config.isEligible q.category q.filters = true →
      s.controlTotal q.filters.year q.finalPeriod = .ok (some expected) →
      expected.sub actual = .ok missing →
      Answers e s q now ⟨some expected, e.periodEnd? q,
        some (rank (sets.period ++ [.unreported q.category e.config.unreportedName missing]))⟩

/-! ## Every response is of one of these kinds -/

section

variable {e : Explorer} {s : Source} {q : Inquiry} {now : Instant} {resp : Response}

/-- A successful fetch went through all four steps: two queries and two groupings. -/
theorem fetched_of_fetch {period : Nat} (hperiod : finalPeriod? q.filters.quarter = some period)
    {sets : GroupedSets}
    (h : (GroupedSets.fetch s q.category q.filters q.filters.year q.filters.quarter).outcome =
      .ok sets) :
    ∃ awards programs, Fetched s q awards programs sets := by
  -- the final period is the one of the quarter, as in the relation
  obtain ⟨-, -, rfl⟩ := finalPeriod?_eq_some.mp hperiod
  unfold GroupedSets.fetch at h
  rw [hperiod] at h
  simp only [Run.outcome_bind] at h
  -- each step gave a value, or the fetch would have failed there
  obtain ⟨awards, hawards, h⟩ := bind_eq_ok.mp h
  obtain ⟨programs, hprograms, h⟩ := bind_eq_ok.mp h
  obtain ⟨cumulative, hcumulative, h⟩ := bind_eq_ok.mp h
  obtain ⟨period, hgrouped, h⟩ := bind_eq_ok.mp h
  injection h with h
  subst h
  exact ⟨awards, programs, hawards, hprograms, hcumulative, hgrouped⟩

/-- To reconcile is to pass the results on as they are, or to add what was not reported up to the
control total. -/
theorem reconcile_cases {results : List Entry} {actual : Option Amount} {year : Int}
    {period : Nat} {reconciled : Reconciled}
    (h : (reconcile e.config s q.category q.filters results actual year period).outcome =
      .ok reconciled) :
    (e.config.isEligible q.category q.filters = false ∧ reconciled = ⟨results, actual⟩) ∨
    (e.config.isEligible q.category q.filters = true ∧
      ∃ expected, s.controlTotal year period = .ok expected ∧
        addUnreported e.config.unreportedName q.category results expected actual =
          .ok reconciled) := by
  unfold reconcile at h
  -- the settings and the keys decide whether there is anything to compare
  cases heligible : e.config.isEligible q.category q.filters with
  | false =>
    rw [heligible] at h
    injection h with h
    exact Or.inl ⟨rfl, h.symm⟩
  -- only here the source is asked for the control total
  | true =>
    rw [heligible, if_pos rfl, Run.outcome_bind] at h
    obtain ⟨expected, hexpected, h⟩ := bind_eq_ok.mp h
    exact Or.inr ⟨rfl, expected, hexpected, h⟩

/-- Without both totals there is no gap. With both of them their difference becomes an entry, even
if it is zero. -/
theorem addUnreported_cases {name : String} {category : Category} {results : List Entry}
    {expected actual : Option Amount} {reconciled : Reconciled}
    (h : addUnreported name category results expected actual = .ok reconciled) :
    ((expected = none ∨ actual = none) ∧ reconciled = ⟨results, actual⟩) ∨
    (∃ x y missing, expected = some x ∧ actual = some y ∧ x.sub y = .ok missing ∧
      reconciled = ⟨rank (results ++ [.unreported category name missing]), some x⟩) := by
  -- both totals have to be there
  cases expected with
  | none =>
    injection h with h
    exact Or.inl ⟨Or.inl rfl, h.symm⟩
  | some x =>
    cases actual with
    | none =>
      injection h with h
      exact Or.inl ⟨Or.inr rfl, h.symm⟩
    -- the difference may be too large to be an amount, in which case there is no result
    | some y =>
      obtain ⟨missing, hmissing, h⟩ := bind_eq_ok.mp h
      injection h with h
      exact Or.inr ⟨x, y, missing, rfl, rfl, hmissing, h.symm⟩

/-- **Every response to a checked request is of one of the five kinds.** -/
theorem answers_of_run (h : (e.run s q now).outcome = .ok resp) : Answers e s q now resp := by
  unfold run at h
  cases hrevealed : e.config.schedule.isRevealed q.filters.year q.filters.quarter now with
  -- a hidden window is not answered from the source at all
  | false =>
    rw [RevealSchedule.resolve?_of_hidden hrevealed] at h
    injection h with h
    subst h
    exact .hidden hrevealed
  | true =>
    -- the window that is resolved has the year, quarter and final period of the request
    obtain ⟨last, hlast, hwindow⟩ := RevealSchedule.resolve?_of_revealed hrevealed
    rw [hwindow] at h
    simp only [answer, Run.outcome_bind] at h
    obtain ⟨sets, hsets, h⟩ := bind_eq_ok.mp h
    obtain ⟨awards, programs, hfetched⟩ :=
      fetched_of_fetch (RevealSchedule.finalPeriod?_of_revealed hrevealed) hsets
    have hend : e.periodEnd? q = some last := hlast
    -- both sets are there; the category says which of them is answered from
    cases hset : q.category.rowSet with
    | cumulative =>
      rw [hset] at h
      obtain ⟨total, htotal, h⟩ := bind_eq_ok.mp h
      rw [GroupedSets.select, hset] at htotal h
      injection h with h
      rw [← h, Response.assemble, ← hend]
      exact .cumulative hrevealed hfetched hset htotal
    | period =>
      rw [hset] at h
      simp only [answerPeriod, Run.outcome_bind, GroupedSets.select, hset] at h
      obtain ⟨actual, hactual, h⟩ := bind_eq_ok.mp h
      obtain ⟨reconciled, hreconciled, h⟩ := bind_eq_ok.mp h
      injection h with h
      rw [← h, Response.assemble, ← hend]
      -- what was not compared, or not comparable, is passed on as it was grouped
      rcases reconcile_cases hreconciled with ⟨helig, rfl⟩ | ⟨helig, expected, hexpected, hadd⟩
      · exact .uncompared hrevealed hfetched hset hactual helig
      · rcases addUnreported_cases hadd with ⟨habsent, rfl⟩ | ⟨x, y, missing, rfl, rfl, hsub, rfl⟩
        · exact .incomparable hrevealed hfetched hset hactual helig hexpected habsent
        · exact .reconciled hrevealed hfetched hset hactual helig hexpected hsub

/-- A response of an explorer answers a request that passed every check. -/
theorem answers_of_explore {r : Request} (h : (e.explore s r now).run.outcome = .ok resp) :
    ∃ q, (e.check r).2 = .ok q ∧ Answers e s q now resp := by
  unfold explore at h
  -- a refused request has no response
  cases hcheck : (e.check r).2 with
  | error failure =>
    simp only [hcheck] at h
    exact nomatch h
  | ok q =>
    simp only [hcheck] at h
    exact ⟨q, rfl, answers_of_run h⟩

/-- The same for a request of which it is known what the checks make of it. -/
theorem answers_of_checked {r : Request} (hq : (e.check r).2 = .ok q)
    (h : (e.explore s r now).run.outcome = .ok resp) : Answers e s q now resp := by
  obtain ⟨q', hq', hanswer⟩ := answers_of_explore h
  rw [hq] at hq'
  injection hq' with hsame
  exact hsame ▸ hanswer

/-- The period set was compared with a control total, and the gap was filled. -/
structure Compared (e : Explorer) (s : Source) (q : Inquiry) (now : Instant)
    (sets : GroupedSets) (missing : Amount) (entries : List Entry) : Prop where
  revealed    : e.isRevealed q now = true
  fetched     : ∃ awards programs, Fetched s q awards programs sets
  period      : q.category.rowSet = .period
  eligible    : e.config.isEligible q.category q.filters = true
  reported    : ∃ actual, sumEntries sets.period = .ok (some actual)
  control     : ∃ expected, s.controlTotal q.filters.year q.finalPeriod = .ok (some expected)
  entries_eq  : entries =
                  rank (sets.period ++ [.unreported q.category e.config.unreportedName missing])

/-- A grouping has no entry without an id, so an answer with one filled a gap. -/
theorem Answers.compared_of_unreported (h : e.Answers s q now resp)
    (hu : ∃ u ∈ resp.entries, u.id = none) :
    ∃ sets missing, e.Compared s q now sets missing resp.entries := by
  obtain ⟨u, hmem, hnone⟩ := hu
  -- so the results of the other kinds, which are groupings or cut from one, do not have `u`
  have hgrouped : ∀ {rows : List Row} {es : List Entry},
      groupEntries rows q.filters q.category = .ok es → u ∉ es := by
    intro rows es hes hin
    have hsome := ids_groupEntries hes u hin
    rw [hnone] at hsome
    contradiction
  cases h with
  | hidden _ => exact absurd hmem List.not_mem_nil
  | cumulative _ hfetched _ _ =>
    exact absurd ((limitResults_sublist _ _ _).subset hmem) (hgrouped hfetched.cumulative_eq)
  | uncompared _ hfetched _ _ _ => exact absurd hmem (hgrouped hfetched.period_eq)
  | incomparable _ hfetched _ _ _ _ _ => exact absurd hmem (hgrouped hfetched.period_eq)
  | reconciled hrevealed hfetched hset hactual heligible hexpected _ =>
    exact ⟨_, _, hrevealed, ⟨_, _, hfetched⟩, hset, heligible, ⟨_, hactual⟩, ⟨_, hexpected⟩, rfl⟩

end

end Explorer

/-! ## A sample of the last kind

Two object classes and a control total in two parts, in different scales and of both signs:
the rows add up to 84.75 and the control rows to 82.25.
-/

namespace Sample

def lastDay : Date := ⟨2020, 3, 31, by decide, by decide, by decide, by decide⟩

def revealDay : Date := ⟨2020, 5, 16, by decide, by decide, by decide, by decide⟩

def today : Instant := .midnight ⟨2021, 1, 1, by decide, by decide, by decide, by decide⟩

def schedule : RevealSchedule where
  windows   := [⟨2020, 2, lastDay, .midnight revealDay⟩]
  ascending := List.pairwise_singleton _ _
  quarters  := by simp

def explorer : Explorer :=
  ⟨.withSchedule schedule, (Config.fault?_eq_none_iff _).mp (by decide)⟩

def amount (coefficient : Int) (scale : Nat) : Amount :=
  (Amount.ofParts? coefficient scale).getD .zero

def row (agency objectClass : Nat) (a : Amount) : ProgramRow where
  submission     := .ofPeriod 2020 6
  classification := { Classification.none with
    agency      := some ⟨agency, "012", "Agriculture"⟩
    objectClass := some ⟨objectClass, "110", "Personnel"⟩ }
  amount         := a

def store : Store where
  awardRows   := []
  programRows := [row 1 10 (amount 3025 2), row 1 11 (amount 55 0), row 2 10 (amount (-5) 1)]
  controlRows := [⟨2020, 6, amount 70 0⟩, ⟨2020, 6, amount 1225 2⟩]
  failure     := none
  served      := 0

def mapping : KeyMap Json :=
  ⟨[(yearKey, .number (.integer 2020)), (quarterKey, .string "2")], by decide⟩

def request : Request := ⟨some "object_class", some mapping, none⟩

def inquiry : Inquiry := ⟨.objectClass, ⟨2020, 2, mapping.keys, []⟩, none⟩

def results : List Entry :=
  [⟨some "11", some "110", .objectClass, "Personnel", some (amount 55 0), none⟩,
   ⟨some "10", some "110", .objectClass, "Personnel", some (amount 2975 2), none⟩,
   ⟨none, none, .objectClass, "Unreported Data", some (amount (-250) 2), none⟩]

def response : Response := ⟨some (amount 8225 2), some lastDay, some results⟩

/-- The sample asks for the object classes of the second quarter. -/
theorem check_request : (explorer.check request).2 = .ok inquiry := by
  rfl

/-- Of its answer the gap of 2.50 is an entry of its own, and the last one. -/
theorem explore_request : (explorer.explore store.source request today).run.outcome =
    .ok response :=
  ok_of_toOption (by decide +kernel)

end Sample

end Obligations
