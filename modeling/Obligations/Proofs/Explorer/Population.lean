import Obligations.Proofs.Explorer.Answers
import Obligations.Proofs.Filters.Keys
import Obligations.Proofs.Reconciliation

/-!
# Obligations — what a control total is compared with

A control total is about the whole government, so a narrowed request is not to be compared
with it. What `Config.isEligible` looks at are keys: those of the request have to be the base
keys of the settings. Valid base keys have year and quarter among them, and nothing is asked
of the others. Hence only whole populations are compared just in case no base key names a
category. With such a key a narrowed request is compared too, and what its narrowing left out
is shown as not reported.

* `Config.ComparesWhole` — only requests without narrowing are compared;
* `narrowing_of_eligible` — a request that is compared is narrowed as the base keys say;
* `comparesWhole_iff` — the base keys for which only whole populations are compared, and what
  the entries of such a comparison are computed from;
* `narrowed_request_compared` — other base keys, and a row that is lost.
-/

namespace Obligations

/-- Only requests without narrowing are compared with a control total. -/
def Config.ComparesWhole (c : Config) : Prop :=
  ∀ (category : Category) (filters : Option (KeyMap Json)) (f : Filters),
    (Filters.read filters).2 = .ok f → c.isEligible category f = true → f.narrowing = []

/-- The entries with an id group all rows of the period that have an entity of the category,
whatever else they are. -/
def Response.OfWholePeriod (resp : Response) (s : Source) (q : Inquiry) : Prop :=
  ∃ programs, s.programRows q.filters.year (.inPeriod q.finalPeriod) = .ok programs ∧
    groupEntries (programs.map ProgramRow.toRow) (.forQuarter q.filters.year q.filters.quarter)
      q.category = .ok (resp.entries.filter fun e => !e.isUnreported)

/-! ## Eligible keys -/

/-- What is compared is narrowed by just those base keys that name a category. -/
theorem narrowing_of_eligible {c : Config} {category : Category}
    {filters : Option (KeyMap Json)} {f : Filters} (hread : (Filters.read filters).2 = .ok f)
    (heligible : c.isEligible category f = true) :
    f.narrowing.map Narrowing.category = Filters.namedBy c.baseKeys := by
  obtain ⟨mapping, -, -, -, hcategories⟩ := Filters.read_eq_ok hread
  rw [hcategories, (Config.isEligible_iff.mp heligible).2]

/-- For settings that are valid, the keys of a request that is compared are the base keys, so these
tell whether it can be narrowed. -/
theorem comparesWhole_iff_of_isValid {c : Config} (hc : c.IsValid) :
    c.ComparesWhole ↔
      c.reconciling = [] ∨ ∀ k ∈ c.baseKeys, Category.ofName? k = none := by
  rw [← Filters.namedBy_eq_nil]
  constructor
  · intro hwhole
    rcases List.eq_nil_or_concat c.reconciling with hnone | ⟨rest, category, hsome⟩
    · exact Or.inl hnone
    · -- a mapping with just the base keys is compared, so it is not narrowed
      obtain ⟨-, -, hyear, hquarter, -⟩ := hc
      obtain ⟨mapping, f, hread, hkeys⟩ := Filters.exists_read hyear hquarter
      have heligible : c.isEligible category f = true :=
        Config.isEligible_iff.mpr ⟨by rw [hsome]; simp, hkeys⟩
      have hnarrowing := narrowing_of_eligible hread heligible
      rw [hwhole category _ f hread heligible] at hnarrowing
      exact Or.inr hnarrowing.symm
  · intro hbase category filters f hread heligible
    -- either nothing is eligible, or the keys of what is name no category
    rcases hbase with hnone | hnone
    · have hmem := (Config.isEligible_iff.mp heligible).1
      rw [hnone] at hmem
      exact absurd hmem List.not_mem_nil
    · have hnarrowing := narrowing_of_eligible hread heligible
      rw [hnone] at hnarrowing
      exact List.map_eq_nil_iff.mp hnarrowing

/-! ## Entries of a comparison -/

theorem Filters.admits_of_unnarrowed {f : Filters} (h : f.narrowing = []) (r : Row) :
    f.admits r = true := by
  rw [admits, h]
  rfl

/-- Without narrowing, all filters group alike. -/
theorem groupEntries_of_unnarrowed {f g : Filters} (hf : f.narrowing = [])
    (hg : g.narrowing = []) (rows : List Row) (c : Category) :
    groupEntries rows f c = groupEntries rows g c := by
  refine groupEntries_congr (fun r => ?_) rows c
  rw [Filters.admits_of_unnarrowed hf, Filters.admits_of_unnarrowed hg]

/-- **Only whole populations are compared just in case no base key names a category**, and
then an entry of what was not reported stands among entries of the whole period. -/
theorem comparesWhole_iff (e : Explorer) :
    (e.config.ComparesWhole ↔
      e.config.reconciling = [] ∨ ∀ k ∈ e.config.baseKeys, Category.ofName? k = none) ∧
    (e.config.ComparesWhole → ∀ (s : Source) (r : Request) (now : Instant) (resp : Response),
      (e.explore s r now).run.outcome = .ok resp → (∃ u ∈ resp.entries, u.id = none) →
      ∃ q, (e.check r).2 = .ok q ∧ q.filters.narrowing = [] ∧ resp.OfWholePeriod s q) := by
  refine ⟨comparesWhole_iff_of_isValid e.valid, ?_⟩
  intro hwhole s r now resp hresp hunreported
  obtain ⟨q, hq, hanswer⟩ := Explorer.answers_of_explore hresp
  -- an entry without an id is there only where the response was compared
  obtain ⟨sets, missing, hcompared⟩ := hanswer.compared_of_unreported hunreported
  obtain ⟨_, programs, hfetched⟩ := hcompared.fetched
  have hread := (Explorer.check_eq_ok.mp hq).2.1
  have hnarrowing := hwhole q.category r.filters q.filters hread hcompared.eligible
  -- without the entry that was added, the response is what was grouped
  have hreported : resp.entries.filter (fun e => !e.isUnreported) = sets.period := by
    rw [hcompared.entries_eq]
    exact filter_reported_rank (ranked_groupEntries hfetched.period_eq)
      (ids_groupEntries hfetched.period_eq) rfl
  refine ⟨q, hq, hnarrowing, programs, hfetched.programs_eq, ?_⟩
  rw [hreported, ← hfetched.period_eq]
  exact groupEntries_of_unnarrowed rfl hnarrowing _ _

/-! ## Base keys that name a category -/

namespace Sample

/-- Base keys with that of agencies among them. -/
def agencyKeys : KeySet := .ofList [yearKey, quarterKey, "agency"]

def agencyExplorer : Explorer :=
  ⟨{ explorer.config with baseKeys := agencyKeys }, (Config.fault?_eq_none_iff _).mp (by decide)⟩

/-- The rows add up to the control total. -/
def fullStore : Store := { store with controlRows := [⟨2020, 6, amount 8475 2⟩] }

def agencyRequest : Request :=
  ⟨some "object_class", some (mapping.insert "agency" (.string "1")), none⟩

def agencyInquiry : Inquiry := ⟨.objectClass, ⟨2020, 2, agencyKeys, [⟨.agency, "1"⟩]⟩, none⟩

def agencyResponse : Response :=
  ⟨some (amount 8475 2), some lastDay, some
    [⟨some "11", some "110", .objectClass, "Personnel", some (amount 55 0), none⟩,
     ⟨some "10", some "110", .objectClass, "Personnel", some (amount 3025 2), none⟩,
     ⟨none, none, .objectClass, "Unreported Data", some (amount (-50) 2), none⟩]⟩

end Sample

/-- All spending was reported, and a request narrowed to one agency is told that the
spending of the other agency was not. -/
theorem narrowed_request_compared :
    (Sample.agencyExplorer.check Sample.agencyRequest).2 = .ok Sample.agencyInquiry ∧
    Sample.agencyExplorer.config.isEligible .objectClass Sample.agencyInquiry.filters = true ∧
    Sample.agencyInquiry.filters.narrowing = [⟨.agency, "1"⟩] ∧
    (Sample.agencyExplorer.explore Sample.fullStore.source Sample.agencyRequest
      Sample.today).run.outcome = .ok Sample.agencyResponse ∧
    ¬ Sample.agencyResponse.OfWholePeriod Sample.fullStore.source Sample.agencyInquiry := by
  refine ⟨by rfl, by decide, rfl, ok_of_toOption (by decide +kernel), ?_⟩
  -- grouping all rows gives 29.75 where the response has 30.25
  rintro ⟨programs, hprograms, hgrouped⟩
  rw [Store.programRows_of_ok hprograms] at hgrouped
  have hsame := congrArg Except.toOption hgrouped
  revert hsame
  decide +kernel

end Obligations
