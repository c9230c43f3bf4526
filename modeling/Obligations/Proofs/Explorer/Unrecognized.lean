import Obligations.Proofs.Explorer.Limit
import Obligations.Proofs.Filters.Entries

/-!
# Obligations — keys that mean nothing

A filter key that is neither year nor quarter nor the name of a category is passed over, and the
response is logged with a warning for it. It stays among the keys of the request, though, and
the keys decide whether an answer is compared with the control total. So this is the one thing
such a key can do: it keeps the entry of what was not reported out of the results, or lets it
in. Requests that differ in such keys are refused alike, are revealed alike, and have the same
results but for that entry.

* `Filters.SameMeaning`, `Request.Resembles` — mappings and requests that differ in such keys;
* `Filters.read_congr`, `Explorer.check_congr`, `Refuses.congr` — what reading and checking
  make of them differs in the keys alone;
* `Fetched.unique`, `Answers.reported_eq` — what a response reports is grouped from what was
  fetched, whether it is compared or not;
* `unrecognized_keys_pass_over` — what a key that means nothing can do.
-/

namespace Obligations

/-! ## Requests that differ in such keys -/

/-- The mappings give every recognized key the same value, if any. -/
def Filters.SameMeaning (mapping mapping' : KeyMap Json) : Prop :=
  ∀ key, IsRecognized key → mapping.get? key = mapping'.get? key

/-- The requests are the same, but for keys that are not recognized. -/
structure Request.Resembles (r r' : Request) : Prop where
  category_eq : r.category = r'.category
  filters     : Option.Rel Filters.SameMeaning r.filters r'.filters
  limit_eq    : r.limit = r'.limit

/-- The filters with other keys, that narrow as they did. -/
def Filters.withKeys (f : Filters) (keys : KeySet) : Filters := { f with keys := keys }

def Inquiry.withKeys (q : Inquiry) (keys : KeySet) : Inquiry :=
  { q with filters := q.filters.withKeys keys }

namespace Filters

variable {mapping mapping' : KeyMap Json} {f : Filters} {fault : ParameterFault}

/-- The relation is symmetric, since it says that values are equal. -/
theorem SameMeaning.symm (h : SameMeaning mapping mapping') : SameMeaning mapping' mapping :=
  fun key hkey => (h key hkey).symm

/-- A key that is not recognized can be put in, whatever its value. -/
theorem sameMeaning_insert (mapping : KeyMap Json) (key : String) (value : Json)
    (h : ¬ IsRecognized key) : SameMeaning mapping (mapping.insert key value) := by
  intro k hk
  have hne : k ≠ key := fun hsame => h (hsame ▸ hk)
  rw [KeyMap.get?_insert, if_neg hne]

/-- It is transitive, so that any number of such keys can be put in or taken out. -/
theorem SameMeaning.trans {mapping'' : KeyMap Json} (h : SameMeaning mapping mapping')
    (h' : SameMeaning mapping' mapping'') : SameMeaning mapping mapping'' :=
  fun key hkey => (h key hkey).trans (h' key hkey)

/-- Year and quarter are read from recognized keys. -/
theorem SameMeaning.readQuarterOf_eq (h : SameMeaning mapping mapping') :
    readQuarterOf mapping = readQuarterOf mapping' := by
  unfold readQuarterOf
  rw [h yearKey (isRecognized_of_base (Or.inl rfl)),
    h quarterKey (isRecognized_of_base (Or.inr rfl))]

/-- **Narrowing goes by recognized keys alone**, also where it fails. -/
theorem SameMeaning.readNarrowing_eq (h : SameMeaning mapping mapping') :
    (readNarrowing mapping.entries).2 = (readNarrowing mapping'.entries).2 := by
  -- both narrow by the entries under recognized keys, and these are the same
  rw [← readNarrowing_filter mapping.entries, ← readNarrowing_filter mapping'.entries,
    KeyMap.filter_entries_congr (p := fun key => decide (IsRecognized key))]
  intro key hkey
  exact h key (of_decide_eq_true hkey)

/-- So what is read from the mappings narrows alike, and differs in its keys at most. -/
theorem read_congr (h : SameMeaning mapping mapping') (hread : (read (some mapping)).2 = .ok f) :
    (read (some mapping')).2 = .ok (f.withKeys mapping'.keys) := by
  obtain ⟨hquarter, hnarrowing, -⟩ := read_eq_ok_iff.mp hread
  rw [h.readQuarterOf_eq] at hquarter
  rw [h.readNarrowing_eq] at hnarrowing
  exact read_eq_ok_iff.mpr ⟨hquarter, hnarrowing, rfl⟩

theorem read_congr_error (h : SameMeaning mapping mapping')
    (hread : (read (some mapping)).2 = .error fault) :
    (read (some mapping')).2 = .error fault := by
  rw [read_eq_error_iff, h.readQuarterOf_eq, h.readNarrowing_eq] at hread
  exact read_eq_error_iff.mpr hread

end Filters

/-! ## Checks -/

section

variable {e : Explorer} {c : Config} {r r' : Request} {q : Inquiry} {f : Failure}

namespace Request

theorem Resembles.symm (h : r.Resembles r') : r'.Resembles r := by
  obtain ⟨category, filters, limit⟩ := r
  obtain ⟨category', filters', limit'⟩ := r'
  refine ⟨h.category_eq.symm, ?_, h.limit_eq.symm⟩
  -- neither of the two requests comes first
  cases h.filters with
  | some hsame => exact .some hsame.symm
  | none => exact .none

/-- The filters of both requests are read alike, but for their keys. If they are missing, neither
has any. -/
theorem Resembles.read_eq_ok {filters : Filters} (h : r.Resembles r')
    (hread : (Filters.read r.filters).2 = .ok filters) :
    ∃ keys, (Filters.read r'.filters).2 = .ok (filters.withKeys keys) := by
  obtain ⟨category, mapping?, limit⟩ := r
  obtain ⟨category', mapping?', limit'⟩ := r'
  -- filters that are missing cannot be read
  cases h.filters with
  | some hsame => exact ⟨_, Filters.read_congr hsame hread⟩
  | none => exact nomatch hread

theorem Resembles.read_eq_error {fault : ParameterFault} (h : r.Resembles r')
    (hread : (Filters.read r.filters).2 = .error fault) :
    (Filters.read r'.filters).2 = .error fault := by
  obtain ⟨category, mapping?, limit⟩ := r
  obtain ⟨category', mapping?', limit'⟩ := r'
  cases h.filters with
  | some hsame => exact Filters.read_congr_error hsame hread
  | none => exact hread

end Request

/-- A request passes the checks if the other does, and the inquiries differ in their keys at
most. -/
theorem Explorer.check_congr (h : r.Resembles r') (hq : (e.check r).2 = .ok q) :
    ∃ keys, (e.check r').2 = .ok (q.withKeys keys) := by
  obtain ⟨hcategory, hread, hlimit, hsame⟩ := check_eq_ok.mp hq
  -- category and limit are the same, and of the filters the keys may differ
  obtain ⟨keys, hread'⟩ := h.read_eq_ok hread
  rw [h.category_eq] at hcategory
  rw [h.limit_eq] at hlimit hsame
  exact ⟨keys, check_eq_ok.mpr ⟨hcategory, hread', hlimit, hsame⟩⟩

/-- What refuses a request refuses the other one. -/
theorem Refuses.congr (h : r.Resembles r') (hrefuses : Refuses c r f) : Refuses c r' f := by
  -- whatever comes before the fault is as it is in the other request
  cases hrefuses with
  | category hcategory =>
    rw [h.category_eq] at hcategory
    exact .category hcategory
  | filters hcategory hread =>
    rw [h.category_eq] at hcategory
    exact .filters hcategory (h.read_eq_error hread)
  | limit hcategory hread hzero =>
    rw [h.category_eq] at hcategory
    obtain ⟨keys, hread'⟩ := h.read_eq_ok hread
    exact .limit hcategory hread' (h.limit_eq ▸ hzero)

end

/-! ## Reports -/

/-- The results without the entry of what was not reported. -/
def Response.reported (resp : Response) : Option (List Entry) :=
  resp.results.map (List.filter fun x => !x.isUnreported)

/-- The responses are about the same window, which is revealed to both or to neither, and report
the same. Their totals can differ. -/
structure Response.ReportsAs (resp resp' : Response) : Prop where
  revealed_iff : resp.results.isSome = true ↔ resp'.results.isSome = true
  endDate_eq   : resp.endDate = resp'.endDate
  reported_eq  : resp.reported = resp'.reported

section

variable {e : Explorer} {s : Store} {q : Inquiry} {now : Instant} {resp resp' : Response}

/-- A store gives the rows of a quarter once and for all. -/
theorem Fetched.unique {awards awards' : List Row} {programs programs' : List ProgramRow}
    {sets sets' : GroupedSets} (h : Fetched s.source q awards programs sets)
    (h' : Fetched s.source q awards' programs' sets') : sets = sets' := by
  -- the rows are the same, hence so are their groupings
  obtain rfl := Except.ok.inj (h.awards_eq.symm.trans h'.awards_eq)
  obtain rfl := Except.ok.inj (h.programs_eq.symm.trans h'.programs_eq)
  obtain ⟨cumulative, period⟩ := sets
  obtain ⟨cumulative', period'⟩ := sets'
  obtain rfl := Except.ok.inj (h.cumulative_eq.symm.trans h'.cumulative_eq)
  obtain rfl := Except.ok.inj (h.period_eq.symm.trans h'.period_eq)
  rfl

theorem Fetched.of_withKeys {keys : KeySet} {awards : List Row} {programs : List ProgramRow}
    {sets : GroupedSets} (h : Fetched s.source (q.withKeys keys) awards programs sets) :
    Fetched s.source q awards programs sets :=
  ⟨h.awards_eq, h.programs_eq, h.cumulative_eq, h.period_eq⟩

namespace Explorer

/-- Whatever a response is compared with, it reports the set of its category. -/
theorem Answers.reported_eq (h : e.Answers s.source q now resp)
    (hrevealed : e.isRevealed q now = true) :
    ∃ awards programs sets, Fetched s.source q awards programs sets ∧
      resp.reported = some (limitResults q.category q.limit (sets.select q.category)) := by
  -- a set of a period is not cut, and has an id in each of its entries
  have hperiod {awards : List Row} {programs : List ProgramRow} {sets : GroupedSets}
      (hfetched : Fetched s.source q awards programs sets) (hset : q.category.rowSet = .period) :
      limitResults q.category q.limit (sets.select q.category) = sets.period ∧
        sets.period.filter (fun x => !x.isUnreported) = sets.period := by
    rw [limitResults_of_ne (ne_award_of_period hset), sets.select_of_period hset]
    exact ⟨rfl, filter_reported_of_ids (ids_groupEntries hfetched.period_eq)⟩
  cases h with
  | hidden hhidden =>
    rw [hrevealed] at hhidden
    contradiction
  | @cumulative _ _ sets _ _ hfetched hset _ =>
    refine ⟨_, _, sets, hfetched, ?_⟩
    rw [sets.select_of_cumulative hset]
    exact congrArg some (filter_reported_of_ids fun x hx =>
      ids_groupEntries hfetched.cumulative_eq x ((limitResults_sublist _ _ _).subset hx))
  | @uncompared _ _ sets _ _ hfetched hset _ _ =>
    obtain ⟨hwhole, hfilter⟩ := hperiod hfetched hset
    exact ⟨_, _, sets, hfetched, congrArg some (hfilter.trans hwhole.symm)⟩
  | @incomparable _ _ sets _ _ _ hfetched hset _ _ _ _ =>
    obtain ⟨hwhole, hfilter⟩ := hperiod hfetched hset
    exact ⟨_, _, sets, hfetched, congrArg some (hfilter.trans hwhole.symm)⟩
  | @reconciled _ _ sets _ _ _ _ hfetched hset _ _ _ _ =>
    -- here the filter takes out what was appended before the results were ranked again
    obtain ⟨hwhole, -⟩ := hperiod hfetched hset
    refine ⟨_, _, sets, hfetched, ?_⟩
    rw [hwhole]
    exact congrArg some (filter_reported_rank (ranked_groupEntries hfetched.period_eq)
      (ids_groupEntries hfetched.period_eq) rfl)

/-- **The keys decide what a response is compared with, but not what it reports.** -/
theorem Answers.reportsAs {keys : KeySet} (h : e.Answers s.source q now resp)
    (h' : e.Answers s.source (q.withKeys keys) now resp') : resp.ReportsAs resp' := by
  cases hrevealed : e.isRevealed q now with
  | false =>
    -- a hidden window has one response, whatever is asked
    obtain rfl := h.unrevealed_of_hidden hrevealed
    obtain rfl := h'.unrevealed_of_hidden hrevealed
    exact ⟨Iff.rfl, rfl, rfl⟩
  | true =>
    obtain ⟨hend, hresults⟩ := h.shown hrevealed
    obtain ⟨hend', hresults'⟩ := h'.shown hrevealed
    -- both report the set of the category, and the store gives one such set
    obtain ⟨awards, programs, sets, hfetched, hreported⟩ := h.reported_eq hrevealed
    obtain ⟨awards', programs', sets', hfetched', hreported'⟩ := h'.reported_eq hrevealed
    obtain rfl := hfetched.unique hfetched'.of_withKeys
    exact ⟨iff_of_true hresults hresults', hend.trans hend'.symm,
      hreported.trans hreported'.symm⟩

end Explorer

end

/-! ## Warnings -/

/-- The keys are those of the request that are not recognized, each once and in order. -/
structure Request.PassesOver (r : Request) (ignored : List String) : Prop where
  ascending : ignored.Pairwise (· < ·)
  mem_iff   : ∀ key, key ∈ ignored ↔
                (∃ mapping ∈ r.filters, ∃ value, mapping.get? key = some value) ∧
                  ¬ Filters.IsRecognized key

section

variable {e : Explorer} {s : Store} {r r' : Request} {now : Instant}

/-- A request that passes the checks is warned of its unrecognized keys, each once and in order. -/
theorem passesOver_of_checked {q : Inquiry} (hq : (e.check r).2 = .ok q) :
    r.PassesOver (e.explore s.source r now).ignoredKeys := by
  obtain ⟨hcategory, hread, -, -⟩ := Explorer.check_eq_ok.mp hq
  -- the warnings of a request are those of its filters
  have hignored : (e.explore s.source r now).ignoredKeys = (Filters.read r.filters).1 := by
    have hcheck : (e.explore s.source r now).ignoredKeys = (e.check r).1 := by
      unfold Explorer.explore
      simp only [hq]
    rw [hcheck, Explorer.check, hcategory]
  rw [hignored]
  -- a request without filters does not pass the checks
  cases hfilters : r.filters with
  | none =>
    rw [hfilters] at hread
    exact nomatch hread
  | some mapping =>
    rw [hfilters] at hread
    rw [Filters.ignored_of_read hread]
    -- keys are kept in order, and those that are dropped leave it as it is
    refine ⟨mapping.keys.ascending.filter _, fun key => ?_⟩
    simp [KeyMap.mem_keys, hfilters]

/-! ## What such a key can do -/

/-- A checked request gives a response, unless a query fails or a number is too large. -/
theorem exists_response {q : Inquiry} (hq : (e.check r).2 = .ok q)
    (hqueries : ∀ query ∈ (e.explore s.source r now).run.queries, s.source.failure? query = none)
    (hsafe : (e.explore s.source r now).run.overflows = false) :
    ∃ resp, (e.explore s.source r now).run.outcome = .ok resp := by
  -- by the protocol it fails only if it is refused or a query fails
  cases houtcome : (e.explore s.source r now).run.outcome with
  | ok resp => exact ⟨resp, rfl⟩
  | error f =>
    rcases ((followsProtocol_explore hsafe).fails f).mp houtcome with hrefused | hfailing
    · rw [hq] at hrefused
      contradiction
    · obtain ⟨query, hquery, hfails⟩ := hfailing
      rw [hqueries query hquery] at hfails
      contradiction

/-- **Unrecognized filter keys never change what is reported.** Requests that differ in such keys
are refused alike, and the responses to them report the same and come with a warning for each
such key. -/
theorem unrecognized_keys_pass_over (e : Explorer) (s : Store) (now : Instant)
    (h : r.Resembles r') :
    (∀ f, f.isRefusal = true →
      ((e.explore s.source r now).run.outcome = .error f ↔
        (e.explore s.source r' now).run.outcome = .error f)) ∧
    ((∀ f, f.isRefusal = true → (e.explore s.source r now).run.outcome ≠ .error f) →
      (∀ query ∈ (e.explore s.source r now).run.queries, s.source.failure? query = none) →
      (∀ query ∈ (e.explore s.source r' now).run.queries, s.source.failure? query = none) →
      (e.explore s.source r now).run.overflows = false →
      (e.explore s.source r' now).run.overflows = false →
      ∃ resp resp', (e.explore s.source r now).run.outcome = .ok resp ∧
        (e.explore s.source r' now).run.outcome = .ok resp' ∧ resp.ReportsAs resp') ∧
    (∀ resp, (e.explore s.source r now).run.outcome = .ok resp →
      r.PassesOver (e.explore s.source r now).ignoredKeys) ∧
    (∀ resp, (e.explore s.source r' now).run.outcome = .ok resp →
      r'.PassesOver (e.explore s.source r' now).ignoredKeys) := by
  refine ⟨fun f hrefusal => ?_, ?_, fun resp hresp => ?_, fun resp hresp => ?_⟩
  · rw [Explorer.refused_iff hrefusal, Explorer.refused_iff hrefusal]
    exact ⟨Refuses.congr h, Refuses.congr h.symm⟩
  · intro haccepted hqueries hqueries' hsafe hsafe'
    cases hq : (e.check r).2 with
    | error f =>
      -- what the checks refuse is refused with a refusal
      have hrefuses := Explorer.check_eq_error.mp hq
      have hrefusal : f.isRefusal = true := by
        cases hrefuses <;> rfl
      exact absurd ((Explorer.refused_iff hrefusal).mpr hrefuses) (haccepted f hrefusal)
    | ok q =>
      -- both are checked, answered and reported
      obtain ⟨keys, hq'⟩ := Explorer.check_congr h hq
      obtain ⟨resp, hresp⟩ := exists_response hq hqueries hsafe
      obtain ⟨resp', hresp'⟩ := exists_response hq' hqueries' hsafe'
      have hanswer := Explorer.answers_of_checked hq hresp
      have hanswer' := Explorer.answers_of_checked hq' hresp'
      exact ⟨resp, resp', hresp, hresp', hanswer.reportsAs hanswer'⟩
  · obtain ⟨q, hq, -⟩ := Explorer.answers_of_explore hresp
    exact passesOver_of_checked hq
  · obtain ⟨q, hq, -⟩ := Explorer.answers_of_explore hresp
    exact passesOver_of_checked hq

end

namespace Sample

/-- The mapping of the sample with two more keys, which no filter could read. -/
def wordyMapping : KeyMap Json := (mapping.insert "page" .null).insert "zone" (.array [.null])

def wordyRequest : Request := { request with filters := some wordyMapping }

/-- Without the entry of what was not reported, and with the total of what was. -/
def wordyResponse : Response :=
  ⟨some (amount 8475 2), some lastDay, some (results.filter fun x => !x.isUnreported)⟩

/-- The two keys are put in one after the other. -/
theorem resembles_wordyRequest : request.Resembles wordyRequest := by
  have hpage := Filters.sameMeaning_insert mapping "page" .null (by decide)
  have hzone := Filters.sameMeaning_insert (mapping.insert "page" .null) "zone" (.array [.null])
    (by decide)
  exact ⟨rfl, .some (hpage.trans hzone), rfl⟩

/-- With keys that are not the base keys, nothing is compared. -/
theorem explore_wordyRequest :
    (explorer.explore store.source wordyRequest today).run.outcome = .ok wordyResponse :=
  ok_of_toOption (by decide +kernel)

end Sample

/-- The request with two more keys is not compared with the control total and reports the same
object classes; both keys are warned of. -/
theorem unrecognized_keys_pass_over_sample :
    Sample.response.ReportsAs Sample.wordyResponse ∧
    Sample.response.total ≠ Sample.wordyResponse.total ∧
    Sample.wordyRequest.PassesOver ["page", "zone"] := by
  obtain ⟨-, hreports, -, hwarns⟩ := unrecognized_keys_pass_over Sample.explorer Sample.store
    Sample.today Sample.resembles_wordyRequest
  refine ⟨?_, by decide, hwarns _ Sample.explore_wordyRequest⟩
  obtain ⟨resp, resp', hresp, hresp', hsame⟩ := hreports
    (fun f _ hfails => nomatch Sample.explore_request.symm.trans hfails)
    (by decide +kernel) (by decide +kernel) (by decide +kernel) (by decide +kernel)
  obtain rfl := Except.ok.inj (Sample.explore_request.symm.trans hresp)
  obtain rfl := Except.ok.inj (Sample.explore_wordyRequest.symm.trans hresp')
  exact hsame

end Obligations
