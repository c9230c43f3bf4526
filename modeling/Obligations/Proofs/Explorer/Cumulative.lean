import Obligations.Proofs.Explorer.FromRows
import Obligations.Proofs.Grouping.Partition

/-!
# Obligations — cumulative sets over a year

Award rows are asked for from the start of a year through a quarter. So the rows of a later
quarter are those of an earlier one and those reported in between, wherever these stand in the
store. A grouping divides its rows, and in the exact range the number of a group does not depend
on the order of its rows: what an entity has by the later quarter is what it had by the earlier
one and what was reported since.

* `Store.awardRowsOf`, `Store.awardRowsBetween` — the award rows of a year, and those reported
  after one quarter of it and up to another;
* `Store.awardRowsIn_perm` — the rows through a quarter are made up of these;
* `numberUnder`, `Divides.numberUnder_eq` — what a result shows under an id is the number of the
  rows of this id;
* `Telescopes` — a result that goes on from another;
* `telescopes_of_divides` — a grouping of rows and others goes on from that of the rows;
* `cumulative_telescopes` — so do the cumulative sets of two quarters.
-/

namespace Obligations

/-! ## Rows of a year -/

namespace Store

/-- The award rows of a fiscal year. -/
def awardRowsOf (s : Store) (year : Int) : List Row :=
  s.awardRows.filter fun r => r.submission.year = year

/-- The award rows of a year that were reported after quarter `q` and up to quarter `q'`. -/
def awardRowsBetween (s : Store) (year : Int) (q q' : Nat) : List Row :=
  (s.awardRowsOf year).filter fun r => q < r.submission.quarter ∧ r.submission.quarter ≤ q'

variable {s : Store} {year : Int} {q q' : Nat}

/-- Award rows through a quarter are those of the year up to it. -/
theorem awardRowsIn_eq_filter : s.awardRowsIn year (.throughQuarter q) =
    (s.awardRowsOf year).filter fun r => r.submission.quarter ≤ q := by
  rw [awardRowsOf, List.filter_filter]
  refine List.filter_congr fun r _ => ?_
  rw [Scope.includes, Bool.and_comm]
  rfl

theorem awardRowsIn_sublist :
    (s.awardRowsIn year (.throughQuarter q)).Sublist (s.awardRowsOf year) :=
  awardRowsIn_eq_filter ▸ List.filter_sublist

/-- The rows through a quarter are those through an earlier one and those since then. -/
theorem awardRowsIn_perm (h : q ≤ q') : (s.awardRowsIn year (.throughQuarter q')).Perm
    (s.awardRowsIn year (.throughQuarter q) ++ s.awardRowsBetween year q q') := by
  -- each row through the later quarter is on one side of the earlier one
  have hsplit := List.filter_append_perm (fun r => decide (r.submission.quarter ≤ q))
    (s.awardRowsIn year (.throughQuarter q'))
  rw [awardRowsIn_eq_filter, List.filter_filter, List.filter_filter] at hsplit
  rw [awardRowsIn_eq_filter, awardRowsIn_eq_filter, awardRowsBetween]
  refine hsplit.symm.trans (.of_eq ?_)
  congr 1
  · -- up to the earlier quarter is up to the later one as well
    refine List.filter_congr fun r _ => ?_
    rw [Bool.eq_iff_iff, Bool.and_eq_true, decide_eq_true_iff, decide_eq_true_iff]
    omega
  · -- and the others come after the earlier quarter
    refine List.filter_congr fun r _ => ?_
    rw [Bool.eq_iff_iff, Bool.and_eq_true, Bool.not_eq_true', decide_eq_false_iff_not,
      decide_eq_true_iff, decide_eq_true_iff]
    omega

end Store

/-! ## Numbers of a result -/

/-- The number that is shown under an id, zero if there is no entry of it. -/
def numberUnder (es : List Entry) (id : String) : Int :=
  ((es.find? fun e => e.id == some id).bind Entry.amount).elim 0 Amount.value

section

variable {rows rows' between : List Row} {f : Filters} {c : Category} {es es' : List Entry}
  {k : Nat}

/-- **In the exact range the number under an id is that of its rows**, and zero if it has no
rows. -/
theorem Divides.numberUnder_eq (h : Divides es rows f c) (hk : k ≤ Amount.maxScale)
    (hexact : Exact k (rows.map Row.amount)) (id : String) :
    numberUnder es id = sumValues ((carriersOf rows f c id).map Row.amount) := by
  unfold numberUnder
  cases hfind : es.find? fun e => e.id == some id with
  | none =>
    -- a row of the id would have made an entry of it
    have hnone : carriersOf rows f c id = [] := by
      rw [List.eq_nil_iff_forall_not_mem]
      intro r hr
      obtain ⟨hrow, hsurvives, label, hlabel, hid⟩ := mem_carriersOf.mp hr
      obtain ⟨e, he, heid⟩ := List.mem_map.mp
        ((h.mem_ids (some id)).mpr ⟨r, hrow, hsurvives, label, hlabel, congrArg some hid.symm⟩)
      exact List.find?_eq_none.mp hfind e he (beq_iff_eq.mpr heid)
    rw [hnone]
    rfl
  | some e =>
    have hfound := List.find?_some hfind
    have heid : e.id = some id := beq_iff_eq.mp hfound
    obtain ⟨total, htotal, hsum⟩ := (h.shows e (List.mem_of_find?_eq_some hfind) id heid).amount
    have hgroup : Exact k ((carriersOf rows f c id).map Row.amount) :=
      hexact.sublist ((carriersOf_sublist rows f c id).map _)
    show e.amount.elim 0 Amount.value = _
    rw [htotal]
    exact value_of_sumAmounts_some hk hgroup hsum

/-- The later result goes on from the earlier one: it has its ids and its numbers, and besides
them what the rows in between carry. -/
structure Telescopes (early late : List Entry) (between : List Row) (f : Filters) (c : Category) :
    Prop where
  ids     : ∀ id ∈ early.map Entry.id, id ∈ late.map Entry.id
  numbers : ∀ id, numberUnder late id =
              numberUnder early id + sumValues ((carriersOf between f c id).map Row.amount)
  sums    : sumValues (late.filterMap Entry.amount) =
              sumValues (early.filterMap Entry.amount) +
                sumValues ((carriers between f c).map Row.amount)

/-- A grouping of rows and others goes on from the grouping of the rows, wherever the others
stand among them. -/
theorem telescopes_of_divides (h : Divides es rows f c) (h' : Divides es' rows' f c)
    (hperm : rows'.Perm (rows ++ between)) (hk : k ≤ Amount.maxScale)
    (hexact : Exact k (rows'.map Row.amount)) : Telescopes es es' between f c := by
  -- the rows are among all, so their amounts are in the exact range too
  have hall : Exact k ((rows ++ between).map Row.amount) := hexact.perm (hperm.map _)
  have hrows : Exact k (rows.map Row.amount) :=
    hall.sublist ((List.sublist_append_left rows between).map _)
  refine ⟨?_, ?_, ?_⟩
  · intro id hid
    obtain ⟨r, hr, hlabelled⟩ := (h.mem_ids id).mp hid
    -- the row that the entry is about is a row of the later result too
    exact (h'.mem_ids id).mpr ⟨r, hperm.mem_iff.mpr (List.mem_append_left _ hr), hlabelled⟩
  · intro id
    calc numberUnder es' id
        = sumValues ((carriersOf rows' f c id).map Row.amount) := h'.numberUnder_eq hk hexact id
      _ = sumValues ((carriersOf (rows ++ between) f c id).map Row.amount) :=
          sumValues_perm ((carriersOf_perm hperm f c id).map _)
      _ = sumValues ((carriersOf rows f c id).map Row.amount) +
            sumValues ((carriersOf between f c id).map Row.amount) := by
          rw [carriersOf_append, List.map_append, sumValues_append]
      _ = numberUnder es id + sumValues ((carriersOf between f c id).map Row.amount) := by
          rw [h.numberUnder_eq hk hrows id]
  · -- the sums of the entries are those of the rows that are carried
    have hcarried (xs : List Row) : ((carriers xs f c).map Row.amount).Sublist
        (xs.map Row.amount) := List.filter_sublist.map _
    calc sumValues (es'.filterMap Entry.amount)
        = sumValues ((carriers rows' f c).map Row.amount) :=
          h'.conserves k hk (hexact.sublist (hcarried rows'))
      _ = sumValues ((carriers (rows ++ between) f c).map Row.amount) :=
          sumValues_perm ((carriers_perm hperm f c).map _)
      _ = sumValues ((carriers rows f c).map Row.amount) +
            sumValues ((carriers between f c).map Row.amount) := by
          rw [carriers_append, List.map_append, sumValues_append]
      _ = sumValues (es.filterMap Entry.amount) +
            sumValues ((carriers between f c).map Row.amount) := by
          rw [h.conserves k hk (hrows.sublist (hcarried rows))]

end

/-! ## Cumulative sets -/

section

variable {s : Store} {c : Category} {f : Filters} {year : Int} {q q' : Nat}

/-- The cumulative set of a quarter divides the award rows of the year through that quarter. -/
theorem GroupedSets.exists_of_safe (hopen : s.failure = none) (hfirst : 1 ≤ q) (hlast : q ≤ 4)
    (hsafe : (fetch s.source c f year q).overflows = false) :
    ∃ sets, (fetch s.source c f year q).outcome = .ok sets ∧
      Divides sets.cumulative (s.awardRowsIn year (.throughQuarter q)) f c := by
  have hperiod : finalPeriod? q = some (3 * q) := finalPeriod?_eq_some.mpr ⟨hfirst, hlast, rfl⟩
  have houtcome := outcome_fetch hopen hperiod c f year
  -- there are rows to group, so only an amount could have been too large
  obtain ⟨sets, hsets⟩ :=
    Run.exists_ok_of_safe (houtcome ▸ Explorer.onlyOverflows_ofRows _ _ _ _) hsafe
  refine ⟨sets, hsets, ?_⟩
  rw [houtcome, ofRows] at hsets
  -- both groupings exist; it is the first of them that is of interest
  obtain ⟨cumulative, hcumulative, hsets⟩ := bind_eq_ok.mp hsets
  obtain ⟨period, -, hsets⟩ := bind_eq_ok.mp hsets
  injection hsets with hsets
  exact hsets ▸ divides_of_groupEntries hcumulative

/-- **Cumulative sets telescope over the year.** An entity that is in the set of a quarter is in
that of each later one, with what it had and the surviving rows reported since; and so are the
sums of the sets. -/
theorem cumulative_telescopes (hopen : s.failure = none) (hfirst : 1 ≤ q) (hle : q ≤ q')
    (hlast : q' ≤ 4) (hrange : InExactRange ((s.awardRowsOf year).map Row.amount))
    (hsafe : (GroupedSets.fetch s.source c f year q).overflows = false)
    (hsafe' : (GroupedSets.fetch s.source c f year q').overflows = false) :
    ∃ sets sets', (GroupedSets.fetch s.source c f year q).outcome = .ok sets ∧
      (GroupedSets.fetch s.source c f year q').outcome = .ok sets' ∧
      Telescopes sets.cumulative sets'.cumulative (s.awardRowsBetween year q q') f c := by
  obtain ⟨sets, hsets, hdivides⟩ :=
    GroupedSets.exists_of_safe hopen hfirst (Nat.le_trans hle hlast) hsafe
  obtain ⟨sets', hsets', hdivides'⟩ :=
    GroupedSets.exists_of_safe hopen (Nat.le_trans hfirst hle) hlast hsafe'
  refine ⟨sets, sets', hsets, hsets', ?_⟩
  exact telescopes_of_divides hdivides hdivides' (Store.awardRowsIn_perm hle) (largestScale_le _)
    (hrange.exact.sublist (Store.awardRowsIn_sublist.map _))

end

namespace Sample

/-- The row, as reported for a period of the year. -/
def reportedIn (period : Nat) (r : Row) : Row := { r with submission := .ofPeriod 2020 period }

/-- Award rows of the first three quarters in no order, and one of another year. -/
def yearStore : Store where
  awardRows   := [reportedIn 9 (agencyRow 12 "070" 1 75 1), reportedIn 3 (agencyRow 12 "070" 1 5 0),
    reportedIn 5 (agencyRow 3 "12" 1 (-250) 2), reportedIn 8 (agencyRow 3 "12" 1 1 3),
    { agencyRow 12 "070" 1 40 0 with submission := .ofPeriod 2019 6 },
    reportedIn 6 (agencyRow 12 "070" 2 2 0)]
  programRows := [row 12 1 (amount 10 0)]
  controlRows := []
  failure     := none
  served      := 0

end Sample

/-- Of the agency with id 12, rows of 2 and of 7.5 are reported after the first quarter and by the
third one. -/
theorem cumulative_telescopes_sample :
    sumValues ((carriersOf (Sample.yearStore.awardRowsBetween 2020 1 3) Sample.quarterFilters
      .agency "12").map Row.amount) = (Sample.amount 95 1).value ∧
    ∃ sets sets',
      (GroupedSets.fetch Sample.yearStore.source .agency Sample.quarterFilters 2020 1).outcome =
        .ok sets ∧
      (GroupedSets.fetch Sample.yearStore.source .agency Sample.quarterFilters 2020 3).outcome =
        .ok sets' ∧
      Telescopes sets.cumulative sets'.cumulative (Sample.yearStore.awardRowsBetween 2020 1 3)
        Sample.quarterFilters .agency :=
  ⟨by decide +kernel, cumulative_telescopes rfl (by decide) (by decide) (by decide)
    (by decide +kernel) (by decide +kernel) (by decide +kernel)⟩

end Obligations
