import Obligations.Proofs.Fiscal.Quarters
import Obligations.Proofs.Fiscal.Views

/-!
# Obligations — the standard schedule

The reports of a quarter are revealed 46 days after it ends. That is a day of the next quarter,
which is longer than that even without its last month. So the quarters are revealed in the order in
which they come: what is revealed of a year are its quarters up to the latest one, and with the
first of them all that came before.

* `RevealSchedule.standardWindow?_eq_some_iff`, `RevealSchedule.window?_standard_iff` — the window
  of a quarter, and which quarters have one;
* `exists_later?_quarterEnd` — the day of the reveal;
* `RevealSchedule.reveal_lt_of_quarterIndex_lt`, `RevealSchedule.isRevealed_standard_of_le` — the
  order of the reveals;
* `FollowsDeadline`, `standard_follows_deadline` — what is known of the schedule.
-/

namespace Obligations

theorem Instant.midnight_lt {a b : Date} (h : a < b) : Instant.midnight a < Instant.midnight b := by
  have hindex : a.index < b.index := h
  show (a.index * 86400 + 0) * 2000000000 + 0 < (b.index * 86400 + 0) * 2000000000 + 0
  omega

/-! ## The day of the reveal -/

section

variable {year year' : Int} {quarter quarter' : Nat} {e : Date}

/-- The 46th day after a quarter ends is a date in the next quarter. -/
theorem exists_later?_quarterEnd (h : quarterEnd? year quarter = some e) :
    ∃ day, e.later? 46 = some day ∧ day.quarterIndex = quarterIndex year quarter + 1 := by
  obtain ⟨⟨hpos, hle⟩, hmonth, hend, hmax⟩ := quarterEnd?_eq_some_iff.mp h
  have hlast : e.day = monthLength e.year e.month := hend
  -- the first days of the two months after the end
  obtain ⟨a, ha⟩ := Date.exists_nextMonth? hmax
  obtain ⟨hmonth₁, hday₁⟩ := Date.nextMonth?_eq_some ha
  have hlow₁ : 28 ≤ monthLength a.year a.month := Date.le_monthLength a.month_pos a.month_le
  have hhigh₁ := Date.monthLength_le a.year a.month
  obtain ⟨b, hb⟩ := Date.exists_nextMonth? (d := a) (by omega)
  obtain ⟨hmonth₂, hday₂⟩ := Date.nextMonth?_eq_some hb
  have hlow₂ : 28 ≤ monthLength b.year b.month := Date.le_monthLength b.month_pos b.month_le
  -- the first month is passed, and what is left of the 46 days fits in the second
  have hdays : e.later? 46 = b.later? (45 - monthLength a.year a.month) := by
    rw [Date.later?_of_gt (by omega), ha, Option.bind_some, Date.later?_of_gt (by omega), hb,
      Option.bind_some]
    congr 1
    omega
  -- `b` is the first of its month, which is the second month of the next quarter
  obtain ⟨day, hday⟩ := Date.exists_of? (m := b.month)
    (n := b.day + (45 - monthLength a.year a.month)) b.minYear_le b.le_maxYear (by omega) (by omega)
  have hmonth₃ : day.monthIndex = b.monthIndex := (Date.monthIndex_of? hday).1
  refine ⟨day, ?_, ?_⟩
  · rw [hdays, Date.later?_of_le (by omega), hday]
  · rw [Date.quarterIndex_eq]
    unfold quarterIndex
    omega

theorem year_of_quarterEnd (h : quarterEnd? year quarter = some e) :
    Date.minYear ≤ year ∧ year ≤ Date.maxYear := by
  obtain ⟨⟨hpos, hle⟩, hmonth, -, hmax⟩ := quarterEnd?_eq_some_iff.mp h
  have hlow := e.minYear_le
  have hmonth' := e.lt_monthIndex
  exact ⟨by omega, by omega⟩

/-- The numbers of quarters tell which comes first. -/
theorem quarterIndex_lt_iff (hpos : 1 ≤ quarter) (hle : quarter ≤ 4) (hpos' : 1 ≤ quarter')
    (hle' : quarter' ≤ 4) : quarterIndex year quarter < quarterIndex year' quarter' ↔
      year < year' ∨ year = year' ∧ quarter < quarter' := by
  unfold quarterIndex
  omega

end

namespace RevealSchedule

variable {first last year year' : Int} {quarter quarter' : Nat} {w w' : SubmissionWindow}
  {now : Instant}

/-! ## The windows of the schedule -/

/-- The window of a quarter ends when the quarter does, and opens at midnight 46 days later. -/
theorem standardWindow?_eq_some_iff : standardWindow? year quarter = some w ↔
    ∃ e day, quarterEnd? year quarter = some e ∧ e.later? 46 = some day ∧
      w = ⟨year, quarter, e, .midnight day⟩ := by
  simp only [standardWindow?, Option.bind_eq_bind, Option.bind_eq_some_iff, Option.pure_def,
    Option.some.injEq, Date.addDays?_eq_later?]
  constructor
  · rintro ⟨e, he, day, hday, rfl⟩
    exact ⟨e, day, he, hday, rfl⟩
  · rintro ⟨e, day, he, hday, rfl⟩
    exact ⟨e, he, day, hday, rfl⟩

theorem exists_standardWindow? (hlow : Date.minYear < year) (hhigh : year ≤ Date.maxYear)
    (hpos : 1 ≤ quarter) (hle : quarter ≤ 4) : ∃ w, standardWindow? year quarter = some w := by
  obtain ⟨e, he⟩ := exists_quarterEnd? hlow hhigh hpos hle
  obtain ⟨day, hday, -⟩ := exists_later?_quarterEnd he
  exact ⟨_, standardWindow?_eq_some_iff.mpr ⟨e, day, he, hday, rfl⟩⟩

theorem quarter_of_standardWindow? (h : standardWindow? year quarter = some w) :
    1 ≤ quarter ∧ quarter ≤ 4 := by
  obtain ⟨_, _, he, -⟩ := standardWindow?_eq_some_iff.mp h
  exact (quarterEnd?_eq_some_iff.mp he).1

/-- Years that are passed over have no windows anyway. -/
theorem mem_standard_iff : w ∈ (standard first last).windows ↔
    (first ≤ w.year ∧ w.year ≤ last) ∧ standardWindow? w.year w.quarter = some w := by
  show w ∈ standardRun (max first Date.minYear)
    (min last (Date.maxYear + 1) + 1 - max first Date.minYear).toNat ↔ _
  unfold standardRun
  rw [List.mem_flatMap]
  constructor
  · rintro ⟨i, hi, hmem⟩
    obtain ⟨quarter, -, hw⟩ := List.mem_filterMap.mp hmem
    have hi := List.mem_range.mp hi
    obtain ⟨hyear, hquarter⟩ := standardWindow?_isFor hw
    refine ⟨⟨by omega, by omega⟩, ?_⟩
    rw [hyear, hquarter, hw]
  · rintro ⟨⟨hfirst, hlast⟩, hw⟩
    obtain ⟨e, day, he, -, -⟩ := standardWindow?_eq_some_iff.mp hw
    obtain ⟨hlow, hhigh⟩ := year_of_quarterEnd he
    obtain ⟨hpos, hle⟩ := quarter_of_standardWindow? hw
    have hyear : max first Date.minYear + ((w.year - max first Date.minYear).toNat : Int) =
        w.year := by omega
    -- the quarters of a year end on dates, so its place is among the years that are gone through
    refine ⟨(w.year - max first Date.minYear).toNat, List.mem_range.mpr (by omega), ?_⟩
    rw [hyear]
    refine List.mem_filterMap.mpr ⟨w.quarter, ?_, hw⟩
    simp only [List.mem_cons, List.not_mem_nil, or_false]
    omega

/-- The schedule has the standard windows of the years it was asked for, and no others. -/
theorem window?_standard_iff : (standard first last).window? year quarter = some w ↔
    (first ≤ year ∧ year ≤ last) ∧ standardWindow? year quarter = some w := by
  rw [window?_eq_some, mem_standard_iff]
  constructor
  · rintro ⟨h, rfl, rfl⟩
    exact h
  · rintro ⟨hyears, hw⟩
    -- the window is looked up by the quarter that it is for
    obtain ⟨rfl, rfl⟩ := standardWindow?_isFor hw
    exact ⟨⟨hyears, hw⟩, rfl, rfl⟩

/-! ## The order of the reveals -/

/-- A quarter is revealed before the next one ends, and that one later still. -/
theorem reveal_lt_of_quarterIndex_lt (hw : standardWindow? year quarter = some w)
    (hw' : standardWindow? year' quarter' = some w')
    (h : quarterIndex year quarter < quarterIndex year' quarter') : w.reveal < w'.reveal := by
  obtain ⟨e, day, he, hday, rfl⟩ := standardWindow?_eq_some_iff.mp hw
  obtain ⟨e', day', he', hday', rfl⟩ := standardWindow?_eq_some_iff.mp hw'
  obtain ⟨x, hx, hquarter⟩ := exists_later?_quarterEnd he
  obtain ⟨x', hx', hquarter'⟩ := exists_later?_quarterEnd he'
  obtain rfl : x = day := Option.some.inj (hx.symm.trans hday)
  obtain rfl : x' = day' := Option.some.inj (hx'.symm.trans hday')
  -- each day lies one quarter further on, so the days are in different quarters as well
  refine Instant.midnight_lt (Date.lt_of_quarterIndex_lt ?_)
  omega

/-- With a quarter all quarters before it are revealed that have a window. -/
theorem isRevealed_standard_of_le
    (h : (standard first last).isRevealed year quarter now = true)
    (hw : (standard first last).window? year' quarter' = some w)
    (hle : quarterIndex year' quarter' ≤ quarterIndex year quarter) :
    (standard first last).isRevealed year' quarter' now = true := by
  obtain ⟨x, hx, hreveal⟩ := isRevealed_iff.mp h
  have hx' := (window?_standard_iff.mp hx).2
  have hw' := (window?_standard_iff.mp hw).2
  rcases Int.lt_or_eq_of_le hle with hlt | hsame
  · have hbefore := reveal_lt_of_quarterIndex_lt hw' hx' hlt
    exact isRevealed_iff.mpr ⟨w, hw, Instant.le_trans (Int.le_of_lt hbefore) hreveal⟩
  · -- quarters with one number are the same quarter
    have hquarter := quarter_of_standardWindow? hx'
    have hquarter' := quarter_of_standardWindow? hw'
    unfold quarterIndex at hsame
    obtain rfl : year' = year := by omega
    obtain rfl : quarter' = quarter := by omega
    exact h

/-- The revealed quarters of a year are those up to the latest one. -/
theorem isRevealed_standard_iff (hfirst : Date.minYear < first) (hlast : last ≤ Date.maxYear) :
    (standard first last).isRevealed year quarter now = true ↔
      ∃ k, (standard first last).lastRevealedQuarter? year now = some k ∧
        1 ≤ quarter ∧ quarter ≤ k := by
  constructor
  · intro h
    obtain ⟨k, hk, hle⟩ := exists_lastRevealedQuarter? h
    exact ⟨k, hk, (quarter_of_revealed h).1, hle⟩
  · rintro ⟨k, hk, hpos, hle⟩
    have hlatest := (lastRevealedQuarter?_eq_some_iff.mp hk).1
    -- the year has all its windows, since it has the one of the latest quarter
    obtain ⟨x, hx, -⟩ := isRevealed_iff.mp hlatest
    obtain ⟨⟨hlow, hhigh⟩, hx⟩ := window?_standard_iff.mp hx
    have hquarter := quarter_of_standardWindow? hx
    obtain ⟨w, hw⟩ : ∃ w, standardWindow? year quarter = some w :=
      exists_standardWindow? (by omega) (by omega) hpos (by omega)
    refine isRevealed_standard_of_le hlatest
      (window?_standard_iff.mpr ⟨⟨hlow, hhigh⟩, hw⟩) ?_
    unfold quarterIndex
    omega

end RevealSchedule

/-! ## What is known of the schedule -/

/-- The schedule has a window for every quarter of these years, which opens 46 days after the
quarter ends, in the quarter that follows. -/
structure FollowsDeadline (s : RevealSchedule) (first last : Int) : Prop where
  exists_iff : ∀ year quarter, (∃ w, s.window? year quarter = some w) ↔
    (first ≤ year ∧ year ≤ last) ∧ 1 ≤ quarter ∧ quarter ≤ 4
  reveals    : ∀ year quarter w, s.window? year quarter = some w →
    quarterEnd? year quarter = some w.periodEnd ∧
    ∃ day, w.periodEnd.later? 46 = some day ∧ w.reveal = .midnight day ∧
      day.IsIn (nextQuarter year quarter).1 (nextQuarter year quarter).2
  ascending  : ∀ w ∈ s.windows, ∀ w' ∈ s.windows, w.Before w' → w.reveal < w'.reveal
  revealed   : ∀ year quarter now, s.isRevealed year quarter now = true ↔
    ∃ k, s.lastRevealedQuarter? year now = some k ∧ 1 ≤ quarter ∧ quarter ≤ k
  earlier    : ∀ year quarter now, s.isRevealed year quarter now = true →
    ∀ year' quarter', year' < year → (∃ w, s.window? year' quarter' = some w) →
      s.isRevealed year' quarter' now = true

/-- **The standard schedule follows the deadline.** For years whose quarters all end on a date,
every quarter has its window, the windows open one after the other in the order of their quarters,
and so the revealed quarters of a year are those up to the latest. -/
theorem standard_follows_deadline {first last : Int} (hfirst : Date.minYear < first)
    (hlast : last ≤ Date.maxYear) :
    FollowsDeadline (RevealSchedule.standard first last) first last := by
  refine { exists_iff := ?_, reveals := ?_, ascending := ?_, revealed := ?_, earlier := ?_ }
  · intro year quarter
    constructor
    · rintro ⟨w, hw⟩
      obtain ⟨hyears, hw⟩ := RevealSchedule.window?_standard_iff.mp hw
      exact ⟨hyears, RevealSchedule.quarter_of_standardWindow? hw⟩
    · rintro ⟨⟨hlow, hhigh⟩, hpos, hle⟩
      obtain ⟨w, hw⟩ : ∃ w, RevealSchedule.standardWindow? year quarter = some w :=
        RevealSchedule.exists_standardWindow? (by omega) (by omega) hpos hle
      exact ⟨w, RevealSchedule.window?_standard_iff.mpr ⟨⟨hlow, hhigh⟩, hw⟩⟩
  · intro year quarter w hw
    have hw := (RevealSchedule.window?_standard_iff.mp hw).2
    obtain ⟨hpos, hle⟩ := RevealSchedule.quarter_of_standardWindow? hw
    obtain ⟨e, day, he, hday, rfl⟩ := RevealSchedule.standardWindow?_eq_some_iff.mp hw
    obtain ⟨x, hx, hquarter⟩ := exists_later?_quarterEnd he
    obtain rfl : x = day := Option.some.inj (hx.symm.trans hday)
    exact ⟨he, x, hday, rfl, Date.isIn_nextQuarter hquarter hpos hle⟩
  · intro w hmem w' hmem' hbefore
    have hw := (RevealSchedule.mem_standard_iff.mp hmem).2
    have hw' := (RevealSchedule.mem_standard_iff.mp hmem').2
    obtain ⟨hpos, hle⟩ := RevealSchedule.quarter_of_standardWindow? hw
    obtain ⟨hpos', hle'⟩ := RevealSchedule.quarter_of_standardWindow? hw'
    exact RevealSchedule.reveal_lt_of_quarterIndex_lt hw hw'
      ((quarterIndex_lt_iff hpos hle hpos' hle').mpr hbefore)
  · intro year quarter now
    exact RevealSchedule.isRevealed_standard_iff hfirst hlast
  · rintro year quarter now h year' quarter' hyear ⟨w, hw⟩
    -- no quarter of an earlier year has a greater number
    have hpos := (RevealSchedule.quarter_of_revealed h).1
    have hle := (RevealSchedule.quarter_of_standardWindow?
      (RevealSchedule.window?_standard_iff.mp hw).2).2
    refine RevealSchedule.isRevealed_standard_of_le h hw ?_
    unfold quarterIndex
    omega

/-- The longest schedule there is. -/
theorem standard_follows_deadline_sample :
    (Date.minYear < -262142 ∧ 262142 ≤ Date.maxYear) ∧
      FollowsDeadline (RevealSchedule.standard (-262142) 262142) (-262142) 262142 :=
  ⟨by decide, standard_follows_deadline (by decide) (by decide)⟩

/-- The days on which the quarters of 2000 are revealed. -/
example : ((RevealSchedule.standard 2000 2000).windows.map fun w =>
      (w.reveal.date.month, w.reveal.date.day)) = [(2, 15), (5, 16), (8, 15), (11, 15)] := by
  decide

end Obligations
