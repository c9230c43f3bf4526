import Mathlib.Order.Bounds.Defs
import Obligations.Proofs.Fiscal.Window
import Obligations.Proofs.Fiscal.Windows

/-!
# Obligations — what a schedule is asked

A schedule is asked whether a quarter is revealed, what window a quarter is resolved to, and which
is the latest quarter of a year that is revealed. All answers come from the windows whose time has
come. Since a schedule holds quarters from 1 to 4 only, and each of them once, the answers never
contradict each other, in whatever order its windows are revealed.

* `RevealSchedule.mem_revealedQuarters` — the quarters of a year that the latest is chosen from;
* `RevealSchedule.lastRevealedQuarter?_eq_some_iff`,
  `RevealSchedule.lastRevealedQuarter?_eq_none_iff` — which one it is, and when there is none;
* `RevealSchedule.isSome_resolve?`, `RevealSchedule.resolve?_eq_some` — what quarters are resolved
  to;
* `ViewsAgree`, `views_agree` — all answers about a year, at two instants.
-/

namespace Obligations

namespace RevealSchedule

variable {s : RevealSchedule} {year : Int} {quarter k : Nat} {now later : Instant}
  {window : FiscalWindow}

/-! ## The latest quarter -/

/-- The quarters of a year that are revealed. -/
def revealedQuarters (s : RevealSchedule) (year : Int) (now : Instant) : List Nat :=
  (s.windows.filter fun w => w.year = year ∧ w.reveal ≤ now).map SubmissionWindow.quarter

theorem mem_revealedQuarters :
    quarter ∈ s.revealedQuarters year now ↔ s.isRevealed year quarter now = true := by
  rw [revealedQuarters, List.mem_map, isRevealed_iff]
  constructor
  · -- the schedule has one window for each quarter, so the one that is listed is the one that is
    -- found
    rintro ⟨w, hw, rfl⟩
    obtain ⟨hmem, hopen⟩ := List.mem_filter.mp hw
    obtain ⟨rfl, hreveal⟩ := of_decide_eq_true hopen
    exact ⟨w, window?_of_mem hmem, hreveal⟩
  · rintro ⟨w, hw, hreveal⟩
    obtain ⟨hmem, hyear, hquarter⟩ := window?_isFor hw
    exact ⟨w, List.mem_filter.mpr ⟨hmem, decide_eq_true ⟨hyear, hreveal⟩⟩, hquarter⟩

/-- The latest quarter is the greatest that is revealed. -/
theorem lastRevealedQuarter?_eq_some_iff :
    s.lastRevealedQuarter? year now = some k ↔
      IsGreatest {q | s.isRevealed year q now = true} k := by
  -- a quarter is revealed if and only if it is one of those that the latest is chosen from
  show (s.revealedQuarters year now).max? = some k ↔ _
  rw [List.max?_eq_some_iff]
  constructor
  · rintro ⟨hk, hmax⟩
    exact ⟨mem_revealedQuarters.mp hk, fun q hq => hmax q (mem_revealedQuarters.mpr hq)⟩
  · rintro ⟨hk, hmax⟩
    exact ⟨mem_revealedQuarters.mpr hk, fun q hq => hmax (mem_revealedQuarters.mp hq)⟩

theorem lastRevealedQuarter?_eq_none_iff :
    s.lastRevealedQuarter? year now = none ↔ ∀ q, s.isRevealed year q now = false := by
  show (s.revealedQuarters year now).max? = none ↔ _
  rw [List.max?_eq_none_iff, List.eq_nil_iff_forall_not_mem]
  simp only [mem_revealedQuarters, Bool.not_eq_true]

/-- If any quarter is revealed there is a latest one. -/
theorem exists_lastRevealedQuarter? (h : s.isRevealed year quarter now = true) :
    ∃ k, s.lastRevealedQuarter? year now = some k ∧ quarter ≤ k := by
  cases hlast : s.lastRevealedQuarter? year now with
  | none =>
    rw [lastRevealedQuarter?_eq_none_iff.mp hlast quarter] at h
    contradiction
  | some k => exact ⟨k, rfl, (lastRevealedQuarter?_eq_some_iff.mp hlast).2 h⟩

/-! ## Resolved quarters -/

/-- The quarters that are resolved are those that are revealed. -/
theorem isSome_resolve? :
    (s.resolve? year quarter now).isSome = s.isRevealed year quarter now := by
  cases h : s.isRevealed year quarter now with
  | false =>
    rw [resolve?_of_hidden h]
    rfl
  | true =>
    obtain ⟨last, -, hwindow⟩ := resolve?_of_revealed h
    rw [hwindow]
    rfl

/-- What a quarter is resolved to repeats it, with the end date of the schedule and its final
period. -/
theorem resolve?_eq_some (h : s.resolve? year quarter now = some window) :
    ∃ last, s.periodEnd? year quarter = some last ∧
      window = ⟨year, quarter, last, 3 * quarter, true⟩ := by
  have hrevealed : s.isRevealed year quarter now = true := by
    rw [← isSome_resolve?, h]
    rfl
  obtain ⟨last, hlast, hwindow⟩ := resolve?_of_revealed hrevealed
  rw [hwindow] at h
  exact ⟨last, hlast, (Option.some.inj h).symm⟩

end RevealSchedule

/-! ## The answers together -/

/-- What a schedule answers about a year, at one instant and at a later one. -/
structure ViewsAgree (s : RevealSchedule) (year : Int) (now later : Instant) : Prop where
  resolved : ∀ quarter,
    (s.resolve? year quarter now).isSome = true ↔ s.isRevealed year quarter now = true
  window   : ∀ quarter window, s.resolve? year quarter now = some window →
    window.year = year ∧ window.quarter = quarter ∧ window.finalPeriod = 3 * quarter ∧
      window.revealed = true ∧ s.periodEnd? year quarter = some window.periodEnd
  stays    : ∀ quarter,
    s.isRevealed year quarter now = true → s.isRevealed year quarter later = true
  last     : ∀ k, s.lastRevealedQuarter? year now = some k ↔
    IsGreatest {q | (s.resolve? year q now).isSome = true} k
  none     : s.lastRevealedQuarter? year now = none ↔ ∀ q, s.resolve? year q now = none
  grows    : ∀ k, s.lastRevealedQuarter? year now = some k →
    ∃ k', s.lastRevealedQuarter? year later = some k' ∧ k ≤ k'

/-- **The answers of a schedule agree.** However its windows follow each other in time, whatever is
revealed is resolved to the window that was asked for and stays revealed, and the latest quarter is
the greatest that is resolved, which never goes back. -/
theorem views_agree (s : RevealSchedule) (year : Int) {now later : Instant} (h : now ≤ later) :
    ViewsAgree s year now later := by
  refine { resolved := ?_, window := ?_, stays := ?_, last := ?_, none := ?_, grows := ?_ }
  · intro quarter
    rw [RevealSchedule.isSome_resolve?]
  · intro quarter window hwindow
    obtain ⟨last, hlast, rfl⟩ := RevealSchedule.resolve?_eq_some hwindow
    exact ⟨rfl, rfl, rfl, rfl, hlast⟩
  · intro quarter
    exact RevealSchedule.isRevealed_of_le h
  · intro k
    simp only [RevealSchedule.isSome_resolve?]
    exact RevealSchedule.lastRevealedQuarter?_eq_some_iff
  · -- a quarter is hidden if and only if it is not resolved
    rw [RevealSchedule.lastRevealedQuarter?_eq_none_iff]
    refine forall_congr' fun q => ?_
    rw [← RevealSchedule.isSome_resolve?, Option.isSome_eq_false_iff, Option.isNone_iff_eq_none]
  · intro k hk
    -- the quarter that was the latest is still revealed
    have hrevealed := (RevealSchedule.lastRevealedQuarter?_eq_some_iff.mp hk).1
    exact RevealSchedule.exists_lastRevealedQuarter? (RevealSchedule.isRevealed_of_le h hrevealed)

namespace Sample

def endOfJune : Date := (Date.of? 2020 6 30).get (by decide)

def newYear : Date := (Date.of? 2021 1 1).get (by decide)

/-- The first quarter is revealed after the third, and the second is missing. -/
def crossedSchedule : RevealSchedule where
  windows   := [⟨2020, 1, endOfJune, .midnight newYear⟩, ⟨2020, 3, endOfJune, .midnight endOfJune⟩]
  ascending := by decide
  quarters  := by decide

end Sample

theorem views_agree_sample :
    Instant.midnight Sample.endOfJune ≤ Instant.midnight Sample.newYear ∧
    ViewsAgree Sample.crossedSchedule 2020 (.midnight Sample.endOfJune) (.midnight Sample.newYear) ∧
    Sample.crossedSchedule.isRevealed 2020 1 (.midnight Sample.endOfJune) = false ∧
    Sample.crossedSchedule.lastRevealedQuarter? 2020 (.midnight Sample.endOfJune) = some 3 :=
  ⟨by decide, views_agree Sample.crossedSchedule 2020 (by decide), by decide, by decide⟩

end Obligations
