import Obligations.Fiscal.Schedule

/-!
# Obligations — resolved windows

A request is answered for the window of its quarter once the schedule reveals it, and for
no window before. The window repeats what was asked, with the end date of the schedule and
the final period of the quarter.

* `RevealSchedule.isRevealed_iff` — what is revealed is in the schedule;
* `RevealSchedule.isRevealed_of_le` — and stays revealed;
* `RevealSchedule.resolve?_of_revealed`, `RevealSchedule.resolve?_of_hidden` — resolving
  a quarter, revealed or not.
-/

namespace Obligations

namespace RevealSchedule

variable {s : RevealSchedule} {year : Int} {quarter : Nat} {now later : Instant}

/-- A quarter is revealed if it has a window and the time of this window has come. -/
theorem isRevealed_iff : s.isRevealed year quarter now = true ↔
    ∃ w, s.window? year quarter = some w ∧ w.reveal ≤ now := by
  simp [isRevealed, Option.any_eq_true]

/-- What is revealed stays revealed. -/
theorem isRevealed_of_le (hle : now ≤ later) (h : s.isRevealed year quarter now = true) :
    s.isRevealed year quarter later = true := by
  obtain ⟨w, hw, hreveal⟩ := isRevealed_iff.mp h
  exact isRevealed_iff.mpr ⟨w, hw, Instant.le_trans hreveal hle⟩

/-- Schedules hold quarters from 1 to 4 only, so no other number is ever revealed. -/
theorem quarter_of_revealed (h : s.isRevealed year quarter now = true) :
    1 ≤ quarter ∧ quarter ≤ 4 := by
  -- the window that is found is one of the schedule, which checks its quarters
  obtain ⟨w, hw, -⟩ := isRevealed_iff.mp h
  obtain ⟨hmem, -, hquarter⟩ := window?_isFor hw
  rw [← hquarter]
  exact s.quarters w hmem

theorem finalPeriod?_of_revealed (h : s.isRevealed year quarter now = true) :
    finalPeriod? quarter = some (3 * quarter) := by
  obtain ⟨hpos, hle⟩ := quarter_of_revealed h
  exact finalPeriod?_eq_some.mpr ⟨hpos, hle, rfl⟩

/-- A revealed quarter is resolved to the window of its end date and its final period. -/
theorem resolve?_of_revealed (h : s.isRevealed year quarter now = true) :
    ∃ last, s.periodEnd? year quarter = some last ∧
      s.resolve? year quarter now = some ⟨year, quarter, last, 3 * quarter, true⟩ := by
  obtain ⟨w, hw, -⟩ := isRevealed_iff.mp h
  -- the window that is revealed is the one the end date is taken from
  have hlast : s.periodEnd? year quarter = some w.periodEnd := by
    rw [periodEnd?, hw]
    rfl
  refine ⟨w.periodEnd, hlast, ?_⟩
  rw [resolve?, if_pos h, hlast, finalPeriod?_of_revealed h]
  rfl

theorem resolve?_of_hidden (h : s.isRevealed year quarter now = false) :
    s.resolve? year quarter now = none := by
  rw [resolve?, h]
  rfl

end RevealSchedule

end Obligations
