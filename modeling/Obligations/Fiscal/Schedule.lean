import Obligations.Calendar.Instant
import Obligations.Failure
import Obligations.Fiscal.Year

/-!
# Obligations — the reveal schedule

Agencies report a quarter within 45 days of its end, and what they reported is shown from
the day after. A `RevealSchedule` says for each fiscal quarter when that is. Its windows
are in ascending order of year and quarter, one per quarter, with quarters from 1 to 4 only;
this is part of the type.

* `RevealSchedule.ofWindows` — the schedule of the listed windows, or the first fault;
* `RevealSchedule.standard` — the schedule that follows from the deadline;
* `RevealSchedule.isRevealed`, `RevealSchedule.resolve?` — the gate that requests pass.
-/

namespace Obligations

/-- When the reports of a fiscal quarter are revealed. -/
structure SubmissionWindow where
  year : Int
  quarter : Nat
  periodEnd : Date
  reveal : Instant
deriving DecidableEq

namespace SubmissionWindow

/-- The window is for an earlier quarter. -/
def Before (a b : SubmissionWindow) : Prop :=
  a.year < b.year ∨ (a.year = b.year ∧ a.quarter < b.quarter)

instance (a b : SubmissionWindow) : Decidable (Before a b) :=
  inferInstanceAs (Decidable (_ ∨ _))

/-- The window is for this quarter. -/
def IsFor (w : SubmissionWindow) (year : Int) (quarter : Nat) : Prop :=
  w.year = year ∧ w.quarter = quarter

instance (w : SubmissionWindow) (year : Int) (quarter : Nat) : Decidable (w.IsFor year quarter) :=
  inferInstanceAs (Decidable (_ ∧ _))

theorem Before.trans {a b c : SubmissionWindow} (h : a.Before b) (h' : b.Before c) :
    a.Before c := by
  unfold Before at *
  omega

/-- Puts `w` where it belongs in an ascending list without a window for its quarter. -/
def place (w : SubmissionWindow) : List SubmissionWindow → List SubmissionWindow
  | [] => [w]
  | x :: xs => if w.Before x then w :: x :: xs else x :: place w xs

theorem mem_place {w x : SubmissionWindow} {xs : List SubmissionWindow} :
    x ∈ place w xs ↔ x = w ∨ x ∈ xs := by
  induction xs with
  | nil => simp [place]
  | cons y ys ih =>
    rw [place]
    split
    · simp
    · simp only [List.mem_cons, ih]
      exact or_left_comm

/-- A window for a quarter that has none yet leaves the others in ascending order. -/
theorem place_ascending {w : SubmissionWindow} {xs : List SubmissionWindow}
    (h : xs.Pairwise Before) (hw : ∀ x ∈ xs, ¬ x.IsFor w.year w.quarter) :
    (place w xs).Pairwise Before := by
  induction xs with
  | nil => simp [place]
  | cons y ys ih =>
    obtain ⟨hy, hys⟩ := List.pairwise_cons.mp h
    rw [place]
    split
    · next hb =>
      refine List.pairwise_cons.mpr ⟨fun z hz => ?_, h⟩
      rcases List.mem_cons.mp hz with rfl | hz
      · exact hb
      · exact hb.trans (hy z hz)
    · next hb =>
      refine List.pairwise_cons.mpr
        ⟨fun z hz => ?_, ih hys fun x hx => hw x (List.mem_cons_of_mem y hx)⟩
      rcases mem_place.mp hz with rfl | hz
      · -- `w` is not before `y` and for another quarter, so it comes after
        have hne := hw y List.mem_cons_self
        unfold Before at hb ⊢
        unfold IsFor at hne
        omega
      · exact hy z hz

end SubmissionWindow

/-! ## Schedules -/

/-- Windows in ascending order, one per quarter. -/
structure RevealSchedule where
  windows : List SubmissionWindow
  ascending : windows.Pairwise SubmissionWindow.Before
  quarters : ∀ w ∈ windows, 1 ≤ w.quarter ∧ w.quarter ≤ 4
deriving DecidableEq

namespace RevealSchedule

def empty : RevealSchedule := ⟨[], .nil, fun _ h => absurd h List.not_mem_nil⟩

/-- The window of a quarter. -/
def window? (s : RevealSchedule) (year : Int) (quarter : Nat) : Option SubmissionWindow :=
  s.windows.find? fun w => w.IsFor year quarter

/-- Adds a window, unless its quarter does not exist or has a window already. -/
def add (s : RevealSchedule) (w : SubmissionWindow) : Except ConfigFault RevealSchedule :=
  if hq : 1 ≤ w.quarter ∧ w.quarter ≤ 4 then
    if hw : ∀ x ∈ s.windows, ¬ x.IsFor w.year w.quarter then
      .ok {
        windows := w.place s.windows
        ascending := SubmissionWindow.place_ascending s.ascending hw
        quarters := fun x hx => by
          rcases SubmissionWindow.mem_place.mp hx with rfl | hx
          · exact hq
          · exact s.quarters x hx }
    else .error (.duplicateWindow w.year w.quarter)
  else .error (.windowQuarter w.year w.quarter)

/-- The schedule of the listed windows, or the fault of the first that has a bad quarter or
repeats the quarter of an earlier one. -/
def ofWindows (ws : List SubmissionWindow) : Except ConfigFault RevealSchedule :=
  ws.foldlM add empty

/-! ## The standard schedule -/

/-- The number of days agencies have to report a quarter. -/
def deadlineDays : Nat := 45

/-- The first fiscal year with quarterly reports. -/
def firstReportedYear : Int := 2017

/-- The window of a quarter that follows from the deadline, if the calendar reaches that far. -/
def standardWindow? (year : Int) (quarter : Nat) : Option SubmissionWindow := do
  let last ← quarterEnd? year quarter
  let day ← last.addDays? (deadlineDays + 1)
  return ⟨year, quarter, last, .midnight day⟩

/-- The windows of a year that follow from the deadline. -/
def standardWindows (year : Int) : List SubmissionWindow :=
  [1, 2, 3, 4].filterMap (standardWindow? year)

theorem standardWindow?_isFor {year : Int} {quarter : Nat} {w : SubmissionWindow}
    (h : standardWindow? year quarter = some w) : w.IsFor year quarter := by
  simp only [standardWindow?, Option.bind_eq_bind, Option.bind_eq_some_iff, Option.pure_def,
    Option.some.injEq] at h
  obtain ⟨_, _, _, _, rfl⟩ := h
  exact ⟨rfl, rfl⟩

theorem mem_standardWindows {year : Int} {w : SubmissionWindow}
    (h : w ∈ standardWindows year) : w.year = year ∧ 1 ≤ w.quarter ∧ w.quarter ≤ 4 := by
  obtain ⟨q, hq, hw⟩ := List.mem_filterMap.mp h
  obtain ⟨hy, rfl⟩ := standardWindow?_isFor hw
  simp only [List.mem_cons, List.not_mem_nil, or_false] at hq
  exact ⟨hy, by omega, by omega⟩

theorem standardWindows_ascending (year : Int) :
    (standardWindows year).Pairwise SubmissionWindow.Before := by
  refine List.Pairwise.filterMap _ (R := (· < ·)) ?_ (by decide)
  intro a b hab x hx y hy
  obtain ⟨hx₁, hx₂⟩ := standardWindow?_isFor hx
  obtain ⟨hy₁, hy₂⟩ := standardWindow?_isFor hy
  unfold SubmissionWindow.Before
  omega

/-- The windows of `n` years from `first` on that follow from the deadline. -/
def standardRun (first : Int) (n : Nat) : List SubmissionWindow :=
  (List.range n).flatMap fun (i : Nat) => standardWindows (first + i)

/-- The windows of years in a row are in ascending order. -/
theorem standardRun_ascending (first : Int) (n : Nat) :
    (standardRun first n).Pairwise SubmissionWindow.Before := by
  refine List.pairwise_flatMap.mpr ⟨fun i _ => standardWindows_ascending _, ?_⟩
  refine List.pairwise_lt_range.imp fun {a b} hab x hx y hy => ?_
  -- windows of different years are in the order of the years
  have hx := mem_standardWindows hx
  have hy := mem_standardWindows hy
  unfold SubmissionWindow.Before
  omega

/-- The schedule of all quarters of the years from `first` to `last` that follows from the
deadline. Years that the calendar does not reach have no windows and are passed over. -/
def standard (first last : Int) : RevealSchedule :=
  -- years that the calendar does not reach are cut off before they are counted
  let start := max first Date.minYear
  let years := (min last (Date.maxYear + 1) + 1 - start).toNat
  { windows := standardRun start years
    ascending := standardRun_ascending start years
    quarters := fun w hw => by
      obtain ⟨i, _, hi⟩ := List.mem_flatMap.mp hw
      exact (mem_standardWindows hi).2 }

/-! ## Questions -/

/-- The reports of the quarter are revealed at `now`. -/
def isRevealed (s : RevealSchedule) (year : Int) (quarter : Nat) (now : Instant) : Bool :=
  (s.window? year quarter).any fun w => w.reveal ≤ now

/-- The last day of a quarter, as the schedule has it. -/
def periodEnd? (s : RevealSchedule) (year : Int) (quarter : Nat) : Option Date :=
  (s.window? year quarter).map SubmissionWindow.periodEnd

/-- The latest quarter of a year that is revealed at `now`. -/
def lastRevealedQuarter? (s : RevealSchedule) (year : Int) (now : Instant) : Option Nat :=
  ((s.windows.filter fun w => w.year = year ∧ w.reveal ≤ now).map SubmissionWindow.quarter).max?

end RevealSchedule

/-- The fiscal quarter a request is answered for. -/
structure FiscalWindow where
  year : Int
  quarter : Nat
  periodEnd : Date
  finalPeriod : Nat
  revealed : Bool
deriving DecidableEq

/-- The fiscal window of a quarter; none until the schedule reveals it. -/
def RevealSchedule.resolve? (s : RevealSchedule) (year : Int) (quarter : Nat) (now : Instant) :
    Option FiscalWindow :=
  if s.isRevealed year quarter now then do
    let periodEnd ← s.periodEnd? year quarter
    let finalPeriod ← finalPeriod? quarter
    return ⟨year, quarter, periodEnd, finalPeriod, true⟩
  else none

/-! ## Small facts -/

namespace RevealSchedule

/-- What is found for a quarter is a window of the schedule, and for this quarter. -/
theorem window?_isFor {s : RevealSchedule} {year : Int} {quarter : Nat} {w : SubmissionWindow}
    (h : s.window? year quarter = some w) : w ∈ s.windows ∧ w.IsFor year quarter :=
  ⟨List.mem_of_find?_eq_some h, by simpa using List.find?_some h⟩

end RevealSchedule

end Obligations
