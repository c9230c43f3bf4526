import Obligations.Proofs.Fiscal.Windows

/-!
# Obligations — schedules made of windows

Windows make up a schedule if each is for a quarter that exists and no two are for the same one, in
whatever order they come. If they do not, the first that cannot be added to those before it is
reported. What is made is the list in ascending order, so that any other order makes the same.

* `Schedulable` — windows that make up a schedule;
* `RevealSchedule.Refused`, `RevealSchedule.FirstRefused` — a window that cannot be added, and the
  first;
* `RevealSchedule.exists_ofWindows_iff`, `RevealSchedule.ofWindows_eq_error_iff` — when there is a
  schedule, and what is reported when there is none;
* `RevealSchedule.IsMadeOf` — how a schedule answers to the windows it is made of;
* `schedule_from_windows` — all of this for any list of windows.
-/

namespace Obligations

/-! ## Lists of windows -/

/-- The windows are for different quarters. -/
def SubmissionWindow.Apart (a b : SubmissionWindow) : Prop := ¬ a.IsFor b.year b.quarter

theorem SubmissionWindow.Apart.symm {a b : SubmissionWindow} (h : a.Apart b) : b.Apart a := by
  rintro ⟨hyear, hquarter⟩
  exact h ⟨hyear.symm, hquarter.symm⟩

/-- Each window is for a quarter that exists, and no two are for the same one. -/
structure Schedulable (ws : List SubmissionWindow) : Prop where
  quarters : ∀ w ∈ ws, 1 ≤ w.quarter ∧ w.quarter ≤ 4
  apart    : ws.Pairwise SubmissionWindow.Apart

/-- Whether windows make up a schedule does not depend on their order. -/
theorem Schedulable.perm {ws ws' : List SubmissionWindow} (h : Schedulable ws)
    (hperm : ws.Perm ws') : Schedulable ws' where
  -- neither condition looks at the order
  quarters w hw := h.quarters w (hperm.mem_iff.mpr hw)
  apart := h.apart.perm hperm SubmissionWindow.Apart.symm

namespace RevealSchedule

variable {s t : RevealSchedule} {w : SubmissionWindow} {ws ws' : List SubmissionWindow}
  {fault : ConfigFault}

theorem schedulable_windows (s : RevealSchedule) : Schedulable s.windows where
  quarters := s.quarters
  apart := s.ascending.imp SubmissionWindow.Before.not_isFor

/-! ## What is refused -/

/-- The window is not for a quarter that exists, or for the quarter of an earlier one. -/
inductive Refused (earlier : List SubmissionWindow) (w : SubmissionWindow) : ConfigFault → Prop
  | quarter :
      ¬ (1 ≤ w.quarter ∧ w.quarter ≤ 4) → Refused earlier w (.windowQuarter w.year w.quarter)
  | duplicate {x : SubmissionWindow} :
      x ∈ earlier → x.IsFor w.year w.quarter → Refused earlier w (.duplicateWindow w.year w.quarter)

/-- The earliest window that is refused is refused for this fault. -/
def FirstRefused (ws : List SubmissionWindow) (fault : ConfigFault) : Prop :=
  ∃ earlier w later, ws = earlier ++ w :: later ∧ Schedulable earlier ∧ Refused earlier w fault

theorem Refused.perm (h : Refused ws w fault) (hperm : ws.Perm ws') : Refused ws' w fault := by
  cases h with
  | quarter hq => exact .quarter hq
  | duplicate hx hfor => exact .duplicate (hperm.mem_iff.mp hx) hfor

/-- Windows of which one is refused do not make up a schedule. -/
theorem FirstRefused.not_schedulable (h : FirstRefused ws fault) : ¬ Schedulable ws := by
  obtain ⟨earlier, w, later, rfl, -, hrefused⟩ := h
  rintro ⟨hquarters, hapart⟩
  cases hrefused with
  | quarter hq => exact hq (hquarters w (by simp))
  | duplicate hx hfor =>
    -- the two windows of one quarter are on both sides of the split
    exact (List.pairwise_append.mp hapart).2.2 _ hx w List.mem_cons_self hfor

/-- A window is refused by a schedule if it is refused after the windows of the schedule. -/
theorem add_eq_error : s.add w = .error fault ↔ Refused s.windows w fault := by
  unfold add
  constructor
  · intro h
    split at h
    · split at h
      · contradiction
      · next hw =>
        obtain ⟨x, hx, hfor⟩ : ∃ x ∈ s.windows, x.IsFor w.year w.quarter := by
          simpa using hw
        injection h with h
        exact h ▸ .duplicate hx hfor
    · next hq =>
      injection h with h
      exact h ▸ .quarter hq
  · intro h
    cases h with
    | quarter hq => rw [dif_neg hq]
    | @duplicate x hx hfor =>
      -- the schedule holds its quarter already, so it is one that exists
      have hq : 1 ≤ w.quarter ∧ w.quarter ≤ 4 := hfor.2 ▸ s.quarters x hx
      rw [dif_pos hq, dif_neg fun hw => hw x hx hfor]

/-! ## What is made -/

/-- What is reported is the fault of the first window that cannot be added. -/
theorem firstRefused_of_ofWindows (h : ofWindows ws = .error fault) : FirstRefused ws fault := by
  -- what was made of the windows before holds these windows, in another order
  obtain ⟨earlier, w, later, s, rfl, hs, hadd⟩ := foldlM_eq_error.mp h
  have hperm : s.windows.Perm earlier := perm_of_ofWindows hs
  exact ⟨earlier, w, later, rfl, s.schedulable_windows.perm hperm,
    (add_eq_error.mp hadd).perm hperm⟩

/-- There is a schedule of windows if and only if they make up one. -/
theorem exists_ofWindows_iff : (∃ s, ofWindows ws = .ok s) ↔ Schedulable ws := by
  constructor
  · rintro ⟨s, hs⟩
    exact s.schedulable_windows.perm (perm_of_ofWindows hs)
  · intro hws
    -- either something is made of them, or a window among them is at fault
    cases h : ofWindows ws with
    | ok s => exact ⟨s, rfl⟩
    | error fault => exact absurd hws (firstRefused_of_ofWindows h).not_schedulable

theorem ofWindows_eq_error_iff : ofWindows ws = .error fault ↔ FirstRefused ws fault := by
  constructor
  · exact firstRefused_of_ofWindows
  · rintro ⟨earlier, w, later, rfl, hearlier, hrefused⟩
    -- those before it make up a schedule, to which it cannot be added
    obtain ⟨s, hs⟩ := exists_ofWindows_iff.mpr hearlier
    have hadd := add_eq_error.mpr (hrefused.perm (perm_of_ofWindows hs).symm)
    exact foldlM_eq_error.mpr ⟨earlier, w, later, s, rfl, hs, hadd⟩

/-- There is one ascending order only. -/
theorem eq_of_perm (h : s.windows.Perm t.windows) : s = t :=
  eq_of_windows (h.eq_of_pairwise (fun _ _ _ _ hab hba => absurd hba hab.asymm) s.ascending
    t.ascending)

/-- The same windows in another order make the same schedule. -/
theorem ofWindows_of_perm (h : ofWindows ws = .ok s) (hperm : ws'.Perm ws) :
    ofWindows ws' = .ok s := by
  have hws := exists_ofWindows_iff.mp ⟨s, h⟩
  obtain ⟨t, ht⟩ := exists_ofWindows_iff.mpr (hws.perm hperm.symm)
  -- both schedules hold the windows in ascending order
  have hsame : t.windows.Perm s.windows :=
    (perm_of_ofWindows ht).trans (hperm.trans (perm_of_ofWindows h).symm)
  rw [ht, eq_of_perm hsame]

/-- The schedule is the list of the windows in ascending order, whatever order they came in. -/
structure IsMadeOf (s : RevealSchedule) (ws : List SubmissionWindow) : Prop where
  perm      : s.windows.Perm ws
  ascending : s.windows.Pairwise SubmissionWindow.Before
  found     : ∀ year quarter w,
                s.window? year quarter = some w ↔ w ∈ ws ∧ w.IsFor year quarter
  length    : s.windows.length = ws.length
  anyOrder  : ∀ ws', ws'.Perm ws → ofWindows ws' = .ok s

theorem isMadeOf_of_ofWindows (h : ofWindows ws = .ok s) : s.IsMadeOf ws where
  perm := perm_of_ofWindows h
  ascending := s.ascending
  found year quarter w := by
    rw [window?_eq_some, (perm_of_ofWindows h).mem_iff]
  length := (perm_of_ofWindows h).length_eq
  anyOrder _ := ofWindows_of_perm h

end RevealSchedule

/-- **Schedules are made of windows.** There is a schedule of the windows of a list if and only if
each is for a quarter that exists and no two are for the same one; otherwise the earliest window at
fault is reported. The schedule does not depend on the order of the list, and every schedule is made
again of its own windows. -/
theorem schedule_from_windows (ws : List SubmissionWindow) :
    ((∃ s, RevealSchedule.ofWindows ws = .ok s) ↔ Schedulable ws) ∧
    (∀ fault, RevealSchedule.ofWindows ws = .error fault ↔ RevealSchedule.FirstRefused ws fault) ∧
    (∀ s, RevealSchedule.ofWindows ws = .ok s → s.IsMadeOf ws) ∧
    (∀ s : RevealSchedule, RevealSchedule.ofWindows s.windows = .ok s) := by
  refine ⟨RevealSchedule.exists_ofWindows_iff, ?_, ?_, RevealSchedule.ofWindows_windows⟩
  · intro fault
    exact RevealSchedule.ofWindows_eq_error_iff
  · intro s hs
    exact RevealSchedule.isMadeOf_of_ofWindows hs

namespace Sample

def endOfMarch : Date := (Date.of? 2020 3 31).get (by decide)

/-- A window of a quarter of 2020, whatever the quarter. -/
def windowOf (quarter : Nat) : SubmissionWindow := ⟨2020, quarter, endOfMarch, .midnight endOfMarch⟩

def twoQuarters : RevealSchedule where
  windows   := [windowOf 2, windowOf 4]
  ascending := by decide
  quarters  := by decide

end Sample

/-- Two windows in descending order, and a list with a bad quarter before a repeated one. -/
theorem schedule_from_windows_sample :
    (RevealSchedule.ofWindows [Sample.windowOf 4, Sample.windowOf 2] = .ok Sample.twoQuarters ∧
      Sample.twoQuarters.IsMadeOf [Sample.windowOf 4, Sample.windowOf 2]) ∧
    RevealSchedule.ofWindows [Sample.windowOf 2, Sample.windowOf 5, Sample.windowOf 2] =
      .error (.windowQuarter 2020 5) := by
  have hmade : RevealSchedule.ofWindows [Sample.windowOf 4, Sample.windowOf 2] =
      .ok Sample.twoQuarters := ok_of_toOption (by decide)
  have hfirst : RevealSchedule.FirstRefused
      [Sample.windowOf 2, Sample.windowOf 5, Sample.windowOf 2] (.windowQuarter 2020 5) :=
    ⟨[Sample.windowOf 2], Sample.windowOf 5, [Sample.windowOf 2], rfl,
      ⟨by decide, List.pairwise_singleton _ _⟩, .quarter (by decide)⟩
  exact ⟨⟨hmade, (schedule_from_windows _).2.2.1 _ hmade⟩,
    ((schedule_from_windows _).2.1 _).mpr hfirst⟩

end Obligations
