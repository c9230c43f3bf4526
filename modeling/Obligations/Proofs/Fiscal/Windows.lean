import Obligations.Fiscal.Schedule
import Obligations.Proofs.Outcome

/-!
# Obligations — schedules as lists of windows

A schedule is told by its windows: it is obtained again from the list of them, and each of them is
found under its own year and quarter. A schedule that is made from a list has the windows of the
list and no others.

* `RevealSchedule.ofWindows_windows` — the schedule of the windows of a schedule;
* `RevealSchedule.perm_of_ofWindows` — where windows come from;
* `RevealSchedule.window?_eq_some` — where a window is found.
-/

namespace Obligations

namespace SubmissionWindow

variable {w x : SubmissionWindow} {xs : List SubmissionWindow}

/-- Windows that come one before the other are for different quarters. -/
theorem Before.not_isFor (h : x.Before w) : ¬ x.IsFor w.year w.quarter := by
  unfold Before at h
  unfold IsFor
  omega

/-- To put a window in its place adds it and nothing else. -/
theorem place_perm : (w.place xs).Perm (w :: xs) := by
  induction xs with
  | nil => exact .refl _
  | cons x xs ih =>
    rw [place]
    split
    · exact .refl _
    · exact (ih.cons x).trans (.swap w x xs)

theorem Before.asymm (h : x.Before w) : ¬ w.Before x := by
  unfold Before at *
  omega

/-- A window that is later than all others goes to the end. -/
theorem place_of_before (h : ∀ x ∈ xs, x.Before w) : w.place xs = xs ++ [w] := by
  induction xs with
  | nil => rfl
  | cons x xs ih =>
    rw [place, if_neg (h x List.mem_cons_self).asymm,
      ih fun y hy => h y (List.mem_cons_of_mem x hy)]
    rfl

end SubmissionWindow

namespace RevealSchedule

variable {s t : RevealSchedule} {w : SubmissionWindow} {ws : List SubmissionWindow}

theorem eq_of_windows (h : s.windows = t.windows) : s = t := by
  -- the other fields are proofs
  obtain ⟨windows, _, _⟩ := s
  obtain ⟨windows', _, _⟩ := t
  obtain rfl : windows = windows' := h
  rfl

/-- A window is added if its quarter exists and no window is for it yet. -/
theorem add_eq_ok : s.add w = .ok t ↔
    (1 ≤ w.quarter ∧ w.quarter ≤ 4) ∧ (∀ x ∈ s.windows, ¬ x.IsFor w.year w.quarter) ∧
      t.windows = w.place s.windows := by
  unfold add
  constructor
  · intro h
    split at h
    · next hq =>
      split at h
      · next hw =>
        injection h with h
        exact ⟨hq, hw, by rw [← h]⟩
      · contradiction
    · contradiction
  · rintro ⟨hq, hw, hwindows⟩
    rw [dif_pos hq, dif_pos hw]
    exact congrArg Except.ok (eq_of_windows hwindows.symm)

/-! ## From the windows -/

/-- Windows in ascending order are added one behind the other. -/
theorem foldlM_add_windows (hws : t.windows = s.windows ++ ws) : ws.foldlM add s = .ok t := by
  -- what was added stands in front of what is to come, and `t` has both in ascending order
  induction ws generalizing s with
  | nil =>
    rw [List.append_nil] at hws
    exact congrArg Except.ok (eq_of_windows hws.symm)
  | cons w ws ih =>
    have hascending := t.ascending
    rw [hws, List.pairwise_append] at hascending
    -- all windows so far come before this one
    have hbefore (x : SubmissionWindow) (hx : x ∈ s.windows) : x.Before w :=
      hascending.2.2 x hx w List.mem_cons_self
    have hquarter := t.quarters w (by simp [hws])
    -- the schedule after this window
    have hsorted : (s.windows ++ [w]).Pairwise SubmissionWindow.Before :=
      List.pairwise_append.mpr ⟨s.ascending, List.pairwise_singleton _ w, by simpa using hbefore⟩
    have hquarters : ∀ x ∈ s.windows ++ [w], 1 ≤ x.quarter ∧ x.quarter ≤ 4 := by
      simp only [List.forall_mem_append, List.forall_mem_singleton]
      exact ⟨s.quarters, hquarter⟩
    have hadd : s.add w = .ok ⟨s.windows ++ [w], hsorted, hquarters⟩ :=
      add_eq_ok.mpr ⟨hquarter, fun x hx => (hbefore x hx).not_isFor,
        (SubmissionWindow.place_of_before hbefore).symm⟩
    rw [List.foldlM_cons]
    exact bind_eq_ok.mpr ⟨_, hadd, ih (by simp [hws])⟩

/-- A schedule is obtained again from its windows. -/
theorem ofWindows_windows (s : RevealSchedule) : ofWindows s.windows = .ok s :=
  foldlM_add_windows rfl

/-- Nothing is lost on the way, and nothing comes in. -/
theorem perm_of_foldlM_add (h : ws.foldlM add s = .ok t) : t.windows.Perm (s.windows ++ ws) := by
  induction ws generalizing s with
  | nil =>
    injection h with h
    rw [h, List.append_nil]
  | cons x ws ih =>
    rw [List.foldlM_cons] at h
    obtain ⟨s', hadd, h⟩ := bind_eq_ok.mp h
    -- one window goes from the list into the schedule
    have hplaced : s'.windows.Perm (x :: s.windows) := by
      rw [(add_eq_ok.mp hadd).2.2]
      exact SubmissionWindow.place_perm
    calc
      t.windows.Perm (s'.windows ++ ws) := ih h
      List.Perm _ (x :: s.windows ++ ws) := hplaced.append_right ws
      List.Perm _ (s.windows ++ x :: ws) := List.perm_middle.symm

/-- A schedule has the windows it was made of. -/
theorem perm_of_ofWindows (h : ofWindows ws = .ok s) : s.windows.Perm ws := perm_of_foldlM_add h

theorem mem_of_ofWindows (h : ofWindows ws = .ok s) (hw : w ∈ s.windows) : w ∈ ws :=
  (perm_of_ofWindows h).mem_iff.mp hw

/-! ## Where a window is found -/

/-- A window is found under its own year and quarter. -/
theorem window?_of_mem (h : w ∈ s.windows) : s.window? w.year w.quarter = some w := by
  obtain ⟨before, after, hsplit⟩ := List.append_of_mem h
  refine List.find?_eq_some_iff_append.mpr ⟨decide_eq_true ⟨rfl, rfl⟩, before, after, hsplit, ?_⟩
  intro x hx
  -- whatever stands in front is for an earlier quarter
  have hascending := s.ascending
  rw [hsplit, List.pairwise_append] at hascending
  have hbefore := hascending.2.2 x hx w List.mem_cons_self
  simpa using hbefore.not_isFor

/-- What is found under a year and a quarter is the window of the schedule that is for it. -/
theorem window?_eq_some {year : Int} {quarter : Nat} :
    s.window? year quarter = some w ↔ w ∈ s.windows ∧ w.IsFor year quarter := by
  constructor
  · exact window?_isFor
  · rintro ⟨hmem, rfl, rfl⟩
    exact window?_of_mem hmem

end RevealSchedule

end Obligations
