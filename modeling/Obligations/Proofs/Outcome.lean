import Obligations.Query

/-!
# Obligations — outcomes and runs

How a sequence of steps ends follows from how its steps end. These lemmas take computations
apart step by step, so that no later proof opens a bind.

* `bind_eq_ok`, `map_eq_ok`, `mapError_eq_ok` — what a sequence that ends well has gone through;
* `bind_eq_error`, `map_eq_error`, `mapError_eq_error`, `foldlM_eq_error` — where one that fails
  comes from;
* `OnlyOverflows` — a computation that can fail in one way only, by leaving the range of
  amounts; kept by sequencing and by folds;
* `Run.outcome_bind` — a run ends as its outcomes do in sequence;
* `Run.bind_of_ok`, `Run.bind_of_error` — and asks what its steps ask until one fails.
-/

namespace Obligations

variable {α β : Type}

/-! ## Outcomes -/

/-- A sequence that ended well went through a first value. -/
theorem bind_eq_ok {ε : Type} {x : Except ε α} {f : α → Except ε β} {b : β} :
    (x >>= f) = .ok b ↔ ∃ a, x = .ok a ∧ f a = .ok b := by
  -- either side is settled by how the first part ended
  cases x with
  | error e => simp [bind, Except.bind]
  | ok a => simp [bind, Except.bind]

/-- A sequence that failed did so in its first part, or after it. -/
theorem bind_eq_error {ε : Type} {x : Except ε α} {f : α → Except ε β} {e : ε} :
    (x >>= f) = .error e ↔ x = .error e ∨ ∃ a, x = .ok a ∧ f a = .error e := by
  cases x with
  | error e' => simp [bind, Except.bind]
  | ok a => simp [bind, Except.bind]

/-- What is done with a value in the end was done with the value of the computation. -/
theorem map_eq_ok {ε : Type} {x : Except ε α} {f : α → β} {b : β} :
    x.map f = .ok b ↔ ∃ a, x = .ok a ∧ f a = b := by
  cases x with
  | error e => simp [Except.map]
  | ok a => simp [Except.map]

theorem map_eq_error {ε : Type} {x : Except ε α} {f : α → β} {e : ε} :
    x.map f = .error e ↔ x = .error e := by
  cases x <;> simp [Except.map]

theorem mapError_eq_ok {ε ε' : Type} {x : Except ε α} {f : ε → ε'} {a : α} :
    x.mapError f = .ok a ↔ x = .ok a := by
  cases x with
  | error e =>
    constructor
    · intro h
      exact nomatch h
    · intro h
      exact nomatch h
  | ok b =>
    constructor
    · intro h
      injection h with h
      rw [h]
    · intro h
      injection h with h
      rw [h]
      rfl

/-- To change the failure leaves values as they are, and every failure comes from one of the
computation. -/
theorem mapError_eq_error {ε ε' : Type} {x : Except ε α} {f : ε → ε'} {e : ε'} :
    x.mapError f = .error e ↔ ∃ e', x = .error e' ∧ f e' = e := by
  -- only a failure is changed
  cases x with
  | error e' =>
    constructor
    · intro h
      injection h with h
      exact ⟨e', rfl, h⟩
    · rintro ⟨e'', h, rfl⟩
      injection h with h
      rw [h]
      rfl
  | ok a =>
    constructor
    · intro h
      exact nomatch h
    · rintro ⟨_, h, _⟩
      exact nomatch h

/-- A fold fails at the first step that does. -/
theorem foldlM_eq_error {ε : Type} {f : β → α → Except ε β} {as : List α} {b : β} {e : ε} :
    as.foldlM f b = .error e ↔ ∃ before a after b', as = before ++ a :: after ∧
      before.foldlM f b = .ok b' ∧ f b' a = .error e := by
  -- on the steps that are left, from the state that the steps before have led to
  induction as generalizing b with
  | nil =>
    constructor
    · intro h
      injection h
    · rintro ⟨before, a, after, b', has, -⟩
      exact absurd has.symm (List.append_ne_nil_of_right_ne_nil before (List.cons_ne_nil a after))
  | cons a as ih =>
    rw [List.foldlM_cons, bind_eq_error]
    constructor
    · -- either this step fails, or it goes on and a later one does
      rintro (h | ⟨b', hstep, h⟩)
      · exact ⟨[], a, as, b, rfl, rfl, h⟩
      · obtain ⟨before, x, after, b'', rfl, hbefore, h⟩ := ih.mp h
        refine ⟨a :: before, x, after, b'', rfl, ?_, h⟩
        rw [List.foldlM_cons]
        exact bind_eq_ok.mpr ⟨b', hstep, hbefore⟩
    · rintro ⟨before, x, after, b', has, hbefore, h⟩
      -- the step that fails is this one, or one behind it
      cases before with
      | nil =>
        obtain ⟨rfl, rfl⟩ := List.cons.inj has
        injection hbefore with hbefore
        exact Or.inl (hbefore ▸ h)
      | cons y before =>
        obtain ⟨rfl, rfl⟩ := List.cons.inj has
        rw [List.foldlM_cons] at hbefore
        obtain ⟨b'', hstep, hbefore⟩ := bind_eq_ok.mp hbefore
        exact Or.inr ⟨b'', hstep, ih.mpr ⟨before, x, after, b', rfl, hbefore, h⟩⟩

/-- An outcome whose failures cannot be compared is compared as a value. -/
theorem ok_of_toOption {ε : Type} {x : Except ε α} {a : α} (h : x.toOption = some a) :
    x = .ok a := by
  cases x with
  | error _ => exact nomatch h
  | ok b =>
    injection h with h
    rw [h]

/-- If the computation fails, then because a number is too large. -/
def OnlyOverflows (x : Except Failure α) : Prop := ∀ f, x = .error f → ∃ op, f = .overflow op

theorem onlyOverflows_ok (a : α) : OnlyOverflows (.ok a) := fun _ h => nomatch h

/-- In sequence, such computations have no new way to fail. -/
theorem onlyOverflows_bind {x : Except Failure α} {f : α → Except Failure β}
    (hx : OnlyOverflows x) (hf : ∀ a, OnlyOverflows (f a)) : OnlyOverflows (x >>= f) := by
  intro e he
  cases x with
  | error e' =>
    -- the sequence fails as its first part does
    have hfail : (.error e' : Except Failure β) = .error e := he
    injection hfail with hfail
    exact hx e (congrArg Except.error hfail)
  | ok a => exact hf a e he

theorem onlyOverflows_map {x : Except Failure α} (hx : OnlyOverflows x) (f : α → β) :
    OnlyOverflows (f <$> x) := by
  intro e he
  -- to change the value is no cure for a failure
  cases x with
  | error e' =>
    have hfail : (.error e' : Except Failure β) = .error e := he
    injection hfail with hfail
    exact hx e (congrArg Except.error hfail)
  | ok a => exact nomatch he

theorem onlyOverflows_foldlM {f : β → α → Except Failure β}
    (hf : ∀ b a, OnlyOverflows (f b a)) (as : List α) (b : β) :
    OnlyOverflows (as.foldlM f b) := by
  -- on the steps, from any state
  induction as generalizing b with
  | nil => exact onlyOverflows_ok b
  | cons a as ih =>
    rw [List.foldlM_cons]
    exact onlyOverflows_bind (hf b a) ih

/-! ## Runs -/

namespace Run

/-- The outcome of a run does not depend on what was asked. -/
theorem outcome_bind (x : Run α) (f : α → Run β) :
    (x >>= f).outcome = x.outcome >>= fun a => (f a).outcome := by
  show (Run.bind x f).outcome = _
  unfold Run.bind
  cases hx : x.outcome <;> rfl

/-- A run that goes on asks what comes later after what was asked before. -/
theorem bind_of_ok {x : Run α} {a : α} (h : x.outcome = .ok a) (f : α → Run β) :
    (x >>= f) = ⟨x.queries ++ (f a).queries, (f a).outcome⟩ := by
  show Run.bind x f = _
  unfold Run.bind
  rw [h]

/-- A run that fails asks nothing more. -/
theorem bind_of_error {x : Run α} {e : Failure} (h : x.outcome = .error e) (f : α → Run β) :
    (x >>= f) = ⟨x.queries, .error e⟩ := by
  show Run.bind x f = _
  unfold Run.bind
  rw [h]

end Run

end Obligations
