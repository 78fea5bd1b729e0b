import Stencil.Session

/-!
# Outcomes

A computation started in a state gives a result or a failure, and in both cases a state after it.
`outcome` is that pair. The rules here say what the outcome of a composed computation is in terms of
the outcomes of its parts; proofs about evaluation and rendering take computations apart with them
and look no further into the monads.
-/

set_option autoImplicit false

namespace Stencil

variable {α β : Type}

/-- A result that gives something is a success. -/
theorem eq_ok_of_toOption {r : Except Failure α} {a : α} (h : r.toOption = some a) : r = .ok a := by
  cases r with
  | error e => cases h
  | ok b =>
    cases h
    rfl

/-- A sequence that succeeds has a first part that succeeds. -/
theorem eq_ok_of_bind_eq_ok {ε : Type} {x : Except ε α} {f : α → Except ε β} {b : β}
    (h : (x >>= f) = .ok b) : ∃ a, x = .ok a ∧ f a = .ok b := by
  cases x with
  | error e => cases h
  | ok a => exact ⟨a, rfl, h⟩

namespace Eval

/-- What a computation gives in a state, and the state after it. -/
def outcome (x : Eval α) (m : Machine) : Except Failure α × Machine := x.run.run m

@[simp] theorem outcome_pure (a : α) (m : Machine) : outcome (pure a) m = (.ok a, m) := rfl

@[simp] theorem outcome_throw (e : Failure) (m : Machine) :
    outcome (throw e : Eval α) m = (.error e, m) := rfl

/-- A sequence stops at the first failure, in the state that the failure left. -/
theorem outcome_bind (x : Eval α) (f : α → Eval β) (m : Machine) :
    outcome (x >>= f) m = match outcome x m with
      | (.ok a, n) => outcome (f a) n
      | (.error e, n) => (.error e, n) := by
  simp only [outcome, ExceptT.run_bind, StateT.run_bind]
  cases x.run.run m with
  | mk r n => cases r <;> rfl

/-- A handler starts in the state that the failure left; only ordinary failures are handed to it. -/
theorem outcome_orElse (x : Eval α) (handler : Failure → Eval α) (m : Machine) :
    outcome (orElse x handler) m = match outcome x m with
      | (.ok a, n) => (.ok a, n)
      | (.error e, n) => if e.isOrdinary then outcome (handler e) n else (.error e, n) := by
  simp only [outcome, orElse, tryCatch, tryCatchThe, MonadExceptOf.tryCatch, ExceptT.tryCatch,
    ExceptT.run_mk, StateT.run_bind]
  cases h : x.run.run m with
  | mk r n =>
    rw [show StateT.run x m = (r, n) from h]
    cases r with
    | ok a => rfl
    | error e =>
      show StateT.run (if e.isOrdinary then handler e else (throw e : Eval α)) n =
        if e.isOrdinary then StateT.run (handler e) n else (.error e, n)
      split <;> rfl

/-- What looks at the cells and changes them touches nothing else. -/
theorem outcome_acting (f : Cells → α × Cells) (m : Machine) :
    outcome (acting f) m = (.ok (f m.cells).1, { m with cells := (f m.cells).2 }) := rfl

@[simp] theorem outcome_asking (f : Cells → α) (m : Machine) :
    outcome (asking f) m = (.ok (f m.cells), m) := rfl

@[simp] theorem outcome_ofExcept (r : Except Failure α) (m : Machine) :
    outcome (ofExcept r) m = (r, m) := by
  cases r <;> rfl

theorem outcome_textOf {v : Value} {t : Text} {m : Machine}
    (h : (v.now m.cells).output? = some t) : outcome (textOf v) m = (.ok t, m) := by
  rw [textOf, outcome_bind, outcome_asking]
  show outcome (required (v.now m.cells).output?) m = _
  rw [h]
  rfl

end Eval

namespace Work

/-- What a computation gives in a session, and the session after it. -/
def outcome (x : Work α) (s : Session) : Except Failure α × Session := x.run.run s

/-- Computations with the same outcomes are the same. -/
theorem eq_of_outcome {x y : Work α} (h : ∀ s, x.outcome s = y.outcome s) : x = y := funext h

@[simp] theorem outcome_pure (a : α) (s : Session) : outcome (pure a) s = (.ok a, s) := rfl

@[simp] theorem outcome_throw (e : Failure) (s : Session) :
    outcome (throw e : Work α) s = (.error e, s) := rfl

@[simp] theorem outcome_get (s : Session) : outcome (get : Work Session) s = (.ok s, s) := rfl

@[simp] theorem outcome_set (t s : Session) : outcome (set t : Work PUnit) s = (.ok ⟨⟩, t) := rfl

@[simp] theorem outcome_modify (f : Session → Session) (s : Session) :
    outcome (modify f : Work PUnit) s = (.ok ⟨⟩, f s) := rfl

/-- A sequence stops at the first failure, in the session that the failure left. -/
theorem outcome_bind (x : Work α) (f : α → Work β) (s : Session) :
    outcome (x >>= f) s = match outcome x s with
      | (.ok a, t) => outcome (f a) t
      | (.error e, t) => (.error e, t) := by
  simp only [outcome, ExceptT.run_bind, StateT.run_bind]
  cases x.run.run s with
  | mk r t => cases r <;> rfl

/-- A sequence goes on from a first part that succeeds. -/
theorem outcome_bind_of_ok {x : Work α} {f : α → Work β} {s t : Session} {a : α}
    (h : outcome x s = (.ok a, t)) : outcome (x >>= f) s = outcome (f a) t := by
  rw [outcome_bind, h]

/-- A sequence ends with a first part that fails. -/
theorem outcome_bind_of_error {x : Work α} {f : α → Work β} {s t : Session} {e : Failure}
    (h : outcome x s = (.error e, t)) : outcome (x >>= f) s = (.error e, t) := by
  rw [outcome_bind, h]

/-- The evaluator touches nothing of a session but the state of evaluation. -/
theorem outcome_evaluating (x : Eval α) (s : Session) :
    outcome (evaluating x) s =
      ((x.outcome s.machine).1, { s with machine := (x.outcome s.machine).2 }) := rfl

@[simp] theorem outcome_ofExcept (r : Except Failure α) (s : Session) :
    outcome (ofExcept r) s = (r, s) := by
  cases r <;> rfl

end Work
end Stencil
