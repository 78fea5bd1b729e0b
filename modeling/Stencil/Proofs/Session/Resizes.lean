import Stencil.Proofs.Session.Outcome

/-!
# Sizes that computations change

The size of a value is that of the value as it is now: a list or set that others refer to has the
elements that are left. A computation that looks at the cells, reports, or advances a counter
changes no size, and a sequence changes no size that neither of its parts changes.
-/

set_option autoImplicit false

namespace Stencil

/-- The size of a value in some cells, if it has one. -/
def Value.sizeIn (v : Value) (c : Cells) : Option Nat := (v.opened c).size?

namespace Eval

variable {α β : Type} {v : Value}

/-- A computation changes the size of a value, in some state. -/
def Resizes (x : Eval α) (v : Value) : Prop :=
  ∃ m, v.sizeIn (x.outcome m).2.cells ≠ v.sizeIn m.cells

/-- A sequence changes only sizes that one of its parts changes. -/
theorem Resizes.of_bind {x : Eval α} {f : α → Eval β} (h : (x >>= f).Resizes v) :
    x.Resizes v ∨ ∃ a, (f a).Resizes v := by
  obtain ⟨m, hm⟩ := h
  rw [outcome_bind] at hm
  rcases hx : x.outcome m with ⟨r, n⟩
  rw [hx] at hm
  by_cases hsize : v.sizeIn n.cells = v.sizeIn m.cells
  · rw [← hsize] at hm
    cases r with
    | ok a => exact .inr ⟨a, n, hm⟩
    | error e => exact absurd rfl hm
  · exact .inl ⟨m, by rwa [hx]⟩

/-! ## Computations that change no size -/

theorem not_resizes_ofExcept (r : Except Failure α) : ¬(ofExcept r).Resizes v := by
  rintro ⟨m, hm⟩
  rw [outcome_ofExcept] at hm
  exact hm rfl

theorem not_resizes_asking (f : Cells → α) : ¬(asking f).Resizes v := by
  rintro ⟨m, hm⟩
  rw [outcome_asking] at hm
  exact hm rfl

theorem not_resizes_pure (a : α) : ¬(pure a : Eval α).Resizes v :=
  not_resizes_ofExcept (.ok a)

theorem not_resizes_required (o : Option α) : ¬(required o).Resizes v := by
  cases o with
  | some a => exact not_resizes_ofExcept (.ok a)
  | none => exact not_resizes_ofExcept (.error (.tooManyDigits none))

theorem not_resizes_textOf (w : Value) : ¬(textOf w).Resizes v := by
  intro h
  rcases h.of_bind with hask | ⟨u, hrequired⟩
  · exact not_resizes_asking _ hask
  · exact not_resizes_required _ hrequired

/-- Places are kept apart from counts. -/
theorem not_resizes_take (cell : Nat) : ¬(take cell).Resizes v := by
  rintro ⟨m, hm⟩
  exact hm (by cases v <;> rfl)

theorem not_resizes_note (e : Entry) : ¬(note e).Resizes v := by
  rintro ⟨m, hm⟩
  exact hm rfl

end Eval
end Stencil
