import Stencil.Failure
import Stencil.Journal.Entry
import Stencil.Value.Now

/-!
# The state of evaluation

Evaluating an expression may call routines of the application, may change lists and sets, and may
report. The state is the cells and the journal, and it is kept when evaluation fails.
-/

set_option autoImplicit false

namespace Stencil

/-- The state of evaluation; the journal has its latest entry last. -/
structure Machine where
  cells : Cells
  journal : List Entry

/-- A computation that may fail and that keeps its state when it does. -/
abbrev Eval := ExceptT Failure (StateM Machine)

namespace Eval

/-- Adds an entry to the journal. -/
def note (e : Entry) : Eval Unit :=
  modify fun m => { m with journal := m.journal ++ [e] }

/-- Reports something that only matters when looking for a mistake. -/
def debug (component message : Text) (fields : List (Text × Value)) : Eval Unit :=
  note ⟨.debug, component, message, fields⟩

/-- Looks at the cells and changes them. -/
def acting {α : Type} (f : Cells → α × Cells) : Eval α := do
  let m ← get
  let (a, cells) := f m.cells
  set { m with cells := cells }
  pure a

/-- Looks at the cells. -/
def asking {α : Type} (f : Cells → α) : Eval α := acting fun c => (f c, c)

/-- How far a cell was advanced; it is advanced by one. -/
def take (cell : Nat) : Eval Nat := acting fun c => (c.count cell, c.advance cell)

/-- Leaves a collection with the elements at some places. -/
def leave (cell : Nat) (places : List Nat) : Eval Unit := acting fun c => ((), c.leave cell places)

/-- Gives out new numbers: the function gets the first one that is free, and returns with its result
the first one that is left over. -/
def fresh {α : Type} (make : Nat → α × Nat) : Eval α :=
  acting fun c => ((make c.next).1, { c with next := (make c.next).2 })

/-- A result as a computation. -/
def ofExcept {α : Type} : Except Failure α → Eval α
  | .ok a => pure a
  | .error e => throw e

/-- The text that a value should have; values with an integer of too many digits have none. -/
def required {α : Type} : Option α → Eval α
  | some a => pure a
  | none => throw (.tooManyDigits none)

/-- The output text of a value as it is now. -/
def textOf (v : Value) : Eval Text := do
  let w ← asking v.now
  required w.output?

/-- Runs a computation; if it fails ordinarily, the failure is handed to another one, which starts
from the state that the first one left. -/
def orElse {α : Type} (x : Eval α) (handler : Failure → Eval α) : Eval α :=
  tryCatch x fun e => if e.isOrdinary then handler e else throw e

/-- Reports a failure that was stopped. Its text has to be written for that. -/
def report (component message : Text) (field : Text × Value) (e : Failure) : Eval Unit := do
  let t ← ofExcept e.told
  debug component message [field, ("error".toList, .text t)]

end Eval
end Stencil
