import Stencil.Value.Basic

/-!
# Fresh copies

A value that is made anew has identities and cells of its own. Copies are numbered from a given
number on, and the first number that is left over is returned with the copy.
-/

set_option autoImplicit false

namespace Stencil.Value

mutual

/-- A copy of a value with fresh identities and cells. -/
def renew (next : Nat) : Value → Value × Nat
  | .list items => let (items, n) := renewAll next items; (.list items, n)
  | .tuple items => let (items, n) := renewAll next items; (.tuple items, n)
  | .set items => let (items, n) := renewAll next items; (.set items, n)
  | .shared _ kind items =>
    let (items, n) := renewAll (next + 1) items
    (.shared next kind items, n)
  | .dict entries => let (entries, n) := renewEntries next entries; (.dict entries, n)
  | .view entries => let (entries, n) := renewEntries next entries; (.view entries, n)
  | .object _ attributes faults shown =>
    let (attributes, n) := renewAttributes (next + 1) attributes
    (.object next attributes faults shown, n)
  | .routine _ arity action =>
    let (action, n) := renewRoutine (next + 1) action
    (.routine next arity action, n)
  | .method owner name => let (owner, n) := renew next owner; (.method owner name, n)
  | .cursor _ items => let (items, n) := renewAll (next + 1) items; (.cursor next items, n)
  | v => (v, next)

/-- Copies of the elements of a collection. -/
def renewAll (next : Nat) : List Value → List Value × Nat
  | [] => ([], next)
  | v :: rest =>
    let (v, n) := renew next v
    let (rest, n) := renewAll n rest
    (v :: rest, n)

/-- Copies of the entries of a mapping. -/
def renewEntries (next : Nat) : List (Value × Value) → List (Value × Value) × Nat
  | [] => ([], next)
  | (k, v) :: rest =>
    let (k, n) := renew next k
    let (v, n) := renew n v
    let (rest, n) := renewEntries n rest
    ((k, v) :: rest, n)

/-- Copies of the attributes of an object. Private ones stay as they are: no identity or cell in
them can be seen from outside. -/
def renewAttributes (next : Nat) : List (Text × Value) → List (Text × Value) × Nat
  | [] => ([], next)
  | (name, v) :: rest =>
    let (v, n) := if isPrivate name then (v, next) else renew next v
    let (rest, n) := renewAttributes n rest
    ((name, v) :: rest, n)

/-- A copy of a routine; a constant is copied only when the routine is called. -/
def renewRoutine (next : Nat) : Routine Value → Routine Value × Nat
  | .counter _ start => (.counter next start, next + 1)
  | .labelled lead v => let (v, n) := renew next v; (.labelled lead v, n)
  | action => (action, next)

end

end Stencil.Value
