import Stencil.Value.Native
import Stencil.Value.Order
import Stencil.Machine

/-!
# Calls of methods

What the methods of built-in values give when they are called without arguments, and what they do to
the lists and sets that they belong to. A list or set that a method makes is a new one, which others
can then refer to.
-/

set_option autoImplicit false

namespace Stencil.Value

/-- A collection that has just been made, with a cell of its own. -/
def anew : Value → Eval Value
  | .list items => Eval.fresh fun next => (.shared next .list items, next + 1)
  | .set items => Eval.fresh fun next => (.shared next .set items, next + 1)
  | v => pure v

/-- The places of the elements of a list in the order of a sort, with what went wrong. -/
def sorted (elements : List (Value × Nat)) (c : Cells) : List Nat × Option Failure :=
  let before (a b : Rank × Nat) := a.1.before b.1
  let (outcome, problem) := Sorting.sort before (elements.map fun e => ((e.1.now c).rank, e.2))
  (outcome.map (·.2), problem.map fun types =>
    .unfit ("'<' not supported between instances of '".toList ++ types.1 ++ "' and '".toList ++
      types.2 ++ ['\'']))

/-- Calls a method of a list with some elements at their places: the result, and the places of the
elements that are left. -/
def callList (owner : Value) (elements : List (Value × Nat)) (name : Text) (c : Cells) :
    Except Failure Value × List Nat :=
  let places := elements.map (·.2)
  if name = "pop".toList then
    match elements.getLast? with
    | some e => (.ok (tied owner e.1), places.dropLast)
    | none => (.error (.nothingLeft .list), places)
  else if name = "clear".toList then (.ok .undefined, [])
  else if name = "reverse".toList then (.ok .undefined, places.reverse)
  else if name = "sort".toList then
    match sorted elements c with
    | (places, none) => (.ok .undefined, places)
    | (places, some e) => (.error e, places)
  else if name = "copy".toList then (.ok (.list (elements.map fun e => tied owner e.1)), places)
  else (needsArguments owner name, places)

/-- The methods of sets that make a set of the same elements when they are given no others. -/
def setCopies : List String := ["copy", "difference", "intersection", "union"]

/-- The methods of sets that change nothing when they are given no other elements. -/
def setUpdates : List String := ["difference_update", "intersection_update", "update"]

/-- Calls a method of a set with some elements at their places: the result, and the places of the
elements that are left. -/
def callSet (owner : Value) (elements : List (Value × Nat)) (name : Text) :
    Except Failure Value × List Nat :=
  let places := elements.map (·.2)
  if name = "pop".toList then
    match elements with
    | e :: rest => (.ok (tied owner e.1), rest.map (·.2))
    | [] => (.error (.nothingLeft .set), places)
  else if name = "clear".toList then (.ok .undefined, [])
  else if setCopies.any fun m => m.toList == name then
    (.ok (.set (elements.map fun e => tied owner e.1)), places)
  else if setUpdates.any fun m => m.toList == name then (.ok .undefined, places)
  else (needsArguments owner name, places)

/-- Calls a method of a collection with some elements at their places. -/
def callCollection (kind : Collection) (owner : Value) (elements : List (Value × Nat))
    (name : Text) (c : Cells) : Except Failure Value × List Nat :=
  match kind with
  | .list => callList owner elements name c
  | .set => callSet owner elements name

/-- What a method of a built-in value gives without arguments, and what it does to the cells. -/
def perform (owner : Value) (name : Text) (c : Cells) : Except Failure Value × Cells :=
  match owner with
  | .list items => ((callList owner items.zipIdx name c).1, c)
  | .set items => ((callSet owner items.zipIdx name).1, c)
  | .shared cell kind items =>
    let (result, places) := callCollection kind owner (c.left cell items.zipIdx) name c
    (result, c.leave cell places)
  | v => (callNative v name, c)

/-- Calls a method of a built-in value without arguments. -/
def callMethod (owner : Value) (name : Text) : Eval Value := do
  let result ← Eval.acting (perform owner name)
  let v ← Eval.ofExcept result
  anew v

end Stencil.Value
