import Stencil.Session
import Stencil.Expr.Eval

/-!
# Loops

The elements of a value that a loop walks through. With one name each element is bound to it, and
the entries of a mapping give their values. With two names an element gives its first two parts, and
the entries of a mapping give key and value. A value without elements is walked through zero times;
texts have none.

The body of a loop may change the list or set that the loop walks through. A list is then walked
through as it is at each round; a set that has got smaller ends the loop with a failure.
-/

set_option autoImplicit false

namespace Stencil.Loop

/-- The elements of a value that is no mapping. -/
def elements : Value → List Value
  | .list items | .tuple items | .set items | .cursor _ items => items
  | .range start stop step => Value.rangeItems start stop step
  | _ => []

/-- The first two parts of an element, undefined where there are none. Only sequences have parts,
and the size of a sequence must be one that can be counted. -/
def parts : Value → Except Failure (List Value)
  | .text _ | .safe _ | .set _ | .dict _ | .view _ => .ok [.undefined, .undefined]
  | v =>
    if Value.sizeLimit < v.size?.getD 0 then .error .overlong
    else .ok [(v.at? 0).getD .undefined, (v.at? 1).getD .undefined]

/-- The values that an element gives to the names of a loop. -/
def valuesOfElement (names : List Text) (v : Value) : Eval (List Value) :=
  if names.length = 1 then pure [v]
  else do
    let w ← Eval.asking v.opened
    Eval.ofExcept (parts w)

/-- The values that an entry of a mapping gives to the names of a loop. -/
def valuesOfEntry (names : List Text) (entry : Value × Value) : List Value :=
  if names.length = 1 then [entry.2] else [entry.1, entry.2]

/-- A context with names bound to values, one by one. -/
def bindAll (c : Context) : List (Text × Value) → Context
  | [] => c
  | (name, v) :: rest => bindAll (c.bind name v) rest

/-- Does the same for every item of a list, and joins the texts. -/
def forEach {α : Type} (body : α → Work Text) : List α → Work Text
  | [] => pure []
  | item :: rest => do
    let first ← body item
    let others ← forEach body rest
    pure (first ++ others)

/-- Takes the items of a cursor one after the other, at most a given number, does the same for each
and joins the texts. Another walk over the same cursor in between takes items away. -/
def forCursor {α : Type} (body : α → Work Text) (cell : Nat) (items : List α) : Nat → Work Text
  | 0 => pure []
  | tries + 1 => do
    let taken ← Work.evaluating (Eval.asking fun c => c.count cell)
    match items[taken]? with
    | none => pure []
    | some item => do
      let _ ← Work.evaluating (Eval.take cell)
      let first ← body item
      let others ← forCursor body cell items tries
      pure (first ++ others)

/-- Does the same for the elements that a list or set has from a place on, as it is at each step, at
most a given number, and joins the texts. The size of a set, which is given, must stay the same. -/
def forPlaces (body : Value → Work Text) (v : Value) (size : Option Nat) (place : Nat) :
    Nat → Work Text
  | 0 => pure []
  | tries + 1 => do
    let left ← Work.evaluating (Eval.asking fun c => elements (v.opened c))
    if (size.any fun n => left.length != n) then throw .resized
    else match left[place]? with
      | none => pure []
      | some element => do
        let first ← body element
        let others ← forPlaces body v size (place + 1) tries
        pure (first ++ others)

/-- Does the same for the elements of a list or set that began with some elements. A step more than
there were elements is enough to find the end. -/
def forShared (body : Value → Work Text) (v : Value) (kind : Collection) (items : List Value) :
    Work Text := do
  let left ← Work.evaluating (Eval.asking fun c => elements (v.opened c))
  let size := match kind with
    | .list => none
    | .set => some left.length
  forPlaces body v size 0 (items.length + 1)

/-- Runs the body of a loop over a value, in the contexts that bind the names to the elements. -/
def run (names : List Text) (v : Value) (c : Context) (body : Context → Work Text) : Work Text :=
  let round (values : List Value) : Work Text := body (bindAll c (names.zip values))
  let visit (element : Value) : Work Text := do
    round (← Work.evaluating (valuesOfElement names element))
  match v with
  | .dict entries | .view entries => forEach (fun e => round (valuesOfEntry names e)) entries
  | .cursor cell items => forCursor visit cell items items.length
  | .shared _ kind items => forShared visit v kind items
  | v => forEach visit (elements v)

end Stencil.Loop
