import Stencil.Expr.Basic
import Stencil.Value.Access

/-!
# Evaluation

The value of an expression in a context, given the filters that are known. A path stops at its first
undefined value; a filter that is not known, or that fails, leaves the value as it is. Evaluation
fails only where an integer of too many digits is needed as a value or as text, where a size cannot
be counted, and where a failure of the application passes those who stop ordinary ones.
-/

set_option autoImplicit false

namespace Stencil

/-- The names that an expression can use. Later bindings stand first and hide earlier ones of the
same name. -/
structure Context where
  bindings : List (Text × Value)

namespace Context

/-- The context without names. -/
def empty : Context := ⟨[]⟩

/-- The value of a name; a name without a binding is undefined. -/
def get (c : Context) (name : Text) : Value := (c.bindings.lookup name).getD .undefined

/-- A context with one more binding. -/
def bind (c : Context) (name : Text) (v : Value) : Context := ⟨(name, v) :: c.bindings⟩

/-- The context that a value provides: a mapping provides its entries with text keys, any other
value nothing. -/
def ofValue (v : Value) : Context :=
  match v.entries? with
  | some entries => ⟨entries.filterMap fun e => e.1.text?.map fun name => (name, e.2)⟩
  | none => empty

end Context

/-- A filter: from a value, and an argument if there is one, to a value. -/
abbrev Filter := Value → Option Value → Eval Value

/-- The filters that expressions can use, by name. -/
abbrev Filters := List (Text × Filter)

namespace Filter

/-- Applies a filter to its arguments as they are: one value, or a value and an argument. -/
def apply (f : Filter) : List Value → Eval Value
  | [v] => f v none
  | [v, a] => f v (some a)
  | _ => throw (.unfit "wrong number of arguments".toList)

end Filter

namespace Expr

/-- Runs a filter; if it fails, that is reported and the value is left as it is. -/
def guardFilter (name : Text) (v : Value) (run : Eval Value) : Eval Value :=
  Eval.orElse run fun e => do
    Eval.report "expressions".toList "Filter failed".toList ("filter".toList, .text name) e
    pure v

mutual

/-- The value of an expression. -/
def eval (filters : Filters) (c : Context) : Expr → Eval Value
  | .absent => pure .undefined
  | .malformed => pure .undefined
  | .literal l => Eval.ofExcept l.value
  | .path written root steps => evalSteps filters c written (c.get root) steps
  | .filtered value name argument => do
    let v ← eval filters c value
    match filters.lookup name with
    | none => pure v
    | some f => guardFilter name v do
      let a ← evalArgument filters c argument
      f v a

/-- The value of the argument of a filter, if there is one. -/
def evalArgument (filters : Filters) (c : Context) : Option Expr → Eval (Option Value)
  | none => pure none
  | some e => do
    let a ← eval filters c e
    pure (some a)

/-- Takes the steps of a path, up to the first undefined value. -/
def evalSteps (filters : Filters) (c : Context) (written : Text) (v : Value) :
    List (Step Expr) → Eval Value
  | [] => pure v
  | step :: rest =>
    match v with
    | .undefined => pure .undefined
    | v => do
      let w ← evalStep filters c written v step
      evalSteps filters c written w rest

/-- Takes one step of a path. -/
def evalStep (filters : Filters) (c : Context) (written : Text) (v : Value) :
    Step Expr → Eval Value
  | .member name => v.member name
  | .element key => do
    let k ← eval filters c key
    v.item k
  | .call => v.call written

end

end Expr

/-- The outcome of a test. -/
def Test.eval (filters : Filters) (c : Context) : Test → Eval Bool
  | .absent => pure false
  | .truth e => do
    let v ← e.eval filters c
    pure v.isTrue
  | .comparison left sign right => do
    let a ← left.eval filters c
    let b ← right.eval filters c
    let (x, y) ← Eval.asking fun cells => (a.now cells, b.now cells)
    Eval.required (x.compare? sign y)

end Stencil
