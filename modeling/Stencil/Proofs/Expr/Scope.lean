import Stencil.Proofs.Table.Lookup
import Stencil.Expr.Eval

/-!
# Expressions see names only

An expression asks its context for the values of names and for nothing else. Two contexts in which
every name has the same value, in whatever order and however often it is bound, make every
expression the same computation, and every test.
-/

set_option autoImplicit false

namespace Stencil

namespace Context

/-- Every name has the same value in two contexts. -/
def Same (c d : Context) : Prop := ∀ name, c.get name = d.get name

theorem get_bind (c : Context) (name other : Text) (v : Value) :
    (c.bind name v).get other = if other = name then v else c.get other := by
  rw [get, bind, Table.lookup_cons]
  split
  · rfl
  · rfl

/-- A binding is the same in both contexts, and hides what they had under its name. -/
theorem Same.bind {c d : Context} (h : Same c d) (name : Text) (v : Value) :
    Same (c.bind name v) (d.bind name v) := by
  intro other
  rw [get_bind, get_bind, h other]

end Context

namespace Expr

variable {filters : Filters} {c d : Context}

mutual

theorem eval_same (h : c.Same d) : ∀ e : Expr, e.eval filters c = e.eval filters d
  | .absent => by rw [eval, eval]
  | .malformed => by rw [eval, eval]
  | .literal l => by rw [eval, eval]
  | .path written root steps => by
    rw [eval, eval, h root]
    exact evalSteps_same h written _ steps
  | .filtered value name argument => by
    rw [eval, eval, eval_same h value, evalArgument_same h argument]

theorem evalArgument_same (h : c.Same d) :
    ∀ o : Option Expr, evalArgument filters c o = evalArgument filters d o
  | none => by rw [evalArgument, evalArgument]
  | some e => by rw [evalArgument, evalArgument, eval_same h e]

theorem evalSteps_same (h : c.Same d) (written : Text) :
    ∀ (v : Value) (steps : List (Step Expr)),
      evalSteps filters c written v steps = evalSteps filters d written v steps
  | v, [] => by rw [evalSteps, evalSteps]
  | v, step :: rest => by
    have hrest : (fun w => evalSteps filters c written w rest) =
        fun w => evalSteps filters d written w rest :=
      funext fun w => evalSteps_same h written w rest
    unfold evalSteps
    split
    · rfl
    · rw [evalStep_same h written _ step, hrest]

theorem evalStep_same (h : c.Same d) (written : Text) (v : Value) :
    ∀ step : Step Expr, evalStep filters c written v step = evalStep filters d written v step
  | .member name => by rw [evalStep, evalStep]
  | .element key => by rw [evalStep, evalStep, eval_same h key]
  | .call => by rw [evalStep, evalStep]

end

end Expr

theorem Test.eval_same {filters : Filters} {c d : Context} (h : c.Same d) (t : Test) :
    t.eval filters c = t.eval filters d := by
  cases t with
  | absent => rfl
  | truth e => rw [Test.eval, Test.eval, e.eval_same h]
  | comparison left sign right =>
    rw [Test.eval, Test.eval, left.eval_same h, right.eval_same h]

end Stencil
