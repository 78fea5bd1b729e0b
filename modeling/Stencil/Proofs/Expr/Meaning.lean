import Stencil.Proofs.Expr.Phrase

/-!
# The expression of a phrase

A phrase gives an expression, without blanks and with the steps of a trail in a row. Evaluating the
expression is what the phrase means: a row of steps that stops at the first undefined value gives
what the steps give one by one.
-/

set_option autoImplicit false

namespace Stencil

/-! ## Expressions of phrases -/

def LiteralWord.literal : LiteralWord → Literal
  | .true => .bool Bool.true
  | .false => .bool Bool.false
  | .null => .undefined
  | .undefined => .undefined

/-- The name that a trail begins with. -/
def TrailPhrase.root : TrailPhrase → RootName
  | .start root _ => root
  | .next trail _ => trail.root

mutual

def Phrase.toExpr : Phrase → Expr
  | .operand o => o.toExpr
  | .filtered value _ _ filter => filter.toExpr value.toExpr

def FilterPhrase.toExpr (value : Expr) : FilterPhrase → Expr
  | .bare name => .filtered value name.text none
  | .given name _ _ argument => .filtered value name.text (some argument.toExpr)

def OperandPhrase.toExpr : OperandPhrase → Expr
  | .literalWord w => .literal w.literal
  | .integer negative whole => .literal (.integer negative whole.text)
  | .decimal negative whole fraction =>
    .literal (.float (.ofDecimal negative (Text.digitsValue (whole.text ++ fraction.text))
      (-fraction.text.length)))
  | .quotation q => .literal (.text q.body)
  | .name n _ => .path n.text n.text []
  | .trail t => .path t.print t.root.text t.toSteps

def TrailPhrase.toSteps : TrailPhrase → List (Step Expr)
  | .start _ step => [step.toStep]
  | .next trail step => trail.toSteps ++ [step.toStep]

def StepPhrase.toStep : StepPhrase → Step Expr
  | .member name => .member name.text
  | .element _ key _ => .element key.toExpr
  | .call => .call

end

/-! ## Their evaluation -/

namespace Expr

variable (filters : Filters) (c : Context) (written : Text)

theorem evalSteps_undefined (steps : List (Step Expr)) :
    evalSteps filters c written .undefined steps = pure .undefined := by
  cases steps <;> rw [evalSteps]

theorem evalSteps_cons (v : Value) (step : Step Expr) (rest : List (Step Expr)) :
    evalSteps filters c written v (step :: rest) =
      stepFrom (fun v => evalStep filters c written v step) v >>=
        fun w => evalSteps filters c written w rest := by
  cases v with
  | undefined =>
    rw [evalSteps_undefined]
    show _ = evalSteps filters c written .undefined rest
    rw [evalSteps_undefined]
  | _ =>
    rw [evalSteps, stepFrom]
    all_goals
      intro h
      cases h

/-- Steps in a row are taken one part after the other. -/
theorem evalSteps_append (v : Value) (a b : List (Step Expr)) :
    evalSteps filters c written v (a ++ b) =
      evalSteps filters c written v a >>= fun w => evalSteps filters c written w b := by
  induction a generalizing v with
  | nil =>
    have hnil : evalSteps filters c written v [] = pure v := by rw [evalSteps]
    rw [hnil, pure_bind, List.nil_append]
  | cons step rest ih =>
    rw [List.cons_append, evalSteps_cons, evalSteps_cons, bind_assoc]
    exact congrArg _ (funext fun w => ih w)

theorem evalSteps_singleton (v : Value) (step : Step Expr) :
    evalSteps filters c written v [step] =
      stepFrom (fun v => evalStep filters c written v step) v := by
  rw [evalSteps_cons]
  have hlast : (fun w => evalSteps filters c written w []) = pure := by
    funext w
    rw [evalSteps]
  rw [hlast, bind_pure]

end Expr

section

variable (filters : Filters) (c : Context)

mutual

/-- Evaluating the expression of a phrase gives what the phrase means. -/
theorem Phrase.eval_toExpr : ∀ e : Phrase, e.toExpr.eval filters c = e.meaning filters c
  | .operand o => o.eval_toExpr
  | .filtered value _ _ filter => by
    rw [Phrase.toExpr, Phrase.meaning, filter.eval_toExpr, value.eval_toExpr]

theorem FilterPhrase.eval_toExpr (e : Expr) : ∀ f : FilterPhrase,
    (f.toExpr e).eval filters c = e.eval filters c >>= fun v => f.meaning filters c v
  | .bare name => by
    rw [FilterPhrase.toExpr, Expr.eval]
    refine congrArg _ (funext fun v => ?_)
    rw [FilterPhrase.meaning, applyFilter]
    cases hlookup : filters.lookup name.text with
    | none => rfl
    | some f => simp only [Expr.evalArgument, pure_bind, Expr.guardFilter]
  | .given name _ _ argument => by
    rw [FilterPhrase.toExpr, Expr.eval]
    refine congrArg _ (funext fun v => ?_)
    rw [FilterPhrase.meaning, applyFilter]
    cases hlookup : filters.lookup name.text with
    | none => rfl
    | some f =>
      simp only [Expr.evalArgument, bind_assoc, argument.eval_toExpr, Expr.guardFilter, pure_bind]

theorem OperandPhrase.eval_toExpr : ∀ o : OperandPhrase,
    o.toExpr.eval filters c = o.meaning filters c
  | .literalWord w => by
    rw [OperandPhrase.toExpr, OperandPhrase.meaning, Expr.eval]
    cases w <;> rfl
  | .integer negative whole => by
    rw [OperandPhrase.toExpr, OperandPhrase.meaning, Expr.eval]
  | .decimal negative whole fraction => by
    rw [OperandPhrase.toExpr, OperandPhrase.meaning, Expr.eval]
    rfl
  | .quotation q => by
    rw [OperandPhrase.toExpr, OperandPhrase.meaning, Expr.eval]
    rfl
  | .name n _ => by
    rw [OperandPhrase.toExpr, OperandPhrase.meaning, Expr.eval, Expr.evalSteps]
  | .trail t => by
    rw [OperandPhrase.toExpr, OperandPhrase.meaning, Expr.eval]
    exact t.eval_toSteps t.print

theorem TrailPhrase.eval_toSteps (written : Text) : ∀ t : TrailPhrase,
    Expr.evalSteps filters c written (c.get t.root.text) t.toSteps = t.meaning filters c written
  | .start root step => by
    rw [TrailPhrase.toSteps, TrailPhrase.meaning, TrailPhrase.root, Expr.evalSteps_singleton,
      step.eval_toStep written]
  | .next trail step => by
    rw [TrailPhrase.toSteps, TrailPhrase.meaning, TrailPhrase.root, Expr.evalSteps_append,
      trail.eval_toSteps written]
    refine congrArg _ (funext fun v => ?_)
    rw [Expr.evalSteps_singleton, step.eval_toStep written]

theorem StepPhrase.eval_toStep (written : Text) : ∀ step : StepPhrase,
    (fun v => Expr.evalStep filters c written v step.toStep) =
      fun v => step.meaning filters c written v
  | .member name => by
    funext v
    rw [StepPhrase.toStep, StepPhrase.meaning, Expr.evalStep]
  | .element _ key _ => by
    funext v
    rw [StepPhrase.toStep, StepPhrase.meaning, Expr.evalStep, key.eval_toExpr]
  | .call => by
    funext v
    rw [StepPhrase.toStep, StepPhrase.meaning, Expr.evalStep]

end

end

end Stencil
