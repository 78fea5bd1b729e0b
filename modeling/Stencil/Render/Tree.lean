import Stencil.Render.Loop
import Stencil.Markup.Entity

/-!
# Rendering trees

The output of a tree in a context. What other templates have to do with it comes from outside: which
blocks are replaced and by what, and what an inclusion outputs.
-/

set_option autoImplicit false

namespace Stencil

/-- What rendering a tree needs from outside. -/
structure Surroundings where
  filters : Filters
  /-- The replacement of a block, if the block of that name is replaced. -/
  replacement : Text → Option (Context → Work Text)
  /-- The output of an included template. -/
  inclusion : Text → Context → Work Text

namespace Node

/-- A value as output: safe text as it stands, everything else escaped. -/
def outputOf : Value → Eval Text
  | .safe t => pure t
  | v => do
    let t ← Eval.textOf v
    pure (Markup.escape t)

/-- Evaluates an expression for output. -/
def renderExpression (filters : Filters) (c : Context) (expression : Text) : Eval Text := do
  let v ← (Expr.ofText expression).eval filters c
  outputOf v

/-- The outcome of the test of a branch; a branch without a test is taken. -/
def renderTest (filters : Filters) (c : Context) : Option Text → Eval Bool
  | none => pure true
  | some test => (Test.ofText test).eval filters c

mutual

/-- The output of a node. -/
def render (s : Surroundings) (c : Context) : Node → Work Text
  | .text value => pure value
  | .interpolation expression _ => Work.evaluating (renderExpression s.filters c expression)
  | .conditional branches => renderBranches s c branches
  | .loop names iterable body => do
    let v ← Work.evaluating ((Expr.ofText iterable).eval s.filters c)
    Loop.run names v c fun scope => renderTree s scope body
  | .block name body =>
    match s.replacement name with
    | some output => output c
    | none => renderTree s c body
  | .inclusion path => s.inclusion path c
  | .extension _ => pure []

/-- The output of a tree: the outputs of its nodes, in order. -/
def renderTree (s : Surroundings) (c : Context) : List Node → Work Text
  | [] => pure []
  | n :: rest => do
    let first ← render s c n
    let others ← renderTree s c rest
    pure (first ++ others)

/-- The output of the first branch that is taken. -/
def renderBranches (s : Surroundings) (c : Context) : List (Branch Node) → Work Text
  | [] => pure []
  | ⟨test, body⟩ :: rest => do
    let taken ← Work.evaluating (renderTest s.filters c test)
    if taken then renderTree s c body else renderBranches s c rest

end

end Node
end Stencil
