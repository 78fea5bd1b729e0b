import Stencil.Proofs.Render.Promise

/-!
# What renderings ask for

The references of a tree, with those of the templates that they lead to, can be listed without
rendering anything. They are all that a rendering can ask for: every node that is rendered stands in
the tree or in a template that it leads to, also the bodies that come from further down a chain of
extensions and those that inclusions bring in.
-/

set_option autoImplicit false

namespace Stencil

open Node
open Work (Answers)

namespace Promise

/-- The promise that rendering a tree asks for nothing but what the tree leads to. -/
def referring (answers : Answers) (tree : List Node) : Promise where
  node _ n := Involves answers tree n
  scope _ := True
  piece _ := True
  fail _ := True
  asks := Leads answers tree

variable {answers : Answers} {filters : Filters}

theorem kept_referring {tree : List Node} : (referring answers tree).Kept answers filters where
  child hn hchild := hn.child hchild
  text _ := trivial
  interpolation _ _ := .trivial
  test _ _ _ := .trivial
  loop _ _ := Eval.Ensures.trivial.weaken fun _ _ =>
    ⟨fun _ => trivial, fun _ _ => trivial, fun _ _ => trivial⟩
  resizes _ _ _ _ := trivial
  asked hn hpath := hn.leads hpath
  missing _ _ _ := trivial
  extended hn hanswer hm := hn.of_reference (by simp [references]) hanswer hm
  included hn hanswer hm := hn.of_reference (by simp [references]) hanswer hm
  endless _ := trivial
  cyclic _ _ _ _ _ _ _ _ := trivial

/-- Whatever a rendering ends with, it asked only for what the tree leads to, and the session goes on
with the same answers. -/
theorem ensures_renderTemplate_referring (depth : Nat) (tree : List Node) (c : Context)
    (path : Option Text) : (renderTemplate filters depth tree c path).Ensures answers
      (fun _ => True) (fun _ => True) (Leads answers tree) := by
  cases depth with
  | zero => exact .throw trivial
  | succ depth =>
    have htree : ∀ n ∈ tree, (referring answers tree).node depth n := fun n hn => .own (.here hn)
    have hrender : (renderTemplate filters (depth + 1) tree c path).Ensures answers
        (referring answers tree).Output (fun _ => True) (Leads answers tree) :=
      ensures_renderTemplate kept_referring htree trivial fun _ _ _ _ _ _ => trivial
    exact hrender.mono (fun _ _ => trivial) fun _ => id

theorem ensures_renderTemplate_anything (depth : Nat) (tree : List Node) (c : Context)
    (path : Option Text) : (renderTemplate filters depth tree c path).Ensures answers
      (fun _ => True) fun _ => True :=
  (ensures_renderTemplate_referring depth tree c path).allow (fun _ _ => trivial) fun _ => id

end Promise

namespace Node

/-- References tell all that a rendering can ask for. Whatever the tree, the filters, the context and
the session are, and however the rendering ends, each path that it asks for is a reference of the
tree or of a template that references lead to from there. -/
theorem renderTemplate_asks (filters : Filters) (depth : Nat) (tree : List Node) (c : Context)
    (path : Option Text) (s : Session) :
    ∃ asked, ((renderTemplate filters depth tree c path).outcome s).2.requests =
        s.requests ++ asked ∧
      ∀ target ∈ asked, Leads s.answer tree target := by
  have hrender : (renderTemplate filters depth tree c path).Ensures s.answer
      (fun _ => True) (fun _ => True) (Leads s.answer tree) :=
    Promise.ensures_renderTemplate_referring depth tree c path
  exact (hrender s rfl).1.requests

end Node
end Stencil
