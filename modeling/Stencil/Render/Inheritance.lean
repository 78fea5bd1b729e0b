import Stencil.Render.Tree

/-!
# Inheritance and inclusion

A template that extends another one outputs its parent, with the parent's blocks replaced by its own
blocks of the same names. The nearest descendant wins, and a replacement never replaces itself. The
chain of parents must not come back to a template it has passed. Included templates are rendered on
their own, in the same context.
-/

set_option autoImplicit false

namespace Stencil

/-- Bodies that replace blocks, by name. -/
abbrev Overrides := List (Text × List Node)

namespace Node

/-- The surroundings in which blocks are replaced. Inside a replacement the replaced name is no
longer replaced, so that no more replacements can be nested than there are names; their number is
the first argument. -/
def overriding (filters : Filters) (inclusion : Text → Context → Work Text) :
    Nat → Overrides → Surroundings
  | 0, _ => ⟨filters, fun _ => none, inclusion⟩
  | n + 1, overrides =>
    ⟨filters,
      fun name => (overrides.lookup name).map fun body c =>
        renderTree (overriding filters inclusion n (Table.remove name overrides)) c body,
      inclusion⟩

/-- The output of a tree whose blocks are replaced. -/
def renderOverridden (filters : Filters) (inclusion : Text → Context → Work Text)
    (overrides : Overrides) (c : Context) (tree : List Node) : Work Text :=
  renderTree (overriding filters inclusion overrides.length overrides) c tree

/-- Fails because a chain of extensions comes back to a template that it has passed. -/
def cycle {α : Type} (chain : List Text) (path : Text) : Except Failure α :=
  Registry.raise "TEMPLATE_EXTENDS_CYCLE".toList
    [("template".toList, templateValue chain.head?),
      ("chain".toList, .text (Text.join " -> ".toList (chain ++ [path])))]

/-- Climbs a chain of extensions from a parent to the template that extends nothing: its tree, and
the bodies that replace its blocks. The chain holds the templates that were passed; its length is
bounded by the first argument. -/
def climb : Nat → Text → Overrides → List Text → Work (List Node × Overrides)
  | 0, _, _, _ => throw .endless
  | bound + 1, path, overrides, chain =>
    if chain.contains path then Work.ofExcept (cycle chain path)
    else do
      let parent ← Work.load path
      let outline := Outline.ofTree parent.tree
      match outline.parent with
      | some next => climb bound next (Table.update outline.blocks overrides) (chain ++ [path])
      | none => do
        Work.note ⟨.debug, "renderer".toList, "Composing template".toList,
          [("root".toList, .text path), ("chain".toList, .list (chain.map .text)),
            ("overrides".toList, .list ((Table.keys overrides).map .text))]⟩
        pure (parent.tree, overrides)

/-- The chain that begins with a template; a template without a path, or with an empty one, does not
count. -/
def chainFrom : Option Text → List Text
  | some (c :: path) => [c :: path]
  | _ => []

/-- The output of a whole template, whose path is given if it is known. Inclusions nest to at most
the given depth. -/
def renderTemplate (filters : Filters) : Nat → List Node → Context → Option Text → Work Text
  | 0, _, _, _ => throw .endless
  | depth + 1, tree, c, path => do
    let inclusion (path : Text) (c : Context) : Work Text := do
      let included ← Work.load path
      renderTemplate filters depth included.tree c (some included.path)
    let outline := Outline.ofTree tree
    match outline.parent with
    | none => renderOverridden filters inclusion [] c tree
    | some parent => do
      let s ← get
      let (root, overrides) ← climb s.chainBound parent outline.blocks (chainFrom path)
      renderOverridden filters inclusion overrides c root

end Node
end Stencil
