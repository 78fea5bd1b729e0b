import Stencil.Template.Token
import Stencil.Table

/-!
# Document trees

A parsed template is a list of nodes. Conditionals, loops and blocks hold bodies, which are again
lists of nodes. A node of interpolated output remembers where it stood in the source; agreement of
trees does not look at that place.
-/

set_option autoImplicit false

namespace Stencil

/-- One arm of a conditional; an arm without a test is always taken. -/
structure Branch (α : Type) where
  test : Option Text
  body : List α

/-- A node of a document tree. -/
inductive Node where
  /-- Text that is output as it stands. -/
  | text (value : Text)
  /-- The value of an expression. -/
  | interpolation (expression : Text) (position : Option Position)
  /-- The body of the first branch whose test holds. -/
  | conditional (branches : List (Branch Node))
  /-- The body once for each element, with names bound to it. -/
  | loop (names : List Text) (iterable : Text) (body : List Node)
  /-- A named body that templates further down a chain of extensions may replace. -/
  | block (name : Text) (body : List Node)
  /-- The whole output of another template. -/
  | inclusion (path : Text)
  /-- A parent template whose blocks this one replaces. -/
  | extension (path : Text)

namespace Node

mutual

/-- Whether two nodes are equal but for the places of their interpolations. -/
def agrees : Node → Node → Bool
  | .text a, .text b => a == b
  | .interpolation a _, .interpolation b _ => a == b
  | .conditional as, .conditional bs => branchesAgree as bs
  | .loop ns it as, .loop ms jt bs => ns == ms && it == jt && treesAgree as bs
  | .block n as, .block m bs => n == m && treesAgree as bs
  | .inclusion a, .inclusion b => a == b
  | .extension a, .extension b => a == b
  | _, _ => false

/-- Whether two trees are equal but for the places of their interpolations. -/
def treesAgree : List Node → List Node → Bool
  | [], [] => true
  | a :: as, b :: bs => agrees a b && treesAgree as bs
  | _, _ => false

/-- Whether two lists of branches are equal but for the places of their interpolations. -/
def branchesAgree : List (Branch Node) → List (Branch Node) → Bool
  | [], [] => true
  | ⟨s, as⟩ :: rest, ⟨t, bs⟩ :: rest' => s == t && treesAgree as bs && branchesAgree rest rest'
  | _, _ => false

end

mutual

/-- The paths that a node names for inclusion or extension, in source order. -/
def references : Node → List Text
  | .text _ => []
  | .interpolation _ _ => []
  | .conditional branches => branchReferences branches
  | .loop _ _ body => treeReferences body
  | .block _ body => treeReferences body
  | .inclusion path => [path]
  | .extension path => [path]

/-- The paths that a tree names for inclusion or extension, in source order, each as often as it
is named. -/
def treeReferences : List Node → List Text
  | [] => []
  | n :: rest => references n ++ treeReferences rest

/-- The paths that the bodies of branches name, in source order. -/
def branchReferences : List (Branch Node) → List Text
  | [] => []
  | ⟨_, body⟩ :: rest => treeReferences body ++ branchReferences rest

end

end Node

/-- What the top level of a tree says about inheritance: its blocks by name, each name where it
first stands with its last body, and the last path it extends. -/
structure Outline where
  blocks : List (Text × List Node)
  parent : Option Text

namespace Outline

/-- Adds what one top-level node says. -/
def add (o : Outline) : Node → Outline
  | .block name body => { o with blocks := Table.put name body o.blocks }
  | .extension path => { o with parent := some path }
  | _ => o

/-- The outline of a tree. -/
def ofTree (tree : List Node) : Outline := tree.foldl add ⟨[], none⟩

end Outline
end Stencil
