import Stencil.Proofs.Render.Alike

/-!
# Inheritance is static substitution

A chain of templates, each extending the next, has a flat form: the tree of its root, in which every
block is replaced by the body of the nearest descendant that defines a block of that name at its top
level, or by its own body where no descendant does. A replacement may hold blocks again; inside it
the replaced name is not replaced once more. The flat form has neither blocks nor extensions, and
rendering it gives what rendering the chain gives.
-/

set_option autoImplicit false

namespace Stencil.Node

/-! ## The flat form of a chain -/

/-- The path that a node extends. -/
def extends? : Node → Option Text
  | .extension path => some path
  | _ => none

/-- The name and the body of a block. -/
def definition? : Node → Option (Text × List Node)
  | .block name body => some (name, body)
  | _ => none

/-- The path of the last extension at the top level of a tree. -/
def parentPath (tree : List Node) : Option Text := (tree.filterMap extends?).getLast?

/-- The blocks at the top level of a tree, the last one first. -/
def definitions (tree : List Node) : List (Text × List Node) :=
  (tree.filterMap definition?).reverse

/-- A tree whose templates up to the root are given, with their paths: each extends the next one,
and the last one extends nothing. -/
inductive Lineage : List Node → List (Text × List Node) → Prop where
  | root {tree : List Node} : parentPath tree = none → Lineage tree []
  | step {tree parent : List Node} {path : Text} {rest : List (Text × List Node)} :
      parentPath tree = some path → Lineage parent rest → Lineage tree ((path, parent) :: rest)

mutual

/-- A node whose blocks are filled: by the given bodies, or else by their own. Extensions vanish. -/
def fill (bodies : Text → Option (List Node)) : Node → List Node
  | .text value => [.text value]
  | .interpolation expression position => [.interpolation expression position]
  | .conditional branches => [.conditional (fillBranches bodies branches)]
  | .loop names iterable body => [.loop names iterable (fillTree bodies body)]
  | .block name body => (bodies name).getD (fillTree bodies body)
  | .inclusion path => [.inclusion path]
  | .extension _ => []

/-- A tree whose blocks are filled. -/
def fillTree (bodies : Text → Option (List Node)) : List Node → List Node
  | [] => []
  | n :: rest => fill bodies n ++ fillTree bodies rest

/-- Branches whose blocks are filled. -/
def fillBranches (bodies : Text → Option (List Node)) : List (Branch Node) → List (Branch Node)
  | [] => []
  | ⟨test, body⟩ :: rest => ⟨test, fillTree bodies body⟩ :: fillBranches bodies rest

end

/-- The body that takes the place of a block, by the first definition of its name. The blocks inside
it are filled in turn, but for those of the same name. -/
def bodyFrom (supplied : List (Text × List Node)) (name : Text) : Option (List Node) :=
  match _h : supplied.lookup name with
  | none => none
  | some body => some (fillTree (fun n => bodyFrom (Table.remove name supplied) n) body)
termination_by supplied.length
decreasing_by exact Table.length_remove_lt _h

theorem bodyFrom_of_none {supplied : List (Text × List Node)} {name : Text}
    (h : supplied.lookup name = none) : bodyFrom supplied name = none := by
  unfold bodyFrom
  split
  · rfl
  · rename_i body hsome
    rw [h] at hsome
    cases hsome

theorem bodyFrom_of_some {supplied : List (Text × List Node)} {name : Text} {body : List Node}
    (h : supplied.lookup name = some body) :
    bodyFrom supplied name = some (fillTree (bodyFrom (Table.remove name supplied)) body) := by
  conv => lhs; unfold bodyFrom
  split
  · rename_i hnone
    rw [h] at hnone
    cases hnone
  · rename_i body' hsome
    rw [h] at hsome
    cases hsome
    rfl

/-- The tree of the root of a chain. -/
def chainRoot : List Node → List (Text × List Node) → List Node
  | tree, [] => tree
  | _, (_, parent) :: rest => chainRoot parent rest

/-- The definitions in a chain below its root: those of a template come before those of the
templates above it. -/
def chainDefinitions : List Node → List (Text × List Node) → List (Text × List Node)
  | _, [] => []
  | tree, (_, parent) :: rest => definitions tree ++ chainDefinitions parent rest

/-- The flat form of a tree and the templates up to its root. -/
def flattened (tree : List Node) (parents : List (Text × List Node)) : List Node :=
  fillTree (bodyFrom (chainDefinitions tree parents)) (chainRoot tree parents)

mutual

/-- Whether a node holds neither a block nor an extension, at any depth. -/
def isFlat : Node → Bool
  | .conditional branches => branchesFlat branches
  | .loop _ _ body => treeFlat body
  | .block _ _ => false
  | .extension _ => false
  | _ => true

/-- Whether a tree holds neither a block nor an extension. -/
def treeFlat : List Node → Bool
  | [] => true
  | n :: rest => isFlat n && treeFlat rest

/-- Whether the bodies of branches hold neither a block nor an extension. -/
def branchesFlat : List (Branch Node) → Bool
  | [] => true
  | ⟨_, body⟩ :: rest => treeFlat body && branchesFlat rest

end

/-! ## Flatness -/

theorem treeFlat_append (a b : List Node) : treeFlat (a ++ b) = (treeFlat a && treeFlat b) := by
  induction a with
  | nil => simp [treeFlat]
  | cons n rest ih => simp [treeFlat, ih, Bool.and_assoc]

section Flatness

variable {bodies : Text → Option (List Node)}

mutual

theorem treeFlat_fill (h : ∀ name body, bodies name = some body → treeFlat body = true) :
    ∀ n : Node, treeFlat (fill bodies n) = true
  | .text _ => rfl
  | .interpolation _ _ => rfl
  | .conditional branches => by
    simp [fill, treeFlat, isFlat, branchesFlat_fillBranches h branches]
  | .loop _ _ body => by
    simp [fill, treeFlat, isFlat, treeFlat_fillTree h body]
  | .block name body => by
    unfold fill
    cases hbody : bodies name with
    | none => exact treeFlat_fillTree h body
    | some given => exact h name given hbody
  | .inclusion _ => rfl
  | .extension _ => rfl

/-- Filling with flat bodies leaves a flat tree. -/
theorem treeFlat_fillTree (h : ∀ name body, bodies name = some body → treeFlat body = true) :
    ∀ tree : List Node, treeFlat (fillTree bodies tree) = true
  | [] => rfl
  | n :: rest => by
    unfold fillTree
    rw [treeFlat_append, treeFlat_fill h n, treeFlat_fillTree h rest]
    rfl

theorem branchesFlat_fillBranches
    (h : ∀ name body, bodies name = some body → treeFlat body = true) :
    ∀ branches : List (Branch Node), branchesFlat (fillBranches bodies branches) = true
  | [] => rfl
  | ⟨test, body⟩ :: rest => by
    simp [fillBranches, branchesFlat, treeFlat_fillTree h body, branchesFlat_fillBranches h rest]

end

end Flatness

/-- The bodies that take the place of blocks are flat. -/
theorem treeFlat_bodyFrom (supplied : List (Text × List Node)) (name : Text) (body : List Node)
    (h : bodyFrom supplied name = some body) : treeFlat body = true := by
  fun_induction bodyFrom supplied name generalizing body with
  | case1 => cases h
  | case2 supplied name given _ ih =>
    cases h
    exact treeFlat_fillTree ih given

theorem treeFlat_flattened (tree : List Node) (parents : List (Text × List Node)) :
    treeFlat (flattened tree parents) = true :=
  treeFlat_fillTree (treeFlat_bodyFrom _) _

end Stencil.Node
