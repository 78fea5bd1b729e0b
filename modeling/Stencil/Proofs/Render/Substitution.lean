import Stencil.Proofs.Render.Flatten
import Mathlib.Data.List.Induction

/-!
# Rendering a chain and rendering its flat form

Two inductions carry the result. The first climbs the chain: the overrides that a climb gathers find,
under each name, the first definition among the descendants, nearest first. The second follows the
overrides that are left and the tree: rendering with blocks replaced is rendering the filled tree
with nothing replaced.
-/

set_option autoImplicit false

namespace Stencil

open Session (Alike)

/-! ## What the outline of a tree says -/

namespace Outline

theorem ofTree_append (tree : List Node) (n : Node) :
    ofTree (tree ++ [n]) = (ofTree tree).add n := by
  simp [ofTree]

theorem parent_ofTree (tree : List Node) : (ofTree tree).parent = Node.parentPath tree := by
  induction tree using List.reverseRecOn with
  | nil => rfl
  | append_singleton tree n ih =>
    rw [ofTree_append]
    have hlast : Node.parentPath (tree ++ [n]) = (Node.extends? n).or (Node.parentPath tree) := by
      cases h : Node.extends? n with
      | none => simp [Node.parentPath, h]
      | some path => simp [Node.parentPath, h]
    rw [hlast]
    cases n <;> simp [add, ih, Node.extends?]

theorem nodup_keys_blocks (tree : List Node) : (Table.keys (ofTree tree).blocks).Nodup := by
  induction tree using List.reverseRecOn with
  | nil => exact List.nodup_nil
  | append_singleton tree n ih =>
    rw [ofTree_append]
    cases n with
    | block name body => exact Table.nodup_keys_put ih name body
    | _ => exact ih

theorem definitions_append (tree : List Node) (n : Node) :
    Node.definitions (tree ++ [n]) =
      (Node.definition? n).toList ++ Node.definitions tree := by
  unfold Node.definitions
  rw [List.filterMap_append, List.reverse_append]
  cases h : Node.definition? n <;> simp [h]

theorem lookup_blocks (tree : List Node) (name : Text) :
    (ofTree tree).blocks.lookup name = (Node.definitions tree).lookup name := by
  induction tree using List.reverseRecOn with
  | nil => rfl
  | append_singleton tree n ih =>
    rw [ofTree_append, definitions_append]
    cases n with
    | block key body =>
      show (Table.put key body (ofTree tree).blocks).lookup name =
        ((key, body) :: Node.definitions tree).lookup name
      rw [Table.lookup_put, Table.lookup_cons, ih]
    | _ => exact ih

end Outline

namespace Node

/-! ## Rendering filled trees -/

theorem renderTree_append (s : Surroundings) (c : Context) (a b : List Node) :
    renderTree s c (a ++ b) =
      (do
        let first ← renderTree s c a
        let others ← renderTree s c b
        pure (first ++ others)) := by
  induction a with
  | nil => simp [renderTree]
  | cons n rest ih =>
    rw [List.cons_append, renderTree, ih, renderTree]
    simp only [bind_assoc, pure_bind, List.append_assoc]

theorem renderTree_singleton (s : Surroundings) (c : Context) (n : Node) :
    renderTree s c [n] = render s c n := by
  simp [renderTree]

/-- Surroundings in which no block is replaced. -/
def plain (s : Surroundings) : Surroundings := ⟨s.filters, fun _ => none, s.inclusion⟩

section Filling

variable {s : Surroundings} {bodies : Text → Option (List Node)}

mutual

theorem render_fill
    (h : ∀ name, s.replacement name =
      (bodies name).map fun body c => renderTree (plain s) c body) (c : Context) :
    ∀ n : Node, renderTree (plain s) c (fill bodies n) = render s c n
  | .text value => by
    rw [fill, renderTree_singleton, render, render]
  | .interpolation expression position => by
    rw [fill, renderTree_singleton, render, render]
    rfl
  | .conditional branches => by
    rw [fill, renderTree_singleton, render, render]
    exact renderBranches_fillBranches h c branches
  | .loop names iterable body => by
    rw [fill, renderTree_singleton, render, render]
    have hbody : (fun scope => renderTree (plain s) scope (fillTree bodies body)) =
        fun scope => renderTree s scope body :=
      funext fun scope => renderTree_fillTree h scope body
    rw [hbody]
    rfl
  | .block name body => by
    rw [fill, render, h name]
    cases bodies name with
    | none => exact renderTree_fillTree h c body
    -- A given body is filled already, and is rendered with nothing replaced on both sides.
    | some given => rfl
  | .inclusion path => by
    rw [fill, renderTree_singleton, render, render]
    rfl
  | .extension path => by
    rw [fill, render, renderTree]

/-- Rendering with blocks replaced by bodies is rendering the filled tree with nothing replaced. -/
theorem renderTree_fillTree
    (h : ∀ name, s.replacement name =
      (bodies name).map fun body c => renderTree (plain s) c body) (c : Context) :
    ∀ tree : List Node, renderTree (plain s) c (fillTree bodies tree) = renderTree s c tree
  | [] => by
    rw [fillTree, renderTree, renderTree]
  | n :: rest => by
    rw [fillTree, renderTree_append, render_fill h c n, renderTree_fillTree h c rest, renderTree]

theorem renderBranches_fillBranches
    (h : ∀ name, s.replacement name =
      (bodies name).map fun body c => renderTree (plain s) c body) (c : Context) :
    ∀ branches : List (Branch Node),
      renderBranches (plain s) c (fillBranches bodies branches) = renderBranches s c branches
  | [] => by
    rw [fillBranches, renderBranches, renderBranches]
  | ⟨test, body⟩ :: rest => by
    rw [fillBranches, renderBranches, renderBranches, renderTree_fillTree h c body,
      renderBranches_fillBranches h c rest]
    rfl

end

end Filling

variable {filters : Filters} {inclusion : Text → Context → Work Text}

theorem plain_overriding (n : Nat) (overrides : Overrides) :
    plain (overriding filters inclusion n overrides) = overriding filters inclusion 0 [] := by
  cases n <;> rfl

/-- Where overrides replace blocks as bodies fill them, a tree is rendered as its filled form. -/
theorem renderTree_overriding_of {n : Nat} {overrides : Overrides}
    {bodies : Text → Option (List Node)}
    (h : ∀ name, (overriding filters inclusion n overrides).replacement name =
      (bodies name).map fun body c => renderTree (overriding filters inclusion 0 []) c body)
    (c : Context) (tree : List Node) :
    renderTree (overriding filters inclusion n overrides) c tree =
      renderTree (overriding filters inclusion 0 []) c (fillTree bodies tree) := by
  rw [← plain_overriding n overrides] at h ⊢
  exact (renderTree_fillTree h c tree).symm

/-- Rendering with overrides is rendering the filled tree, at every depth of replacements within
replacements. -/
theorem renderTree_overriding {n : Nat} {overrides : Overrides}
    {supplied : List (Text × List Node)} (hn : overrides.length ≤ n)
    (h : ∀ name, overrides.lookup name = supplied.lookup name) (c : Context) (tree : List Node) :
    renderTree (overriding filters inclusion n overrides) c tree =
      renderTree (overriding filters inclusion 0 []) c (fillTree (bodyFrom supplied) tree) := by
  induction n generalizing overrides supplied c tree with
  | zero =>
    have hnil : overrides = [] := List.length_eq_zero_iff.1 (by omega)
    refine renderTree_overriding_of (fun name => ?_) c tree
    have hnone : supplied.lookup name = none := by
      rw [← h name, hnil]
      rfl
    rw [bodyFrom_of_none hnone]
    rfl
  | succ n ih =>
    refine renderTree_overriding_of (fun name => ?_) c tree
    show (overrides.lookup name).map _ = _
    rw [h name]
    cases hsome : supplied.lookup name with
    | none =>
      rw [bodyFrom_of_none hsome]
      rfl
    | some body =>
      have hshort : (Table.remove name overrides).length ≤ n := by
        have := Table.length_remove_lt ((h name).trans hsome)
        omega
      have hsame : ∀ other, (Table.remove name overrides).lookup other =
          (Table.remove name supplied).lookup other := by
        intro other
        rw [Table.lookup_remove, Table.lookup_remove, h other]
      rw [bodyFrom_of_some hsome]
      exact congrArg some (funext fun c => ih hshort hsame c body)

end Node
end Stencil
