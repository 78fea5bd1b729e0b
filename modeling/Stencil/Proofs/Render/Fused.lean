import Stencil.Proofs.Template.Fused
import Stencil.Proofs.Render.Inheritance

/-!
# Rendering trees with joined texts

The output of a tree is that of its nodes, one after the other, so that joining neighbouring texts
does not change it. The same holds of the bodies that a template gives for the blocks of its parent,
and of whole templates: what they output, and everything else that rendering them does, depends on
their trees only as far as these are the same with neighbouring texts joined.
-/

set_option autoImplicit false

namespace Stencil

open Node (attach fused treeFused branchesFused)

namespace Node

/-! ## Trees -/

section Trees

variable (s : Surroundings)

theorem renderTree_attach (c : Context) (n : Node) (rest : List Node) :
    renderTree s c (attach n rest) = renderTree s c (n :: rest) := by
  rcases rest with _ | ⟨m, rest⟩
  · cases n <;> rfl
  · cases n with
    | text a =>
      cases m with
      | text b =>
        simp only [attach, renderTree, render, bind_assoc, pure_bind, List.append_assoc]
      | _ => rfl
    | _ => rfl

mutual

theorem render_fused (c : Context) : ∀ n : Node, render s c (fused n) = render s c n
  | .text _ => rfl
  | .interpolation expression _ => by
    rw [fused, render, render]
  | .conditional branches => by
    rw [fused, render, render, renderBranches_branchesFused c branches]
  | .loop names iterable body => by
    have hbody : (fun scope => renderTree s scope (treeFused body)) =
        fun scope => renderTree s scope body :=
      funext fun scope => renderTree_treeFused scope body
    rw [fused, render, render, hbody]
  | .block name body => by
    rw [fused, render, render, renderTree_treeFused c body]
  | .inclusion _ => rfl
  | .extension _ => rfl

/-- A tree with joined texts is rendered as before. -/
theorem renderTree_treeFused (c : Context) :
    ∀ tree : List Node, renderTree s c (treeFused tree) = renderTree s c tree
  | [] => rfl
  | n :: rest => by
    rw [treeFused, renderTree_attach, renderTree, renderTree, render_fused c n,
      renderTree_treeFused c rest]

theorem renderBranches_branchesFused (c : Context) : ∀ branches : List (Branch Node),
    renderBranches s c (branchesFused branches) = renderBranches s c branches
  | [] => rfl
  | ⟨test, body⟩ :: rest => by
    rw [branchesFused, renderBranches, renderBranches, renderTree_treeFused c body,
      renderBranches_branchesFused c rest]

end

end Trees

/-! ## Replaced blocks -/

section Overrides

variable {filters : Filters} {inclusion : Text → Context → Work Text}

/-- Bodies with joined texts replace blocks as before. -/
theorem overriding_mapValues (n : Nat) (overrides : Overrides) :
    overriding filters inclusion n (Table.mapValues treeFused overrides) =
      overriding filters inclusion n overrides := by
  induction n generalizing overrides with
  | zero => rfl
  | succ n ih =>
    have hreplacement : ∀ name,
        ((Table.mapValues treeFused overrides).lookup name).map (fun body c =>
          renderTree (overriding filters inclusion n
            (Table.remove name (Table.mapValues treeFused overrides))) c body) =
        (overrides.lookup name).map fun body c =>
          renderTree (overriding filters inclusion n (Table.remove name overrides)) c body := by
      intro name
      rw [Table.lookup_mapValues, Table.remove_mapValues, ih, Option.map_map]
      congr 1
      funext body c
      exact renderTree_treeFused _ c body
    unfold overriding
    simp only [hreplacement]

/-- Rendering a tree whose blocks are replaced does not tell joined texts apart either. -/
theorem renderOverridden_mapValues (overrides : Overrides) (c : Context) (tree : List Node) :
    renderOverridden filters inclusion (Table.mapValues treeFused overrides) c tree =
      renderOverridden filters inclusion overrides c tree := by
  rw [renderOverridden, renderOverridden, Table.length_mapValues, overriding_mapValues]

end Overrides

end Node

/-! ## Outlines -/

namespace Outline

/-- An outline with the texts in its blocks joined. -/
def fused (o : Outline) : Outline := ⟨Table.mapValues treeFused o.blocks, o.parent⟩

theorem foldl_attach (o : Outline) (n : Node) (rest : List Node) :
    (attach n rest).foldl add o = (n :: rest).foldl add o := by
  rcases rest with _ | ⟨m, rest⟩
  · cases n <;> rfl
  · cases n with
    | text a => cases m <;> rfl
    | _ => rfl

theorem add_fused (o : Outline) (n : Node) : o.fused.add (Node.fused n) = (o.add n).fused := by
  cases n with
  | block name body =>
    rw [Node.fused, add, add, fused, fused, Table.put_mapValues]
  | _ => rfl

/-- A tree with joined texts has the outline of the tree, but for joined texts. -/
theorem ofTree_treeFused (tree : List Node) : ofTree (treeFused tree) = (ofTree tree).fused := by
  have hfoldl : ∀ o : Outline, (treeFused tree).foldl add o.fused = (tree.foldl add o).fused := by
    induction tree with
    | nil => exact fun _ => rfl
    | cons n rest ih =>
      intro o
      rw [treeFused, foldl_attach, List.foldl_cons, add_fused, ih, List.foldl_cons]
  exact hfoldl ⟨[], none⟩

end Outline

namespace Node

/-! ## Chains of templates -/

/-- What a climb finds, with the texts in the bodies joined. -/
def foundFused (found : List Node × Overrides) : List Node × Overrides :=
  (found.1, Table.mapValues treeFused found.2)

/-- Climbing does not tell apart bodies that are the same with joined texts. -/
theorem climb_congr (bound : Nat) (path : Text) {overrides overrides' : Overrides}
    (h : Table.mapValues treeFused overrides = Table.mapValues treeFused overrides')
    (chain : List Text) : foundFused <$> climb bound path overrides chain =
      foundFused <$> climb bound path overrides' chain := by
  induction bound generalizing path overrides overrides' chain with
  | zero => rfl
  | succ bound ih =>
    unfold climb
    split
    · rfl
    · rw [map_bind, map_bind]
      congr 1
      funext parent
      dsimp only
      cases (Outline.ofTree parent.tree).parent with
      | none =>
        have hkeys : Table.keys overrides = Table.keys overrides' := by
          simpa using congrArg Table.keys h
        simp only [map_bind, map_pure, foundFused, h, hkeys]
      | some next =>
        refine ih next ?_ _
        rw [← Table.update_mapValues, ← Table.update_mapValues, h]

variable {filters : Filters}

/-- Rendering does not tell apart templates that are the same with joined texts. -/
theorem renderTemplate_congr {tree tree' : List Node} (h : treeFused tree = treeFused tree')
    (depth : Nat) (c : Context) (path : Option Text) :
    renderTemplate filters depth tree c path = renderTemplate filters depth tree' c path := by
  have houtline : (Outline.ofTree tree).fused = (Outline.ofTree tree').fused := by
    rw [← Outline.ofTree_treeFused, ← Outline.ofTree_treeFused, h]
  have hparents := congrArg Outline.parent houtline
  have hblocks := congrArg Outline.blocks houtline
  have hparent : parentPath tree = parentPath tree' := by
    rw [← Outline.parent_ofTree, ← Outline.parent_ofTree]
    exact hparents
  cases depth with
  | zero => rfl
  | succ depth =>
    cases hp : parentPath tree with
    | none =>
      rw [renderTemplate_of_root hp, renderTemplate_of_root (hparent ▸ hp), renderOverridden,
        renderOverridden, ← renderTree_treeFused, h, renderTree_treeFused]
    | some next =>
      -- The two climbs find bodies in which only joined texts differ, and these are rendered alike.
      have hfound : ∀ bound overrides,
          (do
            let found ← climb bound next overrides (chainFrom path)
            renderOverridden filters (included filters depth) found.2 c found.1) =
          (do
            let found ← foundFused <$> climb bound next overrides (chainFrom path)
            renderOverridden filters (included filters depth) found.2 c found.1) := by
        intro bound overrides
        simp only [bind_map_left, foundFused, renderOverridden_mapValues]
      rw [renderTemplate_of_parent hp, renderTemplate_of_parent (hparent ▸ hp)]
      simp only [hfound, climb_congr _ next hblocks]

end Node
end Stencil
