import Stencil.Engine
import Stencil.Proofs.Render.Fused
import Stencil.Proofs.Template.Reprint

/-!
# Rendering what was printed

A tree that is printed and parsed again is rendered as before, by every engine, and so is the
printed source. That takes two things: no expression may hold the closer of expressions, where its
printed form would end too early, and no span may come about where a comment has been left out.
-/

set_option autoImplicit false

namespace Stencil.Engine

open Node (printTree treeFused)
open Segment (Omittable)

/-- Rendering does not tell apart sources whose trees are the same with joined texts. -/
theorem renderSource_congr {filters : Filters} {source source' : Text} {tree tree' : List Node}
    (h : Node.parse none source = .ok tree) (h' : Node.parse none source' = .ok tree')
    (hfused : treeFused tree' = treeFused tree) (c : Context) :
    renderSource filters source' c = renderSource filters source c := by
  unfold renderSource
  simp only [h, h', Work.ofExcept, pure_bind, Node.renderTemplate_congr hfused]

/-- Printing keeps the meaning of a source that is parsed, if none of its expressions holds the
closer of expressions and its comments can be left out. What is printed is parsed again, to a tree
that is the same but for joined texts; both trees are rendered alike, and so are both sources: the
results and the engines after them are the same. -/
theorem render_printTree (path : Option Text) (source : Text) (tree : List Node)
    (hclosed : ∀ t ∈ Token.ofSource source, t.kind = .expression → ¬ ['}', '}'] <:+: t.content)
    (homit : Omittable source) (h : Node.parse path source = .ok tree) :
    ∃ tree', Node.parse path (printTree tree) = .ok tree' ∧ treeFused tree' = treeFused tree ∧
      (∀ (e : Engine) (c : Context) (p : Option Text),
        e.renderTree tree' c p = e.renderTree tree c p) ∧
      ∀ (e : Engine) (c : Context),
        e.renderString (printTree tree) c = e.renderString source c := by
  obtain ⟨tree', hparse, hfused⟩ := Node.parse_printTree_fused hclosed homit h
  have hsource : Node.parse none source = .ok tree := Node.parse_eq_ok.2 (Node.parse_eq_ok.1 h)
  have hprinted : Node.parse none (printTree tree) = .ok tree' :=
    Node.parse_eq_ok.2 (Node.parse_eq_ok.1 hparse)
  refine ⟨tree', hparse, hfused, fun e c p => ?_, fun e c => ?_⟩
  · rw [renderTree, renderTree, Node.renderTemplate_congr hfused]
  · rw [renderString, renderString, renderSource_congr hsource hprinted hfused]

/-- Two texts around a comment, and an expression without blanks. -/
theorem render_printTree_comment :
    let source := "a{# b #}c{{x}}".toList
    let tree : List Node :=
      [.text "a".toList, .text "c".toList, .interpolation "x".toList (some ⟨1, 10, 9⟩)]
    (∀ t ∈ Token.ofSource source, t.kind = .expression → ¬ ['}', '}'] <:+: t.content) ∧
      Omittable source ∧ Node.parse none source = .ok tree ∧
      ∃ tree', Node.parse none (printTree tree) = .ok tree' ∧ treeFused tree' = treeFused tree ∧
        (∀ (e : Engine) (c : Context) (p : Option Text),
          e.renderTree tree' c p = e.renderTree tree c p) ∧
        ∀ (e : Engine) (c : Context),
          e.renderString (printTree tree) c = e.renderString source c := by
  intro source tree
  have htokens : Token.ofSource source =
      [⟨.text, "a".toList, .start, "a".toList⟩,
        ⟨.comment, "b".toList, ⟨1, 2, 1⟩, "{# b #}".toList⟩,
        ⟨.text, "c".toList, ⟨1, 9, 8⟩, "c".toList⟩,
        ⟨.expression, "x".toList, ⟨1, 10, 9⟩, "{{x}}".toList⟩] := by
    decide +kernel
  have hclosed : ∀ t ∈ Token.ofSource source,
      t.kind = .expression → ¬ ['}', '}'] <:+: t.content := by
    rw [htokens]
    decide
  have homit : Omittable source := by
    refine Segment.omittable_of_unmet ?_
    unfold Segment.Unmet Text.Meet
    decide +kernel
  have hparse : Node.parse none source = .ok tree := by
    rw [Node.parse_eq_ok, Node.ofSource?, htokens]
    rfl
  exact ⟨hclosed, homit, hparse, render_printTree none source tree hclosed homit hparse⟩

/-- A brace and a percent sign around a comment become the opener of a tag that is never closed. -/
example :
    (Node.parse none "{{# b #}% if x %}".toList).toOption.map printTree =
        some "{% if x %}".toList ∧
      (Node.parse none "{% if x %}".toList).toOption.isNone := by
  decide +kernel

/-- An expression that begins with its closer ends there once it is printed. -/
example :
    (Node.parse none ("{{}}x".toList ++ ['}', '}'])).toOption.map printTree =
        some ("{{ }}x ".toList ++ ['}', '}']) ∧
      (Node.parse none ("{{ }}x ".toList ++ ['}', '}'])).toOption.map List.length = some 2 := by
  decide +kernel

end Stencil.Engine
