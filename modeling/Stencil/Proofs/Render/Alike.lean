import Stencil.Proofs.Render.Climb

/-!
# Rendering in sessions that answer alike

What a template outputs, or how its rendering fails, is the same in sessions that answer alike:
whether a template was loaded before, and what was read or reported, makes no difference. This holds
for every table of filters that read no journal.
-/

set_option autoImplicit false

namespace Stencil

open Work (Respects)
open Eval (IgnoresJournal)

/-! ## Loops -/

namespace Loop

theorem respects_forEach {α : Type} {body : α → Work Text} (h : ∀ item, Respects (body item))
    (items : List α) : Respects (forEach body items) := by
  induction items with
  | nil => exact .pure _
  | cons item rest ih => exact .bind (h item) fun _ => .bind ih fun _ => .pure _

theorem respects_forCursor {α : Type} {body : α → Work Text} (h : ∀ item, Respects (body item))
    (cell : Nat) (items : List α) (tries : Nat) :
    Respects (forCursor body cell items tries) := by
  induction tries with
  | zero => exact .pure _
  | succ tries ih =>
    unfold forCursor
    refine .bind (.evaluating (.asking _)) fun taken => ?_
    split
    · exact .pure _
    · exact .bind (.evaluating (.acting _)) fun _ =>
        .bind (h _) fun _ => .bind ih fun _ => .pure _

theorem respects_forPlaces {visit : Value → Work Text} (h : ∀ w, Respects (visit w)) (v : Value)
    (size : Option Nat) (place tries : Nat) : Respects (forPlaces visit v size place tries) := by
  induction tries generalizing place with
  | zero => exact .pure _
  | succ tries ih =>
    unfold forPlaces
    refine .bind (.evaluating (.asking _)) fun left => ?_
    split
    · exact .throw _
    · split
      · exact .pure _
      · exact .bind (h _) fun _ => .bind (ih _) fun _ => .pure _

theorem ignoresJournal_valuesOfElement (names : List Text) (w : Value) :
    IgnoresJournal (valuesOfElement names w) := by
  unfold valuesOfElement
  split
  · exact .pure _
  · exact .bind (.asking _) fun _ => .ofExcept _

theorem respects_run {body : Context → Work Text} (h : ∀ c, Respects (body c))
    (names : List Text) (v : Value) (c : Context) : Respects (run names v c body) := by
  have hvisit : ∀ w : Value, Respects (do
      let values ← Work.evaluating (valuesOfElement names w)
      body (bindAll c (names.zip values))) :=
    fun w => .bind (.evaluating (ignoresJournal_valuesOfElement names w)) fun _ => h _
  unfold run
  split
  · exact respects_forEach (fun _ => h _) _
  · exact respects_forEach (fun _ => h _) _
  · exact respects_forCursor hvisit _ _ _
  · exact .bind (.evaluating (.asking _)) fun _ => respects_forPlaces hvisit _ _ _ _
  · exact respects_forEach hvisit _

end Loop

/-! ## Trees -/

/-- Surroundings whose parts respect alikeness. -/
structure Surroundings.Respect (s : Surroundings) : Prop where
  filters : s.filters.IgnoreJournal
  replacement : ∀ name output, s.replacement name = some output → ∀ c, Respects (output c)
  inclusion : ∀ path c, Respects (s.inclusion path c)

namespace Node

theorem ignoresJournal_renderExpression {filters : Filters} (hf : filters.IgnoreJournal)
    (c : Context) (expression : Text) : IgnoresJournal (renderExpression filters c expression) := by
  refine .bind (Expr.ignoresJournal_eval hf c _) fun v => ?_
  unfold outputOf
  split
  · exact .pure _
  · exact .bind (.textOf _) fun _ => .pure _

theorem ignoresJournal_renderTest {filters : Filters} (hf : filters.IgnoreJournal)
    (c : Context) (test : Option Text) : IgnoresJournal (renderTest filters c test) := by
  cases test with
  | none => exact .pure _
  | some test => exact Test.ignoresJournal_eval hf c _

variable {s : Surroundings}

mutual

theorem respects_render (h : s.Respect) (c : Context) : ∀ n : Node, Respects (render s c n)
  | .text value => by
    unfold render
    exact .pure _
  | .interpolation expression position => by
    unfold render
    exact .evaluating (ignoresJournal_renderExpression h.filters c expression)
  | .conditional branches => by
    unfold render
    exact respects_renderBranches h c branches
  | .loop names iterable body => by
    unfold render
    exact .bind (.evaluating (Expr.ignoresJournal_eval h.filters c _)) fun v =>
      Loop.respects_run (fun scope => respects_renderTree h scope body) names v c
  | .block name body => by
    unfold render
    split
    · exact h.replacement name _ ‹_› c
    · exact respects_renderTree h c body
  | .inclusion path => by
    unfold render
    exact h.inclusion path c
  | .extension path => by
    unfold render
    exact .pure _

theorem respects_renderTree (h : s.Respect) (c : Context) :
    ∀ tree : List Node, Respects (renderTree s c tree)
  | [] => by
    unfold renderTree
    exact .pure _
  | n :: rest => by
    unfold renderTree
    exact .bind (respects_render h c n) fun _ =>
      .bind (respects_renderTree h c rest) fun _ => .pure _

theorem respects_renderBranches (h : s.Respect) (c : Context) :
    ∀ branches : List (Branch Node), Respects (renderBranches s c branches)
  | [] => by
    unfold renderBranches
    exact .pure _
  | ⟨test, body⟩ :: rest => by
    unfold renderBranches
    refine .bind (.evaluating (ignoresJournal_renderTest h.filters c test)) fun taken => ?_
    split
    · exact respects_renderTree h c body
    · exact respects_renderBranches h c rest

end

/-! ## Templates -/

variable {filters : Filters} {inclusion : Text → Context → Work Text}

theorem respect_overriding (hf : filters.IgnoreJournal)
    (hi : ∀ path c, Respects (inclusion path c)) (n : Nat) (overrides : Overrides) :
    (overriding filters inclusion n overrides).Respect := by
  induction n generalizing overrides with
  | zero => exact ⟨hf, nofun, hi⟩
  | succ n ih =>
    refine ⟨hf, fun name output houtput c => ?_, hi⟩
    obtain ⟨body, -, rfl⟩ := Option.map_eq_some_iff.1 houtput
    exact respects_renderTree (ih _) c body

theorem respects_renderOverridden (hf : filters.IgnoreJournal)
    (hi : ∀ path c, Respects (inclusion path c)) (overrides : Overrides) (c : Context)
    (tree : List Node) : Respects (renderOverridden filters inclusion overrides c tree) :=
  respects_renderTree (respect_overriding hf hi _ overrides) c tree

/-- Rendering a template gives the same output, or fails in the same way, in sessions that answer
alike. -/
theorem respects_renderTemplate (hf : filters.IgnoreJournal) (depth : Nat) (tree : List Node)
    (c : Context) (path : Option Text) : Respects (renderTemplate filters depth tree c path) := by
  induction depth generalizing tree c path with
  | zero => exact .throw _
  | succ depth ih =>
    have hi : ∀ (path : Text) (c : Context), Respects (do
        let included ← Work.load path
        renderTemplate filters depth included.tree c (some included.path)) :=
      fun path c => .bind (.load path) fun included => ih _ c _
    unfold renderTemplate
    simp only
    split
    · exact respects_renderOverridden hf hi _ c tree
    · rename_i parent _
      have hclimb := Work.Respects.bind
        (respects_climb parent (Outline.ofTree tree).blocks (chainFrom path))
        fun found => respects_renderOverridden hf hi found.2 c found.1
      simpa only [bind_assoc] using hclimb

end Node
end Stencil
