import Stencil.Proofs.Render.Acyclic
import Stencil.Proofs.Render.Promise
import Stencil.Proofs.Expr.Risk

/-!
# How renderings end

A rendering that does not give a text has failed in the evaluation of an expression, or in a loop
over a set whose size an expression has changed, or at a template that cannot be loaded, or because
references come back: a chain of extensions to a template it has passed, or inclusions without end.
Nothing else can happen, whatever the templates, the context and the filters are.
-/

set_option autoImplicit false

namespace Stencil

open Work (Answers)

namespace Node

/-- An expression is evaluated in a rendering, in one of its scopes. -/
def Evaluates (answers : Answers) (filters : Filters) (tree : List Node) (start : Context)
    (c : Context) (e : Expr) : Prop :=
  ∃ n, Involves answers tree n ∧ Scope answers filters tree start c ∧ e ∈ n.expressions

/-- A loop of a rendering walks through a value, in one of its scopes. -/
def Walks (answers : Answers) (filters : Filters) (tree : List Node) (start : Context)
    (v : Value) : Prop :=
  ∃ names iterable body c, Involves answers tree (.loop names iterable body) ∧
    Scope answers filters tree start c ∧ ((Expr.ofText iterable).eval filters c).Gives v

/-- The values that a rendering meets: those that parts of its expressions give, and the elements
that its loops walk through. -/
inductive Meets (answers : Answers) (filters : Filters) (tree : List Node) (start : Context) :
    Value → Prop where
  | given {c : Context} {e : Expr} {v : Value} :
      Evaluates answers filters tree start c e → e.Meets filters c v →
      Meets answers filters tree start v
  | element {v w : Value} : Walks answers filters tree start v → Loop.HasElement v w →
      Meets answers filters tree start w

/-- A rendering evaluates an expression that changes the size of a value. -/
def Unsettles (answers : Answers) (filters : Filters) (tree : List Node) (start : Context)
    (v : Value) : Prop :=
  ∃ c e, Evaluates answers filters tree start c e ∧ (e.eval filters c).Resizes v

/-- How a rendering fails, of a tree whose path may be given. -/
inductive Ending (answers : Answers) (filters : Filters) (tree : List Node) (start : Context)
    (path : Option Text) : Failure → Prop where
  | expression {c : Context} {e : Expr} {f : Failure} :
      Evaluates answers filters tree start c e → e.Risk filters c f →
      Ending answers filters tree start path f
  | element {w : Value} : Meets answers filters tree start w →
      Value.sizeLimit < w.size?.getD 0 → Ending answers filters tree start path .overlong
  | resized {v : Value} : Walks answers filters tree start v → Loop.IsExposed v →
      Unsettles answers filters tree start v → Ending answers filters tree start path .resized
  | missing {target : Text} {f : Failure} : Leads answers tree target →
      answers target = .error f → Ending answers filters tree start path f
  | returned {back : Text} {chain : List Text} {f : Failure} :
      ¬Acyclic answers tree ∨ back ∈ chainFrom path ∧ Leads answers tree back →
      (cycle chain back : Except Failure (List Node × Overrides)) = .error f →
      Ending answers filters tree start path f
  | endless : ¬Acyclic answers tree → Ending answers filters tree start path .endless

variable {answers : Answers} {filters : Filters} {tree : List Node} {start : Context}
  {path : Option Text}

/-! ## Nodes -/

theorem ensures_expression {c : Context} (e : Expr)
    (he : Evaluates answers filters tree start c e) : (e.eval filters c).Ensures
      (e.eval filters c).Gives (Ending answers filters tree start path) := by
  have hgives := (e.ensures_risk filters c).gives
  exact hgives.mono (fun _ hv => hv.2) fun _ hf => .expression he hf

theorem ensures_renderExpression {c : Context} {expression : Text}
    (he : Evaluates answers filters tree start c (.ofText expression)) :
    (renderExpression filters c expression).Ensures (fun _ => True)
      (Ending answers filters tree start path) := by
  apply (ensures_expression _ he).bind
  intro v hgives
  unfold outputOf
  split
  · exact .pure trivial
  · have htext : (Eval.textOf v).Ensures (fun _ => True)
        (Ending answers filters tree start path) :=
      .textOf (fun _ _ _ => trivial) fun _ hnone =>
        .expression he (Expr.risk_of_output_none hgives hnone)
    apply htext.bind
    intro t _
    exact .pure trivial

theorem ensures_renderTest {c : Context} {branches : List (Branch Node)} {b : Branch Node}
    (hn : Involves answers tree (.conditional branches)) (hb : b ∈ branches)
    (hc : Scope answers filters tree start c) :
    (renderTest filters c b.test).Ensures (fun _ => True)
      (Ending answers filters tree start path) := by
  cases htest : b.test with
  | none => exact .pure trivial
  | some test =>
    apply ((Test.ofText test).ensures_risk filters c).weakenFail
    rintro f ⟨e, he, hf⟩
    exact .expression ⟨_, hn, hc, mem_expressions_of_test hb htest he⟩ hf

/-- What rendering promises about its end. If references do not come back, the depth that is left
suffices for those of the nodes. -/
def endingPromise (answers : Answers) (filters : Filters) (tree : List Node) (start : Context)
    (path : Option Text) : Promise where
  node d n := Involves answers tree n ∧
    (Acyclic answers tree → ∀ next ∈ references n, Shallow answers d next)
  scope := Scope answers filters tree start
  piece _ := True
  fail := Ending answers filters tree start path
  alters := Unsettles answers filters tree start

theorem ensures_loop {c : Context} {names : List Text} {iterable : Text} {body : List Node}
    (hn : Involves answers tree (.loop names iterable body))
    (hc : Scope answers filters tree start c) :
    ((Expr.ofText iterable).eval filters c).Ensures
      ((endingPromise answers filters tree start path).Rounds names c)
      (Ending answers filters tree start path) := by
  apply (ensures_expression _ ⟨_, hn, hc, by simp [expressions]⟩).weaken
  intro v hgives
  have hwalks : Walks answers filters tree start v := ⟨names, iterable, body, c, hn, hc, hgives⟩
  exact {
    scope := fun hbinds => .round hn hc hgives hbinds
    size := fun helement hsize => .element (.element hwalks helement) hsize
    resized := fun hexposed hunsettles => .resized hwalks hexposed hunsettles }

/-! ## Templates -/

theorem kept_endingPromise (hown : ∀ path t, answers path = .ok t → t.path = path) :
    (endingPromise answers filters tree start path).Kept answers filters := by
  refine {
    child := ?_
    text := fun _ => trivial
    interpolation := fun hn hc => ensures_renderExpression ⟨_, hn.1, hc, by simp [expressions]⟩
    test := fun hn hb hc => ensures_renderTest hn.1 hb hc
    loop := fun hn hc => ensures_loop hn.1 hc
    resizes := fun hn hc he hresizes => ⟨_, _, ⟨_, hn.1, hc, he⟩, hresizes⟩
    asked := fun _ _ => trivial
    missing := fun hn hpath herror => .missing (hn.1.leads hpath) herror
    extended := ?_
    included := ?_
    endless := ?_
    cyclic := ?_ }
  · intro d parent n hn hchild
    refine ⟨hn.1.child hchild, ?_⟩
    intro hacyclic next hnext
    exact hn.2 hacyclic next (hchild.references_subset hnext)
  · intro d target template m hn hanswer hm
    refine ⟨hn.1.of_reference (by simp [references]) hanswer hm, ?_⟩
    intro hacyclic next hnext
    have hshallow : Shallow answers d target := hn.2 hacyclic target (by simp [references])
    cases d with
    | zero => exact hshallow.elim
    | succ d => exact (hshallow template hanswer next (mem_treeReferences.2 ⟨m, hm, hnext⟩)).succ
  · intro d target template m hn hanswer hm
    refine ⟨hn.1.of_reference (by simp [references]) hanswer hm, ?_⟩
    intro hacyclic next hnext
    have hshallow : Shallow answers (d + 1) target := hn.2 hacyclic target (by simp [references])
    exact hshallow template hanswer next (mem_treeReferences.2 ⟨m, hm, hnext⟩)
  · intro target hn
    apply Ending.endless
    intro hacyclic
    exact hn.2 hacyclic target (by simp [references])
  · intro d n target back template hn htarget hanswer hback hleads chain f hcycle
    -- A chain comes back to the path that was loaded, or to the path that its template gives itself.
    refine .returned (.inl fun hacyclic => ?_) hcycle
    have hsame : back = target := by
      rcases hback with rfl | rfl
      · rfl
      · exact hown target template hanswer
    rw [hsame] at hleads
    exact hacyclic target template (hn.1.leads htarget) hanswer hleads

variable {s : Session} {templates : List (Text × Text)}

/-- A rendering in an orderly session, with a depth beyond the number of templates, gives a text or
fails in one of the known ways. -/
theorem yields_renderTemplate (filters : Filters) (tree : List Node) (start : Context)
    (path : Option Text) (hs : s.Orderly templates) {depth : Nat}
    (hdepth : templates.length < depth) :
    Yields (fun _ => True) (Ending s.answer filters tree start path)
      ((renderTemplate filters (depth + 1) tree start path).outcome s).1 := by
  have hkept : (endingPromise s.answer filters tree start path).Kept s.answer filters :=
    kept_endingPromise fun p t hanswer => (hs.of_answer hanswer).1
  have htree : ∀ n ∈ tree, (endingPromise s.answer filters tree start path).node depth n := by
    intro n hn
    have hinvolves : Involves s.answer tree n := .own (.here hn)
    refine ⟨hinvolves, ?_⟩
    intro hacyclic next hnext
    apply shallow_of_acyclic hacyclic (fun p t hanswer => (hs.of_answer hanswer).2)
    · simpa [Table.keys] using hdepth
    · exact hinvolves.leads hnext
  have hrender := Promise.ensures_renderTemplate hkept htree .start
    (fun back hback hleads chain f hcycle => .returned (.inr ⟨hback, hleads⟩) hcycle) s rfl
  exact hrender.2.mono (fun _ _ => trivial) fun _ => id

end Node
end Stencil
