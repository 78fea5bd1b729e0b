import Stencil.Proofs.Value.AkinStep
import Stencil.Filter.Builtin

/-!
# Expressions and private attributes

In two contexts whose values differ in private attributes only, every expression has values that
differ in private attributes only, or fails in the same way, and every test has the same outcome.
This holds for every table of filters that treat akin values alike, and the built-in filters are
such a table.
-/

set_option autoImplicit false

namespace Stencil

open Eval (Pairs)
open Value (Akin)

/-- Every name has values in two contexts that are akin. -/
def Context.Akin (c d : Context) : Prop := ∀ name, Value.Akin (c.get name) (d.get name)

/-- The filters of a table read no private attributes: what they give for values that are akin is
akin, and they fail in the same way. -/
def Filters.Discreet (filters : Filters) : Prop :=
  ∀ name f, filters.lookup name = some f → ∀ v w, Akin v w → ∀ a b, Option.Rel Akin a b →
    Pairs Akin (f v a) (f w b)

namespace Expr

variable {filters : Filters} {c d : Context}

theorem akin_guardFilter (name : Text) {v w : Value} (h : Akin v w) {x y : Eval Value}
    (hxy : Pairs Akin x y) : Pairs Akin (guardFilter name v x) (guardFilter name w y) :=
  .orElse hxy fun _ => .report_bind _ _ _ _ (.pure h)

theorem akin_literal (l : Literal) : Agree Akin l.value l.value := by
  refine Agree.refl fun v hv => .atom ?_
  cases l with
  | integer negative digits =>
    change (if digits.length ≤ Number.digitLimit then _ else _) = _ at hv
    split at hv
    · cases hv
      rfl
    · cases hv
  | _ =>
    cases hv
    rfl

mutual

theorem akin_eval (hf : filters.Discreet) (h : c.Akin d) :
    ∀ e : Expr, Pairs Akin (e.eval filters c) (e.eval filters d)
  | .absent => by
    unfold eval
    exact .pure (.atom rfl)
  | .malformed => by
    unfold eval
    exact .pure (.atom rfl)
  | .literal l => by
    unfold eval
    exact .ofExcept (akin_literal l)
  | .path written root steps => by
    unfold eval
    exact akin_evalSteps hf h written (h root) steps
  | .filtered value name argument => by
    unfold eval
    refine .bind (akin_eval hf h value) fun v w hvw => ?_
    cases hname : filters.lookup name with
    | none => exact .pure hvw
    | some f =>
      refine akin_guardFilter name hvw (.bind (akin_evalArgument hf h argument) fun a b hab => ?_)
      exact hf name f hname v w hvw a b hab

theorem akin_evalArgument (hf : filters.Discreet) (h : c.Akin d) : ∀ o : Option Expr,
    Pairs (Option.Rel Akin) (evalArgument filters c o) (evalArgument filters d o)
  | none => by
    unfold evalArgument
    exact .pure .none
  | some e => by
    unfold evalArgument
    exact .bind (akin_eval hf h e) fun a b hab => .pure (.some hab)

theorem akin_evalSteps (hf : filters.Discreet) (h : c.Akin d) (written : Text) {v w : Value}
    (hvw : Akin v w) : ∀ steps : List (Step Expr),
      Pairs Akin (evalSteps filters c written v steps) (evalSteps filters d written w steps)
  | [] => by
    unfold evalSteps
    exact .pure hvw
  | step :: rest => by
    by_cases hv : v = .undefined
    · subst hv
      cases hvw
      unfold evalSteps
      exact .pure (.atom rfl)
    · have hw := hvw.not_undefined hv
      rw [evalSteps, evalSteps]
      · exact .bind (akin_evalStep hf h written hvw step) fun a b hab =>
          akin_evalSteps hf h written hab rest
      · exact hw
      · exact hv

theorem akin_evalStep (hf : filters.Discreet) (h : c.Akin d) (written : Text) {v w : Value}
    (hvw : Akin v w) : ∀ step : Step Expr,
      Pairs Akin (evalStep filters c written v step) (evalStep filters d written w step)
  | .member name => by
    unfold evalStep
    exact hvw.member name
  | .element key => by
    unfold evalStep
    exact .bind (akin_eval hf h key) fun k l hkl => hvw.item hkl
  | .call => by
    unfold evalStep
    exact hvw.call written

end

end Expr

theorem Test.akin_eval {filters : Filters} (hf : filters.Discreet) {c d : Context}
    (h : c.Akin d) (t : Test) : Pairs Eq (t.eval filters c) (t.eval filters d) := by
  cases t with
  | absent => exact .pure rfl
  | truth e => exact .bind (e.akin_eval hf h) fun v w hvw => .pure hvw.isTrue_eq
  | comparison left sign right =>
    refine .bind (left.akin_eval hf h) fun v w hvw => .bind (right.akin_eval hf h) fun k l hkl => ?_
    have hnow : Pairs (fun p q => Akin p.1 q.1 ∧ Akin p.2 q.2)
        (Eval.asking fun cells => (v.now cells, k.now cells))
        (Eval.asking fun cells => (w.now cells, l.now cells)) :=
      .asking fun cells => ⟨hvw.now cells, hkl.now cells⟩
    exact .bind hnow fun p q hpq => .required (hpq.1.compare?_eq sign hpq.2)

/-! ## The built-in filters -/

namespace Filter

variable {v w : Value}

theorem akin_unary {name : Text} {f : Value → Eval Value}
    (hf : ∀ v w, Akin v w → Pairs Akin (f v) (f w)) (h : Akin v w) {a b : Option Value}
    (hab : Option.Rel Akin a b) : Pairs Akin (unary name f v a) (unary name f w b) := by
  cases hab with
  | none => exact hf v w h
  | some _ => exact .throw _

theorem akin_mapText (f : Text → Text) (h : Akin v w) : Akin (mapText f v) (mapText f w) := by
  have hwhole := h
  cases h with
  | @atom v h => cases v <;> first | exact hwhole | exact .atom rfl
  | _ => exact hwhole

theorem akin_outputText (h : Akin v w) (make : Text → Value)
    (hmake : ∀ t, (make t).isAtom = true) :
    Pairs Akin (do
      let t ← Eval.textOf v
      pure (make t)) (do
      let t ← Eval.textOf w
      pure (make t)) := by
  refine .bind (.textOf fun cells => (h.now cells).output?_eq) fun t t' ht => ?_
  subst ht
  exact .pure (.atom (hmake t))

theorem akin_scriptLiteral (h : Akin v w) : Pairs Akin (scriptLiteral v) (scriptLiteral w) := by
  by_cases hv : v = .undefined
  · subst hv
    cases h
    exact .pure (.atom rfl)
  · rw [scriptLiteral, scriptLiteral]
    · exact akin_outputText h (fun t => .safe (Markup.scriptLiteral t)) fun _ => rfl
    · exact h.not_undefined hv
    · exact hv

theorem pairs_json (h : Akin v w) : Pairs Eq (json v) (json w) := by
  unfold json
  refine .bind (.asking (R := Eq) fun c => (h.now c).compact_eq c.room) fun r r' hr => ?_
  subst hr
  cases r with
  | ok t => exact .pure rfl
  | error e => exact .note_bind _ _ (.pure rfl)

theorem akin_jsonScript (h : Akin v w) {a b : Option Value} (hab : Option.Rel Akin a b) :
    Pairs Akin (jsonScript v a) (jsonScript w b) := by
  have hrest : ∀ id id' : Text, id = id' → Pairs Akin (do
      let payload ← json v
      pure (.safe ("<script id=\"".toList ++ Markup.escape id ++
        "\" type=\"application/json\">".toList ++ payload ++ "</script>".toList))) (do
      let payload ← json w
      pure (.safe ("<script id=\"".toList ++ Markup.escape id' ++
        "\" type=\"application/json\">".toList ++ payload ++ "</script>".toList))) := by
    rintro id _ rfl
    refine .bind (pairs_json h) fun payload payload' hpayload => ?_
    subst hpayload
    exact .pure (.atom rfl)
  have hid := Akin.getD_undefined hab
  unfold jsonScript
  generalize a.getD .undefined = k at hid ⊢
  generalize b.getD .undefined = l at hid ⊢
  by_cases hk : k = .undefined
  · subst hk
    cases hid
    exact .bind (.pure rfl) hrest
  · have hl := hid.not_undefined hk
    split
    · exact absurd rfl hk
    · exact .bind (.textOf fun cells => (hid.now cells).output?_eq) hrest

theorem akin_length (h : Akin v w) : Pairs Akin (length v) (length w) := by
  unfold length
  refine .bind (.asking h.opened) fun v' w' hopened => ?_
  simp only [hopened.size?_eq]
  split
  · exact .throw _
  · exact .pure (.atom rfl)

theorem akin_default (h : Akin v w) {a b : Option Value} (hab : Option.Rel Akin a b) :
    Pairs Akin (default v a) (default w b) := by
  by_cases hv : v = .undefined
  · subst hv
    cases h
    exact .pure (.getD_undefined hab)
  · rw [default, default]
    · exact .pure h
    · exact h.not_undefined hv
    · exact hv

/-- The built-in filters read no private attributes. -/
theorem discreet_builtin : Filters.Discreet builtin := by
  intro name f hf v w h a b hab
  have hmem := Table.mem_of_lookup hf
  simp only [builtin, List.mem_cons, Prod.mk.injEq, List.not_mem_nil, or_false] at hmem
  rcases hmem with ⟨-, rfl⟩ | ⟨-, rfl⟩ | ⟨-, rfl⟩ | ⟨-, rfl⟩ | ⟨-, rfl⟩ | ⟨-, rfl⟩ | ⟨-, rfl⟩ |
    ⟨-, rfl⟩ | ⟨-, rfl⟩
  · exact akin_unary (fun v w h => .pure (akin_mapText _ h)) h hab
  · exact akin_unary (fun v w h => .pure (akin_mapText _ h)) h hab
  · exact akin_unary (fun v w h => akin_outputText h .safe fun _ => rfl) h hab
  · exact akin_unary (fun v w h => akin_scriptLiteral h) h hab
  · exact akin_unary (fun v w h => .bind (pairs_json h) fun t t' ht =>
      .pure (by rw [ht]; exact .atom rfl)) h hab
  · exact akin_unary (fun v w h => .bind (pairs_json h) fun t t' ht =>
      .pure (by rw [ht]; exact .atom rfl)) h hab
  · exact akin_jsonScript h hab
  · exact akin_unary (fun v w h => akin_length h) h hab
  · exact akin_default h hab

end Filter
end Stencil
