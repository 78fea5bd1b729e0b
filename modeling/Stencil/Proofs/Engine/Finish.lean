import Stencil.Proofs.Engine.Failures
import Stencil.Proofs.Value.Integers

/-!
# Renderings that finish

If references do not come back and every template on the way loads, then rendering ends, and it ends
without a fault. What can still go wrong comes from the values: with integers of few enough digits a
rendering gives a text, unless a sequence is asked for an element whose size is beyond what can be
counted, a failure of the application passes, or a loop walks through a set whose size an expression
changes.
-/

set_option autoImplicit false

namespace Stencil

open Work (Answers)

namespace Node

variable {answers : Answers} {filters : Filters} {tree : List Node} {start : Context}
  {path : Option Text}

/-- No integer that a rendering reads, uses as a position or may have to write has too many
digits. -/
structure IntegersFit (answers : Answers) (filters : Filters) (tree : List Node)
    (start : Context) : Prop where
  written : ∀ c e digits, Evaluates answers filters tree start c e → e.Writes digits →
    digits.length ≤ Number.digitLimit
  position : ∀ c e k v t, Evaluates answers filters tree start c e → e.HasKey k →
    (k.eval filters c).Gives v → v.text? = some t → Text.isPosition t →
    t.length ≤ Number.digitLimit
  value : ∀ v, Meets answers filters tree start v → ∀ n ∈ v.integers, Number.isWritable n

/-- A rendering that refers only to templates that load, and does not come back to one, fails only in
an evaluation or in a loop. -/
theorem Ending.of_acyclic {f : Failure} (h : Ending answers filters tree start path f)
    (hacyclic : Acyclic answers tree)
    (hloads : ∀ target, Leads answers tree target → ∃ template, answers target = .ok template)
    (hpath : ∀ own, path = some own → ¬Leads answers tree own) :
    (∃ c e, Evaluates answers filters tree start c e ∧ e.Risk filters c f) ∨
      (f = .overlong ∧ ∃ v, Meets answers filters tree start v ∧ ¬v.IsCountable) ∨
      Interrupts answers filters tree start f := by
  cases h with
  | expression he hf => exact .inl ⟨_, _, he, hf⟩
  | element hmeets hsize => exact .inr (.inl ⟨rfl, _, hmeets, Nat.not_le_of_lt hsize⟩)
  | resized hwalks hexposed hunsettles =>
    exact .inr (.inr (.resized hwalks hexposed hunsettles))
  | missing hleads hanswer =>
    obtain ⟨template, hload⟩ := hloads _ hleads
    rw [hload] at hanswer
    cases hanswer
  | returned hback _ =>
    rcases hback with hcyclic | ⟨hback, hleads⟩
    · exact absurd hacyclic hcyclic
    · exact absurd hleads (hpath _ (eq_some_of_mem_chainFrom hback))
  | endless hcyclic => exact absurd hacyclic hcyclic

/-- With integers of few enough digits only sizes and the application are left to go wrong. -/
theorem IntegersFit.of_risk (h : IntegersFit answers filters tree start) {c : Context}
    {e : Expr} {f : Failure} (he : Evaluates answers filters tree start c e)
    (hf : e.Risk filters c f) :
    (f = .overlong ∧ ∃ v, Meets answers filters tree start v ∧ ¬v.IsCountable) ∨
      Interrupts answers filters tree start f := by
  cases hf with
  | written hwrites hdigits =>
    have := h.written c e _ he hwrites
    omega
  | key hkey hgives ht hposition hdigits =>
    have := h.position c e _ _ _ he hkey hgives ht hposition
    omega
  | textless cells hmeets hnone =>
    have hsome := Value.output?_now_isSome (h.value _ (.given he hmeets)) cells
    rw [hnone] at hsome
    cases hsome
  | size hmeets hsize => exact .inl ⟨rfl, _, .given he hmeets, Nat.not_le_of_lt hsize⟩
  | escape hraises hescapes => exact .inr (.raised he ⟨_, _, rfl, hraises, hescapes⟩)

end Node

namespace Engine

open Node

/-- Acyclic references let a rendering finish. If no template that a tree leads to leads back to
itself, every one of them loads, and the tree's own path, if it has one, is none of theirs, then
rendering the tree gives a text, or fails for an integer of too many digits or a size that cannot be
counted, or is interrupted by its values: never with a fault, and never without end. With integers of
few enough digits it gives a text, unless a sequence is met whose size cannot be counted, or a value
interrupts it. -/
theorem renderTree_finishes (e : Engine) (templates : List (Text × Text)) (tree : List Node)
    (start : Context) (path : Option Text) (hs : e.session.Orderly templates)
    (hacyclic : Acyclic e.session.answer tree)
    (hloads : ∀ target, Leads e.session.answer tree target →
      ∃ template, e.session.answer target = .ok template)
    (hpath : ∀ own, path = some own → ¬Leads e.session.answer tree own) :
    Yields (fun _ => True) (fun f => f.OfDigits ∨ f = .overlong ∨
        Interrupts e.session.answer e.filters tree start f) (e.renderTree tree start path).1 ∧
      (IntegersFit e.session.answer e.filters tree start →
        (∃ output, (e.renderTree tree start path).1 = .ok output) ∨
          ((e.renderTree tree start path).1 = .error .overlong ∧
            ∃ v, Node.Meets e.session.answer e.filters tree start v ∧ ¬v.IsCountable) ∨
          ∃ f, (e.renderTree tree start path).1 = .error f ∧
            Interrupts e.session.answer e.filters tree start f) := by
  have hdepth : templates.length < 999 + templates.length := by omega
  have hyields := yields_renderTemplate e.filters tree start path hs hdepth
  rw [renderTree, run_fst, inclusionLimit_table hs]
  generalize ((Node.renderTemplate e.filters (999 + templates.length + 1) tree start path).outcome
    e.session).1 = result at hyields ⊢
  cases result with
  | ok output => exact ⟨trivial, fun _ => .inl ⟨output, rfl⟩⟩
  | error f =>
    have hending : Ending e.session.answer e.filters tree start path f := hyields
    rcases hending.of_acyclic hacyclic hloads hpath with
      ⟨c, expression, he, hf⟩ | ⟨rfl, hsize⟩ | hinterrupts
    · refine ⟨?_, fun hfit => ?_⟩
      · rcases hf.cause with hdigits | ⟨rfl, -⟩ | hpass
        · exact .inl hdigits
        · exact .inr (.inl rfl)
        · exact .inr (.inr (.raised he hpass))
      · rcases hfit.of_risk he hf with ⟨rfl, hsize⟩ | hinterrupts
        · exact .inr (.inl ⟨rfl, hsize⟩)
        · exact .inr (.inr ⟨f, rfl, hinterrupts⟩)
    · exact ⟨.inr (.inl rfl), fun _ => .inr (.inl ⟨rfl, hsize⟩)⟩
    · exact ⟨.inr (.inr hinterrupts), fun _ => .inr (.inr ⟨f, rfl, hinterrupts⟩)⟩

/-- A range of too many numbers has small integers only, and yet no element can be asked for. -/
example (m : Machine) :
    ((Value.item (.range 0 (10 ^ 30) 1) (.int 0)).outcome m).1 = .error .overlong := by
  rfl

/-- A tree that includes the only template there is. -/
theorem renderTree_finishes_inclusion :
    let tree : List Node := [.inclusion "a".toList]
    let e : Engine := .new (.empty Encoding.codecs) (.table [("a".toList, "b".toList)])
    e.session.Orderly [("a".toList, "b".toList)] ∧ Acyclic e.session.answer tree ∧
      (∀ target, Leads e.session.answer tree target →
        ∃ template, e.session.answer target = .ok template) ∧
      (∀ own, some "page".toList = some own → ¬Leads e.session.answer tree own) ∧
      IntegersFit e.session.answer e.filters tree .empty ∧
      ((∃ output, (e.renderTree tree .empty (some "page".toList)).1 = .ok output) ∨
        ((e.renderTree tree .empty (some "page".toList)).1 = .error .overlong ∧
          ∃ v, Node.Meets e.session.answer e.filters tree .empty v ∧ ¬v.IsCountable) ∨
        ∃ f, (e.renderTree tree .empty (some "page".toList)).1 = .error f ∧
          Interrupts e.session.answer e.filters tree .empty f) := by
  intro tree e
  let template : Template := ⟨"a".toList, "b".toList, [.text "b".toList]⟩
  have hs : e.session.Orderly [("a".toList, "b".toList)] := Session.orderly_start _
  have htokens : Token.ofSource "b".toList = [⟨.text, "b".toList, .start, "b".toList⟩] := by
    decide +kernel
  have hanswer : e.session.answer "a".toList = .ok template := by
    have hparse : parse (some "a".toList) "b".toList = .ok [.text "b".toList] := by
      unfold parse ofSource?
      rw [htokens]
      rfl
    have hkept : e.session.kept.lookup "a".toList = none := rfl
    have hread : e.session.source.read e.session.disk "a".toList = .ok "b".toList := rfl
    unfold Session.answer Session.fresh
    simp only [hkept, hread, hparse]
    rfl
  have htarget : ∀ target, Leads e.session.answer tree target → target = "a".toList := by
    intro target hleads
    cases hleads with
    | direct hmem => exact List.mem_singleton.1 hmem
    | through hmem hload hnext =>
      rw [List.mem_singleton.1 hmem, hanswer] at hload
      cases hload
      exact absurd hnext (not_leads_of_no_references rfl)
  have hacyclic : Acyclic e.session.answer tree := by
    intro target other hleads hload hback
    rw [htarget target hleads, hanswer] at hload
    cases hload
    exact not_leads_of_no_references rfl hback
  have hloads : ∀ target, Leads e.session.answer tree target →
      ∃ template, e.session.answer target = .ok template := by
    intro target hleads
    exact ⟨template, htarget target hleads ▸ hanswer⟩
  have hpath : ∀ own, some "page".toList = some own → ¬Leads e.session.answer tree own := by
    rintro _ ⟨⟩ hleads
    exact absurd (htarget _ hleads) (by decide)
  have hinvolves : ∀ n, Involves e.session.answer tree n →
      n = .inclusion "a".toList ∨ n = .text "b".toList := by
    intro n hn
    cases hn with
    | own hwithin => exact .inl (hwithin.eq_of_leaf nofun)
    | reached hleads hload hwithin =>
      rw [htarget _ hleads, hanswer] at hload
      cases hload
      exact .inr (hwithin.eq_of_leaf nofun)
  have hnone : ∀ c expression,
      ¬Evaluates e.session.answer e.filters tree .empty c expression := by
    rintro c expression ⟨n, hn, -, hmem⟩
    rcases hinvolves n hn with rfl | rfl <;> cases hmem
  have hfit : IntegersFit e.session.answer e.filters tree .empty := by
    refine ⟨?_, ?_, ?_⟩
    · exact fun c expression _ he => absurd he (hnone c expression)
    · exact fun c expression _ _ _ he => absurd he (hnone c expression)
    · intro v hv
      cases hv with
      | given he _ => exact absurd he (hnone _ _)
      | element hwalks _ =>
        obtain ⟨names, iterable, body, scope, hloop, -⟩ := hwalks
        rcases hinvolves _ hloop with h | h <;> cases h
  exact ⟨hs, hacyclic, hloads, hpath, hfit,
    (renderTree_finishes e _ tree .empty _ hs hacyclic hloads hpath).2 hfit⟩

end Engine
end Stencil
