import Stencil.Proofs.Render.Ending
import Stencil.Proofs.Render.Requests
import Stencil.Proofs.Expr.Reading
import Stencil.Engine

/-!
# What can go wrong in an engine

Evaluation fails only for an integer of too many digits, as long as the sizes of sequences can be
counted, and where a failure of the application passes every handler. Rendering a source against a
table of templates fails for no other reason either, but for faults, which say what is wrong with a
template, for inclusions that come back, and in a loop over a set whose size is changed meanwhile.
-/

set_option autoImplicit false

namespace Stencil

/-- A value whose size, if it has one, can be counted. -/
def Value.IsCountable (v : Value) : Prop := v.size?.getD 0 ≤ Value.sizeLimit

namespace Expr

variable {filters : Filters} {c : Context} {e : Expr} {f : Failure}

/-- A failure that is left of one that the application raises in an expression: what it raises is a
request to end the program, or has no text. -/
def LetsPass (filters : Filters) (c : Context) (e : Expr) (f : Failure) : Prop :=
  ∃ r s : Raised, f = .raised s ∧ e.Raises filters c r ∧ r.Escapes s

/-- Evaluation fails for an integer of too many digits, for a size that cannot be counted, or for a
failure of the application that passes. -/
theorem Risk.cause (h : e.Risk filters c f) :
    f.OfDigits ∨ (f = .overlong ∧ ∃ v, e.Meets filters c v ∧ ¬v.IsCountable) ∨
      e.LetsPass filters c f := by
  cases h with
  | written _ hdigits => exact .inl (.read hdigits)
  | key _ _ _ _ hdigits => exact .inl (.read hdigits)
  | textless _ _ _ => exact .inl .written
  | size hmeets hsize => exact .inr (.inl ⟨rfl, _, hmeets, Nat.not_le_of_lt hsize⟩)
  | escape hraises hescapes => exact .inr (.inr ⟨_, _, rfl, hraises, hescapes⟩)

theorem Risk.ofDigits_or_letsPass (h : e.Risk filters c f)
    (hcount : ∀ v, e.Meets filters c v → v.IsCountable) :
    f.OfDigits ∨ e.LetsPass filters c f := by
  rcases h.cause with hdigits | ⟨-, v, hmeets, hsize⟩ | hpass
  · exact .inl hdigits
  · exact absurd (hcount v hmeets) hsize
  · exact .inr hpass

end Expr

namespace Node

open Work (Answers)

/-- How the values of a rendering can end it on their own: an expression lets a failure of the
application pass, or changes the size of a set that a loop walks through. -/
inductive Interrupts (answers : Answers) (filters : Filters) (tree : List Node) (start : Context) :
    Failure → Prop where
  | raised {c : Context} {e : Expr} {f : Failure} : Evaluates answers filters tree start c e →
      e.LetsPass filters c f → Interrupts answers filters tree start f
  | resized {v : Value} : Walks answers filters tree start v → Loop.IsExposed v →
      Unsettles answers filters tree start v → Interrupts answers filters tree start .resized

end Node

namespace Engine

open Node
open Work (Answers)

variable {filters : Filters} {s : Session} {templates : List (Text × Text)}

theorem run_fst {α : Type} (e : Engine) (x : Work α) : (e.run x).1 = (x.outcome e.session).1 := rfl

/-! ## Operations -/

theorem ensures_load (answers : Answers) (path : Text) :
    (Work.load path).Ensures answers (fun _ => True) fun _ => True :=
  (Work.Ensures.load path trivial).mono (fun _ _ => trivial) fun _ _ => trivial

theorem ensures_renderSource (answers : Answers) (filters : Filters) (source : Text)
    (c : Context) :
    (renderSource filters source c).Ensures answers (fun _ => True) fun _ => True := by
  have hparse : Yields (fun _ => True) (fun _ => True) (parse none source) :=
    (yields_parse none source).mono (fun _ => id) fun _ _ => trivial
  apply Work.Ensures.bind (.ofExcept hparse)
  intro tree _
  apply Work.Ensures.bind .get
  intro s _
  exact Promise.ensures_renderTemplate_anything _ tree c none

theorem ensures_renderPath (answers : Answers) (filters : Filters) (path : Text) (c : Context) :
    (renderPath filters path c).Ensures answers (fun _ => True) fun _ => True := by
  apply (ensures_load _ path).bind
  intro template _
  apply Work.Ensures.bind .get
  intro s _
  apply (Promise.ensures_renderTemplate_anything _ template.tree c _).bind
  intro output _
  apply (Work.Ensures.note _).bind
  intro _ _
  exact .pure trivial

/-! ## Failures -/

theorem inclusionLimit_table (h : s.Orderly templates) :
    inclusionLimit s = 999 + templates.length + 1 := by
  rw [inclusionLimit, h.source, Source.size]
  omega

/-- Rendering a source gives a text, or the failure of its parse, or fails as a rendering does. -/
theorem yields_renderString (hs : s.Orderly templates) (source : Text) (c : Context) :
    Yields (fun _ => True)
      (fun f => parse none source = .error f ∨
        ∃ tree, parse none source = .ok tree ∧ Ending s.answer filters tree c none f)
      (renderString ⟨filters, s⟩ source c).1 := by
  rw [renderString, run_fst, renderSource]
  cases hparse : parse none source with
  | error e =>
    rw [Work.outcome_bind_of_error (Work.outcome_ofExcept _ _)]
    exact .inl rfl
  | ok tree =>
    rw [Work.outcome_bind_of_ok (Work.outcome_ofExcept _ _),
      Work.outcome_bind_of_ok (Work.outcome_get _)]
    simp only
    rw [inclusionLimit_table hs]
    have hdepth : templates.length < 999 + templates.length := by omega
    have hyields := yields_renderTemplate filters tree c none hs hdepth
    exact hyields.mono (fun _ => id) fun f hf => .inr ⟨tree, rfl, hf⟩

/-- A rendering that does not end with an uncountable size ends with what can be reported, without
end, or interrupted. -/
theorem cause_of_ending (hs : s.Orderly templates) {tree : List Node} {start : Context}
    {path : Option Text} {f : Failure} (h : Ending s.answer filters tree start path f)
    (hcount : ∀ v, Node.Meets s.answer filters tree start v → v.IsCountable) :
    f.Reported ∨ (f = .endless ∧ ¬Acyclic s.answer tree) ∨
      Interrupts s.answer filters tree start f := by
  cases h with
  | expression he hf =>
    rcases hf.ofDigits_or_letsPass fun v hv => hcount v (.given he hv) with hdigits | hpass
    · exact .inl (.digits hdigits)
    · exact .inr (.inr (.raised he hpass))
  | element hmeets hsize => exact absurd (hcount _ hmeets) (Nat.not_le_of_lt hsize)
  | resized hwalks hexposed hunsettles =>
    exact .inr (.inr (.resized hwalks hexposed hunsettles))
  | @missing target _ _ hanswer =>
    have hyields := hs.yields_answer target
    rw [hanswer] at hyields
    exact .inl hyields
  | returned _ hcycle => exact .inl (reported_of_cycle hcycle)
  | endless hcyclic => exact .inr (.inl ⟨rfl, hcyclic⟩)

/-- Evaluation never aborts a rendering by itself. As long as the sizes of the sequences that are met
can be counted, expressions and tests, whatever their texts, give a value or fail for an integer of
too many digits, which is written in them, used as a position or needed as text; only failures of the
application that are requests to end the program, or have no text, can pass. Rendering a source
against a table of templates gives a text, a fault or that failure, or does not end, which only
happens where references come back; or such a request interrupts it, or a loop over a set does whose
size an expression of the rendering changes. -/
theorem renderString_never_aborts (filters : Filters) :
    (∀ (text : Text) (c : Context),
      (∀ v, (Expr.ofText text).Meets filters c v → v.IsCountable) →
      ((Expr.ofText text).eval filters c).Ensures (fun _ => True) fun f =>
        (Expr.ofText text).Risk filters c f ∧
          (f.OfDigits ∨ (Expr.ofText text).LetsPass filters c f)) ∧
    (∀ (text : Text) (c : Context),
      (∀ e ∈ (Test.ofText text).operands, ∀ v, e.Meets filters c v → v.IsCountable) →
      ((Test.ofText text).eval filters c).Ensures (fun _ => True) fun f =>
        ∃ e ∈ (Test.ofText text).operands, e.Risk filters c f ∧
          (f.OfDigits ∨ e.LetsPass filters c f)) ∧
    ∀ (s : Session) (templates : List (Text × Text)) (source : Text) (c : Context),
      s.Orderly templates →
      (∀ tree, parse none source = .ok tree →
        ∀ v, Node.Meets s.answer filters tree c v → v.IsCountable) →
      Yields (fun _ => True)
        (fun f => f.Reported ∨ ∃ tree, parse none source = .ok tree ∧
          (f = .endless ∧ ¬Acyclic s.answer tree ∨ Interrupts s.answer filters tree c f))
        (renderString ⟨filters, s⟩ source c).1 := by
  refine ⟨?_, ?_, ?_⟩
  · intro text c hcount
    have heval := (Expr.ofText text).ensures_risk filters c
    exact heval.weakenFail fun f hf => ⟨hf, hf.ofDigits_or_letsPass hcount⟩
  · intro text c hcount
    apply ((Test.ofText text).ensures_risk filters c).weakenFail
    rintro f ⟨e, he, hf⟩
    exact ⟨e, he, hf, hf.ofDigits_or_letsPass (hcount e he)⟩
  · intro s templates source c hs hcount
    apply (yields_renderString hs source c).mono fun _ => id
    rintro f (hparse | ⟨tree, hparse, hending⟩)
    · have hyields := yields_parse none source
      rw [hparse] at hyields
      exact .inl hyields
    · rcases cause_of_ending hs hending (hcount tree hparse) with hreported | hothers
      · exact .inl hreported
      · exact .inr ⟨tree, hparse, hothers⟩

/-- A name for a list, as an expression, as a test and as all that a source outputs. -/
theorem renderString_never_aborts_name :
    let c : Context := ⟨[("x".toList, .list [.int 1])]⟩
    let s := Session.start (.empty Encoding.codecs) (.table [("a".toList, "b".toList)])
    let source : Text := "{{x}}".toList
    (∀ v, (Expr.ofText "x".toList).Meets Filter.builtin c v → v.IsCountable) ∧
      (∀ e ∈ (Test.ofText "x".toList).operands, ∀ v, e.Meets Filter.builtin c v →
        v.IsCountable) ∧
      s.Orderly [("a".toList, "b".toList)] ∧
      (∀ tree, parse none source = .ok tree →
        ∀ v, Node.Meets s.answer Filter.builtin tree c v → v.IsCountable) ∧
      ((Expr.ofText "x".toList).eval Filter.builtin c).Ensures (fun _ => True)
        (fun f => (Expr.ofText "x".toList).Risk Filter.builtin c f ∧
          (f.OfDigits ∨ (Expr.ofText "x".toList).LetsPass Filter.builtin c f)) ∧
      ((Test.ofText "x".toList).eval Filter.builtin c).Ensures (fun _ => True)
        (fun f => ∃ e ∈ (Test.ofText "x".toList).operands, e.Risk Filter.builtin c f ∧
          (f.OfDigits ∨ e.LetsPass Filter.builtin c f)) ∧
      Yields (fun _ => True)
        (fun f => f.Reported ∨ ∃ tree, parse none source = .ok tree ∧
          (f = .endless ∧ ¬Acyclic s.answer tree ∨ Interrupts s.answer Filter.builtin tree c f))
        (renderString ⟨Filter.builtin, s⟩ source c).1 := by
  intro c s source
  have hpath : Path.parse? "x".toList = some ("x".toList, []) := by decide +kernel
  have hname : Expr.ofText "x".toList = .path "x".toList "x".toList [] :=
    Expr.ofText_path rfl (by decide) rfl hpath
  have htest : Test.ofText "x".toList = .truth (.ofText "x".toList) := rfl
  have hmeets : ∀ v, (Expr.ofText "x".toList).Meets Filter.builtin c v → v.IsCountable := by
    rintro v ⟨part, hpart, m, n, hgives⟩
    rw [hname] at hpart
    obtain rfl := hpart.eq_of_name
    rw [Expr.eval, Expr.evalSteps] at hgives
    cases hgives
    show 1 ≤ Value.sizeLimit
    decide
  have hoperands : ∀ e ∈ (Test.ofText "x".toList).operands, ∀ v, e.Meets Filter.builtin c v →
      v.IsCountable := by
    intro e he
    rw [htest, Test.operands] at he
    rw [List.mem_singleton.1 he]
    exact hmeets
  have horderly : s.Orderly [("a".toList, "b".toList)] := Session.orderly_start _
  let tree : List Node := [.interpolation "x".toList (some .start)]
  have htokens : Token.ofSource source =
      [⟨.expression, "x".toList, .start, source⟩] := by
    decide +kernel
  have hparse : parse none source = .ok tree := by
    unfold parse ofSource?
    rw [htokens]
    rfl
  have hinvolves : ∀ n, Involves s.answer tree n → n = .interpolation "x".toList (some .start) :=
    fun n hn => hn.eq_of_leaf (fun _ hchild => by cases hchild) rfl
  have htree : ∀ tree', parse none source = .ok tree' →
      ∀ v, Node.Meets s.answer Filter.builtin tree' c v → v.IsCountable := by
    rw [hparse]
    rintro _ ⟨⟩ v hv
    cases hv with
    | given he hv =>
      obtain ⟨n, hn, hscope, hmem⟩ := he
      obtain rfl := hinvolves n hn
      rw [expressions] at hmem
      obtain rfl := List.mem_singleton.1 hmem
      cases hscope with
      | start => exact hmeets v hv
      | round hloop _ _ _ => cases hinvolves _ hloop
    | element hwalks _ =>
      obtain ⟨names, iterable, body, scope, hloop, -⟩ := hwalks
      cases hinvolves _ hloop
  obtain ⟨heval, htested, hrender⟩ := renderString_never_aborts Filter.builtin
  exact ⟨hmeets, hoperands, horderly, htree, heval _ c hmeets, htested _ c hoperands,
    hrender s _ source c horderly htree⟩

/-- The failure of the application that a result is. -/
def raised? {α : Type} : Except Failure α → Option Raised
  | .error (.raised r) => some r
  | _ => none

theorem eq_error_of_raised? {α : Type} {result : Except Failure α} {r : Raised}
    (h : raised? result = some r) : result = .error (.raised r) := by
  unfold raised? at h
  split at h
  · cases h
    rfl
  · cases h

/-- Whether a result is the failure of a set whose size has changed. -/
def isResized {α : Type} : Except Failure α → Bool
  | .error .resized => true
  | _ => false

theorem eq_error_of_isResized {α : Type} {result : Except Failure α}
    (h : isResized result = true) : result = .error .resized := by
  unfold isResized at h
  split at h
  · rfl
  · cases h

/-- A request to end the program passes, and so does the failure of a loop whose body takes elements
out of the set that the loop walks through. -/
theorem renderString_aborts :
    let request : Raised := .ofKind "SystemExit".toList "bye".toList
    let c : Context := ⟨[("f".toList, .routine 0 none (.failure request)),
      ("s".toList, .shared 1 .set [.int 1])]⟩
    let e : Engine := .new (.empty Encoding.codecs) (.table [])
    (e.renderString "{{f()}}".toList c).1 = .error (.raised request) ∧
      (e.renderString "{% for x in s %}{{s.pop()}}{% endfor %}".toList c).1 =
        .error .resized := by
  intro request c e
  exact ⟨eq_error_of_raised? (by decide +kernel), eq_error_of_isResized (by decide +kernel)⟩

end Engine
end Stencil
