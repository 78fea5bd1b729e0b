import Stencil.Proofs.Render.Promise
import Stencil.Proofs.Expr.Reading
import Stencil.Proofs.Expr.Scope
import Stencil.Proofs.Expr.Risk
import Stencil.Proofs.Value.Unmarked
import Stencil.Proofs.Markup.Escape
import Stencil.Filter.Builtin

/-!
# What rendering outputs is escaped

If no safe text can be reached from a context, and filters make none, then every value that a
rendering outputs is escaped: the output consists of text that stands in a template and of the
escaped texts of values, whatever loops, branches, inclusions and extensions bring them together.
-/

set_option autoImplicit false

namespace Stencil

open Node
open Work (Answers)

/-- No filter of a table makes safe text from arguments without any. -/
def Filters.KeepUnmarked (filters : Filters) : Prop :=
  ∀ name f, filters.lookup name = some f → ∀ v argument, v.isUnmarked →
    (∀ a, argument = some a → a.isUnmarked) →
    (f v argument).Ensures (fun w => w.isUnmarked) fun _ => True

/-- A context from whose names no safe text can be reached. -/
def Context.IsUnmarked (c : Context) : Prop := ∀ name, (c.get name).isUnmarked

theorem Literal.isUnmarked_value {l : Literal} {v : Value} (h : l.value = .ok v) :
    v.isUnmarked := by
  cases l with
  | integer negative digits =>
    simp only [Literal.value] at h
    split at h
    · cases h
      rfl
    · cases h
  | _ =>
    cases h
    rfl

theorem Expr.lasting_isUnmarked {filters : Filters} (h : filters.KeepUnmarked) :
    Expr.Lasting filters fun v => v.isUnmarked :=
  ⟨fun _ _ => Literal.isUnmarked_value, fun _ _ hv hnext => hnext.isUnmarked hv, h⟩

/-! ## The built-in filters -/

namespace Filter

/-- The names of the built-in filters that make safe text. -/
def marking : List Text :=
  ["safe", "escapejs", "raw_json", "raw_json_escaped", "json_script"].map String.toList

/-- The built-in filters that make no safe text. -/
def unmarking : Filters := builtin.filter fun e => !marking.contains e.1

theorem ensures_unary {name : Text} {f : Value → Eval Value} {post : Value → Prop} {v : Value}
    (h : (f v).Ensures post fun _ => True) (argument : Option Value) :
    (unary name f v argument).Ensures post fun _ => True := by
  cases argument with
  | none => exact h
  | some a => exact .throw trivial

theorem isUnmarked_mapText (f : Text → Text) {v : Value} (h : v.isUnmarked) :
    (mapText f v).isUnmarked := by
  cases v with
  | text t => rfl
  | safe t => cases h
  | _ => exact h

/-- The other built-in filters keep values unmarked. -/
theorem keepUnmarked_unmarking : unmarking.KeepUnmarked := by
  intro name f hlookup v argument hv hargument
  obtain ⟨hmem, hunmarked⟩ := List.mem_filter.1 (Table.mem_of_lookup hlookup)
  have hname : (!marking.contains name) = true := hunmarked
  simp only [builtin, List.mem_cons, Prod.mk.injEq, List.not_mem_nil, or_false] at hmem
  rcases hmem with ⟨-, rfl⟩ | ⟨-, rfl⟩ | ⟨rfl, -⟩ | ⟨rfl, -⟩ | ⟨rfl, -⟩ | ⟨rfl, -⟩ | ⟨rfl, -⟩ |
    ⟨-, rfl⟩ | ⟨-, rfl⟩
  · exact ensures_unary (.pure (isUnmarked_mapText _ hv)) argument
  · exact ensures_unary (.pure (isUnmarked_mapText _ hv)) argument
  · exact absurd hname (by decide)
  · exact absurd hname (by decide)
  · exact absurd hname (by decide)
  · exact absurd hname (by decide)
  · exact absurd hname (by decide)
  · apply ensures_unary
    unfold length
    apply Eval.Ensures.bind (.asked v.opened)
    intro w _
    simp only
    split
    · exact .throw trivial
    · exact .pure rfl
  · unfold default
    split
    · apply Eval.Ensures.pure
      cases argument with
      | none => rfl
      | some a => exact hargument a rfl
    · exact .pure hv

end Filter

/-! ## Contexts -/

namespace Context

theorem IsUnmarked.bindAll {c : Context} (h : c.IsUnmarked) {pairs : List (Text × Value)}
    (hpairs : ∀ p ∈ pairs, p.2.isUnmarked) : (Loop.bindAll c pairs).IsUnmarked := by
  induction pairs generalizing c with
  | nil => exact h
  | cons p rest ih =>
    rcases p with ⟨name, v⟩
    apply ih
    · intro other
      rw [get_bind]
      split
      · exact hpairs _ (List.mem_cons_self ..)
      · exact h other
    · exact fun q hq => hpairs q (List.mem_cons_of_mem _ hq)

end Context

/-! ## Output -/

namespace Node

/-- A piece of the output of a rendering: text of an involved node as it stands, or the escaped text
that the value of an involved interpolation, in one of the rendering's scopes, has right after it is
evaluated. -/
inductive OutputPiece (answers : Answers) (filters : Filters) (tree : List Node) (start : Context) :
    Text → Prop where
  | verbatim {value : Text} : Involves answers tree (.text value) →
      OutputPiece answers filters tree start value
  | interpolated {expression piece : Text} {position : Option Position} {c : Context} {v : Value}
      {m n : Machine} : Involves answers tree (.interpolation expression position) →
      Scope answers filters tree start c →
      ((Expr.ofText expression).eval filters c).outcome m = (.ok v, n) →
      Markup.Inert piece → (v.now n.cells).output? = some (Markup.decode piece) →
      OutputPiece answers filters tree start piece

/-- What rendering promises about a start without safe text. -/
def escapedPromise (answers : Answers) (filters : Filters) (tree : List Node) (start : Context) :
    Promise where
  node _ n := Involves answers tree n
  scope c := Scope answers filters tree start c ∧ c.IsUnmarked
  piece := OutputPiece answers filters tree start
  fail _ := True

variable {answers : Answers} {filters : Filters} {tree : List Node} {start c : Context}

/-- Unmarked values are escaped; what is escaped is the text that they have in the machine that
outputs them. -/
theorem yields_outputOf {v : Value} (hv : v.isUnmarked) (n : Machine) :
    Yields (fun t => Markup.Inert t ∧ (v.now n.cells).output? = some (Markup.decode t))
      (fun _ => True) ((outputOf v).outcome n).1 := by
  unfold outputOf
  split
  · cases hv
  · unfold Eval.textOf
    rw [bind_assoc, Eval.outcome_bind, Eval.outcome_asking]
    simp only
    cases htext : (v.now n.cells).output? with
    | none => trivial
    | some t => exact ⟨Markup.inert_escape t, by rw [Markup.decode_escape]⟩

theorem kept_escapedPromise (hfilters : filters.KeepUnmarked) :
    (escapedPromise answers filters tree start).Kept answers filters := by
  have heval : ∀ (e : Expr) {c : Context}, c.IsUnmarked → (e.eval filters c).Ensures
      (fun v => v.isUnmarked ∧ (e.eval filters c).Gives v) fun _ => True := by
    intro e c hc
    have h := Expr.ensures_eval (Expr.lasting_isUnmarked hfilters) hc e
    exact h.gives.weakenFail fun _ _ => trivial
  refine {
    child := fun hn hchild => hn.child hchild
    text := fun hn => .verbatim hn
    interpolation := ?_
    test := fun _ _ _ => .trivial
    loop := ?_
    resizes := fun _ _ _ _ => trivial
    asked := fun _ _ => trivial
    missing := fun _ _ _ => trivial
    extended := fun hn hanswer hm => hn.of_reference (by simp [references]) hanswer hm
    included := fun hn hanswer hm => hn.of_reference (by simp [references]) hanswer hm
    endless := fun _ => trivial
    cyclic := fun _ _ _ _ _ _ _ _ => trivial }
  · intro d expression position c hn hscope
    obtain ⟨hscope, hc⟩ := hscope
    -- The text that is output is the one that the value has where its evaluation ended.
    intro m
    have hvalue := heval (Expr.ofText expression) hc m
    unfold renderExpression
    rw [Eval.outcome_bind]
    rcases hout : ((Expr.ofText expression).eval filters c).outcome m with ⟨r, n⟩
    rw [hout] at hvalue
    cases r with
    | error e => trivial
    | ok v =>
      apply (yields_outputOf hvalue.1 n).mono
      · rintro t ⟨hinert, htext⟩
        exact .interpolated hn hscope hout hinert htext
      · exact fun _ _ => trivial
  · intro d names iterable body c hn hscope
    obtain ⟨hscope, hc⟩ := hscope
    apply (heval _ hc).weaken
    rintro v ⟨hv, hgives⟩
    refine ⟨fun hbinds => ⟨.round hn hscope hgives hbinds, ?_⟩, fun _ _ => trivial,
      fun _ _ => trivial⟩
    apply hc.bindAll
    intro p hp
    exact Value.areUnmarked_of_binds hv hbinds p.2 (List.of_mem_zip hp).2

/-- Escaping is sound over whole renderings. If no filter makes safe text and no safe text can be
reached from the context, then the output of any tree, in any session, consists of pieces that are
text of an involved template, or hold no special characters but the ampersands of entities and
decode to the output text of the value of an involved interpolation. -/
theorem renderTemplate_escapes (filters : Filters) (depth : Nat) (tree : List Node)
    (start : Context) (path : Option Text) (s : Session) (hfilters : filters.KeepUnmarked)
    (hstart : start.IsUnmarked) (output : Text)
    (h : ((renderTemplate filters depth tree start path).outcome s).1 = .ok output) :
    ∃ pieces : List Text, output = pieces.flatten ∧
      ∀ piece ∈ pieces, OutputPiece s.answer filters tree start piece := by
  cases depth with
  | zero => cases h
  | succ depth =>
    have hkept : (escapedPromise s.answer filters tree start).Kept s.answer filters :=
      kept_escapedPromise hfilters
    have htree : ∀ n ∈ tree, (escapedPromise s.answer filters tree start).node depth n :=
      fun n hn => .own (.here hn)
    have hrender : (renderTemplate filters (depth + 1) tree start path).Ensures s.answer
        (escapedPromise s.answer filters tree start).Output fun _ => True :=
      Promise.ensures_renderTemplate hkept htree ⟨.start, hstart⟩ fun _ _ _ _ _ _ => trivial
    have houtput := (hrender s rfl).2
    rw [h] at houtput
    exact houtput

/-- The value of a name is escaped, the text of the template is not. -/
theorem renderTemplate_escapes_name :
    let tree : List Node := [.text "<b>".toList, .interpolation "x".toList none]
    let start : Context := ⟨[("x".toList, .text "<&".toList)]⟩
    let s := Session.start (.empty Encoding.codecs) (.table [])
    Filter.unmarking.KeepUnmarked ∧ start.IsUnmarked ∧
      ((renderTemplate Filter.unmarking 1 tree start none).outcome s).1 =
        .ok "<b>&lt;&amp;".toList ∧
      ∃ pieces : List Text, "<b>&lt;&amp;".toList = pieces.flatten ∧
        ∀ piece ∈ pieces, OutputPiece s.answer Filter.unmarking tree start piece := by
  intro tree start s
  have hstart : start.IsUnmarked := by
    intro name
    unfold Context.get
    rw [Table.lookup_cons]
    split <;> rfl
  have hpath : Path.parse? "x".toList = some ("x".toList, []) := by decide +kernel
  have hexpression : Expr.ofText "x".toList = .path "x".toList "x".toList [] :=
    Expr.ofText_path rfl (by decide) rfl hpath
  have hresult : ((renderTemplate Filter.unmarking 1 tree start none).outcome s).1 =
      .ok "<b>&lt;&amp;".toList := by
    have htree : ((renderTree (overriding Filter.unmarking (fun path c => do
        let included ← Work.load path
        renderTemplate Filter.unmarking 0 included.tree c (some included.path)) 0 []) start
          tree).outcome s).1 = .ok "<b>&lt;&amp;".toList := by
      rw [renderTree, render, renderTree, render, renderTree, renderExpression, hexpression]
      rfl
    exact htree
  exact ⟨Filter.keepUnmarked_unmarking, hstart, hresult,
    renderTemplate_escapes _ _ _ _ _ _ Filter.keepUnmarked_unmarking hstart _ hresult⟩

end Node
end Stencil
