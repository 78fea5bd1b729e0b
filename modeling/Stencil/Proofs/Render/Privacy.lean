import Stencil.Proofs.Expr.Privacy
import Stencil.Proofs.Expr.Scope
import Stencil.Proofs.Render.Inheritance

/-!
# Private attributes never influence output

Two contexts that differ in private attributes of the objects in them only, in which ones there are,
what values they have and which of them fail when they are read, make every template output the same
text, or fail in the same way. Rendering is followed in both contexts at once: values stay akin
through steps, filters, loops, replaced blocks and included templates, and what is output or tested
is the same for values that are akin.
-/

set_option autoImplicit false

namespace Stencil

open Work (Pairs)
open Value (Akin AllAkin)

namespace Context

theorem Akin.bind {c d : Context} (h : c.Akin d) (name : Text) {v w : Value}
    (hvw : Value.Akin v w) : (c.bind name v).Akin (d.bind name w) := by
  intro other
  rw [get_bind, get_bind]
  split
  · exact hvw
  · exact h other

theorem Akin.bindAll {c d : Context} (h : c.Akin d) {vs ws : List Value} (hvs : AllAkin vs ws)
    (names : List Text) :
    (Loop.bindAll c (names.zip vs)).Akin (Loop.bindAll d (names.zip ws)) := by
  induction names generalizing vs ws c d with
  | nil => exact h
  | cons name names ih =>
    cases hvs with
    | nil => exact h
    | cons hv hrest => exact ih (h.bind name hv) hrest

end Context

/-! ## Loops -/

namespace Loop

variable {α : Type} {R : α → α → Prop} {body body' : α → Work Text}

theorem pairs_forEach (h : ∀ a b, R a b → Pairs Eq (body a) (body' b)) {as bs : List α}
    (hitems : List.Forall₂ R as bs) : Pairs Eq (forEach body as) (forEach body' bs) := by
  induction hitems with
  | nil => exact .pure rfl
  | cons hfirst _ ih => exact .append (h _ _ hfirst) ih

theorem pairs_forCursor (h : ∀ a b, R a b → Pairs Eq (body a) (body' b)) {as bs : List α}
    (hitems : List.Forall₂ R as bs) (cell tries : Nat) :
    Pairs Eq (forCursor body cell as tries) (forCursor body' cell bs tries) := by
  induction tries with
  | zero => exact .pure rfl
  | succ tries ih =>
    unfold forCursor
    refine .bind (.evaluating (Eval.IgnoresJournal.asking _).pairs) fun taken taken' htaken => ?_
    subst htaken
    have hitem := forall₂_getElem? hitems taken
    generalize as[taken]? = a at hitem ⊢
    generalize bs[taken]? = b at hitem ⊢
    cases hitem with
    | none => exact .pure rfl
    | some hab =>
      exact .bind (.evaluating (Eval.IgnoresJournal.acting _).pairs) fun _ _ _ =>
        .append (h _ _ hab) ih

section Values

variable {visit visit' : Value → Work Text} {v w : Value}

/-- What is left of values that are akin is akin, one by one. -/
theorem pairs_left (h : Akin v w) : Eval.Pairs (List.Forall₂ Akin)
    (Eval.asking fun c => elements (v.opened c)) (Eval.asking fun c => elements (w.opened c)) :=
  .asking fun c => Value.allAkin_iff.1 (akin_elements (h.opened c))

theorem pairs_forPlaces (h : ∀ a b, Akin a b → Pairs Eq (visit a) (visit' b)) (hvw : Akin v w)
    (size : Option Nat) (place tries : Nat) :
    Pairs Eq (forPlaces visit v size place tries) (forPlaces visit' w size place tries) := by
  induction tries generalizing place with
  | zero => exact .pure rfl
  | succ tries ih =>
    unfold forPlaces
    refine .bind (.evaluating (pairs_left hvw)) fun left left' hleft => ?_
    rw [hleft.length_eq]
    split
    · exact .throw _
    · have helement := forall₂_getElem? hleft place
      generalize left[place]? = a at helement ⊢
      generalize left'[place]? = b at helement ⊢
      cases helement with
      | none => exact .pure rfl
      | some hab => exact .append (h _ _ hab) (ih _)

theorem pairs_forShared (h : ∀ a b, Akin a b → Pairs Eq (visit a) (visit' b)) (hvw : Akin v w)
    (kind : Collection) {items items' : List Value} (hlength : items.length = items'.length) :
    Pairs Eq (forShared visit v kind items) (forShared visit' w kind items') := by
  unfold forShared
  refine .bind (.evaluating (pairs_left hvw)) fun left left' hleft => ?_
  rw [hleft.length_eq, hlength]
  exact pairs_forPlaces h hvw _ _ _

end Values

theorem pairs_run {body : Context → Work Text}
    (h : ∀ c d : Context, c.Akin d → Pairs Eq (body c) (body d)) (names : List Text) {v w : Value}
    (hvw : Akin v w) {c d : Context} (hcd : c.Akin d) :
    Pairs Eq (run names v c body) (run names w d body) := by
  have hentry : ∀ e f : Value × Value, Akin e.1 f.1 ∧ Akin e.2 f.2 →
      Pairs Eq (body (bindAll c (names.zip (valuesOfEntry names e))))
        (body (bindAll d (names.zip (valuesOfEntry names f)))) :=
    fun e f hef => h _ _ (hcd.bindAll (akin_valuesOfEntry names hef.1 hef.2) names)
  have hvisit : ∀ a b : Value, Akin a b →
      Pairs Eq (do
        let values ← Work.evaluating (valuesOfElement names a)
        body (bindAll c (names.zip values))) (do
        let values ← Work.evaluating (valuesOfElement names b)
        body (bindAll d (names.zip values))) :=
    fun a b hab => .bind (.evaluating (akin_valuesOfElement names hab)) fun vs ws hvs =>
      h _ _ (hcd.bindAll hvs names)
  have heach := pairs_forEach hvisit (Value.allAkin_iff.1 (akin_elements hvw))
  have hwhole := hvw
  cases hvw with
  | @atom v hatom =>
    cases v with
    | cursor | dict | view | shared => cases hatom
    | _ => exact heach
  | dict hentries => exact pairs_forEach hentry hentries.forall₂
  | view hentries => exact pairs_forEach hentry hentries.forall₂
  | cursor cell hitems =>
    unfold run
    simp only [hitems.length_eq]
    exact pairs_forCursor hvisit (Value.allAkin_iff.1 hitems) cell _
  | shared cell kind hitems => exact pairs_forShared hvisit hwhole kind hitems.length_eq
  | _ => exact heach

end Loop

/-! ## Trees -/

/-- Surroundings that read no private attributes. -/
structure Surroundings.Discreet (s : Surroundings) : Prop where
  filters : s.filters.Discreet
  replacement : ∀ name output, s.replacement name = some output →
    ∀ c d : Context, c.Akin d → Pairs Eq (output c) (output d)
  inclusion : ∀ path, ∀ c d : Context, c.Akin d → Pairs Eq (s.inclusion path c) (s.inclusion path d)

namespace Node

theorem pairs_outputOf {v w : Value} (h : Akin v w) : Eval.Pairs Eq (outputOf v) (outputOf w) := by
  have hplain : Eval.Pairs Eq (do
      let t ← Eval.textOf v
      pure (Markup.escape t)) (do
      let t ← Eval.textOf w
      pure (Markup.escape t)) :=
    .bind (.textOf fun cells => (h.now cells).output?_eq) fun t t' ht =>
      .pure (congrArg Markup.escape ht)
  cases h with
  | @atom v _ =>
    cases v with
    | safe t => exact .pure rfl
    | _ => exact hplain
  | _ => exact hplain

theorem pairs_renderTest {filters : Filters} (hf : filters.Discreet) {c d : Context}
    (h : c.Akin d) (test : Option Text) :
    Eval.Pairs Eq (renderTest filters c test) (renderTest filters d test) := by
  cases test with
  | none => exact .pure rfl
  | some test => exact Test.akin_eval hf h (Test.ofText test)

variable {s : Surroundings}

mutual

theorem pairs_render (hs : s.Discreet) {c d : Context} (h : c.Akin d) :
    ∀ n : Node, Pairs Eq (render s c n) (render s d n)
  | .text value => by
    unfold render
    exact .pure rfl
  | .interpolation expression position => by
    unfold render
    exact .evaluating (.bind (Expr.akin_eval hs.filters h _) fun v w hvw => pairs_outputOf hvw)
  | .conditional branches => by
    unfold render
    exact pairs_renderBranches hs h branches
  | .loop names iterable body => by
    unfold render
    exact .bind (.evaluating (Expr.akin_eval hs.filters h _)) fun v w hvw =>
      Loop.pairs_run (fun c d h => pairs_renderTree hs h body) names hvw h
  | .block name body => by
    unfold render
    split
    · exact hs.replacement name _ ‹_› c d h
    · exact pairs_renderTree hs h body
  | .inclusion path => by
    unfold render
    exact hs.inclusion path c d h
  | .extension path => by
    unfold render
    exact .pure rfl

theorem pairs_renderTree (hs : s.Discreet) {c d : Context} (h : c.Akin d) :
    ∀ tree : List Node, Pairs Eq (renderTree s c tree) (renderTree s d tree)
  | [] => by
    unfold renderTree
    exact .pure rfl
  | n :: rest => by
    unfold renderTree
    exact .append (pairs_render hs h n) (pairs_renderTree hs h rest)

theorem pairs_renderBranches (hs : s.Discreet) {c d : Context} (h : c.Akin d) :
    ∀ branches : List (Branch Node),
      Pairs Eq (renderBranches s c branches) (renderBranches s d branches)
  | [] => by
    unfold renderBranches
    exact .pure rfl
  | ⟨test, body⟩ :: rest => by
    unfold renderBranches
    refine .bind (.evaluating (pairs_renderTest hs.filters h test)) fun taken taken' htaken => ?_
    subst htaken
    split
    · exact pairs_renderTree hs h body
    · exact pairs_renderBranches hs h rest

end

/-! ## Templates -/

variable {filters : Filters}

theorem discreet_overriding (hf : filters.Discreet) {inclusion : Text → Context → Work Text}
    (hi : ∀ path, ∀ c d : Context, c.Akin d → Pairs Eq (inclusion path c) (inclusion path d))
    (n : Nat) (overrides : Overrides) : (overriding filters inclusion n overrides).Discreet := by
  induction n generalizing overrides with
  | zero => exact ⟨hf, nofun, hi⟩
  | succ n ih =>
    refine ⟨hf, fun name output houtput c d h => ?_, hi⟩
    obtain ⟨body, -, rfl⟩ := Option.map_eq_some_iff.1 houtput
    exact pairs_renderTree (ih _) h body

theorem pairs_renderTemplate (hf : filters.Discreet) (depth : Nat) (tree : List Node)
    {c d : Context} (h : c.Akin d) (path : Option Text) :
    Pairs Eq (renderTemplate filters depth tree c path)
      (renderTemplate filters depth tree d path) := by
  induction depth generalizing tree c d path with
  | zero => exact .throw _
  | succ depth ih =>
    have hi : ∀ path, ∀ c d : Context, c.Akin d →
        Pairs Eq (included filters depth path c) (included filters depth path d) := by
      intro path c d h
      refine .bind (Work.Respects.load path).pairs fun template template' htemplate => ?_
      subst htemplate
      exact ih template.tree h (some template.path)
    have hoverridden : ∀ overrides tree,
        Pairs Eq (renderOverridden filters (included filters depth) overrides c tree)
          (renderOverridden filters (included filters depth) overrides d tree) :=
      fun overrides tree => pairs_renderTree (discreet_overriding hf hi _ overrides) h tree
    cases hparent : parentPath tree with
    | none =>
      rw [renderTemplate_of_root hparent, renderTemplate_of_root hparent]
      exact hoverridden [] tree
    | some next =>
      rw [renderTemplate_of_parent hparent, renderTemplate_of_parent hparent, ← bind_assoc,
        ← bind_assoc]
      refine .bind (respects_climb next _ _).pairs fun found found' hfound => ?_
      subst hfound
      exact hoverridden found.2 found.1

/-- Private attributes never influence output. In two contexts that differ in nothing but the
presence, the values and the faults of private attributes, every expression has values that differ
in nothing else either, every test has the same outcome, and every template renders to the same
text; or all of these fail in the same way. -/
theorem renderTemplate_private (filters : Filters) (hf : filters.Discreet) (c d : Context)
    (h : c.Akin d) :
    (∀ (e : Expr) (m n : Machine), m.cells = n.cells →
      Agree Akin ((e.eval filters c).outcome m).1 ((e.eval filters d).outcome n).1 ∧
        ((e.eval filters c).outcome m).2.cells = ((e.eval filters d).outcome n).2.cells) ∧
    (∀ (test : Test) (m n : Machine), m.cells = n.cells →
      ((test.eval filters c).outcome m).1 = ((test.eval filters d).outcome n).1 ∧
        ((test.eval filters c).outcome m).2.cells = ((test.eval filters d).outcome n).2.cells) ∧
    ∀ (depth : Nat) (tree : List Node) (path : Option Text) (s t : Session), Session.Alike s t →
      ((renderTemplate filters depth tree c path).outcome s).1 =
          ((renderTemplate filters depth tree d path).outcome t).1 ∧
        Session.Alike ((renderTemplate filters depth tree c path).outcome s).2
          ((renderTemplate filters depth tree d path).outcome t).2 := by
  refine ⟨fun e => e.akin_eval hf h, fun test m n hcells => ?_, fun depth tree path s t hst => ?_⟩
  · obtain ⟨hagree, hafter⟩ := test.akin_eval hf h m n hcells
    exact ⟨hagree.eq, hafter⟩
  · obtain ⟨hagree, hafter⟩ := pairs_renderTemplate hf depth tree h path s t hst
    exact ⟨hagree.eq, hafter⟩

/-- A private attribute that is there in one context, and fails in another one, shows in neither,
however it is written. -/
theorem renderTemplate_private_hidden :
    let shared : Text × Value := ("name".toList, .text "n".toList)
    let o : Value := .object 0 [("_key".toList, .text "k".toList), shared] [] "<o>".toList
    let o' : Value := .object 0 [shared]
      [("_key".toList, .ofKind "ValueError".toList "closed".toList)] "<o>".toList
    let key : Text × Value := ("k".toList, .text "_key".toList)
    let c : Context := ⟨[("o".toList, o), key]⟩
    let d : Context := ⟨[("o".toList, o'), key]⟩
    let s := Session.start (.empty Encoding.codecs) (.table [])
    let tree : List Node := [.interpolation "o._key".toList none,
      .interpolation "o['_key']".toList none, .interpolation "o[k]".toList none,
      .interpolation "o.name".toList none]
    Filter.builtin.Discreet ∧ c.Akin d ∧
      ((renderTemplate Filter.builtin 1 tree c none).outcome s).1 =
        ((renderTemplate Filter.builtin 1 tree d none).outcome s).1 ∧
      ((renderTemplate Filter.builtin 1 tree d none).outcome s).1 = .ok "n".toList := by
  intro shared o o' key c d s tree
  have hshared : Value.AttributesAkin [shared] [shared] := .both _ (.atom rfl) .nil
  have ho : Akin o o' := .object 0 _ (.left rfl hshared) rfl
  have hcd : c.Akin d := by
    have hempty : Context.Akin ⟨[key]⟩ ⟨[key]⟩ := by
      intro name
      show Akin ((Context.empty.bind _ _).get name) ((Context.empty.bind _ _).get name)
      rw [Context.get_bind]
      split
      · exact .atom rfl
      · exact .atom rfl
    exact hempty.bind "o".toList ho
  refine ⟨Filter.discreet_builtin, hcd, ?_, eq_ok_of_toOption (by decide +kernel)⟩
  exact ((renderTemplate_private Filter.builtin Filter.discreet_builtin c d hcd).2.2 1 tree none s s
    (.refl s)).1

end Node
end Stencil
