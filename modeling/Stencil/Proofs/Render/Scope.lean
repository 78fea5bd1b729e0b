import Stencil.Proofs.Expr.Scope
import Stencil.Proofs.Expr.Reading
import Stencil.Proofs.Render.Inheritance
import Stencil.Proofs.Render.Rounds

/-!
# The scope of names

What a template outputs depends on its context through the values of names only, where a list or set
that two names share is more than two that are equal. A loop hides what
its context has under the names that it binds, from everything that is rendered in its rounds: inner
loops, conditionals, replaced blocks and included templates. What follows a loop is rendered in the
context in which the loop stands.

A loop over an expression that calls routines can still tell two contexts apart that differ in the
names it binds, though the expression has the same value in both: a call that is made in one of them
only may advance a counter or change a list that the body reads.
-/

set_option autoImplicit false

namespace Stencil

namespace Context

/-- Every name has the same value in two contexts, the given names apart. -/
def SameBut (names : List Text) (c d : Context) : Prop :=
  ∀ name, name ∉ names → c.get name = d.get name

theorem SameBut.bind {name : Text} {names : List Text} {c d : Context}
    (h : SameBut (name :: names) c d) (v : Value) :
    SameBut names (c.bind name v) (d.bind name v) := by
  intro other hother
  rw [get_bind, get_bind]
  split
  · rfl
  · rename_i hne
    exact h other (List.not_mem_cons_of_ne_of_not_mem hne hother)

end Context

/-! ## Loops -/

namespace Loop

theorem same_bindAll {c d : Context} (h : c.Same d) (bindings : List (Text × Value)) :
    (bindAll c bindings).Same (bindAll d bindings) := by
  induction bindings generalizing c d with
  | nil => exact h
  | cons binding rest ih => exact ih (h.bind binding.1 binding.2)

/-- Binding names hides what two contexts have under them. -/
theorem same_bindAll_zip {names : List Text} {values : List Value} {c d : Context}
    (h : Context.SameBut names c d) (hlength : names.length ≤ values.length) :
    (bindAll c (names.zip values)).Same (bindAll d (names.zip values)) := by
  induction names generalizing values c d with
  | nil => exact fun name => h name List.not_mem_nil
  | cons name names ih =>
    cases values with
    | nil => simp at hlength
    | cons v values =>
      rw [List.zip_cons_cons, bindAll, bindAll]
      exact ih (h.bind v) (Nat.le_of_succ_le_succ hlength)

/-- One or two names get a value each. -/
def Fits (names : List Text) (values : List Value) : Prop :=
  names.length = 1 ∨ names.length = 2 → values.length = names.length

theorem length_of_parts {v : Value} {values : List Value} (h : parts v = .ok values) :
    values.length = 2 := by
  unfold parts at h
  split at h
  iterate 5
    · cases h
      rfl
  · split at h
    · cases h
    · cases h
      rfl

theorem fits_of_shares {names : List Text} {v : Value} {values : List Value}
    (h : Shares names v values) : Fits names values := by
  intro hnames
  cases h with
  | whole hone => exact hone.symm
  | parts c hmany hparts =>
    have htwo : names.length = 2 := by omega
    rw [htwo, length_of_parts hparts]

theorem fits_valuesOfEntry (names : List Text) (entry : Value × Value) :
    Fits names (valuesOfEntry names entry) := by
  intro hnames
  unfold valuesOfEntry
  split
  · exact ‹names.length = 1›.symm
  · have htwo : names.length = 2 := by omega
    exact htwo.symm

/-- Two loops over a value are the same if each round is. -/
theorem run_congr {names : List Text} {v : Value} {c d : Context} {body : Context → Work Text}
    (h : ∀ values, Fits names values →
      body (bindAll c (names.zip values)) = body (bindAll d (names.zip values))) :
    run names v c body = run names v d body := by
  have hentry : (fun e => body (bindAll c (names.zip (valuesOfEntry names e)))) =
      fun e => body (bindAll d (names.zip (valuesOfEntry names e))) :=
    funext fun e => h _ (fits_valuesOfEntry names e)
  have hvisit : (fun w => Work.evaluating (valuesOfElement names w) >>= fun values =>
        body (bindAll c (names.zip values))) =
      fun w => Work.evaluating (valuesOfElement names w) >>= fun values =>
        body (bindAll d (names.zip values)) :=
    funext fun w => Work.evaluating_bind_congr (ensures_valuesOfElement names w)
      fun values hvalues => h values (fits_of_shares hvalues)
  unfold run
  simp only [hentry, hvisit]

end Loop

/-! ## Trees -/

/-- Surroundings in which the parts of other templates see names only, too. -/
structure Surroundings.SeeNames (s : Surroundings) : Prop where
  replacement : ∀ name output, s.replacement name = some output →
    ∀ c d : Context, c.Same d → output c = output d
  inclusion : ∀ path, ∀ c d : Context, c.Same d → s.inclusion path c = s.inclusion path d

namespace Node

theorem renderExpression_same {filters : Filters} {c d : Context} (h : c.Same d)
    (expression : Text) :
    renderExpression filters c expression = renderExpression filters d expression := by
  rw [renderExpression, renderExpression, Expr.eval_same h]

theorem renderTest_same {filters : Filters} {c d : Context} (h : c.Same d) (test : Option Text) :
    renderTest filters c test = renderTest filters d test := by
  cases test with
  | none => rfl
  | some test => exact Test.eval_same h (Test.ofText test)

variable {s : Surroundings}

mutual

theorem render_same (hs : s.SeeNames) {c d : Context} (h : c.Same d) :
    ∀ n : Node, render s c n = render s d n
  | .text value => by rw [render, render]
  | .interpolation expression position => by
    rw [render, render, renderExpression_same h]
  | .conditional branches => by
    rw [render, render]
    exact renderBranches_same hs h branches
  | .loop names iterable body => by
    rw [render, render, Expr.eval_same h]
    refine bind_congr fun v => Loop.run_congr fun values _ => ?_
    exact renderTree_same hs (Loop.same_bindAll h _) body
  | .block name body => by
    unfold render
    split
    · exact hs.replacement name _ ‹_› c d h
    · exact renderTree_same hs h body
  | .inclusion path => by
    rw [render, render]
    exact hs.inclusion path c d h
  | .extension path => by rw [render, render]

theorem renderTree_same (hs : s.SeeNames) {c d : Context} (h : c.Same d) :
    ∀ tree : List Node, renderTree s c tree = renderTree s d tree
  | [] => by rw [renderTree, renderTree]
  | n :: rest => by rw [renderTree, renderTree, render_same hs h n, renderTree_same hs h rest]

theorem renderBranches_same (hs : s.SeeNames) {c d : Context} (h : c.Same d) :
    ∀ branches : List (Branch Node), renderBranches s c branches = renderBranches s d branches
  | [] => by rw [renderBranches, renderBranches]
  | ⟨test, body⟩ :: rest => by
    rw [renderBranches, renderBranches, renderTest_same h, renderTree_same hs h body,
      renderBranches_same hs h rest]

end

/-! ## Templates -/

variable {filters : Filters}

theorem seeNames_overriding {inclusion : Text → Context → Work Text}
    (hi : ∀ path, ∀ c d : Context, c.Same d → inclusion path c = inclusion path d) (n : Nat)
    (overrides : Overrides) : (overriding filters inclusion n overrides).SeeNames := by
  induction n generalizing overrides with
  | zero => exact ⟨nofun, hi⟩
  | succ n ih =>
    refine ⟨fun name output houtput c d h => ?_, hi⟩
    obtain ⟨body, -, rfl⟩ := Option.map_eq_some_iff.1 houtput
    exact renderTree_same (ih _) h body

theorem filters_overriding (inclusion : Text → Context → Work Text) (n : Nat)
    (overrides : Overrides) : (overriding filters inclusion n overrides).filters = filters := by
  cases n <;> rfl

theorem renderTemplate_same (depth : Nat) (tree : List Node) {c d : Context} (h : c.Same d)
    (path : Option Text) :
    renderTemplate filters depth tree c path = renderTemplate filters depth tree d path := by
  induction depth generalizing tree c d path with
  | zero => rfl
  | succ depth ih =>
    have hi : ∀ path, ∀ c d : Context, c.Same d →
        included filters depth path c = included filters depth path d :=
      fun path c d h => bind_congr fun template => ih template.tree h (some template.path)
    have hoverridden : ∀ overrides tree,
        renderOverridden filters (included filters depth) overrides c tree =
          renderOverridden filters (included filters depth) overrides d tree :=
      fun overrides tree => renderTree_same (seeNames_overriding hi _ overrides) h tree
    cases hparent : parentPath tree with
    | none =>
      rw [renderTemplate_of_root hparent, renderTemplate_of_root hparent]
      exact hoverridden [] tree
    | some next =>
      rw [renderTemplate_of_parent hparent, renderTemplate_of_parent hparent]
      exact bind_congr fun s => bind_congr fun found => hoverridden found.2 found.1

theorem included_same (depth : Nat) (path : Text) {c d : Context} (h : c.Same d) :
    included filters depth path c = included filters depth path d :=
  bind_congr fun template => renderTemplate_same depth template.tree h (some template.path)

theorem respects_included (hf : filters.IgnoreJournal) (depth : Nat) (path : Text) (c : Context) :
    Work.Respects (included filters depth path c) :=
  .bind (.load path) fun template => respects_renderTemplate hf depth template.tree c _

/-- A loop whose iterable has the same value in two contexts, and leaves the cells the same, is
rendered alike in both if they differ in nothing but the names that it binds. -/
theorem render_loop_sameBut {s : Surroundings} (hs : s.SeeNames) (hr : s.Respect)
    (hfilters : s.filters = filters) {names : List Text}
    (hnames : names.length = 1 ∨ names.length = 2) {c d : Context} (h : c.SameBut names d)
    (iterable : Text) (body : List Node) {session : Session}
    (hvalue : (((Expr.ofText iterable).eval filters c).outcome session.machine).1 =
      (((Expr.ofText iterable).eval filters d).outcome session.machine).1)
    (hcells : (((Expr.ofText iterable).eval filters c).outcome session.machine).2.cells =
      (((Expr.ofText iterable).eval filters d).outcome session.machine).2.cells) :
    ((render s c (.loop names iterable body)).outcome session).1 =
        ((render s d (.loop names iterable body)).outcome session).1 ∧
      Session.Alike ((render s c (.loop names iterable body)).outcome session).2
        ((render s d (.loop names iterable body)).outcome session).2 := by
  have hrun : ∀ v, Loop.run names v c (fun scope => renderTree s scope body) =
      Loop.run names v d fun scope => renderTree s scope body := by
    intro v
    refine Loop.run_congr fun values hvalues => renderTree_same hs ?_ body
    exact Loop.same_bindAll_zip h (Nat.le_of_eq (hvalues hnames).symm)
  rw [render, render, Work.outcome_bind, Work.outcome_bind, Work.outcome_evaluating,
    Work.outcome_evaluating, hfilters, hvalue]
  cases (((Expr.ofText iterable).eval filters d).outcome session.machine).1 with
  | error e => exact ⟨rfl, rfl, rfl, hcells, fun _ => rfl⟩
  | ok v =>
    simp only [hrun v]
    exact Loop.respects_run (fun scope => respects_renderTree hr scope body) names v d _ _
      ⟨rfl, rfl, hcells, fun _ => rfl⟩

/-- A context matters by the values of its names only, and a loop hides what the context has under
the names that it binds. Two contexts in which every name has the same value make every template
output the same and fail in the same way. Two contexts that differ in the names of a loop make the
loop output the same, with whatever overrides of blocks and inclusions, if its iterable has the same
value in both and leaves the same cells: counters and cursors at the same places, lists and sets with
the same elements, and the same numbers to give out. What follows a loop is rendered where the loop
ends, in the context in which the loop began. -/
theorem renderTemplate_scopes (filters : Filters) (depth : Nat) :
    (∀ (tree : List Node) (c d : Context) (path : Option Text) (s : Session),
      (∀ name, c.get name = d.get name) →
      (renderTemplate filters depth tree c path).outcome s =
        (renderTemplate filters depth tree d path).outcome s) ∧
    ∀ (n : Nat) (overrides : Overrides) (names : List Text) (iterable : Text) (body : List Node),
      let surroundings := overriding filters (included filters depth) n overrides
      let loop := Node.loop names iterable body
      (∀ (c d : Context) (s : Session), filters.IgnoreJournal →
        names.length = 1 ∨ names.length = 2 →
        (∀ name, name ∉ names → c.get name = d.get name) →
        let valueIn := fun c => ((Expr.ofText iterable).eval filters c).outcome s.machine
        (valueIn c).1 = (valueIn d).1 → (valueIn c).2.cells = (valueIn d).2.cells →
        ((render surroundings c loop).outcome s).1 = ((render surroundings d loop).outcome s).1 ∧
          Session.Alike ((render surroundings c loop).outcome s).2
            ((render surroundings d loop).outcome s).2) ∧
      ∀ (c : Context) (rest : List Node) (s t : Session) (output : Text),
        (render surroundings c loop).outcome s = (.ok output, t) →
        (renderTree surroundings c (loop :: rest)).outcome s =
          (renderTree surroundings c (.text output :: rest)).outcome t := by
  refine ⟨fun tree c d path s h => ?_, fun n overrides names iterable body => ⟨?_, ?_⟩⟩
  · rw [renderTemplate_same depth tree h path]
  · intro c d s hf hnames h valueIn hvalue hcells
    have hs : (overriding filters (included filters depth) n overrides).SeeNames :=
      seeNames_overriding (fun path c d h => included_same depth path h) n overrides
    have hr : (overriding filters (included filters depth) n overrides).Respect :=
      respect_overriding hf (respects_included hf depth) n overrides
    exact render_loop_sameBut hs hr (filters_overriding _ n overrides) hnames h iterable body
      hvalue hcells
  · intro c rest s t output hloop
    rw [renderTree, renderTree, Work.outcome_bind_of_ok hloop, render, pure_bind]

/-- An outer value of the name of a loop makes no difference to the loop, and is there again after
it. -/
theorem renderTemplate_scopes_shadowed :
    let items : Value := .list [.int 1, .int 2]
    let outer : Value := .text "outer".toList
    let d : Context := Context.empty.bind "xs".toList items
    let c : Context := d.bind "x".toList outer
    let shuffled : Context := (Context.empty.bind "x".toList outer).bind "xs".toList items
    let s := Session.start (.empty Encoding.codecs) (.table [])
    let surroundings := overriding Filter.builtin (included Filter.builtin 0) 0 []
    let name : Node := .interpolation "x".toList none
    let loop : Node := .loop ["x".toList] "xs".toList [name]
    let after := ((render surroundings c loop).outcome s).2
    (renderTemplate Filter.builtin 1 [loop] c none).outcome s =
        (renderTemplate Filter.builtin 1 [loop] shuffled none).outcome s ∧
      ((render surroundings c loop).outcome s).1 = ((render surroundings d loop).outcome s).1 ∧
      ((render surroundings d loop).outcome s).1 = .ok "12".toList ∧
      (renderTree surroundings c [loop, name]).outcome s =
        (renderTree surroundings c [.text "12".toList, name]).outcome after ∧
      ((renderTree surroundings c [loop, name]).outcome s).1 = .ok "12outer".toList := by
  intro items outer d c shuffled s surroundings name loop after
  have hnames : ∀ other, other ∉ ["x".toList] → c.get other = d.get other := by
    intro other hother
    rw [Context.get_bind, if_neg (fun h => hother (List.mem_singleton.2 h))]
  have hshuffled : ∀ other, c.get other = shuffled.get other := by
    intro other
    have hne : "x".toList ≠ "xs".toList := by decide
    rw [Context.get_bind, Context.get_bind, Context.get_bind, Context.get_bind]
    by_cases h : other = "x".toList
    · rw [if_pos h, if_neg (h ▸ hne), if_pos h]
    · rw [if_neg h, if_neg h]
  have hpath : Path.parse? "xs".toList = some ("xs".toList, []) := by decide +kernel
  have hiterable : Expr.ofText "xs".toList = .path "xs".toList "xs".toList [] :=
    Expr.ofText_path rfl (by decide) rfl hpath
  have hvalue : ((Expr.ofText "xs".toList).eval Filter.builtin c).outcome s.machine =
      ((Expr.ofText "xs".toList).eval Filter.builtin d).outcome s.machine := by
    rw [hiterable]
    rfl
  have hresult : ((render surroundings c loop).outcome s).1 = .ok "12".toList :=
    eq_ok_of_toOption (by decide +kernel)
  have hloop : (render surroundings c loop).outcome s = (.ok "12".toList, after) := by
    rw [← hresult]
  obtain ⟨-, hscope⟩ := renderTemplate_scopes Filter.builtin 0
  obtain ⟨hagree, hafter⟩ := hscope 0 [] ["x".toList] "xs".toList [name]
  obtain ⟨hboth, -⟩ := hagree c d s Filter.ignoreJournal_builtin (.inl rfl) hnames
    (congrArg Prod.fst hvalue) (congrArg (fun o => o.2.cells) hvalue)
  refine ⟨?_, hboth, hboth ▸ hresult, hafter c [name] s after _ hloop,
    eq_ok_of_toOption (by decide +kernel)⟩
  exact (renderTemplate_scopes Filter.builtin 1).1 [loop] c shuffled none s hshuffled

/-- A name with a default that calls another one. -/
theorem ofText_defaulted : Expr.ofText "xs|default:x()".toList =
    .filtered (.path "xs".toList "xs".toList []) "default".toList
      (some (.path "x()".toList "x".toList [.call])) := by
  have hparts : Expr.pipeline (Text.strip "xs|default:x()".toList) =
      ["xs".toList, "default:x()".toList] := by
    decide +kernel
  have hfilter : Expr.filterParts "default:x()".toList =
      ("default".toList, some "x()".toList) := by
    decide +kernel
  have hoperand : Path.parse? "xs".toList = some ("xs".toList, []) := by decide +kernel
  have hargument : Path.parse? "x()".toList = some ("x".toList, [.call]) := by decide +kernel
  have hread : ∀ depth, Expr.ofTextWithin (depth + 1) "x()".toList =
      .path "x()".toList "x".toList [.call] :=
    Expr.ofTextWithin_path (by decide +kernel) (by decide) (by decide +kernel) hargument
  rw [Expr.ofText_filtered hparts, Expr.applyWritten, hfilter,
    Expr.readOperand_path (by decide) (by decide +kernel) hoperand, ← hread 13]
  rfl

/-- Equal values are not enough. Two contexts that differ only in the name of a loop give its iterable
the same list, but in one of them its default calls a counter that the body calls too. And two
contexts give equal lists to each of two names, but in one of them both names have the same list, so
that what is taken out under the one name is missing under the other. -/
theorem equal_values_tell :
    let s := Session.start (.empty Encoding.codecs) (.table [])
    let surroundings := overriding Filter.builtin (included Filter.builtin 0) 0 []
    let counter : Value := .routine 0 none (.counter 0 0)
    let d : Context := ⟨[("f".toList, counter), ("xs".toList, .list [.int 1])]⟩
    let c : Context := d.bind "x".toList counter
    let iterable := "xs|default:x()".toList
    let loop := Node.loop ["x".toList] iterable [.interpolation "f()".toList none]
    let list : Value := .shared 0 .list [.int 1]
    let alike : Value := .shared 1 .list [.int 1]
    let once : Context := ⟨[("x".toList, list), ("y".toList, list)]⟩
    let twice : Context := ⟨[("x".toList, list), ("y".toList, alike)]⟩
    let tree : List Node := [.interpolation "x.pop()".toList none,
      .interpolation "y|length".toList none]
    ((∀ name, name ∉ ["x".toList] → c.get name = d.get name) ∧
      (((Expr.ofText iterable).eval Filter.builtin c).outcome s.machine).1 =
        (((Expr.ofText iterable).eval Filter.builtin d).outcome s.machine).1 ∧
      ((render surroundings c loop).outcome s).1 = .ok "1".toList ∧
      ((render surroundings d loop).outcome s).1 = .ok "0".toList) ∧
    (∀ name, (once.get name).rank.equals (twice.get name).rank) ∧
      ((renderTemplate Filter.builtin 1 tree once none).outcome s).1 = .ok "10".toList ∧
      ((renderTemplate Filter.builtin 1 tree twice none).outcome s).1 = .ok "11".toList := by
  intro s surroundings counter d c iterable loop list alike once twice tree
  refine ⟨⟨fun name hname => ?_, ?_, eq_ok_of_toOption (by decide +kernel),
    eq_ok_of_toOption (by decide +kernel)⟩, fun name => ?_, eq_ok_of_toOption (by decide +kernel),
    eq_ok_of_toOption (by decide +kernel)⟩
  · rw [Context.get_bind, if_neg (fun h => hname (List.mem_singleton.2 h))]
  · have hboth : (((Expr.ofText iterable).eval Filter.builtin c).outcome s.machine).1 =
        .ok (.list [.int 1]) ∧
      (((Expr.ofText iterable).eval Filter.builtin d).outcome s.machine).1 =
        .ok (.list [.int 1]) := by
      rw [ofText_defaulted]
      simp only [Expr.eval, Expr.evalSteps, Expr.evalArgument]
      exact ⟨rfl, rfl⟩
    rw [hboth.1, hboth.2]
  · have hget : ∀ w : Value, Context.get ⟨[("x".toList, list), ("y".toList, w)]⟩ name =
        if name = "x".toList then list else if name = "y".toList then w else .undefined := by
      intro w
      rw [Context.get, Table.lookup_cons, Table.lookup_cons]
      split
      · rfl
      · split <;> rfl
    rw [hget, hget]
    split
    · decide +kernel
    · split <;> decide +kernel

end Node
end Stencil
