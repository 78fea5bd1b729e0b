import Stencil.Proofs.Render.Involved

/-!
# What renderings promise

A promise about renderings says which nodes are rendered in which contexts, what the pieces of
their output are like, which failures can end them, which paths are asked for, and which values may
change their sizes. It is kept if every kind of node keeps its part: an interpolation outputs a
piece, a loop makes contexts of the right kind, and the nodes of templates that are extended or
included are again nodes that the promise speaks of. Then whole renderings keep it, with all
inclusions, chains of extensions and replaced blocks.
-/

set_option autoImplicit false

namespace Stencil

open Node
open Work (Answers)

/-- What is said of the parts of a rendering. -/
structure Promise where
  /-- The nodes that are rendered, by the depth that is left to inclusions. -/
  node : Nat → Node → Prop
  scope : Context → Prop
  piece : Text → Prop
  fail : Failure → Prop
  /-- The paths that are asked for. -/
  asks : Text → Prop := fun _ => True
  /-- The values whose sizes may change. -/
  alters : Value → Prop := fun _ => True

namespace Promise

/-- A text that is made of pieces. -/
def Output (p : Promise) (t : Text) : Prop :=
  ∃ pieces : List Text, t = pieces.flatten ∧ ∀ piece ∈ pieces, p.piece piece

/-- A rendering outputs pieces or fails as promised, and does nothing else than what is promised. -/
abbrev Renders (p : Promise) (answers : Answers) (x : Work Text) : Prop :=
  x.Ensures answers p.Output p.fail p.asks p.alters

/-- A rendering may fail because a chain of extensions comes back to a path. -/
def MayReturn (p : Promise) (path : Text) : Prop :=
  ∀ chain e, (cycle chain path : Except Failure (List Node × Overrides)) = .error e → p.fail e

/-- What is said of a loop over a value: the contexts of its rounds are as promised, and so are the
failures that can end it, at an element whose size cannot be counted and at a set whose size has
changed. -/
structure Rounds (p : Promise) (names : List Text) (c : Context) (v : Value) : Prop where
  scope {values : List Value} : Loop.Binds names v values →
    p.scope (Loop.bindAll c (names.zip values))
  size {w : Value} : Loop.HasElement v w → Value.sizeLimit < w.size?.getD 0 → p.fail .overlong
  resized : Loop.IsExposed v → p.alters v → p.fail .resized

/-- Every kind of node keeps its part of a promise. -/
structure Kept (p : Promise) (answers : Answers) (filters : Filters) : Prop where
  child {d : Nat} {parent n : Node} : p.node d parent → parent.Child n → p.node d n
  text {d : Nat} {value : Text} : p.node d (.text value) → p.piece value
  interpolation {d : Nat} {expression : Text} {position : Option Position} {c : Context} :
    p.node d (.interpolation expression position) → p.scope c →
    (renderExpression filters c expression).Ensures p.piece p.fail
  test {d : Nat} {branches : List (Branch Node)} {b : Branch Node} {c : Context} :
    p.node d (.conditional branches) → b ∈ branches → p.scope c →
    (renderTest filters c b.test).Ensures (fun _ => True) p.fail
  loop {d : Nat} {names : List Text} {iterable : Text} {body : List Node} {c : Context} :
    p.node d (.loop names iterable body) → p.scope c →
    ((Expr.ofText iterable).eval filters c).Ensures (p.Rounds names c) p.fail
  resizes {d : Nat} {n : Node} {c : Context} {e : Expr} {v : Value} :
    p.node d n → p.scope c → e ∈ n.expressions → (e.eval filters c).Resizes v → p.alters v
  asked {d : Nat} {n : Node} {path : Text} : p.node d n → path ∈ references n → p.asks path
  missing {d : Nat} {n : Node} {path : Text} {e : Failure} :
    p.node d n → path ∈ references n → answers path = .error e → p.fail e
  extended {d : Nat} {path : Text} {template : Template} {m : Node} :
    p.node d (.extension path) → answers path = .ok template → m ∈ template.tree → p.node d m
  included {d : Nat} {path : Text} {template : Template} {m : Node} :
    p.node (d + 1) (.inclusion path) → answers path = .ok template → m ∈ template.tree →
    p.node d m
  endless {path : Text} : p.node 0 (.inclusion path) → p.fail .endless
  cyclic {d : Nat} {n : Node} {path back : Text} {template : Template} :
    p.node d n → path ∈ references n → answers path = .ok template →
    back = path ∨ back = template.path → Leads answers template.tree back → p.MayReturn back

variable {p : Promise} {answers : Answers} {filters : Filters}

/-! ## Output -/

theorem output_nil : p.Output [] := ⟨[], rfl, nofun⟩

theorem output_of_piece {t : Text} (h : p.piece t) : p.Output t :=
  ⟨[t], by simp, by simpa using h⟩

theorem Output.append {s t : Text} (hs : p.Output s) (ht : p.Output t) : p.Output (s ++ t) := by
  obtain ⟨before, rfl, hbefore⟩ := hs
  obtain ⟨after, rfl, hafter⟩ := ht
  refine ⟨before ++ after, List.flatten_append.symm, ?_⟩
  intro piece hpiece
  rcases List.mem_append.1 hpiece with h | h
  · exact hbefore piece h
  · exact hafter piece h

/-- Two computations, one after the other, whose outputs are joined. -/
theorem ensures_append {x y : Work Text} (hx : p.Renders answers x)
    (hy : p.Renders answers y) :
    p.Renders answers (do
      let first ← x
      let others ← y
      pure (first ++ others)) := by
  apply hx.bind
  intro first hfirst
  apply hy.bind
  intro others hothers
  exact .pure (hfirst.append hothers)

/-! ## Loops -/

section Loops

variable {α : Type} {body : α → Work Text} {items : List α}

theorem ensures_forEach (h : ∀ item ∈ items, p.Renders answers (body item)) :
    p.Renders answers (Loop.forEach body items) := by
  induction items with
  | nil => exact .pure output_nil
  | cons item rest ih =>
    apply ensures_append
    · exact h item (List.mem_cons_self ..)
    · exact ih fun other hother => h other (List.mem_cons_of_mem _ hother)

theorem ensures_forCursor (h : ∀ item ∈ items, p.Renders answers (body item))
    (cell tries : Nat) :
    p.Renders answers (Loop.forCursor body cell items tries) := by
  induction tries with
  | zero => exact .pure output_nil
  | succ tries ih =>
    unfold Loop.forCursor
    apply Work.Ensures.bind (.evaluating (.asked fun c => c.count cell) fun _ hv =>
      absurd hv (Eval.not_resizes_asking _))
    intro taken _
    split
    · exact .pure output_nil
    · rename_i item hitem
      have htake : (Eval.take cell).Ensures (fun _ => True) p.fail := .acting fun _ => trivial
      apply Work.Ensures.bind (.evaluating htake fun _ hv => absurd hv (Eval.not_resizes_take cell))
      intro _ _
      exact ensures_append (h item (List.mem_of_getElem? hitem)) ih

/-- A walk through a list or set ensures what its rounds do, from a session in which a set has the
size that it began with, or in which that size may have changed. -/
theorem ensuresFrom_forPlaces {visit : Value → Work Text} {v : Value}
    (hcounted : ∀ c, v.sizeIn c = some (Loop.elements (v.opened c)).length)
    (h : ∀ w, Loop.HasElement v w → p.Renders answers (visit w)) {size : Option Nat}
    (hresized : size.isSome → p.alters v → p.fail .resized) (place tries : Nat) {s : Session}
    (hs : s.answer = answers)
    (hsize : ∀ n, size = some n → v.sizeIn s.machine.cells = some n ∨ p.alters v) :
    Work.EnsuresFrom s p.Output p.fail p.asks p.alters
      (Loop.forPlaces visit v size place tries) := by
  -- By the rounds that are left: each one leaves the set with its size, or the size may change.
  induction tries generalizing place s with
  | zero => exact ⟨.refl s, output_nil⟩
  | succ tries ih =>
    unfold Loop.forPlaces
    apply (Work.EnsuresFrom.asking fun c => Loop.elements (v.opened c)).bind
    rintro _ t rfl ht
    split
    · rename_i hother
      obtain ⟨n, hn, hlength⟩ := (Option.any_eq_true ..).1 hother
      refine ⟨.refl t, hresized (hn ▸ rfl) ((hsize n hn).resolve_left fun hsame => ?_)⟩
      rw [hcounted, Option.some_inj] at hsame
      simp [hsame] at hlength
    · split
      · exact ⟨.refl t, output_nil⟩
      · rename_i w hw
        have hround : p.Renders answers (visit w) := h w ⟨_, List.mem_of_getElem? hw⟩
        apply (hround t (ht.answer.trans hs)).bind
        intro first u hfirst hu
        have hsu : s.Continues p.asks p.alters u := ht.trans hu
        have hleft : ∀ n, size = some n → v.sizeIn u.machine.cells = some n ∨ p.alters v := by
          intro n hn
          rcases hsu.sizes v with hsame | halters
          · rw [hsame]
            exact hsize n hn
          · exact .inr halters
        apply (ih _ (hsu.answer.trans hs) hleft).bind
        intro others z hothers _
        exact ⟨.refl z, hfirst.append hothers⟩

theorem ensures_forShared {visit : Value → Work Text} {cell : Nat} {kind : Collection}
    {elements : List Value}
    (h : ∀ w, Loop.HasElement (.shared cell kind elements) w → p.Renders answers (visit w))
    (hresized : Loop.IsExposed (.shared cell kind elements) →
      p.alters (.shared cell kind elements) → p.fail .resized) :
    p.Renders answers (Loop.forShared visit (.shared cell kind elements) kind elements) := by
  intro s hs
  have hcounted := Loop.sizeIn_shared cell kind elements
  unfold Loop.forShared
  apply (Work.EnsuresFrom.asking fun c =>
    Loop.elements ((Value.shared cell kind elements).opened c)).bind
  rintro _ t rfl ht
  cases kind with
  | list => exact ensuresFrom_forPlaces hcounted h (by nofun) _ _ (ht.answer.trans hs) (by nofun)
  | set =>
    refine ensuresFrom_forPlaces hcounted h (fun _ => hresized ⟨cell, elements, rfl⟩) _ _
      (ht.answer.trans hs) ?_
    rintro _ ⟨⟩
    rw [← hcounted]
    exact ht.sizes _

theorem ensures_run {names : List Text} {v : Value} {c : Context} {body : Context → Work Text}
    (hbody : ∀ scope, p.scope scope → p.Renders answers (body scope))
    (hrounds : p.Rounds names c v) :
    p.Renders answers (Loop.run names v c body) := by
  have hentry : ∀ entries, v.entries? = some entries → ∀ e ∈ entries, p.Renders answers
      (body (Loop.bindAll c (names.zip (Loop.valuesOfEntry names e)))) :=
    fun entries hentries e he => hbody _ (hrounds.scope (.entry hentries he))
  have hvisit : ∀ w, Loop.HasElement v w → p.Renders answers (do
      let values ← Work.evaluating (Loop.valuesOfElement names w)
      body (Loop.bindAll c (names.zip values))) := by
    intro w hw
    have hvalues : (Loop.valuesOfElement names w).Ensures (Loop.Shares names w) p.fail :=
      (Loop.ensures_valuesOfElement names w).weakenFail fun f hf => hf.1 ▸ hrounds.size hw hf.2
    apply Work.Ensures.bind (.evaluating hvalues fun _ hv =>
      absurd hv (Loop.not_resizes_valuesOfElement names w))
    intro values hshares
    exact hbody _ (hrounds.scope (.element hw hshares))
  unfold Loop.run
  split
  · exact ensures_forEach (hentry _ rfl)
  · exact ensures_forEach (hentry _ rfl)
  · exact ensures_forCursor (fun w hw => hvisit w ⟨.startingAt 0, hw⟩) _ _
  · exact ensures_forShared hvisit hrounds.resized
  · rename_i hshared
    refine ensures_forEach fun w hw => hvisit w ⟨.startingAt 0, ?_⟩
    obtain hopened | ⟨cell, kind, items, rfl, -⟩ := v.opened_cases (.startingAt 0)
    · rwa [hopened]
    · exact (hshared cell kind items rfl).elim

end Loops

/-! ## Trees -/

/-- Surroundings that keep a promise, with a depth left to inclusions. -/
structure Serves (p : Promise) (answers : Answers) (filters : Filters) (d : Nat)
    (s : Surroundings) : Prop where
  filters_eq : s.filters = filters
  replacement : ∀ name output, s.replacement name = some output → ∀ c, p.scope c →
    p.Renders answers (output c)
  inclusion : ∀ path c, p.node d (.inclusion path) → p.scope c →
    p.Renders answers (s.inclusion path c)

variable {d : Nat} {s : Surroundings}

mutual

theorem ensures_render (hkept : p.Kept answers filters) (hs : p.Serves answers filters d s)
    {c : Context} (hc : p.scope c) :
    ∀ n : Node, p.node d n → p.Renders answers (render s c n)
  | .text value, hn => by
    unfold render
    exact .pure (output_of_piece (hkept.text hn))
  | .interpolation expression position, hn => by
    unfold render
    rw [hs.filters_eq]
    have hpiece := hkept.interpolation hn hc
    exact .evaluating (hpiece.weaken fun _ => output_of_piece) fun _ hv =>
      hkept.resizes hn hc (by simp [expressions]) (resizes_of_renderExpression hv)
  | .conditional branches, hn => by
    unfold render
    apply ensures_renderBranches hkept hs hc branches
    intro b hb
    refine ⟨hkept.test hn hb hc, fun v hv => ?_, fun n hmem => hkept.child hn (.branch hb hmem)⟩
    obtain ⟨e, he, hresizes⟩ := resizes_of_renderTest hb hv
    exact hkept.resizes hn hc he hresizes
  | .loop names iterable body, hn => by
    unfold render
    rw [hs.filters_eq]
    apply Work.Ensures.bind (.evaluating (hkept.loop hn hc) fun _ hv =>
      hkept.resizes hn hc (by simp [expressions]) hv)
    intro v hv
    refine ensures_run (fun scope hscope => ?_) hv
    exact ensures_renderTree hkept hs hscope body fun n hmem => hkept.child hn (.loop hmem)
  | .block name body, hn => by
    unfold render
    split
    · rename_i output houtput
      exact hs.replacement name output houtput c hc
    · exact ensures_renderTree hkept hs hc body fun n hmem => hkept.child hn (.block hmem)
  | .inclusion path, hn => by
    unfold render
    exact hs.inclusion path c hn hc
  | .extension path, _ => by
    unfold render
    exact .pure output_nil

theorem ensures_renderTree (hkept : p.Kept answers filters) (hs : p.Serves answers filters d s)
    {c : Context} (hc : p.scope c) :
    ∀ tree : List Node, (∀ n ∈ tree, p.node d n) →
      p.Renders answers (renderTree s c tree)
  | [], _ => by
    unfold renderTree
    exact .pure output_nil
  | n :: rest, h => by
    unfold renderTree
    apply ensures_append
    · exact ensures_render hkept hs hc n (h n (List.mem_cons_self ..))
    · exact ensures_renderTree hkept hs hc rest fun m hm => h m (List.mem_cons_of_mem _ hm)

theorem ensures_renderBranches (hkept : p.Kept answers filters) (hs : p.Serves answers filters d s)
    {c : Context} (hc : p.scope c) :
    ∀ branches : List (Branch Node),
      (∀ b ∈ branches, (renderTest filters c b.test).Ensures (fun _ => True) p.fail ∧
        (∀ v, (renderTest filters c b.test).Resizes v → p.alters v) ∧ ∀ n ∈ b.body, p.node d n) →
      p.Renders answers (renderBranches s c branches)
  | [], _ => by
    unfold renderBranches
    exact .pure output_nil
  | ⟨test, body⟩ :: rest, h => by
    obtain ⟨htest, hresizes, hbody⟩ := h _ (List.mem_cons_self ..)
    unfold renderBranches
    rw [hs.filters_eq]
    apply Work.Ensures.bind (.evaluating htest hresizes)
    intro taken _
    split
    · exact ensures_renderTree hkept hs hc body hbody
    · exact ensures_renderBranches hkept hs hc rest fun b hb => h b (List.mem_cons_of_mem _ hb)

end

/-! ## Replaced blocks -/

/-- Bodies that replace blocks, all of nodes that a promise speaks of. -/
structure Covers (p : Promise) (d : Nat) (overrides : Overrides) : Prop where
  keys : (Table.keys overrides).Nodup
  body : ∀ name body, overrides.lookup name = some body → ∀ n ∈ body, p.node d n

theorem covers_nil : p.Covers d [] := ⟨List.nodup_nil, nofun⟩

theorem covers_blocks {tree : List Node} (hkept : p.Kept answers filters)
    (htree : ∀ n ∈ tree, p.node d n) : p.Covers d (Outline.ofTree tree).blocks := by
  refine ⟨Outline.nodup_keys_blocks tree, ?_⟩
  intro name body hlookup n hn
  exact hkept.child (htree _ (block_mem_of_lookup hlookup)) (.block hn)

theorem Covers.update {base overrides : Overrides} (h : p.Covers d overrides)
    (hbase : p.Covers d base) : p.Covers d (Table.update base overrides) := by
  refine ⟨Table.nodup_keys_update hbase.keys overrides, ?_⟩
  intro name body hlookup
  rw [Table.lookup_update h.keys] at hlookup
  rcases Option.or_eq_some_iff.1 hlookup with hover | ⟨-, hunder⟩
  · exact h.body name body hover
  · exact hbase.body name body hunder

theorem serves_overriding (hkept : p.Kept answers filters)
    {inclusion : Text → Context → Work Text}
    (hinclusion : ∀ path c, p.node d (.inclusion path) → p.scope c →
      p.Renders answers (inclusion path c)) (n : Nat) {overrides : Overrides}
    (h : ∀ name body, overrides.lookup name = some body → ∀ n ∈ body, p.node d n) :
    p.Serves answers filters d (overriding filters inclusion n overrides) := by
  induction n generalizing overrides with
  | zero => exact ⟨rfl, nofun, hinclusion⟩
  | succ n ih =>
    -- A replaced block is rendered without its own replacement, so one override fewer is left.
    refine ⟨rfl, ?_, hinclusion⟩
    intro name output houtput c hc
    obtain ⟨body, hbody, rfl⟩ := Option.map_eq_some_iff.1 houtput
    have hrest : ∀ other body, (Table.remove name overrides).lookup other = some body →
        ∀ n ∈ body, p.node d n := by
      intro other body hlookup
      rw [Table.lookup_remove] at hlookup
      split at hlookup
      · cases hlookup
      · exact h other body hlookup
    exact ensures_renderTree hkept (ih hrest) hc body (h name body hbody)

theorem ensures_renderOverridden (hkept : p.Kept answers filters)
    {inclusion : Text → Context → Work Text}
    (hinclusion : ∀ path c, p.node d (.inclusion path) → p.scope c →
      p.Renders answers (inclusion path c)) {overrides : Overrides}
    (h : p.Covers d overrides) {c : Context} (hc : p.scope c) {tree : List Node}
    (htree : ∀ n ∈ tree, p.node d n) :
    p.Renders answers (renderOverridden filters inclusion overrides c tree) :=
  ensures_renderTree hkept (serves_overriding hkept hinclusion _ h.body) hc tree htree

/-! ## Chains of extensions -/

open Session (Alike)

/-- A climb finds a tree and overrides that the promise speaks of, or fails as the promise says. The
templates that were passed are those that may be come back to, if that can happen at all. -/
theorem ensuresFrom_climb (hkept : p.Kept answers filters) {s : Session} (hs : s.answer = answers)
    {bound : Nat} {path : Text} {chain : List Text} (hsettled : s.Settled bound path chain)
    (hpath : p.node d (.extension path))
    (hback : ∀ q ∈ chain, q = path ∨
      (∃ template, answers path = .ok template ∧ Leads answers template.tree q) → p.MayReturn q)
    {overrides : Overrides} (hover : p.Covers d overrides) {u : Session} (hu : Alike s u) :
    Work.EnsuresFrom u (fun found => (∀ m ∈ found.1, p.node d m) ∧ p.Covers d found.2) p.fail p.asks
      p.alters (climb bound path overrides chain) := by
  -- Along the climb: each step puts the template that it passes into the chain, and what is known
  -- of the ways back from the new template is what the promise knows of cycles.
  induction hsettled generalizing u overrides with
  | @passed bound _ _ hpassed =>
    rw [Work.EnsuresFrom, outcome_climb_passed bound overrides hpassed]
    refine ⟨.refl u, ?_⟩
    have hfail := hback _ hpassed (.inl rfl)
    cases hcycle : (cycle _ _ : Except Failure (List Node × Overrides)) with
    | ok found => exact absurd hcycle Registry.raise_ne_ok
    | error e => exact hfail _ e hcycle
  | @missing bound _ _ _ hnew hanswer =>
    obtain ⟨v, hv, hloaded⟩ := outcome_climb_missing bound overrides hnew (hu.answer _ ▸ hanswer)
    rw [Work.EnsuresFrom, hv]
    refine ⟨hloaded.continues (hkept.asked hpath (by simp [references])), ?_⟩
    rw [hs] at hanswer
    exact hkept.missing hpath (by simp [references]) hanswer
  | @root bound _ _ _ hnew hanswer hparent =>
    obtain ⟨v, hv, hloaded⟩ :=
      outcome_climb_root bound overrides hnew (hu.answer _ ▸ hanswer) hparent
    rw [Work.EnsuresFrom, hv]
    refine ⟨hloaded.continues (hkept.asked hpath (by simp [references])), ?_, hover⟩
    rw [hs] at hanswer
    exact fun m hm => hkept.extended hpath hanswer hm
  | @step bound path next chain template hnew hanswer hparent _ ih =>
    obtain ⟨v, hv, hloaded⟩ :=
      outcome_climb_step bound overrides hnew (hu.answer _ ▸ hanswer) hparent
    have hcontinues : u.Continues p.asks p.alters v :=
      hloaded.continues (hkept.asked hpath (by simp [references]))
    rw [Work.EnsuresFrom, hv]
    rw [hs] at hanswer
    have htree : ∀ m ∈ template.tree, p.node d m := fun m hm => hkept.extended hpath hanswer hm
    have hextension := extension_mem_of_parent hparent
    have hmem : next ∈ treeReferences template.tree :=
      mem_treeReferences.2 ⟨_, hextension, by simp [references]⟩
    have hreturns : ∀ q ∈ chain ++ [path], q = next ∨
        (∃ parent, answers next = .ok parent ∧ Leads answers parent.tree q) → p.MayReturn q := by
      intro q hq hreturn
      have hleads : Leads answers template.tree q := by
        rcases hreturn with rfl | ⟨parent, hload, hq⟩
        · exact .direct hmem
        · exact .through hmem hload hq
      rcases List.mem_append.1 hq with hold | hlast
      · exact hback q hold (.inr ⟨template, hanswer, hleads⟩)
      · rw [List.mem_singleton.1 hlast] at hleads ⊢
        exact hkept.cyclic hpath (by simp [references]) hanswer (.inl rfl) hleads
    obtain ⟨hrest, hyields⟩ := ih (htree _ hextension) hreturns
      (hover.update (covers_blocks hkept htree)) (hu.trans hloaded.alike)
    exact ⟨hcontinues.trans hrest, hyields⟩

/-! ## Templates -/

section Templates

variable {depth : Nat} {tree : List Node} {c : Context} {path : Option Text}

/-- One template keeps a promise if its inclusions do. -/
theorem ensures_renderTemplate_of_inclusions (hkept : p.Kept answers filters)
    (hinclusion : ∀ path c, p.node depth (.inclusion path) → p.scope c →
      p.Renders answers (do
        let included ← Work.load path
        renderTemplate filters depth included.tree c (some included.path)))
    (htree : ∀ n ∈ tree, p.node depth n) (hc : p.scope c)
    (hback : ∀ q ∈ chainFrom path, Leads answers tree q → p.MayReturn q) :
    p.Renders answers (renderTemplate filters (depth + 1) tree c path) := by
  unfold renderTemplate
  simp only
  split
  · exact ensures_renderOverridden hkept hinclusion covers_nil hc htree
  · rename_i parent hparent
    have hextension := extension_mem_of_parent hparent
    have hmem : parent ∈ treeReferences tree :=
      mem_treeReferences.2 ⟨_, hextension, by simp [references]⟩
    have hclimb : Work.Ensures answers
        (fun found => (∀ m ∈ found.1, p.node depth m) ∧ p.Covers depth found.2) p.fail p.asks
        p.alters (do
          let s ← get
          climb s.chainBound parent (Outline.ofTree tree).blocks (chainFrom path)) := by
      intro s hs
      rw [Work.EnsuresFrom, Work.outcome_bind_of_ok (Work.outcome_get s)]
      have hsettled : s.Settled s.chainBound parent (chainFrom path) :=
        s.settled_chainBound parent (chainFrom path)
      apply ensuresFrom_climb hkept hs hsettled (htree _ hextension)
      · intro q hq hreturn
        apply hback q hq
        rcases hreturn with rfl | ⟨template, hload, hleads⟩
        · exact .direct hmem
        · exact .through hmem hload hleads
      · exact covers_blocks hkept htree
      · exact .refl s
    have hrender := hclimb.bind fun found hfound =>
      ensures_renderOverridden hkept hinclusion hfound.2 hc hfound.1
    simpa only [bind_assoc] using hrender

/-- Rendering a template keeps a promise that every kind of node keeps. The chain of extensions
comes back to the template itself only if its tree leads there. -/
theorem ensures_renderTemplate (hkept : p.Kept answers filters)
    (htree : ∀ n ∈ tree, p.node depth n) (hc : p.scope c)
    (hback : ∀ q ∈ chainFrom path, Leads answers tree q → p.MayReturn q) :
    p.Renders answers (renderTemplate filters (depth + 1) tree c path) := by
  have hload : ∀ {d : Nat} {path : Text}, p.node d (.inclusion path) →
      (Work.load path).Ensures answers (fun t => answers path = .ok t) p.fail p.asks
        p.alters := by
    intro d path hpath
    exact (Work.Ensures.load path (hkept.asked hpath (by simp [references]))).mono (fun _ => id)
      fun e he => hkept.missing hpath (by simp [references]) he
  induction depth generalizing tree c path with
  | zero =>
    apply ensures_renderTemplate_of_inclusions hkept _ htree hc hback
    intro path c hpath hc
    apply (hload hpath).bind
    intro included hanswer
    exact .throw (hkept.endless hpath)
  | succ depth ih =>
    apply ensures_renderTemplate_of_inclusions hkept _ htree hc hback
    intro path c hpath hc
    apply (hload hpath).bind
    intro included hanswer
    apply ih (fun m hm => hkept.included hpath hanswer hm) hc
    intro q hq hleads
    have hown : included.path = q := Option.some.inj (eq_some_of_mem_chainFrom hq)
    exact hkept.cyclic hpath (by simp [references]) hanswer (.inr hown.symm) hleads

end Templates

end Promise
end Stencil
