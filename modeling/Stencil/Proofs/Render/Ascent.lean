import Stencil.Proofs.Fault.Told
import Stencil.Proofs.Render.Inheritance
import Stencil.Template.Printer

/-!
# How chains of extensions end

A template that extends another one is rendered by climbing from parent to parent. The climb stops
at the first path that it has passed before, at the first that cannot be loaded, or at the first
template that extends nothing, whichever comes first. It comes to exactly one such path, loads every
template on the way once, and fails with the fault for a cycle if and only if its chain comes back,
be it at once, after a tail, or to the template that the climb began with.
-/

set_option autoImplicit false

namespace Stencil

open Session (Alike)

/-! ## The way up -/

namespace Session

/-- The templates that follow one another as parents, from a path on, and the path that comes after
them. Each of these templates loads and extends the next one. -/
inductive Ascent (s : Session) : Text → List Text → Text → Prop where
  | here {path : Text} : Ascent s path [] path
  | up {path next last : Text} {passed : List Text} :
      s.parentOf path = some next → Ascent s next passed last → Ascent s path (path :: passed) last

/-- A climb that follows a chain of templates stops at a path: it has passed different templates, and
the path is one of them or is not that of a template with a parent. -/
structure Stops (s : Session) (chain : List Text) (path : Text) (passed : List Text)
    (last : Text) : Prop where
  ascent : s.Ascent path passed last
  nodup : (chain ++ passed).Nodup
  stop : last ∈ chain ++ passed ∨ s.parentOf last = none

variable {s : Session} {chain passed passed' : List Text} {path last last' : Text}

theorem Ascent.walk (h : s.Ascent path passed last) : s.Walk path passed := by
  induction h with
  | here => trivial
  | up hnext _ ih => exact ⟨rfl, _, hnext, ih⟩

/-- Of two ways up from the same path, one goes on where the other ends. -/
theorem Ascent.compare (h : s.Ascent path passed last) (h' : s.Ascent path passed' last') :
    (passed' = passed ∧ last' = last) ∨ passed ++ [last] <+: passed' ∨
      passed' ++ [last'] <+: passed := by
  induction h generalizing passed' with
  | here =>
    cases h' with
    | here => exact .inl ⟨rfl, rfl⟩
    | up _ _ => exact .inr (.inl ⟨_, rfl⟩)
  | @up path next last passed hnext _ ih =>
    cases h' with
    | here => exact .inr (.inr ⟨_, rfl⟩)
    | up hnext' h' =>
      rw [hnext] at hnext'
      cases hnext'
      rcases ih h' with ⟨rfl, rfl⟩ | hfurther | hfurther
      · exact .inl ⟨rfl, rfl⟩
      · exact .inr (.inl ((List.prefix_cons_inj path).2 hfurther))
      · exact .inr (.inr ((List.prefix_cons_inj path).2 hfurther))

theorem not_mem_of_further (hnodup : (chain ++ passed).Nodup)
    (hfurther : passed' ++ [last'] <+: passed) : last' ∉ chain ++ passed' := by
  obtain ⟨rest, rfl⟩ := hfurther
  have hsplit : chain ++ (passed' ++ [last'] ++ rest) = (chain ++ passed') ++ last' :: rest := by
    simp
  rw [hsplit] at hnodup
  have hdisjoint := (List.nodup_append.1 hnodup).2.2
  exact fun hmem => hdisjoint _ hmem _ (List.mem_cons_self ..) rfl

/-- If the way up goes on after the path at which a climb stops, then that path has come back. -/
theorem Stops.mem_of_further (h : s.Stops chain path passed last)
    (h' : s.Ascent path passed' last') (hfurther : passed ++ [last] <+: passed') :
    last ∈ chain ++ passed := by
  rcases h.stop with hmem | hnone
  · exact hmem
  · obtain ⟨next, hnext⟩ := h'.walk.parentOf_isSome last (hfurther.subset (by simp))
    rw [hnone] at hnext
    cases hnext

/-- A climb stops at one path only. -/
theorem Stops.unique (h : s.Stops chain path passed last) (h' : s.Stops chain path passed' last') :
    passed' = passed ∧ last' = last := by
  rcases h.ascent.compare h'.ascent with hsame | hfurther | hfurther
  · exact hsame
  -- A climb that goes on after the other's end would have to pass a path that has come back.
  · exact absurd (h.mem_of_further h'.ascent hfurther) (not_mem_of_further h'.nodup hfurther)
  · exact absurd (h'.mem_of_further h.ascent hfurther) (not_mem_of_further h.nodup hfurther)

/-- If the way up comes back somewhere, then the climb stops because it came back. -/
theorem Stops.mem_of_ascent (h : s.Stops chain path passed last)
    (h' : s.Ascent path passed' last') (hback : last' ∈ chain ++ passed') :
    last ∈ chain ++ passed := by
  rcases h.ascent.compare h' with ⟨rfl, rfl⟩ | hfurther | hfurther
  · exact hback
  · exact h.mem_of_further h' hfurther
  · exact absurd hback (not_mem_of_further h.nodup hfurther)

/-- The blocks at the top of the template at a path. -/
def blocksOf (s : Session) (path : Text) : Overrides :=
  match s.answer path with
  | .ok template => (Outline.ofTree template.tree).blocks
  | .error _ => []

/-- The bodies that replace blocks once templates were passed: what was there before comes first, and
a template that was passed earlier comes before a later one. -/
def gathered (s : Session) (overrides : Overrides) (passed : List Text) : Overrides :=
  passed.foldl (fun found path => Table.update (s.blocksOf path) found) overrides

end Session

/-! ## Climbs -/

namespace Node

/-- What a climb gives when it stops at a path, and which paths it asked for on its way. It began
after a chain of templates, with bodies that replace blocks, and has passed further templates. -/
inductive Arrives (s : Session) (chain : List Text) (overrides : Overrides) (passed : List Text)
    (last : Text) : Except Failure (List Node × Overrides) → List Text → Prop where
  | returned : last ∈ chain ++ passed →
      Arrives s chain overrides passed last (cycle (chain ++ passed) last) passed
  | missing {e : Failure} : last ∉ chain ++ passed → s.answer last = .error e →
      Arrives s chain overrides passed last (.error e) (passed ++ [last])
  | root {template : Template} : last ∉ chain ++ passed → s.answer last = .ok template →
      (Outline.ofTree template.tree).parent = none →
      Arrives s chain overrides passed last
        (.ok (template.tree, s.gathered overrides passed)) (passed ++ [last])

variable {s : Session} {chain passed : List Text} {overrides : Overrides} {path last : Text}

theorem Arrives.up {r : Except Failure (List Node × Overrides)} {asked : List Text}
    (h : Arrives s (chain ++ [path]) (Table.update (s.blocksOf path) overrides) passed last r
      asked) :
    Arrives s chain overrides (path :: passed) last r (path :: asked) := by
  have hsame : chain ++ path :: passed = chain ++ [path] ++ passed := List.append_cons ..
  cases h with
  | returned hmem =>
    rw [← hsame] at hmem ⊢
    exact .returned hmem
  | missing hnew hanswer => exact .missing (hsame ▸ hnew) hanswer
  | root hnew hanswer hparent => exact .root (hsame ▸ hnew) hanswer hparent

/-- A climb stops, and gives what there is at the path where it stops. -/
theorem exists_stops_of_settled {bound : Nat} (hsettled : s.Settled bound path chain)
    (hnodup : chain.Nodup) (overrides : Overrides) {u : Session} (hu : Alike s u) :
    ∃ passed last r t asked, s.Stops chain path passed last ∧
      (climb bound path overrides chain).outcome u = (r, t) ∧
      Arrives s chain overrides passed last r asked ∧ t.requests = u.requests ++ asked := by
  -- Along the climb: a step puts the template that it passes before those that the rest passes.
  induction hsettled generalizing overrides u with
  | @passed bound path chain hpassed =>
    have hmem : path ∈ chain ++ [] := by simpa using hpassed
    refine ⟨[], path, cycle chain path, u, [], ⟨.here, by simpa using hnodup, .inl hmem⟩,
      outcome_climb_passed bound overrides hpassed, ?_, by simp⟩
    have harrives : Arrives s chain overrides [] path (cycle (chain ++ []) path) [] :=
      .returned hmem
    rwa [List.append_nil] at harrives
  | @missing bound path chain e hnew hanswer =>
    obtain ⟨t, ht, hloaded⟩ := outcome_climb_missing bound overrides hnew (hu.answer _ ▸ hanswer)
    exact ⟨[], path, .error e, t, [path],
      ⟨.here, by simpa using hnodup, .inr (Session.parentOf_of_error hanswer)⟩, ht,
      .missing (by simpa using hnew) hanswer, hloaded.requests⟩
  | @root bound path chain template hnew hanswer hparent =>
    obtain ⟨t, ht, hloaded⟩ :=
      outcome_climb_root bound overrides hnew (hu.answer _ ▸ hanswer) hparent
    exact ⟨[], path, .ok (template.tree, overrides), t, [path],
      ⟨.here, by simpa using hnodup, .inr ((Session.parentOf_of_ok hanswer).trans hparent)⟩, ht,
      .root (by simpa using hnew) hanswer hparent, hloaded.requests⟩
  | @step bound path next chain template hnew hanswer hparent _ ih =>
    obtain ⟨v, hv, hloaded⟩ :=
      outcome_climb_step bound overrides hnew (hu.answer _ ▸ hanswer) hparent
    have hnodup' : (chain ++ [path]).Nodup := by simpa using List.Nodup.concat hnew hnodup
    obtain ⟨passed, last, r, t, asked, hstops, ht, harrives, hasked⟩ := ih hnodup'
      (Table.update (Outline.ofTree template.tree).blocks overrides) (hu.trans hloaded.alike)
    have hsame : chain ++ path :: passed = chain ++ [path] ++ passed := List.append_cons ..
    have hnext := (Session.parentOf_of_ok hanswer).trans hparent
    have hblocks : s.blocksOf path = (Outline.ofTree template.tree).blocks := by
      simp only [Session.blocksOf, hanswer]
    rw [← hblocks] at harrives
    refine ⟨path :: passed, last, r, t, path :: asked,
      ⟨.up hnext hstops.ascent, hsame ▸ hstops.nodup, hsame ▸ hstops.stop⟩, hv.trans ht,
      harrives.up, ?_⟩
    rw [hasked, hloaded.requests, List.append_assoc]
    rfl

/-! ## Templates that extend others -/

/-- The climb from a template, whose path is given if it is known, to the root of its chain. -/
def climbFrom (tree : List Node) (next : Text) (path : Option Text) :
    Work (List Node × Overrides) := do
  let s ← get
  climb s.chainBound next (Outline.ofTree tree).blocks (chainFrom path)

theorem nodup_chainFrom (path : Option Text) : (chainFrom path).Nodup := by
  unfold chainFrom
  split
  · exact List.nodup_singleton _
  · exact List.nodup_nil

theorem renderTemplate_of_climb {filters : Filters} {depth : Nat} {tree : List Node} {next : Text}
    {c : Context} {path : Option Text} (h : (Outline.ofTree tree).parent = some next) :
    renderTemplate filters (depth + 1) tree c path = (do
      let found ← climbFrom tree next path
      renderOverridden filters (included filters depth) found.2 c found.1) := by
  rw [renderTemplate_of_parent ((Outline.parent_ofTree tree).symm.trans h), climbFrom]
  simp only [bind_assoc]

/-- The climb from a template stops somewhere, and gives what there is at the path where it stops. -/
theorem exists_stops (tree : List Node) (next : Text) (path : Option Text) (s : Session) :
    ∃ passed last r t asked, s.Stops (chainFrom path) next passed last ∧
      (climbFrom tree next path).outcome s = (r, t) ∧
      Arrives s (chainFrom path) (Outline.ofTree tree).blocks passed last r asked ∧
      t.requests = s.requests ++ asked := by
  have hsettled := s.settled_chainBound next (chainFrom path)
  exact exists_stops_of_settled hsettled (nodup_chainFrom path) (Outline.ofTree tree).blocks
    (.refl s)

theorem Arrives.nodup {r : Except Failure (List Node × Overrides)} {asked : List Text}
    (h : Arrives s chain overrides passed last r asked) (hnodup : (chain ++ passed).Nodup) :
    asked.Nodup := by
  have hpassed : passed.Nodup := (List.nodup_append.1 hnodup).2.1
  have hnew (hlast : last ∉ chain ++ passed) : (passed ++ [last]).Nodup := by
    have hlast : last ∉ passed := fun hmem => hlast (List.mem_append_right _ hmem)
    simpa using List.Nodup.concat hlast hpassed
  cases h with
  | returned _ => exact hpassed
  | missing hlast _ => exact hnew hlast
  | root hlast _ _ => exact hnew hlast

/-- A climb fails with the fault for a cycle only where its chain comes back. -/
theorem Arrives.mem_of_cycle {r : Except Failure (List Node × Overrides)} {asked : List Text}
    (h : Arrives s chain overrides passed last r asked) {f : Fault} (hr : r = .error (.fault f))
    (hcode : f.code = cycleCode) : last ∈ chain ++ passed := by
  cases h with
  | returned hmem => exact hmem
  | missing _ hanswer =>
    cases hr
    exact absurd (congrArg some hcode) (Session.code?_of_answer hanswer)
  | root _ _ _ => cases hr

/-- Where its chain has come back, a climb fails with a fault that tells of the chain. -/
theorem Arrives.exists_cycle {r : Except Failure (List Node × Overrides)} {asked : List Text}
    (h : Arrives s chain overrides passed last r asked) (hmem : last ∈ chain ++ passed) :
    ∃ f, r = .error (.fault f) ∧ f.code = cycleCode ∧
      f.template = templateValue (chain ++ passed).head? ∧
      f.message = "Circular extends: ".toList ++
        Text.join " -> ".toList (chain ++ passed ++ [last]) := by
  cases h with
  | returned _ => exact Node.exists_cycle _ _
  | missing hnew _ => exact absurd hmem hnew
  | root hnew _ _ => exact absurd hmem hnew

/-- A chain of extensions ends where its templates say. Let a template extend another one, and let
its chain begin with its own path if that is given and not empty. In any session the template is
rendered by climbing, and then rendering the root that was found. The climb passes different
templates, each of which loads and extends the next, and stops at one path, the only one where it
can. If that path has come back, the climb fails with the fault for a cycle, which names the first
template of the chain and lists the chain in order up to that path; and it fails so if and only if
some path that follows from templates that load is one of those before it. If the path gives no
template, the climb fails as loading it does. Else the path is that of the root, a template that
extends nothing, and the blocks of the templates below it replace its own, the nearest to the
template first. In all cases the climb asks for each path once. -/
theorem renderTemplate_ascends (filters : Filters) (depth : Nat) (tree : List Node) (next : Text)
    (c : Context) (path : Option Text) (s : Session)
    (h : (Outline.ofTree tree).parent = some next) :
    (renderTemplate filters (depth + 1) tree c path = do
      let found ← climbFrom tree next path
      renderOverridden filters (included filters depth) found.2 c found.1) ∧
    (∃ passed last asked, s.Stops (chainFrom path) next passed last ∧
      (∀ passed' last', s.Stops (chainFrom path) next passed' last' →
        passed' = passed ∧ last' = last) ∧
      Arrives s (chainFrom path) (Outline.ofTree tree).blocks passed last
        ((climbFrom tree next path).outcome s).1 asked ∧
      ((climbFrom tree next path).outcome s).2.requests = s.requests ++ asked ∧ asked.Nodup ∧
      (last ∈ chainFrom path ++ passed → ∃ f,
        ((climbFrom tree next path).outcome s).1 = .error (.fault f) ∧ f.code = cycleCode ∧
          f.template = templateValue (chainFrom path ++ passed).head? ∧
          f.message = "Circular extends: ".toList ++
            Text.join " -> ".toList (chainFrom path ++ passed ++ [last]))) ∧
    ((∃ f, ((climbFrom tree next path).outcome s).1 = .error (.fault f) ∧ f.code = cycleCode) ↔
      ∃ passed back, s.Ascent next passed back ∧ back ∈ chainFrom path ++ passed) := by
  obtain ⟨passed, last, r, t, asked, hstops, hclimb, harrives, hasked⟩ :=
    exists_stops tree next path s
  rw [hclimb]
  refine ⟨renderTemplate_of_climb h, ⟨passed, last, asked, hstops,
    fun _ _ hother => hstops.unique hother, harrives, hasked, harrives.nodup hstops.nodup,
    harrives.exists_cycle⟩, ?_, ?_⟩
  · rintro ⟨f, hr, hcode⟩
    exact ⟨passed, last, hstops.ascent, harrives.mem_of_cycle hr hcode⟩
  · rintro ⟨passed', back, hascent, hback⟩
    obtain ⟨f, hr, hcode, -⟩ := harrives.exists_cycle (hstops.mem_of_ascent hascent hback)
    exact ⟨f, hr, hcode⟩

/-- A page that extends a template which extends itself. -/
theorem renderTemplate_ascends_loop :
    let tree : List Node := [.extension "a".toList]
    let source := asTag "extends \"a\"".toList
    let s := Session.start (.empty Encoding.codecs) (.table [("a".toList, source)])
    let climbed := (climbFrom tree "a".toList (some "page".toList)).outcome s
    (Outline.ofTree tree).parent = some "a".toList ∧
      s.Stops (chainFrom (some "page".toList)) "a".toList ["a".toList] "a".toList ∧
      ∃ f, climbed.1 = .error (.fault f) ∧ f.code = cycleCode ∧
        f.template = .text "page".toList ∧
        f.message = "Circular extends: page -> a -> a".toList := by
  intro tree source s climbed
  have hparse : parse (some "a".toList) source = .ok tree := by
    have htokens : Token.ofSource source = [⟨.tag, "extends \"a\"".toList, .start, source⟩] := by
      decide +kernel
    unfold parse ofSource?
    rw [htokens]
    rfl
  have hanswer : s.answer "a".toList = .ok ⟨"a".toList, source, tree⟩ := by
    rw [Session.answer_of_not_kept rfl]
    exact Session.fresh_eq_ok.2 ⟨rfl, rfl, hparse⟩
  have hparent : s.parentOf "a".toList = some "a".toList := Session.parentOf_of_ok hanswer
  have hstops : s.Stops (chainFrom (some "page".toList)) "a".toList ["a".toList] "a".toList :=
    ⟨.up hparent .here, by decide, .inl (by decide)⟩
  obtain ⟨-, ⟨passed, last, asked, -, hunique, -, -, -, hcycle⟩, -⟩ :=
    renderTemplate_ascends Filter.builtin 0 tree "a".toList .empty (some "page".toList) s rfl
  obtain ⟨rfl, rfl⟩ := hunique _ _ hstops
  exact ⟨rfl, hstops, hcycle (by decide)⟩

end Node
end Stencil
