import Stencil.Proofs.Render.Substitution

/-!
# Rendering a chain of templates

The climb from a template to the root of its chain gathers overrides; under each name they hold the
first definition below the root, nearest first. With that, rendering a template is rendering the
flat form of its chain, in a session that answers as before.
-/

set_option autoImplicit false

namespace Stencil

open Session (Alike)

variable {s : Session}

/-- Loading a path succeeds in a session, with a template of the given tree. -/
def Session.Loads (s : Session) (path : Text) (tree : List Node) : Prop :=
  ∃ template, ((Work.load path).outcome s).1 = .ok template ∧ template.tree = tree

theorem Session.Loads.answer {path : Text} {tree : List Node} (h : s.Loads path tree) :
    ∃ template, s.answer path = .ok template ∧ template.tree = tree := by
  obtain ⟨template, hload, htree⟩ := h
  obtain ⟨t, ht, -⟩ := Work.outcome_load path s
  rw [ht] at hload
  exact ⟨template, hload, htree⟩

theorem Session.Loads.tree_eq {path : Text} {tree : List Node} {template : Template}
    (h : s.Loads path tree) (hanswer : s.answer path = .ok template) : template.tree = tree := by
  obtain ⟨template', htemplate, htree⟩ := h.answer
  rw [hanswer] at htemplate
  cases htemplate
  exact htree

namespace Node

open Work (outcome_bind_of_ok)

/-! ## Climbing -/

/-- A climb through a chain of different templates, each of which loads, finds the root of the chain,
and overrides that hold the definitions below it after those it began with. -/
theorem outcome_climb_lineage {bound : Nat} {path : Text} {chain : List Text}
    (hsettled : s.Settled bound path chain) {tree : List Node} {parents : List (Text × List Node)}
    (hline : Lineage tree parents) (hnodup : (chain ++ path :: parents.map Prod.fst).Nodup)
    (hloads : ∀ p ∈ (path, tree) :: parents, s.Loads p.1 p.2) {u : Session} (hu : Alike s u)
    {overrides : Overrides} (hkeys : (Table.keys overrides).Nodup) :
    ∃ found t, (climb bound path overrides chain).outcome u =
        (.ok (chainRoot tree parents, found), t) ∧ Alike s t ∧
      ∀ name, found.lookup name =
        (overrides.lookup name).or ((chainDefinitions tree parents).lookup name) := by
  -- The climb settles as its source says; the lineage must then say the same at every step.
  induction hsettled generalizing tree parents u overrides with
  | passed hpassed =>
    have hdisjoint := (List.nodup_append.1 hnodup).2.2
    exact absurd rfl (hdisjoint _ hpassed _ (List.mem_cons_self ..))
  | missing hnew hanswer =>
    obtain ⟨template, htemplate, -⟩ := (hloads _ (List.mem_cons_self ..)).answer
    rw [hanswer] at htemplate
    cases htemplate
  | @root bound path chain template hnew hanswer hparent =>
    obtain rfl := (hloads _ (List.mem_cons_self ..)).tree_eq hanswer
    rw [Outline.parent_ofTree] at hparent
    cases hline with
    | step hnext _ =>
      rw [hparent] at hnext
      cases hnext
    | root _ =>
      obtain ⟨t, ht, hloaded⟩ := outcome_climb_root bound overrides hnew (hu.answer _ ▸ hanswer)
        (by rw [Outline.parent_ofTree, hparent])
      refine ⟨overrides, t, ht, hu.trans hloaded.alike, fun name => ?_⟩
      simp [chainDefinitions]
  | @step bound path next chain template hnew hanswer hparent _ ih =>
    obtain rfl := (hloads _ (List.mem_cons_self ..)).tree_eq hanswer
    rw [Outline.parent_ofTree] at hparent
    cases hline with
    | root hnone =>
      rw [hparent] at hnone
      cases hnone
    | @step _ parent path' rest hnext hline =>
      rw [hparent] at hnext
      cases hnext
      obtain ⟨t, ht, hloaded⟩ := outcome_climb_step bound overrides hnew (hu.answer _ ▸ hanswer)
        (by rw [Outline.parent_ofTree, hparent])
      have hblocks := Outline.nodup_keys_blocks template.tree
      obtain ⟨found, t', ht', halike', hfound⟩ := ih hline (by simpa using hnodup)
        (fun p hp => hloads p (List.mem_cons_of_mem _ hp)) (hu.trans hloaded.alike)
        (Table.nodup_keys_update hblocks overrides)
      refine ⟨found, t', ht.trans ht', halike', fun name => ?_⟩
      rw [hfound, Table.lookup_update hkeys, Outline.lookup_blocks, Option.or_assoc,
        chainDefinitions, List.lookup_append]

/-! ## Templates -/

/-- What an inclusion outputs in a template whose inclusions nest to one more than the given depth. -/
def included (filters : Filters) (depth : Nat) (path : Text) (c : Context) : Work Text := do
  let template ← Work.load path
  renderTemplate filters depth template.tree c (some template.path)

variable {filters : Filters} {depth : Nat} {c : Context} {path : Option Text}

theorem renderTemplate_of_root {tree : List Node} (h : parentPath tree = none) :
    renderTemplate filters (depth + 1) tree c path =
      renderOverridden filters (included filters depth) [] c tree := by
  unfold renderTemplate
  simp only [Outline.parent_ofTree, h]
  rfl

theorem renderTemplate_of_parent {tree : List Node} {next : Text}
    (h : parentPath tree = some next) :
    renderTemplate filters (depth + 1) tree c path = (do
      let s ← get
      let found ← climb s.chainBound next (Outline.ofTree tree).blocks (chainFrom path)
      renderOverridden filters (included filters depth) found.2 c found.1) := by
  unfold renderTemplate
  simp only [Outline.parent_ofTree, h]
  rfl

theorem parentPath_of_flat {tree : List Node} (h : treeFlat tree = true) :
    parentPath tree = none := by
  have hnone : tree.filterMap extends? = [] := by
    induction tree with
    | nil => rfl
    | cons n rest ih =>
      obtain ⟨hn, hrest⟩ := Bool.and_eq_true_iff.1 h
      cases n with
      | extension _ => cases hn
      | _ => exact ih hrest
  rw [parentPath, hnone]
  rfl

/-- A flat form is rendered like the root it comes from, with every block replaced. -/
theorem renderTemplate_flattened (tree : List Node) (parents : List (Text × List Node))
    {overrides : Overrides}
    (h : ∀ name, overrides.lookup name = (chainDefinitions tree parents).lookup name) :
    renderTemplate filters (depth + 1) (flattened tree parents) c path =
      renderOverridden filters (included filters depth) overrides c (chainRoot tree parents) := by
  rw [renderTemplate_of_root (parentPath_of_flat (treeFlat_flattened tree parents))]
  exact (renderTree_overriding (Nat.le_refl _) h c _).symm

variable {tree : List Node} {parents : List (Text × List Node)}

/-- Rendering a template is rendering the flat form of its chain in a session that answers alike. -/
theorem outcome_renderTemplate_lineage (hline : Lineage tree parents)
    (hnodup : (chainFrom path ++ parents.map Prod.fst).Nodup)
    (hloads : ∀ p ∈ parents, s.Loads p.1 p.2) :
    ∃ t, Alike s t ∧ (renderTemplate filters (depth + 1) tree c path).outcome s =
      (renderTemplate filters (depth + 1) (flattened tree parents) c none).outcome t := by
  cases hline with
  | root hroot =>
    refine ⟨s, .refl s, ?_⟩
    have hnone : ∀ name, ([] : Overrides).lookup name =
        (chainDefinitions tree []).lookup name := fun _ => rfl
    rw [renderTemplate_of_root hroot, renderTemplate_flattened tree [] hnone]
    rfl
  | @step _ parent next rest hnext hline =>
    have hblocks := Outline.nodup_keys_blocks tree
    obtain ⟨found, t, ht, halike, hfound⟩ := outcome_climb_lineage
      (s.settled_chainBound next (chainFrom path)) hline hnodup hloads (.refl s) hblocks
    refine ⟨t, halike, ?_⟩
    have hdefinitions : ∀ name, found.lookup name =
        (chainDefinitions tree ((next, parent) :: rest)).lookup name := by
      intro name
      rw [hfound, Outline.lookup_blocks, chainDefinitions, List.lookup_append]
    rw [renderTemplate_of_parent hnext, outcome_bind_of_ok (Work.outcome_get s),
      outcome_bind_of_ok ht, renderTemplate_flattened tree _ hdefinitions]
    rfl

/-- Inheritance is static substitution. For a chain of templates with different paths, each of which
loads, the flat form has neither blocks nor extensions, and rendering it is rendering the template
at the bottom of the chain: with any filters, in a session that answers every load as before; and
with filters that read no journal, the result in the same session is the same. -/
theorem renderTemplate_eq_flattened (filters : Filters) (depth : Nat) (c : Context)
    (path : Option Text) (s : Session) (tree : List Node) (parents : List (Text × List Node))
    (hline : Lineage tree parents) (hnodup : (chainFrom path ++ parents.map Prod.fst).Nodup)
    (hloads : ∀ p ∈ parents, s.Loads p.1 p.2) :
    treeFlat (flattened tree parents) = true ∧
      (∃ t, Alike s t ∧ (renderTemplate filters depth tree c path).outcome s =
        (renderTemplate filters depth (flattened tree parents) c none).outcome t) ∧
      (filters.IgnoreJournal → ((renderTemplate filters depth tree c path).outcome s).1 =
        ((renderTemplate filters depth (flattened tree parents) c none).outcome s).1) := by
  have hsame : ∃ t, Alike s t ∧ (renderTemplate filters depth tree c path).outcome s =
      (renderTemplate filters depth (flattened tree parents) c none).outcome t := by
    cases depth with
    | zero => exact ⟨s, .refl s, rfl⟩
    | succ depth => exact outcome_renderTemplate_lineage hline hnodup hloads
  refine ⟨treeFlat_flattened tree parents, hsame, fun hf => ?_⟩
  obtain ⟨t, halike, heq⟩ := hsame
  rw [heq]
  exact (respects_renderTemplate hf depth _ c none t s halike.symm).1

/-- A page that extends a kept template: its block takes the place of the parent's, and not once
more inside itself. -/
theorem renderTemplate_eq_flattened_of_pair :
    let base : List Node := [.text "<".toList, .block "a".toList [], .text ">".toList]
    let page : List Node := [.extension "base".toList,
      .block "a".toList [.text "1".toList, .block "a".toList [.text "2".toList]]]
    let s : Session := { Session.start (.empty Encoding.codecs) (.table []) with
      kept := [("base".toList, ⟨⟨"base".toList, [], base⟩, 0⟩)] }
    Lineage page [("base".toList, base)] ∧
      (chainFrom (some "page".toList) ++ ["base".toList]).Nodup ∧ s.Loads "base".toList base ∧
      ((renderTemplate Filter.builtin 1 page .empty (some "page".toList)).outcome s).1 =
        .ok "<12>".toList := by
  intro base page s
  have hline : Lineage page [("base".toList, base)] := .step rfl (.root rfl)
  have hnodup : (chainFrom (some "page".toList) ++ ["base".toList]).Nodup := by decide
  have hload : s.Loads "base".toList base := ⟨⟨"base".toList, [], base⟩, rfl, rfl⟩
  have hloads : ∀ p ∈ [("base".toList, base)], s.Loads p.1 p.2 := by
    intro p hp
    obtain rfl := List.mem_singleton.1 hp
    exact hload
  refine ⟨hline, hnodup, hload, ?_⟩
  obtain ⟨-, -, hresult⟩ := renderTemplate_eq_flattened Filter.builtin 1 .empty
    (some "page".toList) s page [("base".toList, base)] hline hnodup hloads
  rw [hresult Filter.ignoreJournal_builtin]
  have hflat : flattened page [("base".toList, base)] =
      [.text "<".toList, .text "1".toList, .text "2".toList, .text ">".toList] := by
    have hfill : bodyFrom (chainDefinitions page [("base".toList, base)]) "a".toList =
        some [.text "1".toList, .text "2".toList] := by
      rw [bodyFrom_of_some rfl, fillTree, fillTree, fillTree, fill, fill,
        bodyFrom_of_none (by decide)]
      rfl
    rw [flattened, chainRoot, chainRoot, fillTree, fillTree, fillTree, fill, fill, fill, hfill]
    rfl
  rw [hflat]
  rfl

end Node
end Stencil
