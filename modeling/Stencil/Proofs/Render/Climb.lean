import Stencil.Proofs.Session.Alike
import Stencil.Proofs.Session.Texts
import Stencil.Render.Inheritance
import Mathlib.Data.List.Perm.Subperm
import Mathlib.Data.List.Nodup

/-!
# Climbing a chain of extensions

A climb takes one step for each template, and its steps are counted down from a bound. The bound is
never reached: the templates that were passed are different, each was kept or has a text of its own
in the source, and there are no more of them than the bound allows. So a climb ends as its templates
say, at a root, at a template that cannot be loaded, or at a template it has passed; and in sessions
that answer alike it ends alike.
-/

set_option autoImplicit false

namespace Stencil

open Session (Alike)

/-- The path that a text extends, if the text is a template. -/
def Outline.parentOfSource (source : Text) : Option Text :=
  match Node.ofSource? source with
  | .ok tree => (Outline.ofTree tree).parent
  | .error _ => none

namespace Session

/-- The path that the template at a path extends. -/
def parentOf (s : Session) (path : Text) : Option Text :=
  match s.answer path with
  | .ok template => (Outline.ofTree template.tree).parent
  | .error _ => none

theorem parentOf_of_error {s : Session} {path : Text} {e : Failure}
    (h : s.answer path = .error e) : s.parentOf path = none := by
  simp only [parentOf, h]

theorem parentOf_of_ok {s : Session} {path : Text} {template : Template}
    (h : s.answer path = .ok template) :
    s.parentOf path = (Outline.ofTree template.tree).parent := by
  simp only [parentOf, h]

/-- A climb from a path, after a chain of templates, ends within a number of steps. -/
inductive Settled (s : Session) : Nat → Text → List Text → Prop where
  | passed {n : Nat} {path : Text} {chain : List Text} :
      path ∈ chain → Settled s (n + 1) path chain
  | missing {n : Nat} {path : Text} {chain : List Text} {e : Failure} :
      path ∉ chain → s.answer path = .error e → Settled s (n + 1) path chain
  | root {n : Nat} {path : Text} {chain : List Text} {template : Template} :
      path ∉ chain → s.answer path = .ok template →
      (Outline.ofTree template.tree).parent = none → Settled s (n + 1) path chain
  | step {n : Nat} {path next : Text} {chain : List Text} {template : Template} :
      path ∉ chain → s.answer path = .ok template →
      (Outline.ofTree template.tree).parent = some next →
      Settled s n next (chain ++ [path]) → Settled s (n + 1) path chain

/-- Paths that follow one another as parents, from a given one on. -/
def Walk (s : Session) : Text → List Text → Prop
  | _, [] => True
  | path, p :: rest => p = path ∧ ∃ next, s.parentOf path = some next ∧ Walk s next rest

/-- A climb that does not end passes as many different templates as it takes steps. -/
theorem settled_or_walk (s : Session) (n : Nat) (path : Text) (chain : List Text) :
    s.Settled n path chain ∨
      ∃ ps : List Text, ps.length = n ∧ s.Walk path ps ∧ ps.Nodup ∧ ∀ p ∈ ps, p ∉ chain := by
  induction n generalizing path chain with
  | zero => exact .inr ⟨[], rfl, trivial, List.nodup_nil, nofun⟩
  | succ n ih =>
    by_cases hpassed : path ∈ chain
    · exact .inl (.passed hpassed)
    cases hanswer : s.answer path with
    | error e => exact .inl (.missing hpassed hanswer)
    | ok template =>
      cases hparent : (Outline.ofTree template.tree).parent with
      | none => exact .inl (.root hpassed hanswer hparent)
      | some next =>
        rcases ih next (chain ++ [path]) with hsettled | ⟨ps, hlength, hwalk, hnodup, hnew⟩
        · exact .inl (.step hpassed hanswer hparent hsettled)
        -- A climb that does not settle has one more path to pass, and it is a new one.
        · right
          have hpath : path ∉ ps := fun h => hnew path h (by simp)
          have hnext : s.parentOf path = some next := (parentOf_of_ok hanswer).trans hparent
          refine ⟨path :: ps, by simp [hlength], ⟨rfl, next, hnext, hwalk⟩,
            List.nodup_cons.2 ⟨hpath, hnodup⟩, ?_⟩
          intro p hp
          rcases List.mem_cons.1 hp with rfl | hp
          · exact hpassed
          · exact fun h => hnew p hp (by simp [h])

/-- The parents of the paths of a walk, but for the last, are the paths after the first. -/
theorem Walk.map_parentOf {s : Session} {path : Text} {ps : List Text} (h : s.Walk path ps) :
    ps.dropLast.map s.parentOf = ps.tail.map some := by
  induction ps generalizing path with
  | nil => rfl
  | cons p rest ih =>
    obtain ⟨rfl, next, hnext, hrest⟩ := h
    cases rest with
    | nil => rfl
    | cons q rest =>
      have hq : q = next := hrest.1
      have htail := ih hrest
      simp only [List.dropLast_cons_cons, List.map_cons, List.tail_cons, hnext, hq] at htail ⊢
      rw [htail]

/-- The parent that a path has by the source is the parent of a text of the source. -/
theorem parentOf_mem_of_not_kept {s : Session} {path next : Text}
    (hkept : s.kept.lookup path = none) (h : s.parentOf path = some next) :
    some next ∈ (s.source.texts s.disk).map Outline.parentOfSource := by
  unfold parentOf answer at h
  rw [hkept] at h
  simp only [fresh] at h
  split at h
  · rename_i template hok
    split at hok
    · cases hok
    · rename_i text hread
      refine List.mem_map.2 ⟨text, Source.mem_texts_of_read hread, ?_⟩
      split at hok
      · cases hok
      · rename_i tree hparse
        cases hok
        unfold Node.parse at hparse
        split at hparse
        · rename_i tree' hsource
          cases hparse
          simpa [Outline.parentOfSource, hsource] using h
        · cases hparse
  · cases h

theorem Walk.parentOf_isSome {s : Session} {path : Text} {ps : List Text} (h : s.Walk path ps) :
    ∀ p ∈ ps, ∃ next, s.parentOf p = some next := by
  induction ps generalizing path with
  | nil => exact nofun
  | cons p rest ih =>
    obtain ⟨rfl, next, hnext, hrest⟩ := h
    intro q hq
    rcases List.mem_cons.1 hq with rfl | hq
    · exact ⟨next, hnext⟩
    · exact ih hrest q hq

/-- The paths of a walk, but for the last, are kept or have texts with different parents. -/
theorem Walk.length_le {s : Session} {path : Text} {ps : List Text} (h : s.Walk path ps)
    (hnodup : ps.Nodup) : ps.length ≤ s.kept.length + s.source.size s.disk + 1 := by
  let here := ps.dropLast
  let kept := here.filter fun p => (s.kept.lookup p).isSome
  let other := here.filter fun p => !(s.kept.lookup p).isSome
  have hsub : here.Sublist ps := List.dropLast_sublist ps
  have hkept : kept.length ≤ s.kept.length := by
    have hmem : kept ⊆ Table.keys s.kept := by
      intro p hp
      obtain ⟨k, hk⟩ := Option.isSome_iff_exists.1 (List.mem_filter.1 hp).2
      exact List.mem_map.2 ⟨(p, k), Table.mem_of_lookup hk, rfl⟩
    have hd : kept.Nodup := hnodup.sublist (List.filter_sublist.trans hsub)
    simpa [Table.keys] using (List.subperm_of_subset hd hmem).length_le
  have hother : other.length ≤ s.source.size s.disk := by
    have hmem : other.map s.parentOf ⊆ (s.source.texts s.disk).map Outline.parentOfSource := by
      intro o ho
      obtain ⟨p, hp, rfl⟩ := List.mem_map.1 ho
      obtain ⟨hin, hnone⟩ := List.mem_filter.1 hp
      obtain ⟨next, hnext⟩ := h.parentOf_isSome p (hsub.subset hin)
      rw [hnext]
      exact parentOf_mem_of_not_kept (by simpa using hnone) hnext
    have hd : (other.map s.parentOf).Nodup := by
      -- The parents of the paths of a walk are its later paths, which are different.
      have htail : (ps.tail.map (some : Text → Option Text)).Nodup :=
        (hnodup.sublist (List.tail_sublist ps)).map fun _ _ => Option.some.inj
      rw [← h.map_parentOf] at htail
      exact htail.sublist (List.filter_sublist.map _)
    have hle := (List.subperm_of_subset hd hmem).length_le
    have htexts := Source.length_texts_le s.disk s.source
    simp only [List.length_map] at hle
    omega
  have hsum : here.length = kept.length + other.length := by
    simpa [kept, other] using
      (List.length_eq_length_filter_add (l := here) fun p => (s.kept.lookup p).isSome)
  have hlast : here.length = ps.length - 1 := List.length_dropLast
  omega

/-- Every climb ends within the bound of its session. -/
theorem settled_chainBound (s : Session) (path : Text) (chain : List Text) :
    s.Settled s.chainBound path chain := by
  rcases s.settled_or_walk s.chainBound path chain with h | ⟨ps, hlength, hwalk, hnodup, -⟩
  · exact h
  · have := hwalk.length_le hnodup
    rw [hlength, chainBound] at this
    omega

end Session

/-! ## Single steps -/

namespace Node

open Work (outcome_bind_of_ok outcome_bind_of_error outcome_load outcome_note_of_loaded)

variable {s : Session} {path : Text} {chain : List Text} (bound : Nat) (overrides : Overrides)

theorem outcome_climb_passed (h : path ∈ chain) :
    (climb (bound + 1) path overrides chain).outcome s = (cycle chain path, s) := by
  unfold climb
  rw [if_pos (by simpa using h)]
  exact Work.outcome_ofExcept _ s

theorem outcome_climb_missing {e : Failure} (h : path ∉ chain) (hanswer : s.answer path = .error e) :
    ∃ t, (climb (bound + 1) path overrides chain).outcome s = (.error e, t) ∧ s.Loaded path t := by
  obtain ⟨t, ht, hloaded⟩ := outcome_load path s
  refine ⟨t, ?_, hloaded⟩
  unfold climb
  rw [if_neg (by simpa using h)]
  exact outcome_bind_of_error (hanswer ▸ ht)

theorem outcome_climb_root {template : Template} (h : path ∉ chain)
    (hanswer : s.answer path = .ok template)
    (hparent : (Outline.ofTree template.tree).parent = none) :
    ∃ t, (climb (bound + 1) path overrides chain).outcome s = (.ok (template.tree, overrides), t) ∧
      s.Loaded path t := by
  obtain ⟨t, ht, hloaded⟩ := outcome_load path s
  obtain ⟨u, hu, hnoted⟩ := outcome_note_of_loaded ⟨.debug, "renderer".toList,
    "Composing template".toList, [("root".toList, .text path), ("chain".toList,
      .list (chain.map .text)), ("overrides".toList,
      .list ((Table.keys overrides).map .text))]⟩ hloaded
  refine ⟨u, ?_, hnoted⟩
  unfold climb
  rw [if_neg (by simpa using h), outcome_bind_of_ok (hanswer ▸ ht)]
  simp only [hparent]
  rw [outcome_bind_of_ok hu]
  rfl

theorem outcome_climb_step {template : Template} {next : Text} (h : path ∉ chain)
    (hanswer : s.answer path = .ok template)
    (hparent : (Outline.ofTree template.tree).parent = some next) :
    ∃ t, (climb (bound + 1) path overrides chain).outcome s =
        (climb bound next (Table.update (Outline.ofTree template.tree).blocks overrides)
          (chain ++ [path])).outcome t ∧ s.Loaded path t := by
  obtain ⟨t, ht, hloaded⟩ := outcome_load path s
  refine ⟨t, ?_, hloaded⟩
  conv => lhs; unfold climb
  rw [if_neg (by simpa using h), outcome_bind_of_ok (hanswer ▸ ht)]
  simp only [hparent]

/-! ## Climbs in sessions that answer alike -/

/-- A climb that ends within two bounds ends alike in sessions that answer alike. -/
theorem climb_alike {n : Nat} (hsettled : s.Settled n path chain) {b b' : Nat} (hb : n ≤ b)
    (hb' : n ≤ b') {u v : Session} (hu : Alike s u) (hv : Alike s v) :
    ((climb b path overrides chain).outcome u).1 = ((climb b' path overrides chain).outcome v).1 ∧
      Alike ((climb b path overrides chain).outcome u).2
        ((climb b' path overrides chain).outcome v).2 := by
  induction hsettled generalizing b b' u v overrides with
  | passed h =>
    obtain ⟨b, rfl⟩ := Nat.exists_eq_add_one_of_ne_zero (by omega : b ≠ 0)
    obtain ⟨b', rfl⟩ := Nat.exists_eq_add_one_of_ne_zero (by omega : b' ≠ 0)
    rw [outcome_climb_passed b overrides h, outcome_climb_passed b' overrides h]
    exact ⟨rfl, hu.symm.trans hv⟩
  | missing h hanswer =>
    obtain ⟨b, rfl⟩ := Nat.exists_eq_add_one_of_ne_zero (by omega : b ≠ 0)
    obtain ⟨b', rfl⟩ := Nat.exists_eq_add_one_of_ne_zero (by omega : b' ≠ 0)
    obtain ⟨u', hu', hloaded⟩ := outcome_climb_missing b overrides h (hu.answer _ ▸ hanswer)
    obtain ⟨v', hv', hloaded'⟩ := outcome_climb_missing b' overrides h (hv.answer _ ▸ hanswer)
    rw [hu', hv']
    exact ⟨rfl, hloaded.alike.symm.trans (hu.symm.trans (hv.trans hloaded'.alike))⟩
  | root h hanswer hparent =>
    obtain ⟨b, rfl⟩ := Nat.exists_eq_add_one_of_ne_zero (by omega : b ≠ 0)
    obtain ⟨b', rfl⟩ := Nat.exists_eq_add_one_of_ne_zero (by omega : b' ≠ 0)
    obtain ⟨u', hu', hloaded⟩ := outcome_climb_root b overrides h (hu.answer _ ▸ hanswer) hparent
    obtain ⟨v', hv', hloaded'⟩ := outcome_climb_root b' overrides h (hv.answer _ ▸ hanswer) hparent
    rw [hu', hv']
    exact ⟨rfl, hloaded.alike.symm.trans (hu.symm.trans (hv.trans hloaded'.alike))⟩
  | step h hanswer hparent _ ih =>
    obtain ⟨b, rfl⟩ := Nat.exists_eq_add_one_of_ne_zero (by omega : b ≠ 0)
    obtain ⟨b', rfl⟩ := Nat.exists_eq_add_one_of_ne_zero (by omega : b' ≠ 0)
    obtain ⟨u', hu', hloaded⟩ := outcome_climb_step b overrides h (hu.answer _ ▸ hanswer) hparent
    obtain ⟨v', hv', hloaded'⟩ := outcome_climb_step b' overrides h (hv.answer _ ▸ hanswer) hparent
    rw [hu', hv']
    exact ih _ (by omega) (by omega) (hu.trans hloaded.alike) (hv.trans hloaded'.alike)

/-- The climb of a template, whose bound is that of the session, respects alikeness. -/
theorem respects_climb (path : Text) (overrides : Overrides) (chain : List Text) :
    Work.Respects (do
      let s ← get
      climb s.chainBound path overrides chain) := by
  intro s t h
  rw [outcome_bind_of_ok (Work.outcome_get s), outcome_bind_of_ok (Work.outcome_get t)]
  -- The session with the smaller bound settles the climb, and the other bound suffices too.
  rcases Nat.le_total s.chainBound t.chainBound with hle | hle
  · exact climb_alike overrides (s.settled_chainBound path chain) (Nat.le_refl _) hle (.refl s) h
  · exact climb_alike overrides (t.settled_chainBound path chain) hle (Nat.le_refl _) h.symm
      (.refl t)

end Node
end Stencil
