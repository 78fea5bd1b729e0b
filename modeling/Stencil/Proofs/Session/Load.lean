import Stencil.Proofs.Session.Outcome
import Stencil.Proofs.Table.Lookup

/-!
# Loading

What loading a path gives, and what it does to the session. A path that is kept is answered with the
template that is kept, and nothing is read. Any other path is read once: the template that the
source gives is kept, and a failure leaves what is kept as it was. Every load is noted among the
requests; nothing else changes but the journal.
-/

set_option autoImplicit false

namespace Stencil

namespace Session

/-- The template that a source gives for a path. -/
def fresh (s : Session) (path : Text) : Except Failure Template :=
  match s.source.read s.disk path with
  | .error e => .error e
  | .ok source => match Node.parse (some path) source with
    | .error e => .error e
    | .ok tree => .ok ⟨path, source, tree⟩

/-- What loading a path gives. -/
def answer (s : Session) (path : Text) : Except Failure Template :=
  match s.kept.lookup path with
  | some kept => .ok kept.template
  | none => s.fresh path

/-- The templates that are kept once a path has been loaded. -/
def keptAfter (s : Session) (path : Text) : List (Text × Kept) :=
  match s.kept.lookup path, s.fresh path with
  | none, .ok template => Table.put path ⟨template, s.reads.length⟩ s.kept
  | _, _ => s.kept

/-- The reads once a path has been loaded. -/
def readsAfter (s : Session) (path : Text) : List Text :=
  match s.kept.lookup path with
  | some _ => s.reads
  | none => s.reads ++ [path]

/-- What loading a path does to a session. -/
structure Loaded (s : Session) (path : Text) (t : Session) : Prop where
  disk : t.disk = s.disk
  source : t.source = s.source
  cells : t.machine.cells = s.machine.cells
  kept : t.kept = s.keptAfter path
  reads : t.reads = s.readsAfter path
  requests : t.requests = s.requests ++ [path]

variable {s : Session} {path : Text}

theorem answer_of_kept {kept : Kept} (h : s.kept.lookup path = some kept) :
    s.answer path = .ok kept.template := by
  simp only [answer, h]

theorem answer_of_not_kept (h : s.kept.lookup path = none) : s.answer path = s.fresh path := by
  simp only [answer, h]

theorem keptAfter_of_kept {kept : Kept} (h : s.kept.lookup path = some kept) :
    s.keptAfter path = s.kept := by
  simp only [keptAfter, h]

theorem keptAfter_of_fresh {template : Template} (h : s.kept.lookup path = none)
    (hfresh : s.fresh path = .ok template) :
    s.keptAfter path = Table.put path ⟨template, s.reads.length⟩ s.kept := by
  simp only [keptAfter, h, hfresh]

theorem keptAfter_of_error {e : Failure} (hfresh : s.fresh path = .error e) :
    s.keptAfter path = s.kept := by
  simp only [keptAfter, hfresh]
  cases s.kept.lookup path <;> rfl

theorem readsAfter_of_kept {kept : Kept} (h : s.kept.lookup path = some kept) :
    s.readsAfter path = s.reads := by
  simp only [readsAfter, h]

theorem readsAfter_of_not_kept (h : s.kept.lookup path = none) :
    s.readsAfter path = s.reads ++ [path] := by
  simp only [readsAfter, h]

/-- The template that a source gives is what its text parses to. -/
theorem fresh_eq_ok {template : Template} : s.fresh path = .ok template ↔
    template.path = path ∧ s.source.read s.disk path = .ok template.source ∧
      Node.parse (some path) template.source = .ok template.tree := by
  constructor
  · intro h
    unfold fresh at h
    split at h
    · cases h
    · rename_i source hread
      split at h
      · cases h
      · rename_i tree hparse
        cases h
        exact ⟨rfl, hread, hparse⟩
  · rintro ⟨hpath, hread, hparse⟩
    simp only [fresh, hread, hparse]
    rw [← hpath]

/-- A source gives no template if it cannot be read or its text is none. -/
theorem fresh_eq_error {e : Failure} : s.fresh path = .error e ↔
    s.source.read s.disk path = .error e ∨
      ∃ source, s.source.read s.disk path = .ok source ∧
        Node.parse (some path) source = .error e := by
  unfold fresh
  cases hread : s.source.read s.disk path with
  | error f => simp
  | ok source => cases hparse : Node.parse (some path) source <;> simp [hparse]

end Session

/-- What was loaded is kept. -/
theorem Session.Loaded.has {s t : Session} {path : Text} (h : s.Loaded path t)
    {template : Template} (hanswer : s.answer path = .ok template) : t.has path = true := by
  rw [Session.has, Table.has_eq_true_iff, Table.mem_keys_iff_lookup, h.kept]
  cases hkept : s.kept.lookup path with
  | some kept => exact ⟨kept, by rw [keptAfter_of_kept hkept, hkept]⟩
  | none =>
    rw [answer_of_not_kept hkept] at hanswer
    rw [keptAfter_of_fresh hkept hanswer, Table.lookup_put, if_pos rfl]
    exact ⟨_, rfl⟩

/-- A source of one letter is a template that outputs it. -/
theorem Node.parse_letter (path : Option Text) :
    Node.parse path "b".toList = .ok [.text "b".toList] := by
  have htokens : Token.ofSource "b".toList = [⟨.text, "b".toList, .start, "b".toList⟩] := by
    decide +kernel
  unfold parse ofSource?
  rw [htokens]
  rfl

namespace Work

/-- Notes change nothing but the journal. -/
theorem outcome_note (e : Entry) (s : Session) : (note e).outcome s =
    (.ok (), { s with machine := { s.machine with journal := s.machine.journal ++ [e] } }) := rfl

/-- What is noted after a load makes no difference to what the load did. -/
theorem outcome_note_of_loaded (e : Entry) {s t : Session} {path : Text} (h : s.Loaded path t) :
    ∃ u, (note e).outcome t = (.ok (), u) ∧ s.Loaded path u :=
  ⟨_, outcome_note e t, h.disk, h.source, h.cells, h.kept, h.reads, h.requests⟩

/-- A rejected source is reported, which changes nothing but the journal. -/
theorem outcome_noteRejected (path : Text) (e : Failure) (s : Session) :
    ∃ m : Machine, (noteRejected path e).outcome s = (.ok (), { s with machine := m }) ∧
      m.cells = s.machine.cells := by
  cases e with
  | fault f => exact ⟨_, outcome_note _ s, rfl⟩
  | _ => exact ⟨s.machine, rfl, rfl⟩

/-- A path that is not kept is read, and what the source gives is kept. -/
theorem outcome_loadAnew {path : Text} {s : Session} (h : s.kept.lookup path = none) :
    ∃ m : Machine, (loadAnew path).outcome s =
        (s.fresh path, { s with
          reads := s.reads ++ [path], kept := s.keptAfter path, machine := m }) ∧
      m.cells = s.machine.cells := by
  unfold loadAnew
  rw [outcome_bind_of_ok (outcome_get s), outcome_bind_of_ok (outcome_set _ s)]
  cases hread : s.source.read s.disk path with
  | error e =>
    have hfresh : s.fresh path = .error e := Session.fresh_eq_error.2 (.inl hread)
    refine ⟨s.machine, ?_, rfl⟩
    rw [outcome_bind_of_error (outcome_ofExcept _ _), hfresh, Session.keptAfter_of_error hfresh]
  | ok source =>
    rw [outcome_bind_of_ok (outcome_ofExcept _ _)]
    cases hparse : Node.parse (some path) source with
    | error e =>
      have hfresh : s.fresh path = .error e :=
        Session.fresh_eq_error.2 (.inr ⟨source, hread, hparse⟩)
      obtain ⟨m, hm, hcells⟩ :=
        outcome_noteRejected path e { s with reads := s.reads ++ [path] }
      refine ⟨m, ?_, hcells⟩
      simp only
      rw [outcome_bind_of_ok hm, hfresh, Session.keptAfter_of_error hfresh]
      rfl
    | ok tree =>
      have hfresh : s.fresh path = .ok ⟨path, source, tree⟩ :=
        Session.fresh_eq_ok.2 ⟨rfl, hread, hparse⟩
      let entry : Entry := ⟨.debug, storeComponent, "Template loaded".toList,
        [("path".toList, .text path), ("parse_ms".toList, Entry.duration),
          ("nodes".toList, .int tree.length)]⟩
      refine ⟨{ s.machine with journal := s.machine.journal ++ [entry] }, ?_, rfl⟩
      simp only
      rw [outcome_bind_of_ok (outcome_modify _ _), outcome_bind_of_ok (outcome_note _ _), hfresh,
        Session.keptAfter_of_fresh h hfresh]
      rfl

/-- Loading a path gives the session's answer. -/
theorem outcome_load (path : Text) (s : Session) :
    ∃ t, (load path).outcome s = (s.answer path, t) ∧ s.Loaded path t := by
  let asked : Session := { s with requests := s.requests ++ [path] }
  unfold load
  rw [outcome_bind_of_ok (outcome_modify _ s), outcome_bind_of_ok (outcome_get asked)]
  cases hkept : s.kept.lookup path with
  | some kept =>
    have hafter := Session.keptAfter_of_kept hkept
    have hreads := Session.readsAfter_of_kept hkept
    refine ⟨asked, ?_, rfl, rfl, rfl, hafter.symm, hreads.symm, rfl⟩
    rw [Session.answer_of_kept hkept]
    rfl
  | none =>
    have hnone : asked.kept.lookup path = none := hkept
    have hreads := Session.readsAfter_of_not_kept hkept
    obtain ⟨m, hm, hcells⟩ := outcome_loadAnew hnone
    let after : Session :=
      { asked with reads := s.reads ++ [path], kept := s.keptAfter path, machine := m }
    refine ⟨after, ?_, rfl, rfl, hcells, rfl, hreads.symm, rfl⟩
    rw [Session.answer_of_not_kept hkept]
    exact hm

end Work
end Stencil
