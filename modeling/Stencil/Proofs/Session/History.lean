import Stencil.Proofs.Fault.Told
import Mathlib.Data.List.Dedup

/-!
# Histories of loads

Templates are loaded one after the other, and between two loads the source may change in any way:
texts of a table come, go and change, files are written and removed, or templates are read from
somewhere else altogether. What a session keeps is decided by the history of its loads alone: under
each path the template of the first load that succeeded, as it was then, and nothing else. Loads
that fail leave no trace in what is kept.
-/

set_option autoImplicit false

namespace Stencil

/-- A load of a path, from the source as it is at that time. -/
structure Call where
  disk : Disk
  source : Source
  path : Text

/-- The session that a call finds: its source is by now that of the call. -/
def Call.found (c : Call) (s : Session) : Session := { s with disk := c.disk, source := c.source }

/-- What loading the path gives, and the session after it. -/
def Call.outcome (c : Call) (s : Session) : Except Failure Template × Session :=
  (Work.load c.path).outcome (c.found s)

/-- The paths that were loaded, each with what its load gave, the latest last. -/
abbrev History := List (Text × Except Failure Template)

/-- The loads that succeeded. -/
def History.successes (h : History) : List (Text × Template) :=
  h.filterMap fun e => e.2.toOption.map fun template => (e.1, template)

namespace Session

/-- A session that has seen a history of loads. -/
inductive Reached : History → Session → Prop where
  | start (disk : Disk) (source : Source) : Reached [] (.start disk source)
  | call {h : History} {s : Session} (c : Call) : Reached h s →
      Reached (h ++ [(c.path, (c.outcome s).1)]) (c.outcome s).2

/-- What a session keeps after a history: under each path the template of the first load that
succeeded, which has that path and the tree that its source parses to. -/
structure Remembers (h : History) (s : Session) : Prop where
  keys : (Table.keys s.kept).Nodup
  first : ∀ path, (s.kept.lookup path).map Kept.template = h.successes.lookup path
  parsed : ∀ path kept, s.kept.lookup path = some kept → kept.template.path = path ∧
    Node.parse (some path) kept.template.source = .ok kept.template.tree

end Session

variable {h : History} {s : Session}

/-! ## Single loads -/

theorem History.successes_append (path : Text) (r : Except Failure Template) :
    History.successes (h ++ [(path, r)]) =
      h.successes ++ (r.toOption.map fun template => (path, template)).toList := by
  unfold successes
  rw [List.filterMap_append]
  cases r <;> rfl

/-- A further success is found under its path only if it is the first one there. -/
theorem History.lookup_successes_append (path other : Text) (template : Template) :
    (History.successes (h ++ [(path, .ok template)])).lookup other =
      (h.successes.lookup other).or (if other = path then some template else none) := by
  rw [successes_append, List.lookup_append]
  exact congrArg (Option.or _) (Table.lookup_cons other path template [])

/-- A template that is kept is given back; nothing is read, and what is kept stays. -/
theorem Call.outcome_of_kept {c : Call} {kept : Kept} (hkept : s.kept.lookup c.path = some kept) :
    (c.outcome s).1 = .ok kept.template ∧ (c.outcome s).2.reads = s.reads ∧
      (c.outcome s).2.kept = s.kept := by
  obtain ⟨t, ht, hloaded⟩ := Work.outcome_load c.path (c.found s)
  unfold outcome
  rw [ht]
  refine ⟨Session.answer_of_kept hkept, ?_, ?_⟩
  · exact hloaded.reads.trans (Session.readsAfter_of_kept hkept)
  · exact hloaded.kept.trans (Session.keptAfter_of_kept hkept)

/-- A load of a path that is not kept reads once. Either it gives a template, which is kept, or it
fails, and then what is kept stays. -/
theorem Call.outcome_of_not_kept (c : Call) (hnone : s.kept.lookup c.path = none) :
    (c.outcome s).2.reads = s.reads ++ [c.path] ∧
      ((∃ template : Template, template.path = c.path ∧
          c.source.read c.disk c.path = .ok template.source ∧
          Node.parse (some c.path) template.source = .ok template.tree ∧
          (c.outcome s).1 = .ok template ∧
          (c.outcome s).2.kept = s.kept ++ [(c.path, ⟨template, s.reads.length⟩)]) ∨
        ∃ e, (c.source.read c.disk c.path = .error e ∨
            ∃ source, c.source.read c.disk c.path = .ok source ∧
              Node.parse (some c.path) source = .error e) ∧
          (c.outcome s).1 = .error e ∧ (c.outcome s).2.kept = s.kept) := by
  have hfound : (c.found s).kept.lookup c.path = none := hnone
  obtain ⟨t, ht, hloaded⟩ := Work.outcome_load c.path (c.found s)
  unfold outcome
  rw [ht, Session.answer_of_not_kept hfound]
  refine ⟨hloaded.reads.trans (Session.readsAfter_of_not_kept hfound), ?_⟩
  cases hfresh : (c.found s).fresh c.path with
  | ok template =>
    obtain ⟨hpath, hread, hparse⟩ := Session.fresh_eq_ok.1 hfresh
    refine .inl ⟨template, hpath, hread, hparse, rfl, hloaded.kept.trans ?_⟩
    rw [Session.keptAfter_of_fresh hfound hfresh]
    exact Table.put_of_lookup_eq_none hnone _
  | error e =>
    refine .inr ⟨e, Session.fresh_eq_error.1 hfresh, rfl, hloaded.kept.trans ?_⟩
    exact Session.keptAfter_of_error hfresh

/-! ## Histories -/

namespace Session

theorem remembers_start (disk : Disk) (source : Source) : Remembers [] (start disk source) :=
  ⟨List.nodup_nil, fun _ => rfl, nofun⟩

theorem Remembers.lookup_eq_none_iff (hs : Remembers h s) {path : Text} :
    s.kept.lookup path = none ↔ h.successes.lookup path = none := by
  rw [← hs.first, Option.map_eq_none_iff]

theorem Remembers.of_error (hs : Remembers h s) {t : Session} (hkept : t.kept = s.kept)
    (path : Text) (e : Failure) : Remembers (h ++ [(path, .error e)]) t := by
  have hsame : History.successes (h ++ [(path, .error e)]) = h.successes := by
    rw [History.successes_append]
    exact List.append_nil _
  refine ⟨hkept ▸ hs.keys, fun other => ?_, hkept ▸ hs.parsed⟩
  rw [hsame, hkept, hs.first]

theorem Remembers.of_kept (hs : Remembers h s) {t : Session} (hkept : t.kept = s.kept)
    {path : Text} {kept : Kept} (hlookup : s.kept.lookup path = some kept) :
    Remembers (h ++ [(path, .ok kept.template)]) t := by
  refine ⟨hkept ▸ hs.keys, fun other => ?_, hkept ▸ hs.parsed⟩
  rw [History.lookup_successes_append, ← hs.first, hkept]
  split
  · rename_i hother
    rw [hother, hlookup]
    rfl
  · exact Option.or_none.symm

theorem Remembers.of_new (hs : Remembers h s) {t : Session} {template : Template} {read : Nat}
    (hnone : s.kept.lookup template.path = none)
    (hparse : Node.parse (some template.path) template.source = .ok template.tree)
    (hkept : t.kept = s.kept ++ [(template.path, ⟨template, read⟩)]) :
    Remembers (h ++ [(template.path, .ok template)]) t := by
  have hlookup : ∀ other, t.kept.lookup other =
      if other = template.path then some ⟨template, read⟩ else s.kept.lookup other := by
    intro other
    rw [hkept, ← Table.put_of_lookup_eq_none hnone, Table.lookup_put]
  refine ⟨?_, fun other => ?_, fun other kept hother => ?_⟩
  · rw [hkept, ← Table.put_of_lookup_eq_none hnone]
    exact Table.nodup_keys_put hs.keys _ _
  · rw [History.lookup_successes_append, ← hs.first, hlookup]
    split
    · rename_i heq
      rw [heq, hnone]
      rfl
    · exact Option.or_none.symm
  · rw [hlookup] at hother
    split at hother
    · rename_i heq
      cases hother
      rw [heq]
      exact ⟨rfl, hparse⟩
    · exact hs.parsed other kept hother

theorem Remembers.call (hs : Remembers h s) (c : Call) :
    Remembers (h ++ [(c.path, (c.outcome s).1)]) (c.outcome s).2 := by
  cases hlookup : s.kept.lookup c.path with
  | some kept =>
    obtain ⟨hresult, -, hkept⟩ := Call.outcome_of_kept hlookup
    rw [hresult]
    exact hs.of_kept hkept hlookup
  | none =>
    obtain ⟨-, ⟨template, hpath, -, hparse, hresult, hkept⟩ | ⟨e, -, hresult, hkept⟩⟩ :=
      c.outcome_of_not_kept hlookup
    · rw [hresult]
      rw [← hpath] at hlookup hparse hkept ⊢
      exact hs.of_new hlookup hparse hkept
    · rw [hresult]
      exact hs.of_error hkept c.path e

/-- After any history of loads, what is kept is what was loaded first. -/
theorem Reached.remembers (hs : Reached h s) : Remembers h s := by
  induction hs with
  | start disk source => exact remembers_start disk source
  | call c _ ih => exact ih.call c

theorem Remembers.has_iff (hs : Remembers h s) (path : Text) :
    s.has path = true ↔ path ∈ Table.keys h.successes := by
  rw [has, Table.has_eq_true_iff, Table.mem_keys_iff_lookup, Table.mem_keys_iff_lookup,
    ← hs.first]
  cases s.kept.lookup path <;> simp

theorem Remembers.length_kept (hs : Remembers h s) :
    s.kept.length = (Table.keys h.successes).dedup.length := by
  -- The keys of what is kept are different, and so are the paths once each is counted once.
  have hperm : (Table.keys s.kept).Perm (Table.keys h.successes).dedup := by
    rw [List.perm_ext_iff_of_nodup hs.keys (List.nodup_dedup _)]
    intro path
    rw [List.mem_dedup, ← hs.has_iff, has, Table.has_eq_true_iff]
  simpa [Table.keys] using hperm.length_eq

/-- Every path is loaded once. After any history of loads, with any changes of the source between
them, each template that is kept has its path and the tree of its source, and the templates that are
kept are counted by the paths that were loaded. A load gives the template of the first load of its
path that succeeded, without reading, if there was one. If there was none, it reads once. Then it
gives what the text parses to, and keeps it; or it fails as reading or parsing does, which for a
table of sources is that the path is missing or that its text is no template, and what is kept stays
as it was, so that the next load of the path, whatever the source is then, reads again. -/
theorem Reached.loads_once (hs : Reached h s) (c : Call) :
    ((∀ path kept, s.kept.lookup path = some kept → kept.template.path = path ∧
        Node.parse (some path) kept.template.source = .ok kept.template.tree) ∧
      (∀ path, s.has path = true ↔ path ∈ Table.keys h.successes) ∧
      s.kept.length = (Table.keys h.successes).dedup.length) ∧
    (∀ template, h.successes.lookup c.path = some template →
      (c.outcome s).1 = .ok template ∧ (c.outcome s).2.reads = s.reads ∧
        (c.outcome s).2.kept = s.kept) ∧
    (h.successes.lookup c.path = none →
      (c.outcome s).2.reads = s.reads ++ [c.path] ∧
      ((∃ template : Template, template.path = c.path ∧
          c.source.read c.disk c.path = .ok template.source ∧
          Node.parse (some c.path) template.source = .ok template.tree ∧
          (c.outcome s).1 = .ok template ∧
          (c.outcome s).2.kept = s.kept ++ [(c.path, ⟨template, s.reads.length⟩)]) ∨
        ∃ e, (c.outcome s).1 = .error e ∧ (c.outcome s).2.kept = s.kept ∧
          (c.source.read c.disk c.path = .error e ∧
              (∀ templates, c.source = .table templates → e.code? = some Source.missingCode) ∨
            ∃ source, c.source.read c.disk c.path = .ok source ∧
              Node.parse (some c.path) source = .error e) ∧
          ∀ next : Call, next.path = c.path →
            (next.outcome (c.outcome s).2).2.reads = s.reads ++ [c.path, c.path])) := by
  have hmemory := hs.remembers
  refine ⟨⟨hmemory.parsed, hmemory.has_iff, hmemory.length_kept⟩, ?_, ?_⟩
  · intro template hfirst
    rw [← hmemory.first] at hfirst
    obtain ⟨kept, hkept, rfl⟩ := Option.map_eq_some_iff.1 hfirst
    exact Call.outcome_of_kept hkept
  · intro hfirst
    have hnone := hmemory.lookup_eq_none_iff.2 hfirst
    obtain ⟨hreads, hsuccess | ⟨e, hcause, hresult, hkept⟩⟩ := c.outcome_of_not_kept hnone
    · exact ⟨hreads, .inl hsuccess⟩
    · refine ⟨hreads, .inr ⟨e, hresult, hkept, ?_, ?_⟩⟩
      · refine hcause.imp_left fun hread => ⟨hread, ?_⟩
        intro templates htable
        rw [htable] at hread
        exact Source.read_table_of_missing templates hread
      · intro next hpath
        -- Nothing was kept, so the next load finds what this one found.
        have hagain : (c.outcome s).2.kept.lookup next.path = none := by
          rw [hkept, hpath]
          exact hnone
        rw [(next.outcome_of_not_kept hagain).1, hreads, hpath]
        simp

/-- A template that is missing at first is read once it is there, and is still there for loads when
its source is gone. -/
theorem Reached.loads_once_of_missing :
    let gone : Call := ⟨.empty Encoding.codecs, .table [], "a".toList⟩
    let there : Call := ⟨.empty Encoding.codecs, .table [("a".toList, "b".toList)], "a".toList⟩
    let first := gone.outcome (.start (.empty Encoding.codecs) (.table []))
    let second := there.outcome first.2
    let template : Template := ⟨"a".toList, "b".toList, [.text "b".toList]⟩
    Reached [("a".toList, first.1), ("a".toList, second.1)] second.2 ∧
      History.successes [("a".toList, first.1), ("a".toList, second.1)] =
        [("a".toList, template)] ∧
      (gone.outcome second.2).1 = .ok template ∧
      (gone.outcome second.2).2.reads = second.2.reads := by
  intro gone there first second template
  have hreached : Reached [("a".toList, first.1), ("a".toList, second.1)] second.2 :=
    .call there (.call gone (.start (.empty Encoding.codecs) (.table [])))
  obtain ⟨-, ⟨other, -, hread, -⟩ | ⟨e, -, hfirst, hkept⟩⟩ :=
    gone.outcome_of_not_kept (s := .start (.empty Encoding.codecs) (.table [])) rfl
  · exact absurd hread Source.missing_ne_ok
  have hnone : first.2.kept.lookup "a".toList = none := by rw [hkept]; rfl
  have hparse := Node.parse_letter (some "a".toList)
  obtain ⟨-, ⟨other, hpath, hread, htree, hsecond, -⟩ | ⟨e, hread | ⟨source, hread, hother⟩, -⟩⟩ :=
    there.outcome_of_not_kept hnone
  · have hother : other = template := by
      rcases other with ⟨path, source, tree⟩
      cases hpath
      cases hread
      have htree : Node.parse (some "a".toList) "b".toList = .ok tree := htree
      rw [hparse] at htree
      cases htree
      rfl
    have hsuccesses : History.successes [("a".toList, first.1), ("a".toList, second.1)] =
        [("a".toList, template)] := by
      rw [show first.1 = .error e from hfirst, show second.1 = .ok other from hsecond, hother]
      rfl
    refine ⟨hreached, hsuccesses, ?_⟩
    obtain ⟨hresult, hreads, -⟩ :=
      (hreached.loads_once gone).2.1 template (by rw [hsuccesses]; rfl)
    exact ⟨hresult, hreads⟩
  · cases hread
  · cases hread
    have hother : Node.parse (some "a".toList) "b".toList = .error e := hother
    rw [hparse] at hother
    cases hother

end Session
end Stencil
