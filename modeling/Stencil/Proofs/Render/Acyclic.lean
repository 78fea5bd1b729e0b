import Stencil.Proofs.Render.Involved
import Stencil.Proofs.Fault.Builtin
import Mathlib.Data.List.Perm.Subperm

/-!
# References that do not come back

Where no template that a tree leads to leads back to itself, references can be followed only so far:
every template on the way is another one, and a table holds finitely many. So the depth of references
is bounded by the size of the table.
-/

set_option autoImplicit false

namespace Stencil

open Work (Answers)

/-! ## Tables of templates -/

/-- A session that reads a table of templates, and keeps templates of that table only, each under
its own path. -/
structure Session.Orderly (s : Session) (templates : List (Text × Text)) : Prop where
  source : s.source = .table templates
  kept : ∀ path kept, s.kept.lookup path = some kept →
    kept.template.path = path ∧ path ∈ Table.keys templates

namespace Session

variable {s : Session} {templates : List (Text × Text)}

theorem orderly_start (d : Disk) : (start d (.table templates)).Orderly templates := ⟨rfl, nofun⟩

/-- An orderly session answers with a template of the table, or reports why there is none. -/
theorem Orderly.yields_answer (h : s.Orderly templates) (path : Text) :
    Yields (fun t => t.path = path ∧ path ∈ Table.keys templates) Failure.Reported
      (s.answer path) := by
  unfold answer
  split
  · rename_i kept hkept
    exact h.kept path kept hkept
  · have hread := Source.yields_read_table s.disk path templates
    unfold fresh
    rw [h.source]
    split
    · rename_i e he
      rw [he] at hread
      exact hread
    · rename_i source hsource
      rw [hsource] at hread
      have hparse := Node.yields_parse (some path) source
      split
      · rename_i e he
        rw [he] at hparse
        exact hparse
      · exact ⟨rfl, hread⟩

theorem Orderly.of_answer {path : Text} {template : Template} (h : s.Orderly templates)
    (hanswer : s.answer path = .ok template) :
    template.path = path ∧ path ∈ Table.keys templates := by
  have hyields := h.yields_answer path
  rw [hanswer] at hyields
  exact hyields

end Session

namespace Node

/-! ## Acyclic references -/

/-- No template that a tree leads to leads back to itself. -/
def Acyclic (answers : Answers) (tree : List Node) : Prop :=
  ∀ path template, Leads answers tree path → answers path = .ok template →
    ¬Leads answers template.tree path

/-- References can be followed from a path less often than a number says. -/
def Shallow (answers : Answers) : Nat → Text → Prop
  | 0, _ => False
  | d + 1, path => ∀ template, answers path = .ok template →
    ∀ next ∈ treeReferences template.tree, Shallow answers d next

variable {answers : Answers} {tree : List Node}

theorem Shallow.succ {d : Nat} {path : Text} (h : Shallow answers d path) :
    Shallow answers (d + 1) path := by
  induction d generalizing path with
  | zero => exact h.elim
  | succ d ih =>
    intro template hanswer next hnext
    exact ih (h template hanswer next hnext)

/-- If references do not come back, then each path that is passed is a new one of the table. -/
theorem shallow_of_passed {paths : List Text} (hacyclic : Acyclic answers tree)
    (hpaths : ∀ path template, answers path = .ok template → path ∈ paths) {d : Nat} {path : Text}
    (hpath : Leads answers tree path) (passed : List Text) (hnodup : passed.Nodup)
    (hpassed : ∀ p ∈ passed, Leads answers tree p ∧
      ∃ template, answers p = .ok template ∧ Leads answers template.tree path)
    (hd : paths.length < passed.length + d) : Shallow answers d path := by
  -- On the depth that is left: with none left, more paths were passed than there are.
  induction d generalizing path passed with
  | zero =>
    have hsubset : passed ⊆ paths := by
      intro p hp
      obtain ⟨-, template, hanswer, -⟩ := hpassed p hp
      exact hpaths p template hanswer
    have hle := (List.subperm_of_subset hnodup hsubset).length_le
    omega
  | succ d ih =>
    intro template hanswer next hnext
    have hnew : path ∉ passed := by
      intro hmem
      obtain ⟨-, other, hother, hback⟩ := hpassed path hmem
      exact hacyclic path other hpath hother hback
    apply ih (hpath.trans hanswer (.direct hnext)) (path :: passed)
      (List.nodup_cons.2 ⟨hnew, hnodup⟩)
    · intro p hp
      rcases List.mem_cons.1 hp with rfl | hp
      · exact ⟨hpath, template, hanswer, .direct hnext⟩
      · obtain ⟨hleads, other, hother, hback⟩ := hpassed p hp
        exact ⟨hleads, other, hother, hback.trans hanswer (.direct hnext)⟩
    · simp only [List.length_cons]
      omega

/-- The depth of acyclic references is bounded by the number of templates. -/
theorem shallow_of_acyclic {paths : List Text} (hacyclic : Acyclic answers tree)
    (hpaths : ∀ path template, answers path = .ok template → path ∈ paths) {d : Nat}
    (hd : paths.length < d) {path : Text} (hpath : Leads answers tree path) :
    Shallow answers d path :=
  shallow_of_passed hacyclic hpaths hpath [] List.nodup_nil nofun (by simpa using hd)

end Node
end Stencil
