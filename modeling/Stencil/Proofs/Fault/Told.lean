import Stencil.Proofs.Fault.Builtin
import Stencil.Proofs.Session.Load

/-!
# What faults tell

The codes of the faults that loading and climbing end with. A table without a path gives the fault
for a missing template, a source that is no template one of the faults of parsing, and a chain that
comes back the fault for a cycle, whose message lists the whole chain. No load ends with the fault
for a cycle.
-/

set_option autoImplicit false

namespace Stencil

/-- The code of a failure that is a fault. -/
def Failure.code? : Failure → Option Text
  | .fault f => some f.code
  | _ => none

namespace Registry

variable {α : Type} {code : Text} {context : List (Text × Value)}

/-- The fault of a built-in code is raised, and tells of its context, if all values have texts. -/
theorem exists_raise {w : Wording} (hw : builtin.find? code = some w)
    (hplain : ∀ entry ∈ context, entry.2.plain? ≠ none) :
    ∃ f, (raise code context : Except Failure α) = .error (.fault f) ∧ Tells w context f := by
  have hyields := yields_create_builtin hw context
  unfold raise
  cases hcreate : builtin.create code context with
  | ok f =>
    rw [hcreate] at hyields
    exact ⟨f, rfl, hyields⟩
  | error e =>
    rw [hcreate] at hyields
    obtain ⟨-, entry, hentry, hnone⟩ := hyields
    exact absurd hnone (hplain entry hentry)

/-- What is made of a built-in code has that code, and what keeps it from being made is no fault. -/
theorem code_of_create {f : Fault} (hcode : (builtin.find? code).isSome)
    (h : builtin.create code context = .ok f) : f.code = code := by
  obtain ⟨w, hw⟩ := Option.isSome_iff_exists.1 hcode
  have hyields := yields_create_builtin hw context
  rw [h] at hyields
  exact hyields.code.trans (code_of_find? hw)

theorem code?_of_create_eq_error {e : Failure} (hcode : (builtin.find? code).isSome)
    (h : builtin.create code context = .error e) : e.code? = none := by
  obtain ⟨w, hw⟩ := Option.isSome_iff_exists.1 hcode
  have hyields := yields_create_builtin hw context
  rw [h] at hyields
  obtain ⟨rfl, -⟩ := hyields
  rfl

/-- What is raised with a built-in code has that code, or is no fault at all. -/
theorem code?_of_raise {e : Failure} (hcode : (builtin.find? code).isSome)
    (h : (raise code context : Except Failure α) = .error e) :
    e.code? = some code ∨ e.code? = none := by
  unfold raise at h
  split at h
  · rename_i hcreate
    cases h
    exact .inl (congrArg some (code_of_create hcode hcreate))
  · rename_i hcreate
    cases h
    exact .inr (code?_of_create_eq_error hcode hcreate)

end Registry

/-! ## Sources -/

namespace Source

variable {d : Disk} {path : Text} {e : Failure}

/-- A table that does not have a path gives the fault for a missing template. -/
theorem read_table_of_missing (templates : List (Text × Text))
    (h : (Source.table templates).read d path = .error e) : e.code? = some missingCode := by
  rw [read] at h
  split at h
  · cases h
  · have hplain : ∀ entry ∈ [("path".toList, Value.text path), ("detail".toList,
        .text ("KeyError".toList ++ ": ".toList ++ Text.quoted path))], entry.2.plain? ≠ none := by
      intro entry hentry
      simp only [List.mem_cons, List.not_mem_nil, or_false] at hentry
      rcases hentry with rfl | rfl <;> exact Option.some_ne_none _
    obtain ⟨w, hw⟩ : ∃ w, Registry.builtin.find? missingCode = some w := ⟨_, rfl⟩
    obtain ⟨f, hraise, htells⟩ := Registry.exists_raise (α := Text) hw hplain
    have hcode : f.code = missingCode := htells.code.trans (Registry.code_of_find? hw)
    have hsame : (missing path "KeyError".toList (Text.quoted path) : Except Failure Text) =
        .error (.fault f) := hraise
    rw [hsame] at h
    cases h
    exact congrArg some hcode

/-- What reading a source fails with is the fault for a missing template, or no fault. -/
theorem code?_of_read {source : Source} (h : source.read d path = .error e) :
    e.code? = some missingCode ∨ e.code? = none := by
  have hmissing : ∀ {kind message : Text} {e : Failure},
      (missing path kind message : Except Failure Text) = .error e →
      e.code? = some missingCode ∨ e.code? = none :=
    fun h => Registry.code?_of_raise (by decide) h
  cases source with
  | table templates => exact .inl (read_table_of_missing templates h)
  | directory root encoding =>
    rw [read] at h
    unfold readFile at h
    split at h
    · cases h
      exact .inr rfl
    · simp only at h
      split at h
      · exact Registry.code?_of_raise (by decide) h
      · split at h
        · cases h
          exact .inr rfl
        · split at h
          · exact hmissing h
          · split at h
            · cases h
              exact .inr rfl
            · split at h
              · cases h
              · exact hmissing h
              · cases h
                exact .inr rfl

end Source

/-! ## Parsing -/

/-- The codes of the faults of sources that are no templates. -/
def SyntaxProblem.codes : List Text :=
  ["TEMPLATE_SYNTAX".toList, "TEMPLATE_INVALID_TAG".toList, "TEMPLATE_UNCLOSED_TAG".toList]

theorem SyntaxProblem.code?_failure (p : SyntaxProblem) (path : Option Text) :
    (∃ code ∈ codes, (p.failure path).code? = some code) ∨ (p.failure path).code? = none := by
  have hcodes : ∀ code ∈ codes, (Registry.builtin.find? code).isSome := by decide
  rcases p with ⟨cause, token⟩
  unfold failure
  cases cause
  all_goals
    simp only
    split
    · rename_i hcreate
      refine .inl ⟨_, ?_, congrArg some (Registry.code_of_create (hcodes _ ?_) hcreate)⟩ <;>
        simp [codes]
    · rename_i hcreate
      exact .inr (Registry.code?_of_create_eq_error (hcodes _ (by simp [codes])) hcreate)

theorem Node.code?_of_parse {path : Option Text} {source : Text} {e : Failure}
    (h : parse path source = .error e) :
    (∃ code ∈ SyntaxProblem.codes, e.code? = some code) ∨ e.code? = none := by
  unfold parse at h
  split at h
  · cases h
  · rename_i p _
    cases h
    exact p.code?_failure path

/-! ## Cycles -/

/-- The code of the fault for a chain of extensions that comes back. -/
def Node.cycleCode : Text := "TEMPLATE_EXTENDS_CYCLE".toList

/-- No load ends with the fault for a cycle. -/
theorem Session.code?_of_answer {s : Session} {path : Text} {e : Failure}
    (h : s.answer path = .error e) : e.code? ≠ some Node.cycleCode := by
  have hfresh : s.fresh path = .error e := by
    cases hkept : s.kept.lookup path with
    | some kept =>
      rw [answer_of_kept hkept] at h
      cases h
    | none => rwa [answer_of_not_kept hkept] at h
  rcases fresh_eq_error.1 hfresh with hread | ⟨source, -, hparse⟩
  · rcases Source.code?_of_read hread with hcode | hcode <;> rw [hcode] <;> decide
  · rcases Node.code?_of_parse hparse with ⟨code, hmem, hcode⟩ | hcode
    · have hne : ∀ code ∈ SyntaxProblem.codes, some code ≠ some Node.cycleCode := by decide
      rw [hcode]
      exact hne code hmem
    · rw [hcode]
      exact nofun

/-- A chain that comes back to a path fails with the fault for a cycle. It names the first template
of the chain, and its message lists the chain in order, up to the path that it comes back to. -/
theorem Node.exists_cycle {α : Type} (chain : List Text) (path : Text) :
    ∃ f, (cycle chain path : Except Failure α) = .error (.fault f) ∧ f.code = cycleCode ∧
      f.template = templateValue chain.head? ∧
      f.message =
        "Circular extends: ".toList ++ Text.join " -> ".toList (chain ++ [path]) := by
  let context : List (Text × Value) := [("template".toList, templateValue chain.head?),
    ("chain".toList, .text (Text.join " -> ".toList (chain ++ [path])))]
  obtain ⟨w, hw⟩ : ∃ w, Registry.builtin.find? cycleCode = some w := ⟨_, rfl⟩
  have hplain : ∀ entry ∈ context, entry.2.plain? ≠ none := by
    intro entry hentry
    simp only [context, List.mem_cons, List.not_mem_nil, or_false] at hentry
    rcases hentry with rfl | rfl
    · cases chain.head? <;> exact Option.some_ne_none _
    · exact Option.some_ne_none _
  obtain ⟨f, hraise, htells⟩ := Registry.exists_raise (α := α) hw hplain
  refine ⟨f, hraise, htells.code.trans (Registry.code_of_find? hw), htells.template, ?_⟩
  obtain ⟨location, message, -, hfilled, hmessage⟩ := htells.message
  have hpieces : Pattern.pieces w.message = "Circular extends: ".toList.map Piece.literal ++
      [.field ⟨"chain".toList, none, [], false⟩] := by
    cases hw
    decide +kernel
  have hchain : Pattern.plainPieces? (Registry.valuesAt context location)
      [.field ⟨"chain".toList, none, [], false⟩] =
        some (Text.join " -> ".toList (chain ++ [path])) := by
    have hlookup : (Registry.valuesAt context location).lookup (Pattern.firstName "chain".toList) =
        some (.text (Text.join " -> ".toList (chain ++ [path]))) := rfl
    rw [Pattern.plainPieces?, Pattern.plainPiece?, hlookup, Pattern.plainPieces?]
    simp [Value.plain?]
  rw [hpieces, Pattern.plainPieces?_literals, hchain] at hfilled
  cases hfilled
  exact hmessage

end Stencil
