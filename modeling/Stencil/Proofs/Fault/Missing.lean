import Stencil.Proofs.Fault.Told

/-!
# The fault for a missing template

What the fault for a missing template says in full. Only the path and the reason go into it: the
path into its message, the reason into its detail.
-/

set_option autoImplicit false

namespace Stencil

/-- A pattern without fields is filled with itself. -/
theorem Pattern.fill_of_literals (values : List (Text × Value)) {t : Text}
    (h : pieces t = t.map Piece.literal) : fill values t = .ok t := by
  have hplain : isPlainPattern t = true := by
    rw [isPlainPattern, h, List.all_map]
    exact List.all_eq_true.2 fun _ _ => rfl
  have hfilled := plainPieces?_literals values t []
  rw [List.append_nil] at hfilled
  rw [fill_of_plain values hplain, h, hfilled]
  simp [plainPieces?, required]

/-- The fault of a wording whose texts are filled, with a detail that is given. -/
theorem Registry.fault_of_fill {w : Wording} {context : List (Text × Value)}
    {location message : Text} {suggestion : Option Text}
    (hlocation : Fault.location? (valueOf context "template".toList)
      (valueOf context "line".toList) (valueOf context "column".toList) = some location)
    (hmessage : Pattern.fill (valuesAt context location) w.message = .ok message)
    (hdetail : (valueOf context "detail".toList).isPresent = true)
    (hsuggestion : fillOptional (valuesAt context location) w.suggestion = .ok suggestion) :
    fault w context = .ok {
      code := w.code, category := w.category
      message := if message.isEmpty then w.code else message
      detail := valueOf context "detail".toList, suggestion := suggestion
      template := valueOf context "template".toList
      line := valueOf context "line".toList
      column := valueOf context "column".toList } := by
  unfold fault
  simp only [hlocation, Pattern.required, hdetail, if_true]
  show Pattern.fill (valuesAt context location) w.message >>= _ = _
  rw [hmessage]
  show fillOptional (valuesAt context location) w.suggestion >>= _ = _
  rw [hsuggestion]
  rfl

namespace Source

/-- What to do about a template that cannot be read. -/
def missingAdvice : Text := "Check the template path and the templates directory".toList

/-- The fault for a template that cannot be read, for a reason. -/
def notFound (path reason : Text) : Fault where
  code := missingCode
  category := .loading
  message := "Template '".toList ++ path ++ "' not found".toList
  detail := .text reason
  suggestion := some missingAdvice
  template := .undefined
  line := .undefined
  column := .undefined

/-- The wording of the fault for a missing template. -/
def missingWording : Wording :=
  ⟨missingCode, .loading, "Template '{path}' not found".toList,
    some "The loader could not read the template source".toList, some missingAdvice⟩

variable {α : Type} {path reason : Text} {values : List (Text × Value)}

/-- The only field of the message is the path. -/
theorem fill_missingWording (h : values.lookup "path".toList = some (.text path)) :
    Pattern.fill values missingWording.message =
      .ok ("Template '".toList ++ path ++ "' not found".toList) := by
  have hplain : Pattern.isPlainPattern missingWording.message = true := by decide +kernel
  have hpieces : Pattern.pieces missingWording.message =
      "Template '".toList.map Piece.literal ++ (.field ⟨"path".toList, none, [], false⟩ ::
        ("' not found".toList.map Piece.literal ++ [])) := by
    decide +kernel
  have hpath : Pattern.plainPiece? values (.field ⟨"path".toList, none, [], false⟩) =
      some path := by
    have hname : Pattern.firstName "path".toList = "path".toList := by decide +kernel
    rw [Pattern.plainPiece?, hname, h]
    simp [Value.plain?]
  rw [Pattern.fill_of_plain _ hplain, hpieces, Pattern.plainPieces?_literals,
    Pattern.plainPieces?, hpath, Pattern.plainPieces?_literals]
  simp [Pattern.plainPieces?, Pattern.required]

/-- The advice has no fields. -/
theorem fillOptional_missingWording (values : List (Text × Value)) :
    Registry.fillOptional values missingWording.suggestion = .ok (some missingAdvice) := by
  have hadvice : Pattern.fill values missingAdvice = .ok missingAdvice :=
    Pattern.fill_of_literals _ (by decide +kernel)
  show Pattern.fill values missingAdvice >>= _ = _
  rw [hadvice]
  rfl

theorem raise_missing (h : reason ≠ []) :
    (Registry.raise missingCode [("path".toList, .text path), ("detail".toList, .text reason)] :
      Except Failure α) = .error (.fault (notFound path reason)) := by
  have hfind : Registry.builtin.find? missingCode = some missingWording := rfl
  have hpresent : (Value.text reason).isPresent = true := by
    simpa [Value.isPresent, Value.size?] using h
  have hcreate : Registry.builtin.create missingCode
      [("path".toList, .text path), ("detail".toList, .text reason)] =
        .ok (notFound path reason) := by
    rw [Registry.create, hfind]
    exact Registry.fault_of_fill rfl (fill_missingWording rfl) hpresent
      (fillOptional_missingWording _)
  rw [Registry.raise, hcreate]

/-- The reason that a problem gives, by its kind and its text. -/
def reasonOf (kind message : Text) : Text := kind ++ ": ".toList ++ message

theorem missing_eq (kind message : Text) : (missing path kind message : Except Failure α) =
    .error (.fault (notFound path (reasonOf kind message))) :=
  raise_missing (by simp)

end Source
end Stencil
