import Stencil.Proofs.Session.Ensures
import Stencil.Proofs.Session.Texts
import Stencil.Render.Inheritance

/-!
# The built-in faults

The built-in wordings ask for nothing but the plain texts of values. So the fault of a built-in code
can always be made, whatever the values are that it is made from, unless one of them holds an integer
of too many digits.
-/

set_option autoImplicit false

namespace Stencil

/-! ## Plain patterns -/

namespace Pattern

/-- Whether a name can be the name of a value: it is not empty, and is not read as a position. -/
def isName (name : Text) : Bool :=
  !name.isEmpty && match position? name with
    | .ok none => true
    | _ => false

/-- Whether a piece is literal, or a field that names a value and asks for nothing else. -/
def isPlain : Piece → Bool
  | .literal _ => true
  | .field f =>
    f.conversion.isNone && f.spec.isEmpty && !f.nested && isName (firstName f.name) &&
      (stepsOf f.name).isEmpty
  | .broken _ => false

/-- Whether a pattern has only plain pieces. -/
def isPlainPattern (t : Text) : Bool := (pieces t).all isPlain

variable (values : List (Text × Value))

theorem isName_iff {name : Text} : isName name = true ↔ name ≠ [] ∧ position? name = .ok none := by
  unfold isName
  cases position? name with
  | error e => simp
  | ok i => cases i <;> simp

theorem valueOf_of_plain {name : Text} (h : isName (firstName name) = true)
    (hsteps : stepsOf name = []) :
    valueOf values name =
      .ok ((values.lookup (firstName name)).getD (.text (['{'] ++ firstName name ++ ['}']))) := by
  obtain ⟨hnil, hposition⟩ := isName_iff.1 h
  have hne : (firstName name).isEmpty = false := List.isEmpty_eq_false_iff.2 hnil
  unfold valueOf
  simp only [hposition, hne, hsteps]
  rfl

/-- The text that fills a plain piece, if the value that it names has one. -/
def plainPiece? : Piece → Option Text
  | .literal c => some [c]
  | .field f =>
    ((values.lookup (firstName f.name)).getD (.text (['{'] ++ firstName f.name ++ ['}']))).plain?
  | .broken _ => none

/-- The text that fills plain pieces, if all values that they name have one. -/
def plainPieces? : List Piece → Option Text
  | [] => some []
  | p :: rest => do
    let first ← plainPiece? values p
    let others ← plainPieces? rest
    some (first ++ others)

theorem fillPiece_of_plain (fillSpec : Text → Except Failure Text) {p : Piece}
    (h : isPlain p = true) : fillPiece values fillSpec p = required (plainPiece? values p) := by
  cases p with
  | literal c => rfl
  | broken e => cases h
  | field f =>
    rcases f with ⟨name, conversion, spec, nested⟩
    simp only [isPlain, Bool.and_eq_true, Bool.not_eq_true', Option.isNone_iff_eq_none,
      List.isEmpty_iff] at h
    obtain ⟨⟨⟨⟨rfl, rfl⟩, rfl⟩, hname⟩, hsteps⟩ := h
    unfold fillPiece
    simp only
    rw [valueOf_of_plain values hname hsteps]
    rfl

/-- A plain pattern is filled with the plain texts of the values that it names. -/
theorem fill_of_plain {t : Text} (h : isPlainPattern t = true) :
    fill values t = required (plainPieces? values (pieces t)) := by
  have hpieces : ∀ (fillSpec : Text → Except Failure Text) (ps : List Piece),
      ps.all isPlain = true → fillPieces values fillSpec ps = required (plainPieces? values ps) := by
    intro fillSpec ps hps
    induction ps with
    | nil => rfl
    | cons p rest ih =>
      rw [List.all_cons, Bool.and_eq_true] at hps
      unfold fillPieces plainPieces?
      rw [fillPiece_of_plain values fillSpec hps.1, ih hps.2]
      cases plainPiece? values p with
      | none => rfl
      | some first => cases plainPieces? values rest <;> rfl
  exact hpieces _ _ h

theorem plainPieces?_literals (lead : Text) (rest : List Piece) :
    plainPieces? values (lead.map Piece.literal ++ rest) =
      (plainPieces? values rest).map (lead ++ ·) := by
  induction lead with
  | nil => cases h : plainPieces? values rest <;> simp [h]
  | cons c lead ih =>
    rw [List.map_cons, List.cons_append, plainPieces?, ih, plainPiece?]
    cases plainPieces? values rest <;> rfl

/-- Plain pieces are not filled only if a value has no text. -/
theorem exists_of_plainPieces?_eq_none {ps : List Piece} (hps : ps.all isPlain = true)
    (h : plainPieces? values ps = none) : ∃ e ∈ values, e.2.plain? = none := by
  induction ps with
  | nil => cases h
  | cons p rest ih =>
    rw [List.all_cons, Bool.and_eq_true] at hps
    cases hrest : plainPieces? values rest with
    | none => exact ih hps.2 hrest
    | some others =>
      cases hfirst : plainPiece? values p with
      | some first =>
        rw [plainPieces?, hfirst, hrest] at h
        cases h
      | none =>
        cases p with
        | literal c => cases hfirst
        | broken e => cases hps.1
        | field f =>
          rw [plainPiece?] at hfirst
          cases hlookup : values.lookup (firstName f.name) with
          | none =>
            rw [hlookup] at hfirst
            cases hfirst
          | some v =>
            rw [hlookup] at hfirst
            exact ⟨_, Table.mem_of_lookup hlookup, hfirst⟩

end Pattern

/-! ## Plain wordings -/

/-- A place has no words only if one of its parts has no text. -/
theorem Fault.plain?_of_location?_eq_none {template line column : Value}
    (h : Fault.location? template line column = none) :
    template.plain? = none ∨ line.plain? = none ∨ column.plain? = none := by
  cases htemplate : template.plain? with
  | none => exact .inl rfl
  | some a =>
    cases hline : line.plain? with
    | none => exact .inr (.inl rfl)
    | some b =>
      cases hcolumn : column.plain? with
      | none => exact .inr (.inr rfl)
      | some c =>
        have hnamed : ∃ named, Fault.location? template line column = some named := by
          unfold Fault.location?
          rw [htemplate]
          simp only [Option.map_some, bind, Option.bind]
          split
          all_goals
            split
            · exact ⟨_, rfl⟩
            · rw [hline]
              simp only [Option.map_some]
              split
              · exact ⟨_, rfl⟩
              · rw [hcolumn]
                exact ⟨_, rfl⟩
        rw [h] at hnamed
        obtain ⟨_, ⟨⟩⟩ := hnamed

/-- Whether all texts of a wording are plain patterns. -/
def Wording.isPlain (w : Wording) : Bool :=
  Pattern.isPlainPattern w.message && w.detail.all Pattern.isPlainPattern &&
    w.suggestion.all Pattern.isPlainPattern

namespace Registry

theorem isPlain_builtinWordings : builtinWordings.all Wording.isPlain = true := by
  decide +kernel

/-- The values that fill the texts of a fault, whose place in words is given. -/
def valuesAt (context : List (Text × Value)) (location : Text) : List (Text × Value) :=
  if Table.has "location".toList context then context
  else context ++ [("location".toList, .text location)]

/-- What a fault of a plain wording says of its context. -/
structure Tells (w : Wording) (context : List (Text × Value)) (f : Fault) : Prop where
  code : f.code = w.code
  template : f.template = valueOf context "template".toList
  line : f.line = valueOf context "line".toList
  column : f.column = valueOf context "column".toList
  message : ∃ location message,
    Fault.location? (valueOf context "template".toList) (valueOf context "line".toList)
        (valueOf context "column".toList) = some location ∧
      Pattern.plainPieces? (valuesAt context location) (Pattern.pieces w.message) = some message ∧
      f.message = if message.isEmpty then w.code else message

/-- A fault cannot be made because the text of a value is needed that has none. -/
def Wordless (context : List (Text × Value)) (e : Failure) : Prop :=
  e = .tooManyDigits none ∧ ∃ entry ∈ context, entry.2.plain? = none

section Filling

variable {context : List (Text × Value)}

theorem wordless_of_valueOf {name : Text} (h : (valueOf context name).plain? = none) :
    Wordless context (.tooManyDigits none) := by
  unfold valueOf at h
  cases hlookup : context.lookup name with
  | none =>
    rw [hlookup] at h
    cases h
  | some v =>
    rw [hlookup] at h
    exact ⟨rfl, _, Table.mem_of_lookup hlookup, h⟩

theorem yields_location : Yields
    (fun location => Fault.location? (valueOf context "template".toList)
      (valueOf context "line".toList) (valueOf context "column".toList) = some location)
    (Wordless context) (Pattern.required (Fault.location? (valueOf context "template".toList)
      (valueOf context "line".toList) (valueOf context "column".toList))) := by
  cases hlocation : Fault.location? (valueOf context "template".toList)
    (valueOf context "line".toList) (valueOf context "column".toList) with
  | some location => rfl
  | none =>
    rcases Fault.plain?_of_location?_eq_none hlocation with h | h | h <;>
      exact wordless_of_valueOf h

/-- Filling a plain pattern fails only for want of a text. -/
theorem yields_fill (location : Text) {t : Text} (h : Pattern.isPlainPattern t = true) :
    Yields (fun filled =>
        Pattern.plainPieces? (valuesAt context location) (Pattern.pieces t) = some filled)
      (Wordless context) (Pattern.fill (valuesAt context location) t) := by
  rw [Pattern.fill_of_plain _ h]
  cases hfilled : Pattern.plainPieces? (valuesAt context location) (Pattern.pieces t) with
  | some filled => rfl
  | none =>
    obtain ⟨e, he, hnone⟩ := Pattern.exists_of_plainPieces?_eq_none _ h hfilled
    unfold valuesAt at he
    split at he
    · exact ⟨rfl, e, he, hnone⟩
    · rcases List.mem_append.1 he with he | he
      · exact ⟨rfl, e, he, hnone⟩
      · rw [List.mem_singleton.1 he] at hnone
        cases hnone

theorem yields_fillOptional (location : Text) {o : Option Text}
    (h : o.all Pattern.isPlainPattern = true) :
    Yields (fun _ => True) (Wordless context) (fillOptional (valuesAt context location) o) := by
  cases o with
  | none => trivial
  | some t =>
    apply (yields_fill location h).bind
    intro filled _
    trivial

/-- The fault of a plain wording tells of its context, and fails to be made only for want of a
text. -/
theorem yields_fault {w : Wording} (h : w.isPlain = true) :
    Yields (Tells w context) (Wordless context) (fault w context) := by
  simp only [Wording.isPlain, Bool.and_eq_true] at h
  obtain ⟨⟨hmessage, hdetail⟩, hsuggestion⟩ := h
  unfold fault
  apply yields_location.bind
  intro location hlocation
  apply (yields_fill location hmessage).bind
  intro message hfilled
  have htells : ∀ (detail : Value) (suggestion : Option Text), Tells w context
      { code := w.code, category := w.category
        message := if message.isEmpty then w.code else message
        detail := detail, suggestion := suggestion
        template := valueOf context "template".toList
        line := valueOf context "line".toList
        column := valueOf context "column".toList } :=
    fun _ _ => ⟨rfl, rfl, rfl, rfl, location, message, hlocation, hfilled, rfl⟩
  simp only
  split
  · apply (yields_fillOptional location hsuggestion).bind
    intro suggestion _
    exact htells _ suggestion
  · apply (yields_fillOptional location hdetail).bind
    intro detail _
    apply (yields_fillOptional location hsuggestion).bind
    intro suggestion _
    exact htells _ suggestion

end Filling

/-- The fault of a built-in code tells of its context, and fails to be made only for want of a
text. -/
theorem yields_create_builtin {code : Text} {w : Wording} (h : builtin.find? code = some w)
    (context : List (Text × Value)) :
    Yields (Tells w context) (Wordless context) (builtin.create code context) := by
  have hmem : w ∈ builtinWordings := by
    obtain ⟨v, hv, heq⟩ := List.mem_map.1 (Table.mem_of_lookup h)
    cases heq
    exact hv
  unfold create
  rw [h]
  exact yields_fault (List.all_eq_true.1 isPlain_builtinWordings w hmem)

/-- A built-in wording is found under its own code. -/
theorem code_of_find? {code : Text} {w : Wording} (h : builtin.find? code = some w) :
    w.code = code := by
  obtain ⟨v, -, heq⟩ := List.mem_map.1 (Table.mem_of_lookup h)
  cases heq
  rfl

end Registry

/-! ## Reported failures -/

namespace Failure

/-- An integer with more digits than are read or written. -/
inductive OfDigits : Failure → Prop where
  | read {n : Nat} : Number.digitLimit < n → OfDigits (.tooManyDigits (some n))
  | written : OfDigits (.tooManyDigits none)

/-- A fault, or an integer with too many digits. -/
inductive Reported : Failure → Prop where
  | fault (f : Fault) : Reported (.fault f)
  | digits {e : Failure} : e.OfDigits → Reported e

end Failure

namespace Registry

theorem reported_of_create {code : Text} (h : (builtin.find? code).isSome)
    {context : List (Text × Value)} {e : Failure}
    (hcreate : builtin.create code context = .error e) : e.Reported := by
  obtain ⟨w, hw⟩ := Option.isSome_iff_exists.1 h
  have hyields := yields_create_builtin hw context
  rw [hcreate] at hyields
  obtain ⟨rfl, -⟩ := hyields
  exact .digits .written

theorem reported_of_raise {α : Type} {code : Text} (h : (builtin.find? code).isSome)
    {context : List (Text × Value)} {e : Failure}
    (hraise : (raise code context : Except Failure α) = .error e) : e.Reported := by
  unfold raise at hraise
  split at hraise
  · cases hraise
    exact .fault _
  · rename_i hcreate
    cases hraise
    exact reported_of_create h hcreate

theorem reported_of_raiseWrapped {α : Type} {kind message code : Text}
    (h : (builtin.find? code).isSome) {context : List (Text × Value)} {e : Failure}
    (hraise : (raiseWrapped kind message code context : Except Failure α) = .error e) :
    e.Reported := by
  unfold raiseWrapped wrap at hraise
  split at hraise
  · cases hraise
    exact .fault _
  · rename_i hcreate
    cases hraise
    exact reported_of_create h hcreate

end Registry

theorem Node.reported_of_cycle {α : Type} {chain : List Text} {path : Text} {e : Failure}
    (h : (cycle chain path : Except Failure α) = .error e) : e.Reported :=
  Registry.reported_of_raise (by decide) h

theorem SyntaxProblem.reported_failure (p : SyntaxProblem) (path : Option Text) :
    (p.failure path).Reported := by
  have hcodes : ∀ code ∈ ["TEMPLATE_SYNTAX".toList, "TEMPLATE_INVALID_TAG".toList,
      "TEMPLATE_UNCLOSED_TAG".toList], (Registry.builtin.find? code).isSome := by decide
  rcases p with ⟨cause, token⟩
  unfold failure
  cases cause
  all_goals
    simp only
    split
    · exact .fault _
    · rename_i hcreate
      exact Registry.reported_of_create (hcodes _ (by simp)) hcreate

theorem Node.yields_parse (path : Option Text) (source : Text) :
    Yields (fun _ => True) Failure.Reported (parse path source) := by
  unfold parse
  split
  · trivial
  · rename_i p _
    exact p.reported_failure path

/-- A table of sources gives texts for its paths only, and reports that it has no other ones. -/
theorem Source.yields_read_table (d : Disk) (path : Text) (templates : List (Text × Text)) :
    Yields (fun _ => path ∈ Table.keys templates) Failure.Reported
      ((Source.table templates).read d path) := by
  rw [Source.read]
  split
  · rename_i t hlookup
    exact List.mem_map.2 ⟨_, Table.mem_of_lookup hlookup, rfl⟩
  · cases hmissing : (missing path "KeyError".toList (Text.quoted path) : Except Failure Text) with
    | ok t => exact absurd hmissing missing_ne_ok
    | error e => exact Registry.reported_of_raiseWrapped (by decide) hmissing

end Stencil
