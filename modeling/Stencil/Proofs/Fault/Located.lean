import Stencil.Proofs.Fault.Told

/-!
# Where faults of parsing are

The fault of a source that is no template carries the template, the line and the column of the token
at which the mistake shows, and its message says them after what is wrong with the tag. It is always
made, unless a line or a column has more digits than are written.
-/

set_option autoImplicit false

namespace Stencil

/-- The code of a mistake. -/
def SyntaxCause.code : SyntaxCause → Text
  | .unexpected _ => "TEMPLATE_SYNTAX".toList
  | .malformed _ _ => "TEMPLATE_INVALID_TAG".toList
  | .unclosed _ => "TEMPLATE_UNCLOSED_TAG".toList

/-- What a message says of a mistake, before the place. -/
def SyntaxCause.words : SyntaxCause → Text
  | .unexpected keyword => "Unexpected '".toList ++ keyword ++ "'".toList
  | .malformed keyword _ => "Invalid '".toList ++ keyword ++ "' tag".toList
  | .unclosed keyword => "Unclosed '".toList ++ keyword ++ "' tag".toList

/-- The template in words, if it has a path that is not empty. -/
def nameWords : Option Text → Text
  | some (c :: path) => " in \"".toList ++ (c :: path) ++ ['"']
  | _ => []

/-- A place in a template in words. -/
def Position.words (path : Option Text) (p : Position) : Text :=
  nameWords path ++ " at line ".toList ++ Text.ofNat p.line ++ ", column ".toList ++
    Text.ofNat p.column

/-- A place whose line and column can be written. -/
def Position.IsWritable (p : Position) : Prop :=
  p.line < Number.firstUnwritable ∧ p.column < Number.firstUnwritable

theorem Value.plain?_ofNat {n : Nat} (h : n < Number.firstUnwritable) :
    (Value.int n).plain? = some (Text.ofNat n) := by
  have hwritable : Number.isWritable n = true := decide_eq_true h
  show Number.integerText? n = _
  rw [Number.integerText?, if_pos hwritable]
  rfl

theorem Value.lt_firstUnwritable_of_plain? {n : Nat} {t : Text}
    (h : (Value.int n).plain? = some t) : n < Number.firstUnwritable := by
  change Number.integerText? n = some t at h
  unfold Number.integerText? at h
  split at h
  · rename_i hwritable
    exact of_decide_eq_true hwritable
  · cases h

namespace Fault

theorem location?_templateValue (path : Option Text) (line column : Nat) :
    location? (templateValue path) (.int line) (.int column) =
      ((Value.int line).plain?).bind fun atLine =>
        ((Value.int column).plain?).map fun atColumn =>
          nameWords path ++ (" at line ".toList ++ atLine) ++ (", column ".toList ++ atColumn) := by
  unfold location?
  simp only
  generalize (Value.int line).plain? = atLine
  generalize (Value.int column).plain? = atColumn
  rcases path with _ | (_ | ⟨c, rest⟩) <;> cases atLine <;> cases atColumn <;> rfl

theorem location?_of_isWritable (path : Option Text) {p : Position} (h : p.IsWritable) :
    location? (templateValue path) (.int p.line) (.int p.column) = some (p.words path) := by
  rw [location?_templateValue, Value.plain?_ofNat h.1, Value.plain?_ofNat h.2, Option.bind_some,
    Option.map_some, Position.words]
  simp only [List.append_assoc]

theorem isWritable_of_location? {path : Option Text} {p : Position} {location : Text}
    (h : location? (templateValue path) (.int p.line) (.int p.column) = some location) :
    p.IsWritable := by
  rw [location?_templateValue] at h
  obtain ⟨line, hline, h⟩ := Option.bind_eq_some_iff.1 h
  obtain ⟨column, hcolumn, -⟩ := Option.map_eq_some_iff.1 h
  exact ⟨Value.lt_firstUnwritable_of_plain? hline, Value.lt_firstUnwritable_of_plain? hcolumn⟩

end Fault

namespace SyntaxProblem

/-- The named values that the fault of a mistake is made from. -/
def context (p : SyntaxProblem) (path : Option Text) : List (Text × Value) :=
  [("template".toList, templateValue path), ("line".toList, .int p.token.position.line),
    ("column".toList, .int p.token.position.column), ("content".toList, .text p.token.content)] ++
    match p.cause with
      | .unexpected keyword => [("tag".toList, .text keyword)]
      | .malformed keyword expected =>
        [("tag".toList, .text keyword), ("expected".toList, .text expected)]
      | .unclosed keyword => [("tag".toList, .text keyword)]

theorem failure_eq (p : SyntaxProblem) (path : Option Text) :
    p.failure path = match Registry.builtin.create p.cause.code (p.context path) with
      | .ok f => .fault f
      | .error e => e := by
  rcases p with ⟨cause, token⟩
  cases cause <;> rfl

/-- What a fault says of a mistake at a token. -/
structure Locates (p : SyntaxProblem) (path : Option Text) (f : Fault) : Prop where
  code : f.code = p.cause.code
  template : f.template = templateValue path
  line : f.line = .int p.token.position.line
  column : f.column = .int p.token.position.column
  message : f.message = p.cause.words ++ p.token.position.words path

/-- How the messages of mistakes are written: a lead, the keyword, a trail and the place. -/
theorem plainPieces?_message {values : List (Text × Value)} {keyword location : Text}
    (htag : values.lookup "tag".toList = some (.text keyword))
    (hlocation : values.lookup "location".toList = some (.text location)) (lead trail : Text) :
    Pattern.plainPieces? values (lead.map Piece.literal ++
      .field ⟨"tag".toList, none, [], false⟩ :: (trail.map Piece.literal ++
        [.field ⟨"location".toList, none, [], false⟩])) =
      some (lead ++ keyword ++ trail ++ location) := by
  have hfirst : ∀ name ∈ ["tag".toList, "location".toList], Pattern.firstName name = name := by
    decide +kernel
  have htagged : Pattern.plainPiece? values (.field ⟨"tag".toList, none, [], false⟩) =
      some keyword := by
    rw [Pattern.plainPiece?, hfirst _ List.mem_cons_self, htag]
    rfl
  have hlocated : Pattern.plainPiece? values (.field ⟨"location".toList, none, [], false⟩) =
      some location := by
    rw [Pattern.plainPiece?, hfirst _ (List.mem_cons_of_mem _ List.mem_cons_self), hlocation]
    rfl
  rw [Pattern.plainPieces?_literals, Pattern.plainPieces?, htagged, Pattern.plainPieces?_literals,
    Pattern.plainPieces?, hlocated, Pattern.plainPieces?]
  simp

/-- The messages of mistakes, each with its lead and its trail. -/
def messages : List (String × String × String) := [
  ("Unexpected '{tag}'{location}", "Unexpected '", "'"),
  ("Invalid '{tag}' tag{location}", "Invalid '", "' tag"),
  ("Unclosed '{tag}' tag{location}", "Unclosed '", "' tag")]

theorem pieces_messages : ∀ m ∈ messages, Pattern.pieces m.1.toList =
    m.2.1.toList.map Piece.literal ++ .field ⟨"tag".toList, none, [], false⟩ ::
      (m.2.2.toList.map Piece.literal ++ [.field ⟨"location".toList, none, [], false⟩]) := by
  decide +kernel

/-- The wording of each mistake, filled with its keyword and its place. -/
theorem exists_wording (p : SyntaxProblem) (path : Option Text) (location : Text) :
    ∃ w, Registry.builtin.find? p.cause.code = some w ∧ w.code = p.cause.code ∧
      Pattern.plainPieces? (Registry.valuesAt (p.context path) location)
        (Pattern.pieces w.message) = some (p.cause.words ++ location) := by
  rcases p with ⟨cause, token⟩
  cases cause with
  | unexpected keyword =>
    refine ⟨_, rfl, rfl, ?_⟩
    rw [pieces_messages ("Unexpected '{tag}'{location}", "Unexpected '", "'")
      (.head _)]
    exact plainPieces?_message rfl rfl _ _
  | malformed keyword expected =>
    refine ⟨_, rfl, rfl, ?_⟩
    rw [pieces_messages ("Invalid '{tag}' tag{location}", "Invalid '", "' tag")
      (.tail _ (.head _))]
    exact plainPieces?_message rfl rfl _ _
  | unclosed keyword =>
    refine ⟨_, rfl, rfl, ?_⟩
    rw [pieces_messages ("Unclosed '{tag}' tag{location}", "Unclosed '", "' tag")
      (.tail _ (.tail _ (.head _)))]
    exact plainPieces?_message rfl rfl _ _

theorem words_ne_nil (cause : SyntaxCause) : cause.words ≠ [] := by
  cases cause <;> exact List.cons_ne_nil _ _

/-- A fault that is made of a mistake says where it is. -/
theorem locates_of_failure {p : SyntaxProblem} {path : Option Text} {f : Fault}
    (h : p.failure path = .fault f) : p.Locates path f := by
  rw [failure_eq] at h
  split at h
  · rename_i g hcreate
    cases h
    obtain ⟨w, hw, hcode, -⟩ := p.exists_wording path []
    have htells := Registry.yields_create_builtin hw (p.context path)
    rw [hcreate] at htells
    obtain ⟨location, message, hlocation, hfilled, hmessage⟩ := htells.message
    have hplace : location = p.token.position.words path := by
      have hwritable : p.token.position.IsWritable := Fault.isWritable_of_location? hlocation
      have hwords := Fault.location?_of_isWritable path hwritable
      exact Option.some.inj (hlocation.symm.trans hwords)
    obtain ⟨w', hw', -, hmade⟩ := p.exists_wording path location
    obtain rfl : w' = w := Option.some.inj (hw'.symm.trans hw)
    obtain rfl : message = p.cause.words ++ location := Option.some.inj (hfilled.symm.trans hmade)
    have hne : (p.cause.words ++ location).isEmpty = false := by
      simp [words_ne_nil]
    rw [hne, hplace] at hmessage
    exact ⟨htells.code.trans hcode, htells.template, htells.line, htells.column, hmessage⟩
  · rename_i e hcreate
    obtain ⟨w, hw, -, -⟩ := p.exists_wording path []
    have hwordless := Registry.yields_create_builtin hw (p.context path)
    rw [hcreate] at hwordless
    obtain ⟨rfl, -⟩ := hwordless
    cases h

/-- The fault of a mistake is made whenever its line and column can be written. -/
theorem exists_failure (p : SyntaxProblem) (path : Option Text)
    (h : p.token.position.IsWritable) : ∃ f, p.failure path = .fault f := by
  obtain ⟨w, hw, -, -⟩ := p.exists_wording path []
  have hyields := Registry.yields_create_builtin hw (p.context path)
  rw [failure_eq]
  cases hcreate : Registry.builtin.create p.cause.code (p.context path) with
  | ok f => exact ⟨f, rfl⟩
  | error e =>
    rw [hcreate] at hyields
    obtain ⟨-, entry, hentry, hnone⟩ := hyields
    have hplain : ∀ entry ∈ p.context path, entry.2.plain? ≠ none := by
      intro entry hentry
      rcases List.mem_append.1 hentry with hplace | hcause
      · simp only [List.mem_cons, List.not_mem_nil, or_false] at hplace
        rcases hplace with rfl | rfl | rfl | rfl
        · cases path <;> exact Option.some_ne_none _
        · rw [Value.plain?_ofNat h.1]
          exact Option.some_ne_none _
        · rw [Value.plain?_ofNat h.2]
          exact Option.some_ne_none _
        · exact Option.some_ne_none _
      · split at hcause
        · obtain rfl := List.mem_singleton.1 hcause
          exact Option.some_ne_none _
        · simp only [List.mem_cons, List.not_mem_nil, or_false] at hcause
          rcases hcause with rfl | rfl <;> exact Option.some_ne_none _
        · obtain rfl := List.mem_singleton.1 hcause
          exact Option.some_ne_none _
    exact absurd hnone (hplain entry hentry)

end SyntaxProblem
end Stencil
