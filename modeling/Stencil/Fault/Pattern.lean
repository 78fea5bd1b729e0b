import Stencil.Text.Word

/-!
# Message patterns

The texts of registered errors are patterns: literal text with fields between braces, where a
doubled brace is a literal one. A field names a value, may go on to its attributes and elements, and
may ask for a conversion and a layout. A pattern is read up to its first mistake.
-/

set_option autoImplicit false

namespace Stencil

/-- A mistake in a pattern. -/
inductive PatternError where
  | singleOpen
  | singleClose
  | braceInName
  | endInConversion
  | noColon
  | unclosedSpec
  | unclosedField
  | positional
  | emptyStep
  | strayAfterBracket
  | unclosedBracket
  | tooManyDigits
  | unknownConversion (c : Char)
  | tooDeep
  deriving DecidableEq, Repr

/-- A field of a pattern: its name with all steps, the conversion, and the layout as written. -/
structure Field where
  name : Text
  conversion : Option Char
  spec : Text
  /-- Whether the layout holds fields of its own. -/
  nested : Bool
  deriving DecidableEq, Repr

/-- A piece of a pattern. -/
inductive Piece where
  | literal (c : Char)
  | field (f : Field)
  | broken (e : PatternError)
  deriving DecidableEq, Repr

namespace Pattern

/-- Reads the name of a field: the name, the character that ends it, and the rest. Between square
brackets every character belongs to the name. -/
def fieldName (bracketed : Bool) : Text → Except PatternError (Text × Char × Text)
  | [] => .error .unclosedField
  | c :: rest =>
    if bracketed then do
      let (name, stop, after) ← fieldName (c ≠ ']') rest
      .ok (c :: name, stop, after)
    else if c = '{' then .error .braceInName
    else if c = '}' ∨ c = ':' ∨ c = '!' then .ok ([], c, rest)
    else do
      let (name, stop, after) ← fieldName (c = '[') rest
      .ok (c :: name, stop, after)

/-- Reads a layout up to the brace that closes the field, with the number of braces that are open;
also says whether the layout holds a brace. -/
def fieldSpec : Nat → Text → Except PatternError (Text × Bool × Text)
  | _, [] => .error .unclosedSpec
  | depth, c :: rest =>
    if c = '{' then do
      let (spec, _, after) ← fieldSpec (depth + 1) rest
      .ok (c :: spec, true, after)
    else if c = '}' then
      match depth with
      | 0 => .ok ([], false, rest)
      | depth + 1 => do
        let (spec, nested, after) ← fieldSpec depth rest
        .ok (c :: spec, nested, after)
    else do
      let (spec, nested, after) ← fieldSpec depth rest
      .ok (c :: spec, nested, after)

/-- Reads a field after its opening brace. -/
def field (t : Text) : Except PatternError (Field × Text) := do
  let (name, stop, rest) ← fieldName false t
  if stop = '}' then .ok (⟨name, none, [], false⟩, rest)
  else if stop = ':' then
    let (spec, nested, after) ← fieldSpec 0 rest
    .ok (⟨name, none, spec, nested⟩, after)
  else match rest with
    | [] => .error .endInConversion
    | [_] => .error .unclosedSpec
    | c :: '}' :: after => .ok (⟨name, some c, [], false⟩, after)
    | c :: ':' :: more =>
      let (spec, nested, after) ← fieldSpec 0 more
      .ok (⟨name, some c, spec, nested⟩, after)
    | _ :: _ :: _ => .error .noColon

theorem length_of_fieldName {bracketed : Bool} {t : Text} {r : Text × Char × Text}
    (h : fieldName bracketed t = .ok r) : r.2.2.length < t.length := by
  induction t generalizing bracketed r with
  | nil => cases h
  | cons c rest ih =>
    have step : ∀ b : Bool, (do
        let (name, stop, after) ← fieldName b rest
        Except.ok (c :: name, stop, after)) = Except.ok r → r.2.2.length < (c :: rest).length := by
      intro b hb
      cases hrec : fieldName b rest with
      | error e => rw [hrec] at hb; cases hb
      | ok q =>
        obtain ⟨name, stop, after⟩ := q
        rw [hrec] at hb
        cases hb
        have := ih hrec
        simp only [List.length_cons] at this ⊢
        omega
    unfold fieldName at h
    split at h
    · exact step _ h
    · split at h
      · cases h
      · split at h
        · cases h
          simp
        · exact step _ h

theorem length_of_fieldSpec {depth : Nat} {t : Text} {r : Text × Bool × Text}
    (h : fieldSpec depth t = .ok r) : r.2.2.length < t.length := by
  induction t generalizing depth r with
  | nil => cases h
  | cons c rest ih =>
    have step : ∀ (d : Nat) (f : Bool → Bool), (do
        let (spec, nested, after) ← fieldSpec d rest
        Except.ok (c :: spec, f nested, after)) = Except.ok r →
          r.2.2.length < (c :: rest).length := by
      intro d f hd
      cases hrec : fieldSpec d rest with
      | error e => rw [hrec] at hd; cases hd
      | ok q =>
        obtain ⟨spec, nested, after⟩ := q
        rw [hrec] at hd
        cases hd
        have := ih hrec
        simp only [List.length_cons] at this ⊢
        omega
    unfold fieldSpec at h
    split at h
    · exact step _ (fun _ => true) h
    · split at h
      · split at h
        · cases h
          simp
        · exact step _ id h
      · exact step _ id h

theorem length_of_field {t : Text} {r : Field × Text} (h : field t = .ok r) :
    r.2.length < t.length := by
  unfold field at h
  cases hname : fieldName false t with
  | error e => rw [hname] at h; cases h
  | ok q =>
    obtain ⟨name, stop, rest⟩ := q
    have hlt := length_of_fieldName hname
    simp only at hlt
    rw [hname] at h
    simp only [bind, Except.bind] at h
    split at h
    · cases h
      exact hlt
    · split at h
      · cases hspec : fieldSpec 0 rest with
        | error e => rw [hspec] at h; cases h
        | ok s =>
          obtain ⟨spec, nested, after⟩ := s
          rw [hspec] at h
          cases h
          have := length_of_fieldSpec hspec
          simp only at this ⊢
          omega
      · split at h
        · cases h
        · cases h
        · cases h
          simp only [List.length_cons] at hlt
          simp only
          omega
        · rename_i _ more
          cases hspec : fieldSpec 0 more with
          | error e => rw [hspec] at h; cases h
          | ok s =>
            obtain ⟨spec, nested, after⟩ := s
            rw [hspec] at h
            cases h
            have := length_of_fieldSpec hspec
            simp only [List.length_cons] at hlt this ⊢
            omega
        · cases h

/-- The pieces of a pattern, up to its first mistake. -/
def pieces (t : Text) : List Piece :=
  match t with
  | [] => []
  | ['{'] => [.broken .singleOpen]
  | '{' :: '{' :: rest => .literal '{' :: pieces rest
  | '}' :: '}' :: rest => .literal '}' :: pieces rest
  | '{' :: next :: rest =>
    match _h : field (next :: rest) with
    | .ok (f, after) => .field f :: pieces after
    | .error e => [.broken e]
  | '}' :: _ => [.broken .singleClose]
  | c :: rest => .literal c :: pieces rest
termination_by t.length
decreasing_by
  · simp only [List.length_cons]
    omega
  · simp only [List.length_cons]
    omega
  · have := length_of_field _h
    simp only [List.length_cons] at this ⊢
    omega
  · simp only [List.length_cons]
    omega

/-- A step from a value to a part of it. -/
inductive Step where
  | attribute (name : Text)
  | element (name : Text)
  | broken (e : PatternError)
  deriving DecidableEq, Repr

/-- Whether a character begins a step. -/
def beginsStep (c : Char) : Bool := c == '.' || c == '['

/-- The steps after the first name of a field, up to the first mistake. -/
def steps (t : Text) : List Step :=
  match t with
  | [] => []
  | '.' :: rest =>
    let name := rest.takeWhile fun c => !beginsStep c
    if name.isEmpty then [.broken .emptyStep]
    else .attribute name :: steps (rest.dropWhile fun c => !beginsStep c)
  | '[' :: rest =>
    let name := rest.takeWhile fun c => c != ']'
    match _h : rest.dropWhile fun c => c != ']' with
    | [] => [.broken .unclosedBracket]
    | _ :: after =>
      if name.isEmpty then [.broken .emptyStep] else .element name :: steps after
  | _ :: _ => [.broken .strayAfterBracket]
termination_by t.length
decreasing_by
  · have := (List.dropWhile_sublist (l := rest) (fun c => !beginsStep c)).length_le
    simp only [List.length_cons]
    omega
  · have := (List.dropWhile_sublist (l := rest) (fun c => c != ']')).length_le
    rw [_h] at this
    simp only [List.length_cons] at this ⊢
    omega

/-- The first name of a field, which is looked up. -/
def firstName (name : Text) : Text := name.takeWhile fun c => !beginsStep c

/-- The steps of a field. -/
def stepsOf (name : Text) : List Step := steps (name.dropWhile fun c => !beginsStep c)

/-- The greatest position that a field may name. -/
def positionLimit : Nat := Nat.pow 2 63 - 1

/-- The position that a name stands for, if it consists of decimal digits. The digits that a name
begins with must not go beyond the greatest position, even if another character follows them. -/
def position? (name : Text) : Except PatternError (Option Nat) :=
  let digits := name.takeWhile Text.isDecimal
  let n := Text.digitsValue digits
  if n > positionLimit then .error .tooManyDigits
  else if name.isEmpty || digits != name then .ok none
  else .ok (some n)

end Pattern

namespace PatternError

/-- What a report says about the mistake. -/
def message : PatternError → Text
  | .singleOpen => "Single '".toList ++ ['{'] ++ "' encountered in format string".toList
  | .singleClose => "Single '".toList ++ ['}'] ++ "' encountered in format string".toList
  | .braceInName => "unexpected '".toList ++ ['{'] ++ "' in field name".toList
  | .endInConversion => "end of string while looking for conversion specifier".toList
  | .noColon => "expected ':' after conversion specifier".toList
  | .unclosedSpec => "unmatched '".toList ++ ['{'] ++ "' in format spec".toList
  | .unclosedField => "expected '".toList ++ ['}'] ++ "' before end of string".toList
  | .positional => "Format string contains positional fields".toList
  | .emptyStep => "Empty attribute in format string".toList
  | .strayAfterBracket => "Only '.' or '[' may follow ']' in format field specifier".toList
  | .unclosedBracket => "Missing ']' in format string".toList
  | .tooManyDigits => "Too many decimal digits in format string".toList
  | .unknownConversion c =>
    "Unknown conversion specifier ".toList ++
      if 32 < c.toNat ∧ c.toNat < 127 then [c] else ['\\', 'x'] ++ Nat.toDigits 16 c.toNat
  | .tooDeep => "Max string recursion exceeded".toList

end PatternError
end Stencil
