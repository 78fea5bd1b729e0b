import Stencil.Fault.Registry
import Stencil.Table

/-!
# References to the environment

A setting may refer to variables of the environment. A reference stands between a dollar sign with
an opening brace and a closing brace: the name alone, the name with a default after `:-`, or the
name with a message after `:?`. A text is cut into references and other characters once, from left
to right, and what is put in the place of a reference is never looked at again.
-/

set_option autoImplicit false

namespace Stencil

/-- The variables of the environment, by name. -/
abbrev Environment := List (Text × Text)

/-- What a reference says about a variable that is not set. -/
inductive Fallback where
  | none
  | default (value : Text)
  | message (text : Text)
  deriving DecidableEq, Repr

/-- A reference to a variable. -/
structure Reference where
  name : Text
  fallback : Fallback
  deriving DecidableEq, Repr

namespace Reference

/-- A character of a name. -/
def isNameChar (c : Char) : Bool := c != '}' && c != ':'

/-- A character of a default or a message. -/
def isArgumentChar (c : Char) : Bool := c != '}'

/-- Reads what follows the name of a reference, up to its closing brace, and gives what comes after
it. -/
def fallback? : Text → Option (Fallback × Text)
  | '}' :: rest => some (.none, rest)
  | ':' :: mark :: rest =>
    match rest.dropWhile isArgumentChar with
    | [] => none
    | _ :: after =>
      let argument := rest.takeWhile isArgumentChar
      if mark = '-' then some (.default argument, after)
      else if mark = '?' then some (.message argument, after)
      else none
  | _ => none

/-- Reads a reference after its opening brace, and gives what comes after it. -/
def body? (t : Text) : Option (Reference × Text) :=
  let name := t.takeWhile isNameChar
  if name.isEmpty then none
  else (fallback? (t.dropWhile isNameChar)).map fun f => (⟨name, f.1⟩, f.2)

/-- The reference at the very beginning of a text, and what comes after it. -/
def atHead? : Text → Option (Reference × Text)
  | '$' :: '{' :: rest => body? rest
  | _ => none

/-- The fallback as it is written. -/
def writtenFallback : Fallback → Text
  | .none => []
  | .default value => ':' :: '-' :: value
  | .message text => ':' :: '?' :: text

/-- A reference as it is written. -/
def written (r : Reference) : Text :=
  '$' :: '{' :: (r.name ++ writtenFallback r.fallback ++ ['}'])

theorem length_of_fallback? {t : Text} {found : Fallback × Text} (h : fallback? t = some found) :
    found.2.length < t.length := by
  unfold fallback? at h
  split at h
  · cases h
    simp
  · rename_i mark rest
    split at h
    · cases h
    · rename_i c after hafter
      have hle : (c :: after).length ≤ rest.length := by
        rw [← hafter]
        exact (List.dropWhile_sublist _).length_le
      simp only [List.length_cons] at hle
      split at h
      · cases h
        simp only [List.length_cons]
        omega
      · split at h
        · cases h
          simp only [List.length_cons]
          omega
        · cases h
  · cases h

theorem length_of_atHead? {t : Text} {found : Reference × Text} (h : atHead? t = some found) :
    found.2.length < t.length := by
  unfold atHead? at h
  split at h
  · rename_i rest
    unfold body? at h
    simp only at h
    split at h
    · cases h
    · obtain ⟨f, hf, rfl⟩ := Option.map_eq_some_iff.1 h
      have := length_of_fallback? hf
      have hle : (rest.dropWhile isNameChar).length ≤ rest.length :=
        (List.dropWhile_sublist _).length_le
      simp only [List.length_cons]
      omega
  · cases h

end Reference

/-- A piece of a setting: a character, or a reference. -/
inductive SettingPiece where
  | literal (c : Char)
  | reference (r : Reference)
  deriving DecidableEq, Repr

namespace SettingPiece

/-- A piece as it is written. -/
def written : SettingPiece → Text
  | .literal c => [c]
  | .reference r => r.written

/-- The pieces of a text: the reference at its beginning if there is one, its first character
otherwise, and then the pieces of what comes after. -/
def ofText (t : Text) : List SettingPiece :=
  match _h : Reference.atHead? t with
  | some (r, after) => .reference r :: ofText after
  | none =>
    match t with
    | [] => []
    | c :: rest => .literal c :: ofText rest
termination_by t.length
decreasing_by
  · exact Reference.length_of_atHead? _h
  · simp

end SettingPiece

namespace Settings

/-- The code of the fault for a configuration that cannot be used. -/
def invalidCode : Text := "CONFIG_INVALID".toList

/-- Fails because the configuration cannot be used, for a reason. -/
def refuse {α : Type} (reason : Text) : Except Failure α :=
  Registry.raise invalidCode [("detail".toList, .text reason)]

end Settings

namespace Environment

/-- The text that takes the place of a reference. -/
def resolve (env : Environment) (r : Reference) : Except Failure Text :=
  match env.lookup r.name with
  | some value => .ok value
  | none =>
    match r.fallback with
    | .default value => .ok value
    | .message (c :: text) => Settings.refuse (c :: text)
    | _ => Settings.refuse ("Required environment variable ".toList ++ r.name ++ " not set".toList)

/-- The text of a piece. -/
def fillPiece (env : Environment) : SettingPiece → Except Failure Text
  | .literal c => .ok [c]
  | .reference r => env.resolve r

/-- The texts of pieces, joined; the first piece that has none decides how it fails. -/
def fillPieces (env : Environment) : List SettingPiece → Except Failure Text
  | [] => .ok []
  | p :: rest => do
    let first ← env.fillPiece p
    let others ← env.fillPieces rest
    .ok (first ++ others)

/-- A text with the references in it resolved. -/
def fill (env : Environment) (t : Text) : Except Failure Text :=
  env.fillPieces (SettingPiece.ofText t)

mutual

/-- A value with the references in its texts resolved, at any depth of lists and of the values of
dictionaries. Keys and all other values stay as they are. -/
def fillValue (env : Environment) : Value → Except Failure Value
  | .text t => do
    let filled ← env.fill t
    .ok (.text filled)
  | .safe t => do
    let filled ← env.fill t
    .ok (.text filled)
  | .list items | .shared _ .list items => do
    let filled ← fillItems env items
    .ok (.list filled)
  | .dict entries => do
    let filled ← fillEntries env entries
    .ok (.dict filled)
  | .itself => .error .endless
  | v => .ok v

/-- The elements of a list with the references in them resolved. -/
def fillItems (env : Environment) : List Value → Except Failure (List Value)
  | [] => .ok []
  | v :: rest => do
    let first ← fillValue env v
    let others ← fillItems env rest
    .ok (first :: others)

/-- The entries of a dictionary with the references in their values resolved. -/
def fillEntries (env : Environment) : List (Value × Value) → Except Failure (List (Value × Value))
  | [] => .ok []
  | (k, v) :: rest => do
    let first ← fillValue env v
    let others ← fillEntries env rest
    .ok ((k, first) :: others)

end

end Environment
end Stencil
