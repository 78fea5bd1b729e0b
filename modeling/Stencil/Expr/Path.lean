import Stencil.Expr.Scan
import Stencil.Text.Word

/-!
# Paths into values

A path is a name followed by steps: members after a dot, elements between square brackets, and
calls. Blanks may stand between the steps. Between the brackets of an element stands an expression,
in which quotes are closed and square brackets are balanced.
-/

set_option autoImplicit false

namespace Stencil

/-- A step of a path as it is written. -/
inductive PathStep where
  | member (name : Text)
  | element (expression : Text)
  | call
  deriving DecidableEq, Repr

namespace Path

/-- A character that begins the first name of a path. -/
def beginsRoot (c : Char) : Bool := Text.isAsciiLetter c || c == '_' || c == '$'

/-- A character of a name. -/
def isNameChar (c : Char) : Bool := Text.isWord c || c == '$'

/-- Reads up to the square bracket that closes the current one, given the quote that is open and the
number of further brackets that are: what stands before it, and what follows it. -/
def toClosing (quote : Option Char) (depth : Nat) : Text → Option (Text × Text)
  | [] => none
  | c :: rest =>
    let go (quote : Option Char) (depth : Nat) : Option (Text × Text) :=
      (toClosing quote depth rest).map fun cut => (c :: cut.1, cut.2)
    match quote with
    | some q => go (if c = q then none else some q) depth
    | none =>
      if Scan.isQuote c then go (some c) depth
      else if c = '[' then go none (depth + 1)
      else if c = ']' then
        match depth with
        | 0 => some ([], rest)
        | depth + 1 => go none depth
      else go none depth

theorem length_of_toClosing {quote : Option Char} {depth : Nat} {t : Text} {cut : Text × Text}
    (h : toClosing quote depth t = some cut) : cut.1.length + cut.2.length < t.length := by
  induction t generalizing quote depth cut with
  | nil => cases h
  | cons c rest ih =>
    have step : ∀ (q : Option Char) (d : Nat),
        ((toClosing q d rest).map fun cut => (c :: cut.1, cut.2)) = some cut →
          cut.1.length + cut.2.length < (c :: rest).length := by
      intro q d hq
      obtain ⟨inner, hinner, rfl⟩ := Option.map_eq_some_iff.1 hq
      have := ih hinner
      simp only [List.length_cons]
      omega
    unfold toClosing at h
    simp only at h
    split at h
    · exact step _ _ h
    · split at h
      · exact step _ _ h
      · split at h
        · exact step _ _ h
        · split at h
          · split at h
            · cases h
              simp
            · exact step _ _ h
          · exact step _ _ h

/-- The steps that a text consists of. -/
def steps? (t : Text) : Option (List PathStep) :=
  match t with
  | [] => some []
  | c :: rest =>
    if Text.isBlank c then steps? rest
    else if c = '.' then
      let name := rest.takeWhile isNameChar
      if name.isEmpty then none
      else (steps? (rest.dropWhile isNameChar)).map (PathStep.member name :: ·)
    else if c = '[' then
      match _h : toClosing none 0 rest with
      | none => none
      | some (expression, after) => (steps? after).map (PathStep.element expression :: ·)
    else if c = '(' then
      match _h : rest.dropWhile Text.isBlank with
      | ')' :: after => (steps? after).map (PathStep.call :: ·)
      | _ => none
    else none
termination_by t.length
decreasing_by
  · simp
  · have := (List.dropWhile_sublist (l := rest) isNameChar).length_le
    simp only [List.length_cons]
    omega
  · have := length_of_toClosing _h
    simp only [List.length_cons] at this ⊢
    omega
  · have := (List.dropWhile_sublist (l := rest) Text.isBlank).length_le
    rw [_h] at this
    simp only [List.length_cons] at this ⊢
    omega

/-- The first name and the steps of a path. -/
def parse? (t : Text) : Option (Text × List PathStep) :=
  match Text.stripLeft t with
  | [] => none
  | c :: rest =>
    if beginsRoot c then
      (steps? (rest.dropWhile isNameChar)).map fun steps =>
        (c :: rest.takeWhile isNameChar, steps)
    else none

end Path
end Stencil
