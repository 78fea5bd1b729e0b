import Stencil.Text.Basic
import Stencil.Text.CaseTable

/-!
# Changing case

Full case conversion: one character may become several, and a capital sigma becomes the final
small sigma at the end of a word. ASCII is decided by comparison, all else by table.
-/

set_option autoImplicit false

namespace Stencil.Text

/-- The mapping of one code point by a table of runs and a table of expansions. -/
def mapCase (runs : List CaseRun) (expansions : List (Nat × List Nat)) (c : Char) : Text :=
  match expansions.lookup c.toNat with
  | some codes => codes.map Char.ofNat
  | none => match runs.find? (·.span.holds c.toNat) with
    | some run => [Char.ofNat (Int.toNat (c.toNat + run.shift))]
    | none => [c]

/-- The upper case of a character. -/
def upperOf (c : Char) : Text :=
  if c.toNat < 128 then [if 'a' ≤ c && c ≤ 'z' then Char.ofNat (c.toNat - 32) else c]
  else mapCase upperRuns upperExpansions c

/-- The lower case of a character on its own. -/
def lowerOf (c : Char) : Text :=
  if c.toNat < 128 then [if 'A' ≤ c && c ≤ 'Z' then Char.ofNat (c.toNat + 32) else c]
  else mapCase lowerRuns lowerExpansions c

/-- The title case of a character, which stands at the beginning of a word. -/
def titleOf (c : Char) : Text :=
  if c.toNat < 128 then upperOf c
  else if inRanges titleFixed c.toNat then [c]
  else match titleExceptions.lookup c.toNat with
    | some codes => codes.map Char.ofNat
    | none => upperOf c

/-- A capital letter. -/
def isUpper (c : Char) : Bool :=
  if c.toNat < 128 then 'A' ≤ c && c ≤ 'Z' else inSpans upperSpans c.toNat

/-- A small letter. -/
def isLower (c : Char) : Bool :=
  if c.toNat < 128 then 'a' ≤ c && c ≤ 'z' else inSpans lowerSpans c.toNat

/-- A letter that has case: capital, small or title. -/
def isCased (c : Char) : Bool :=
  isUpper c || isLower c || inRanges titleRanges c.toNat

/-- A character that is passed over when the end of a word is looked for. -/
def isCaseIgnorable (c : Char) : Bool := inRanges caseIgnorableRanges c.toNat

/-- Whether the nearest character that is not passed over is a cased one. -/
def nextIsCased (t : Text) : Bool :=
  match t.dropWhile isCaseIgnorable with
  | [] => false
  | c :: _ => isCased c

/-- The lower case of a character between what precedes it, nearest first, and what follows it. -/
def lowerBetween (before : Text) (c : Char) (after : Text) : Text :=
  if c = 'Σ' then [if nextIsCased before && !nextIsCased after then 'ς' else 'σ']
  else lowerOf c

/-- The lower case of a text that stands after the given characters, nearest first. -/
def lowerFrom : Text → Text → Text
  | _, [] => []
  | before, c :: rest => lowerBetween before c rest ++ lowerFrom (c :: before) rest

/-- A text in upper case. -/
def upper (t : Text) : Text := t.flatMap upperOf

/-- A text in lower case. -/
def lower (t : Text) : Text := lowerFrom [] t

/-- A text with its first character in title case and the others in lower case. -/
def capitalize : Text → Text
  | [] => []
  | c :: rest => titleOf c ++ lowerFrom [c] rest

/-- Title case from a point inside a text: a letter after a cased letter becomes small, any other
takes title case. -/
def titleFrom : Text → Text → Text
  | _, [] => []
  | before, c :: rest =>
    (if (before.head?.map isCased).getD false then lowerBetween before c rest else titleOf c) ++
      titleFrom (c :: before) rest

/-- A text with every word beginning in title case. -/
def title (t : Text) : Text := titleFrom [] t

/-- Capital letters made small and small letters made capital, from a point inside a text. -/
def swapCaseFrom : Text → Text → Text
  | _, [] => []
  | before, c :: rest =>
    (if isUpper c then lowerBetween before c rest else if isLower c then upperOf c else [c]) ++
      swapCaseFrom (c :: before) rest

/-- A text with capital letters made small and small letters made capital. -/
def swapCase (t : Text) : Text := swapCaseFrom [] t

end Stencil.Text
