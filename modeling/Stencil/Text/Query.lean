import Stencil.Text.Blank
import Stencil.Text.Case
import Stencil.Text.Word
import Stencil.Text.Quoted
import Stencil.Text.FoldTable
import Stencil.Text.NumberTable
import Stencil.Text.IdentifierTable

/-!
# Questions about text

What texts can be asked: whether all of their characters are of a kind, and whether they are written
in one case. Further the text folded for comparison, its lines, and the octets that encode it.
-/

set_option autoImplicit false

namespace Stencil.Text

/-- A letter of any script. -/
def isLetter (c : Char) : Bool :=
  if c.toNat < 128 then isAsciiLetter c
  else isAlphanumeric c && !inRanges numeralRanges c.toNat

/-- A character that stands for a number, ideographs included. -/
def isNumeric (c : Char) : Bool :=
  if c.toNat < 128 then isAsciiDigit c
  else inRanges numeralRanges c.toNat || inRanges numericLetterRanges c.toNat

/-- A character that may begin an identifier. -/
def beginsIdentifier (c : Char) : Bool :=
  if c.toNat < 128 then isAsciiLetter c || c == '_'
  else inRanges identifierStartRanges c.toNat ||
    (isLetter c && !inRanges strangeLetterRanges c.toNat)

/-- A character that may go on an identifier. -/
def continuesIdentifier (c : Char) : Bool :=
  if c.toNat < 128 then isWord c
  else inRanges identifierMarkRanges c.toNat ||
    (isAlphanumeric c && !inRanges strangeNumeralRanges c.toNat)

/-- Whether a text is an identifier. -/
def isIdentifier : Text → Bool
  | [] => false
  | c :: rest => beginsIdentifier c && rest.all continuesIdentifier

/-- Whether a text is not empty and all of its characters are of a kind. -/
def consistsOf (kind : Char → Bool) (t : Text) : Bool := !t.isEmpty && t.all kind

/-- A letter in the case that words begin with. -/
def isTitle (c : Char) : Bool := inRanges titleRanges c.toNat

/-- Whether a text has capital letters and no other ones with case. -/
def isUpperText (t : Text) : Bool := t.any isUpper && t.all fun c => !isLower c && !isTitle c

/-- Whether a text has small letters and no other ones with case. -/
def isLowerText (t : Text) : Bool := t.any isLower && t.all fun c => !isUpper c && !isTitle c

/-- Whether capital letters stand at the beginning of words only, and small letters nowhere else
than after a letter. The first argument says whether a letter with case stands before. -/
def isTitledFrom (after : Bool) : Text → Bool
  | [] => true
  | c :: rest =>
    if isUpper c || isTitle c then !after && isTitledFrom true rest
    else if isLower c then after && isTitledFrom true rest
    else isTitledFrom false rest

/-- Whether a text has letters with case, and every word begins with a capital letter and goes on
with small ones. -/
def isTitleText (t : Text) : Bool := t.any isCased && isTitledFrom false t

/-- A character folded for comparison without regard to case. -/
def foldOf (c : Char) : Text :=
  if foldExpansions.any (·.1 == c.toNat) || foldRuns.any (·.span.holds c.toNat) then
    mapCase foldRuns foldExpansions c
  else lowerOf c

/-- A text folded for comparison without regard to case. -/
def fold (t : Text) : Text := t.flatMap foldOf

/-- A character that ends a line. -/
def endsLine (c : Char) : Bool :=
  let n := c.toNat
  (10 ≤ n && n ≤ 13) || (28 ≤ n && n ≤ 30) || n == 0x85 || n == 0x2028 || n == 0x2029

/-- The lines of a text whose first line begins with a given text, without what ends them. A carriage
return and the line feed after it end one line. -/
def linesFrom (ends : Char → Bool) (line : Text) : Text → List Text
  | [] => if line.isEmpty then [] else [line]
  | '\r' :: '\n' :: rest => line :: linesFrom ends [] rest
  | c :: rest => if ends c then line :: linesFrom ends [] rest else linesFrom ends (line ++ [c]) rest

/-- The lines of a text, without what ends them. -/
def lines (t : Text) : List Text := linesFrom endsLine [] t

/-- A text from a column on, with blanks in place of each tab, up to the next column that is a
multiple of eight. -/
def expandTabsFrom (column : Nat) : Text → Text
  | [] => []
  | c :: rest =>
    if c = '\t' then
      List.replicate (8 - column % 8) ' ' ++ expandTabsFrom (column + (8 - column % 8)) rest
    else c :: expandTabsFrom (if c = '\n' ∨ c = '\r' then 0 else column + 1) rest

/-- A text with blanks in place of tabs. -/
def expandTabs (t : Text) : Text := expandTabsFrom 0 t

/-- The octets that encode a text in UTF-8. -/
def octets (t : Text) : List Nat := t.flatMap fun c => (String.utf8EncodeChar c).map UInt8.toNat

end Stencil.Text
