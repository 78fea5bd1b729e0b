import Stencil.Text.Basic

/-!
# Blank characters

Which characters count as blank, and how text is trimmed and cut at blanks. Besides the usual
white space these are the four information separators, the next-line character and the spaces of
the space-separator category; the zero-width space and the byte order mark are not blank.
-/

set_option autoImplicit false

namespace Stencil.Text

/-- Whether a character is blank. -/
def isBlank (c : Char) : Bool :=
  let n := c.toNat
  (9 ≤ n && n ≤ 13) || (28 ≤ n && n ≤ 32) || n == 0x85 || n == 0xA0 || n == 0x1680 ||
    (0x2000 ≤ n && n ≤ 0x200A) || n == 0x2028 || n == 0x2029 || n == 0x202F || n == 0x205F ||
    n == 0x3000

/-- A text without its leading blanks. -/
def stripLeft (t : Text) : Text := t.dropWhile isBlank

/-- A text without its trailing blanks. -/
def stripRight (t : Text) : Text := (t.reverse.dropWhile isBlank).reverse

/-- A text without blanks at either end. -/
def strip (t : Text) : Text := stripRight (stripLeft t)

/-- The first word of a text: what follows the leading blanks, up to the next blank. -/
def firstWord (t : Text) : Text := (stripLeft t).takeWhile fun c => !isBlank c

/-- Cuts a text into its words, the longest pieces without blanks. The first argument holds the
word that is being read. -/
def wordsFrom : Text → Text → List Text
  | word, [] => if word.isEmpty then [] else [word]
  | word, c :: rest =>
    if isBlank c then
      if word.isEmpty then wordsFrom [] rest else word :: wordsFrom [] rest
    else wordsFrom (word ++ [c]) rest

/-- The words of a text. -/
def words (t : Text) : List Text := wordsFrom [] t

end Stencil.Text
