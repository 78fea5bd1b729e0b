import Stencil.Text.Basic
import Stencil.Text.Span
import Stencil.Text.WordTable
import Stencil.Text.DigitTable

/-!
# Word characters and digits

Which characters make up names, and which are digits. ASCII characters are decided by comparison,
all others by table.
-/

set_option autoImplicit false

namespace Stencil.Text

/-- An ASCII letter. -/
def isAsciiLetter (c : Char) : Bool := ('a' ≤ c && c ≤ 'z') || ('A' ≤ c && c ≤ 'Z')

/-- An ASCII digit. -/
def isAsciiDigit (c : Char) : Bool := '0' ≤ c && c ≤ '9'

/-- A letter or numeric character of any script. -/
def isAlphanumeric (c : Char) : Bool :=
  if c.toNat < 128 then isAsciiLetter c || isAsciiDigit c
  else inRanges alphanumericRanges c.toNat

/-- A character of a name: alphanumeric, or the underscore. -/
def isWord (c : Char) : Bool := isAlphanumeric c || c == '_'

/-- A non-empty text of word characters. -/
def isName (t : Text) : Bool := !t.isEmpty && t.all isWord

/-- The value of a decimal digit of any script. -/
def digitValue? (c : Char) : Option Nat :=
  if c.toNat < 128 then
    if isAsciiDigit c then some (c.toNat - 48) else none
  else
    (decimalBlocks.find? fun b => b.1 ≤ c.toNat && c.toNat ≤ b.2).map fun b =>
      (c.toNat - b.1) % 10

/-- A decimal digit of any script. -/
def isDecimal (c : Char) : Bool := (digitValue? c).isSome

/-- A digit of any kind, superscripts and circled digits included. -/
def isDigit (c : Char) : Bool :=
  isDecimal c || (128 ≤ c.toNat && inRanges nondecimalDigits c.toNat)

/-- The number that a text of decimal digits writes, most significant digit first. Characters that
are not digits count as zero. -/
def digitsValue (t : Text) : Nat :=
  t.foldl (fun n c => 10 * n + (digitValue? c).getD 0) 0

/-- A non-empty text of ASCII digits, the only texts that stand for positions. -/
def isPosition (t : Text) : Bool := !t.isEmpty && t.all isAsciiDigit

end Stencil.Text
