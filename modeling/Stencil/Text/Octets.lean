import Stencil.Text.Query

/-!
# Octets as ASCII

The methods of octets treat those below 128 as ASCII characters; all others are neither letters nor
digits nor blanks.
-/

set_option autoImplicit false

namespace Stencil.Octets

/-- A capital letter. -/
def isUpper (o : Nat) : Bool := 65 ≤ o && o ≤ 90

/-- A small letter. -/
def isLower (o : Nat) : Bool := 97 ≤ o && o ≤ 122

/-- A letter. -/
def isLetter (o : Nat) : Bool := isUpper o || isLower o

/-- A digit. -/
def isDigit (o : Nat) : Bool := 48 ≤ o && o ≤ 57

/-- A blank. -/
def isBlank (o : Nat) : Bool := (9 ≤ o && o ≤ 13) || o == 32

/-- An octet as a capital letter. -/
def upperOf (o : Nat) : Nat := if isLower o then o - 32 else o

/-- An octet as a small letter. -/
def lowerOf (o : Nat) : Nat := if isUpper o then o + 32 else o

/-- Octets from a point on, with every word beginning with a capital letter. The first argument says
whether a letter stands before. -/
def titleFrom (after : Bool) : List Nat → List Nat
  | [] => []
  | o :: rest => (if after then lowerOf o else upperOf o) :: titleFrom (isLetter o) rest

/-- Octets with the first one as a capital letter and the others as small ones. -/
def capitalize : List Nat → List Nat
  | [] => []
  | o :: rest => upperOf o :: rest.map lowerOf

/-- Octets with capital letters made small and small ones made capital. -/
def swapCase (os : List Nat) : List Nat :=
  os.map fun o => if isUpper o then lowerOf o else upperOf o

/-- Whether every word begins with a capital letter and goes on with small ones, from a point on. -/
def isTitledFrom (after : Bool) : List Nat → Bool
  | [] => true
  | o :: rest =>
    if isUpper o then !after && isTitledFrom true rest
    else if isLower o then after && isTitledFrom true rest
    else isTitledFrom false rest

/-- Octets without the blanks before them. -/
def stripLeft (os : List Nat) : List Nat := os.dropWhile isBlank

/-- Octets without the blanks after them. -/
def stripRight (os : List Nat) : List Nat := (os.reverse.dropWhile isBlank).reverse

/-- The words of octets, which blanks part. -/
def words (os : List Nat) : List (List Nat) := (os.splitOnP isBlank).filter fun w => !w.isEmpty

/-- What is done with octets as characters of the same numbers. -/
def asText {α : Type} (f : Text → α) (os : List Nat) : α := f (os.map Char.ofNat)

/-- The lines of octets, which end with a line feed, a carriage return, or both. -/
def lines (os : List Nat) : List (List Nat) :=
  (asText (Text.linesFrom (fun c => c == '\n' || c == '\r') []) os).map fun l => l.map Char.toNat

/-- Octets with blanks in place of tabs. -/
def expandTabs (os : List Nat) : List Nat := (asText Text.expandTabs os).map Char.toNat

/-- The hexadecimal digits of octets. -/
def hex (os : List Nat) : Text := os.flatMap fun o => Text.padded 16 2 o

/-- Whether octets are not empty and all of a kind. -/
def consistOf (kind : Nat → Bool) (os : List Nat) : Bool := !os.isEmpty && os.all kind

end Stencil.Octets
