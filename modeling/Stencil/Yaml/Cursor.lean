import Stencil.Text.Word

/-!
# Reading YAML characters

A cursor stands before the rest of a document and knows its line, its column and how many characters
it has passed. Line feeds, next-line characters and the two Unicode separators end a line.
-/

set_option autoImplicit false

namespace Stencil.Yaml

/-- Why a text is no YAML document. -/
inductive Problem where
  /-- The text breaks the rules of the language. -/
  | malformed (reason : Text)
  /-- An integer with too many digits. -/
  | tooManyDigits (count : Nat)
  deriving DecidableEq, Repr

/-- Fails because the text breaks a rule. -/
def malformed {α : Type} (reason : String) : Except Problem α := .error (.malformed reason.toList)

/-- A place in a document. -/
structure Cursor where
  rest : Text
  line : Nat
  column : Nat
  index : Nat
  deriving Repr

/-- A character that ends a line. -/
def isBreak (c : Char) : Bool :=
  c == '\n' || c == '\r' || c == '\u0085' || c == '\u2028' || c == '\u2029'

/-- A character that ends a word: a blank, a tab or the end of a line. -/
def isGap (c : Char) : Bool := c == ' ' || c == '\t' || isBreak c

namespace Cursor

/-- Before the first character; a byte order mark is passed over. -/
def start (t : Text) : Cursor :=
  match t with
  | '\uFEFF' :: rest => ⟨rest, 0, 0, 1⟩
  | t => ⟨t, 0, 0, 0⟩

/-- The next character. -/
def peek? (k : Cursor) : Option Char := k.rest.head?

/-- The character that comes a number of places after the next one. -/
def peekAt? (k : Cursor) (n : Nat) : Option Char := k.rest[n]?

/-- Whether there is a gap, or the end of the text, at a number of places after the next
character. -/
def gapAt (k : Cursor) (n : Nat) : Bool := ((k.peekAt? n).map isGap).getD true

/-- Whether the next character is a given one. -/
def sees (k : Cursor) (c : Char) : Bool := k.peek? == some c

/-- Passes one character. -/
def next (k : Cursor) : Cursor :=
  match k.rest with
  | [] => k
  | c :: rest =>
    if c = '\r' ∧ rest.head? = some '\n' then ⟨rest, k.line, k.column + 1, k.index + 1⟩
    else if isBreak c then ⟨rest, k.line + 1, 0, k.index + 1⟩
    else if c = '\uFEFF' then ⟨rest, k.line, k.column, k.index + 1⟩
    else ⟨rest, k.line, k.column + 1, k.index + 1⟩

/-- Passes a number of characters. -/
def skip (k : Cursor) : Nat → Cursor
  | 0 => k
  | n + 1 => k.next.skip n

/-- Passes the characters that fulfil a condition, and gives them. -/
def takeWhile (k : Cursor) (p : Char → Bool) : Text × Cursor :=
  let taken := k.rest.takeWhile p
  (taken, k.skip taken.length)

/-- Passes the end of a line, if it is here, and gives the character that it stands for. -/
def lineBreak (k : Cursor) : Text × Cursor :=
  match k.rest with
  | '\r' :: '\n' :: _ => (['\n'], k.skip 2)
  | c :: _ =>
    if c = '\u2028' ∨ c = '\u2029' then ([c], k.next)
    else if isBreak c then (['\n'], k.next)
    else ([], k)
  | [] => ([], k)

/-- Whether a line of three equal marks stands here, which begins or ends a document. -/
def seesMarker (k : Cursor) (mark : Char) : Bool :=
  k.rest.take 3 == [mark, mark, mark] && k.gapAt 3

/-- Whether a document begins or ends here. -/
def seesDocumentMarker (k : Cursor) : Bool := k.seesMarker '-' || k.seesMarker '.'

end Cursor
end Stencil.Yaml
