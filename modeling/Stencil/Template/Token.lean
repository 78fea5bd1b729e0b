import Stencil.Template.Segment

/-!
# Tokens

A token is a segment of a source with its place in it. Lines and columns count from one, offsets
from zero, and only the line feed ends a line.
-/

set_option autoImplicit false

namespace Stencil

/-- A place in a source. -/
structure Position where
  line : Nat
  column : Nat
  offset : Nat
  deriving DecidableEq, Repr

namespace Position

/-- The beginning of every source. -/
def start : Position := ⟨1, 1, 0⟩

/-- The place after one character. -/
def step (p : Position) (c : Char) : Position :=
  if c = '\n' then ⟨p.line + 1, 1, p.offset + 1⟩ else ⟨p.line, p.column + 1, p.offset + 1⟩

/-- The place after a stretch of text. -/
def advance (p : Position) (t : Text) : Position := t.foldl step p

end Position

/-- What a token is. -/
inductive Token.Kind where
  | text
  | expression
  | tag
  | comment
  deriving DecidableEq, Repr

/-- A lexical unit. The content of a delimited span is its trimmed body; the content of text is the
text itself. The raw span is what the source holds, delimiters included. -/
structure Token where
  kind : Token.Kind
  content : Text
  position : Position
  raw : Text
  deriving DecidableEq, Repr

namespace Token

/-- The kind of token that a delimited span gives. -/
def Kind.ofDelimiter : Delimiter → Kind
  | .expression => .expression
  | .tag => .tag
  | .comment => .comment

/-- The token of a segment at a place. -/
def ofSegment (p : Position) : Segment → Token
  | .text value => ⟨.text, value, p, value⟩
  | .delimited d => ⟨.ofDelimiter d.delimiter, Text.strip d.body, p, d.raw⟩

/-- Gives segments their places, one after the other. -/
def place (p : Position) : List Segment → List Token
  | [] => []
  | s :: rest => ofSegment p s :: place (p.advance s.raw) rest

/-- The tokens of a source, in order. -/
def ofSource (source : Text) : List Token := place .start (Segment.ofSource source)

/-- A token written with one space inside each delimiter. Comments are dropped. -/
def normalized (t : Token) : Text :=
  match t.kind with
  | .text => t.content
  | .expression => ['{', '{', ' '] ++ t.content ++ [' ', '}', '}']
  | .tag => ['{', '%', ' '] ++ t.content ++ [' ', '%', '}']
  | .comment => []

/-- The source that tokens stand for, in normalized spacing. -/
def reconstruct (tokens : List Token) : Text := tokens.flatMap normalized

end Token
end Stencil
