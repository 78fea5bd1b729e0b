import Stencil.Text.Blank
import Stencil.Value.Truth

/-!
# Cutting expressions

An expression is cut at marks that stand outside quotes and brackets: at bars into a value and its
filters, at the first colon into the name of a filter and its argument, and at the first comparison
into two sides. A closing bracket without an opening one is passed over, and a quote that is never
closed extends to the end.
-/

set_option autoImplicit false

namespace Stencil

/-- Where a scan stands: inside a quote or not, and how many brackets are open. -/
structure Scan where
  quote : Option Char
  depth : Nat
  deriving DecidableEq, Repr

namespace Scan

/-- Outside all quotes and brackets. -/
def outside : Scan := ⟨none, 0⟩

/-- Whether a character is a quote. -/
def isQuote (c : Char) : Bool := c == '"' || c == '\''

/-- Whether a character opens a bracket. -/
def isOpening (c : Char) : Bool := c == '[' || c == '('

/-- Whether a character closes a bracket. -/
def isClosing (c : Char) : Bool := c == ']' || c == ')'

/-- The state after one more character. -/
def step (s : Scan) (c : Char) : Scan :=
  match s.quote with
  | some q => if c = q then { s with quote := none } else s
  | none =>
    if isQuote c then { s with quote := some c }
    else if isOpening c then { s with depth := s.depth + 1 }
    else if isClosing c then { s with depth := s.depth - 1 }
    else s

/-- The state after a stretch of text. -/
def run (s : Scan) (t : Text) : Scan := t.foldl step s

/-- Whether a character that comes next stands at top level: outside quotes and brackets, and itself
neither a quote nor a bracket. -/
def sees (s : Scan) (c : Char) : Bool :=
  s.quote.isNone && s.depth == 0 && !isQuote c && !isOpening c && !isClosing c

/-- Cuts a text at every top-level occurrence of a mark. -/
def cutAll (mark : Char) (s : Scan) : Text → List Text
  | [] => [[]]
  | c :: rest =>
    if s.sees c && c == mark then [] :: cutAll mark (s.step c) rest
    else match cutAll mark (s.step c) rest with
      | [] => [[c]]
      | piece :: pieces => (c :: piece) :: pieces

/-- Cuts a text at the first top-level occurrence of a mark. -/
def cutFirst (mark : Char) (s : Scan) : Text → Option (Text × Text)
  | [] => none
  | c :: rest =>
    if s.sees c && c == mark then some ([], rest)
    else (cutFirst mark (s.step c) rest).map fun cut => (c :: cut.1, cut.2)

/-- The comparison that stands at the very beginning of a text, and what follows it. -/
def comparisonAtHead? : Text → Option (Value.Comparison × Text)
  | '=' :: '=' :: rest => some (.equal, rest)
  | '!' :: '=' :: rest => some (.unequal, rest)
  | '>' :: '=' :: rest => some (.atLeast, rest)
  | '<' :: '=' :: rest => some (.atMost, rest)
  | '>' :: rest => some (.greater, rest)
  | '<' :: rest => some (.less, rest)
  | _ => none

/-- Cuts a text at its first top-level comparison. -/
def cutComparison (s : Scan) : Text → Option (Text × Value.Comparison × Text)
  | [] => none
  | c :: rest =>
    match if s.sees c then comparisonAtHead? (c :: rest) else none with
    | some (comparison, after) => some ([], comparison, after)
    | none => (cutComparison (s.step c) rest).map fun cut => (c :: cut.1, cut.2)

end Scan

namespace Expr

/-- The value and the filters of an expression, trimmed. -/
def pipeline (t : Text) : List Text := (Scan.cutAll '|' .outside t).map Text.strip

/-- The name and the argument of a filter, trimmed. -/
def filterParts (t : Text) : Text × Option Text :=
  match Scan.cutFirst ':' .outside t with
  | some (name, argument) => (Text.strip name, some (Text.strip argument))
  | none => (Text.strip t, none)

/-- The two sides of a test and the comparison between them, if there is one. -/
def comparisonParts? (t : Text) : Option (Text × Value.Comparison × Text) :=
  (Scan.cutComparison .outside t).map fun cut => (Text.strip cut.1, cut.2.1, Text.strip cut.2.2)

end Expr
end Stencil
