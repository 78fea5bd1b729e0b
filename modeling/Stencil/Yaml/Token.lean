import Stencil.Yaml.Flow

/-!
# Tokens of YAML

A document is cut into tokens. Block collections have no marks of their own: they begin where the
indentation grows and end where it shrinks. That a scalar or collection is a key shows only at the
colon after it, which then puts a key token before the candidate; a candidate must stand on the line
of its colon, and one that has to be a key and is not is an error.
-/

set_option autoImplicit false

namespace Stencil.Yaml

/-- A token. -/
inductive Token where
  | directive
  | documentStart
  | documentEnd
  | blockSequence
  | blockMapping
  | blockEnd
  | openSequence
  | closeSequence
  | openMapping
  | closeMapping
  | comma
  | entry
  | key
  | value
  | alias (name : Text)
  | anchor (name : Text)
  | tag (name : Text)
  | scalar (text : Text) (plain : Bool)
  deriving DecidableEq, Repr

/-- A place at which a key may begin: the number of tokens before it, where it stands, and whether
it has to be a key. -/
structure Candidate where
  token : Nat
  required : Bool
  index : Nat
  line : Nat
  column : Nat
  deriving Repr

/-- How far a document has been cut into tokens. -/
structure Scanner where
  cursor : Cursor
  tokens : List Token
  /-- The columns of the open block collections, innermost first. -/
  indents : List Int
  /-- The number of open flow collections. -/
  flow : Nat
  /-- Whether a key may begin at the next token. -/
  keyAllowed : Bool
  /-- The candidates by the number of flow collections around them. -/
  candidates : List (Nat × Candidate)

namespace Scanner

/-- Before the first token. -/
def start (t : Text) : Scanner := ⟨.start t, [], [], 0, true, []⟩

/-- The column of the innermost block collection. -/
def indent (s : Scanner) : Int := s.indents.head?.getD (-1)

/-- Adds tokens at the end. -/
def push (s : Scanner) (ts : List Token) : Scanner := { s with tokens := s.tokens ++ ts }

/-- Passes characters. -/
def advance (s : Scanner) (n : Nat) : Scanner := { s with cursor := s.cursor.skip n }

/-- What is reported of a key that has no colon. -/
def missingColon {α : Type} : Except Problem α := malformed "could not find expected ':'"

/-- Forgets the candidate among the innermost collection, which must not have to be a key. -/
def dropCandidate (s : Scanner) : Except Problem Scanner :=
  match s.candidates.lookup s.flow with
  | some c =>
    if c.required then missingColon
    else .ok { s with candidates := s.candidates.filter fun e => e.1 != s.flow }
  | none => .ok s

/-- The greatest length of a key. -/
def keyLimit : Nat := 1024

/-- Forgets the candidates that can no longer be keys: those on earlier lines, and those too far
back. -/
def dropStale (s : Scanner) : Except Problem Scanner :=
  let stale (c : Candidate) : Bool :=
    c.line != s.cursor.line || keyLimit < s.cursor.index - c.index
  if s.candidates.any fun e => stale e.2 && e.2.required then missingColon
  else .ok { s with candidates := s.candidates.filter fun e => !stale e.2 }

/-- Notes that a key may begin here. -/
def noteCandidate (s : Scanner) : Except Problem Scanner := do
  if s.keyAllowed then
    let required := s.flow = 0 ∧ s.indent = s.cursor.column
    let t ← s.dropCandidate
    .ok { t with candidates := (t.flow, ⟨t.tokens.length, required, t.cursor.index, t.cursor.line,
      t.cursor.column⟩) :: t.candidates }
  else .ok s

/-- Closes the block collections that stand further right than a column. -/
def unwind (s : Scanner) (column : Int) : Scanner :=
  if s.flow ≠ 0 then s
  else
    let closed := s.indents.takeWhile fun i => column < i
    { s with
      indents := s.indents.drop closed.length
      tokens := s.tokens ++ closed.map fun _ => Token.blockEnd }

/-- Passes blanks, comments and line ends; outside flow collections a key may begin after a line
end. -/
def skipGaps : Nat → Scanner → Scanner
  | 0, s => s
  | steps + 1, s =>
    let (_, k) := s.cursor.takeWhile (· == ' ')
    let k := if k.sees '#' then (k.takeWhile fun c => !isBreak c).2 else k
    match k.peek? with
    | some c =>
      if isBreak c then
        skipGaps steps
          { s with cursor := k.lineBreak.2, keyAllowed := s.keyAllowed || s.flow == 0 }
      else { s with cursor := k }
    | none => { s with cursor := k }

/-- A mark of a document: the beginning or the end. -/
def documentMark (s : Scanner) (t : Token) : Except Problem Scanner := do
  let s ← (s.unwind (-1)).dropCandidate
  .ok ({ s with keyAllowed := false }.push [t] |>.advance 3)

/-- A directive, whose content does not matter, to the end of its line. -/
def directive (s : Scanner) : Except Problem Scanner := do
  let s ← (s.unwind (-1)).dropCandidate
  let (_, k) := s.cursor.takeWhile fun c => !isBreak c
  .ok { s.push [.directive] with cursor := k, keyAllowed := false }

/-- A bracket that opens a flow collection. -/
def openFlow (s : Scanner) (t : Token) : Except Problem Scanner := do
  let s ← s.noteCandidate
  .ok ({ s with flow := s.flow + 1, keyAllowed := true }.push [t] |>.advance 1)

/-- A bracket that closes a flow collection. -/
def closeFlow (s : Scanner) (t : Token) : Except Problem Scanner := do
  let s ← s.dropCandidate
  .ok ({ s with flow := s.flow - 1, keyAllowed := false }.push [t] |>.advance 1)

/-- A comma. -/
def comma (s : Scanner) : Except Problem Scanner := do
  let s ← { s with keyAllowed := true }.dropCandidate
  .ok (s.push [.comma] |>.advance 1)

/-- Opens a block collection at a column, unless one is open there. -/
def openBlock (s : Scanner) (column : Int) (t : Token) : Scanner :=
  if s.flow = 0 ∧ s.indent < column then
    { s.push [t] with indents := column :: s.indents }
  else s

/-- The dash of an entry of a block sequence. -/
def entry (s : Scanner) : Except Problem Scanner := do
  if s.flow = 0 ∧ !s.keyAllowed then malformed "sequence entries are not allowed here"
  else
    let s := s.openBlock s.cursor.column .blockSequence
    let s ← { s with keyAllowed := true }.dropCandidate
    .ok (s.push [.entry] |>.advance 1)

/-- The question mark before a key. -/
def explicitKey (s : Scanner) : Except Problem Scanner := do
  if s.flow = 0 ∧ !s.keyAllowed then malformed "mapping keys are not allowed here"
  else
    let s := s.openBlock s.cursor.column .blockMapping
    let s ← { s with keyAllowed := s.flow == 0 }.dropCandidate
    .ok (s.push [.key] |>.advance 1)

/-- Puts tokens before the token with a number. -/
def insertAt (n : Nat) (ts : List Token) (tokens : List Token) : List Token :=
  tokens.take n ++ ts ++ tokens.drop n

/-- The colon before a value. -/
def colon (s : Scanner) : Except Problem Scanner := do
  match s.candidates.lookup s.flow with
  | some c =>
    let opens := s.flow = 0 ∧ s.indent < c.column
    let marks := if opens then [Token.blockMapping, .key] else [.key]
    .ok ({ s with
      candidates := s.candidates.filter fun e => e.1 != s.flow
      tokens := insertAt c.token marks s.tokens
      indents := if opens then c.column :: s.indents else s.indents
      keyAllowed := false }.push [.value] |>.advance 1)
  | none =>
    if s.flow = 0 ∧ !s.keyAllowed then malformed "mapping values are not allowed here"
    else
      let s := s.openBlock s.cursor.column .blockMapping
      let s ← { s with keyAllowed := s.flow == 0 }.dropCandidate
      .ok (s.push [.value] |>.advance 1)

/-- A character of the name of an anchor. -/
def isAnchorChar (c : Char) : Bool :=
  Text.isAsciiLetter c || Text.isAsciiDigit c || c == '-' || c == '_'

/-- An anchor or an alias. -/
def anchored (s : Scanner) (make : Text → Token) : Except Problem Scanner := do
  let s ← s.noteCandidate
  let (name, k) := s.cursor.next.takeWhile isAnchorChar
  let stops := k.gapAt 0 || ((k.peek?.map ('}' :: "?:,]%@`".toList).contains).getD true)
  if name.isEmpty || !stops then malformed "expected alphabetic or numeric character"
  else .ok { s.push [make name] with cursor := k, keyAllowed := false }

/-- A tag, up to the next gap. -/
def tag (s : Scanner) : Except Problem Scanner := do
  let s ← s.noteCandidate
  let (name, k) := s.cursor.next.takeWhile fun c =>
    !(isGap c || (s.flow != 0 && ",[]{}".toList.contains c))
  .ok { s.push [.tag name] with cursor := k, keyAllowed := false }

/-- A block scalar. -/
def block (s : Scanner) (folded : Bool) : Except Problem Scanner := do
  let s ← { s with keyAllowed := true }.dropCandidate
  let (t, k) ← blockScalar folded s.indent s.cursor
  .ok { s.push [.scalar t false] with cursor := k }

/-- A quoted scalar. -/
def quoted (s : Scanner) (double : Bool) : Except Problem Scanner := do
  let s ← s.noteCandidate
  let (t, k) ← quotedScalar double s.cursor
  .ok { s.push [.scalar t false] with cursor := k, keyAllowed := false }

/-- A plain scalar. -/
def plain (s : Scanner) : Except Problem Scanner := do
  let s ← s.noteCandidate
  let (t, ended, k) := plainScalar (s.flow != 0) (s.indent + 1) s.cursor
  .ok { s.push [.scalar t true] with cursor := k, keyAllowed := ended }

/-- Whether a plain scalar can begin here. -/
def beginsPlain (s : Scanner) (c : Char) : Bool :=
  !(isGap c || "-?:,[]{}#&*!|>'\"%@`".toList.contains c) ||
    (!s.cursor.gapAt 1 && (c == '-' || (s.flow == 0 && (c == '?' || c == ':'))))

/-- Reads the token that begins with a character. -/
def token (s : Scanner) (c : Char) : Except Problem Scanner :=
  let gapAfter := s.cursor.gapAt 1
  let inFlow := s.flow != 0
  let atStart := s.cursor.column == 0
  if atStart && c == '%' then s.directive
  else if atStart && s.cursor.seesMarker '-' then s.documentMark .documentStart
  else if atStart && s.cursor.seesMarker '.' then s.documentMark .documentEnd
  else if c = '[' then s.openFlow .openSequence
  else if c = '{' then s.openFlow .openMapping
  else if c = ']' then s.closeFlow .closeSequence
  else if c = '}' then s.closeFlow .closeMapping
  else if c = ',' then s.comma
  else if c = '-' ∧ gapAfter then s.entry
  else if c = '?' ∧ (inFlow || gapAfter) then s.explicitKey
  else if c = ':' ∧ (inFlow || gapAfter) then s.colon
  else if c = '*' then s.anchored .alias
  else if c = '&' then s.anchored .anchor
  else if c = '!' then s.tag
  else if c = '|' ∧ !inFlow then s.block false
  else if c = '>' ∧ !inFlow then s.block true
  else if c = '\'' then s.quoted false
  else if c = '"' then s.quoted true
  else if s.beginsPlain c then s.plain
  else malformed "found character that cannot start any token"

/-- Reads tokens to the end of the document. Every token takes a character, so that the number of
steps is bounded by the length of the text. -/
def run : Nat → Scanner → Except Problem (List Token)
  | 0, _ => malformed "found unexpected end of stream"
  | steps + 1, s => do
    let s ← (skipGaps (s.cursor.rest.length + 1) s).dropStale
    let s := s.unwind s.cursor.column
    match s.cursor.peek? with
    | none => do
      let s ← (s.unwind (-1)).dropCandidate
      .ok s.tokens
    | some c => do
      let s ← s.token c
      run steps s

end Scanner

/-- A character that a document may hold. -/
def isAllowed (c : Char) : Bool :=
  let n := c.toNat
  n == 9 || n == 10 || n == 13 || (0x20 ≤ n && n ≤ 0x7E) || n == 0x85 || (0xA0 ≤ n && n ≤ 0xFFFD) ||
    0x10000 ≤ n

/-- The tokens of a text. -/
def tokens? (t : Text) : Except Problem (List Token) :=
  if t.all isAllowed then Scanner.run (t.length + 2) (.start t)
  else malformed "special characters are not allowed"

end Stencil.Yaml
