import Stencil.Yaml.Cursor

/-!
# Scalars of YAML

The texts of plain, quoted and block scalars: where they end, how their lines are folded, and what
escapes stand for. Every function takes a number of steps that is at least the length of the text
and is never used up.
-/

set_option autoImplicit false

namespace Stencil.Yaml

/-- The line ends and blanks between the lines of a plain scalar: the text that they stand for, and
whether a line ended. There is none where the document ends. -/
def plainBreaks : Nat → Cursor → Option (Text × Cursor)
  | 0, k => some ([], k)
  | steps + 1, k =>
    if k.sees ' ' then plainBreaks steps k.next
    else match k.peek? with
      | some c =>
        if isBreak c then
          let (mark, k) := k.lineBreak
          if k.seesDocumentMarker then none
          else (plainBreaks steps k).map fun r => (mark ++ r.1, r.2)
        else some ([], k)
      | none => some ([], k)

/-- What stands between two pieces of a plain scalar: the text, whether a line ended, and the place
after it. -/
def plainSpaces (k : Cursor) : Text × Bool × Cursor :=
  let (blanks, k) := k.takeWhile (· == ' ')
  match k.peek? with
  | some c =>
    if isBreak c then
      let (mark, after) := k.lineBreak
      if after.seesDocumentMarker then ([], true, after)
      else match plainBreaks after.rest.length after with
        | none =>
          -- The scalar ends before a marker; the lines up to it are passed.
          ([], true, toMarker after.rest.length after)
        | some (breaks, after) =>
          let lead := if mark ≠ ['\n'] then mark else if breaks.isEmpty then [' '] else []
          (lead ++ breaks, true, after)
    else (blanks, false, k)
  | none => (blanks, false, k)
where
  /-- Passes blanks and line ends up to a marker. -/
  toMarker : Nat → Cursor → Cursor
    | 0, k => k
    | steps + 1, k =>
      if k.seesDocumentMarker then k
      else if k.sees ' ' then toMarker steps k.next
      else match k.peek? with
        | some c => if isBreak c then toMarker steps k.lineBreak.2 else k
        | none => k

/-- Whether a plain scalar ends before the next character. -/
def plainEnds (inFlow : Bool) (c : Char) (after : Option Char) : Bool :=
  let gapAfter := (after.map isGap).getD true
  let markAfter := match after with
    | some d => inFlow && ",[]{}".toList.contains d
    | none => false
  isGap c || (c == ':' && (gapAfter || markAfter)) || (inFlow && ",?[]{}".toList.contains c)

/-- The characters of a plain scalar up to its next gap. -/
def plainPiece (inFlow : Bool) : Text → Text
  | [] => []
  | c :: rest => if plainEnds inFlow c rest.head? then [] else c :: plainPiece inFlow rest

/-- The rest of a plain scalar after some blanks: its text, whether a line ended just before its
end, and the place after it. -/
def plainFrom (inFlow : Bool) (indent : Int) :
    Nat → Text → Bool → Cursor → Text × Bool × Cursor
  | 0, _, ended, k => ([], ended, k)
  | steps + 1, spaces, ended, k =>
    if k.sees '#' then ([], ended, k)
    else
      let piece := plainPiece inFlow k.rest
      if piece.isEmpty then ([], ended, k)
      else
        let k := k.skip piece.length
        let (between, ended, k) := plainSpaces k
        if between.isEmpty || k.sees '#' || (!inFlow && (k.column : Int) < indent) then
          (spaces ++ piece, ended, k)
        else
          let (others, ended, k) := plainFrom inFlow indent steps between ended k
          (spaces ++ piece ++ others, ended, k)

/-- A plain scalar: its text, whether a line ended at its end, and the place after it. -/
def plainScalar (inFlow : Bool) (indent : Int) (k : Cursor) : Text × Bool × Cursor :=
  plainFrom inFlow indent k.rest.length [] false k

/-- What a single character after a backslash stands for. -/
def escapes : List (Char × Char) := [
  ('0', '\x00'), ('a', '\x07'), ('b', '\x08'), ('t', '\t'), ('\t', '\t'), ('n', '\n'),
  ('v', '\x0b'), ('f', '\x0c'), ('r', '\r'), ('e', '\x1b'), (' ', ' '), ('"', '"'), ('\\', '\\'),
  ('/', '/'), ('N', '\u0085'), ('_', '\u00a0'), ('L', '\u2028'), ('P', '\u2029')]

/-- The number of digits of a character that is given by its number. -/
def escapeDigits : List (Char × Nat) := [('x', 2), ('u', 4), ('U', 8)]

/-- The value of a digit to base sixteen. -/
def hexValue? (c : Char) : Option Nat :=
  if '0' ≤ c ∧ c ≤ '9' then some (c.toNat - 48)
  else if 'a' ≤ c ∧ c ≤ 'f' then some (c.toNat - 87)
  else if 'A' ≤ c ∧ c ≤ 'F' then some (c.toNat - 55)
  else none

/-- The number that digits to base sixteen write. -/
def hexNumber? (t : Text) : Option Nat :=
  t.foldlM (fun n c => (hexValue? c).map (16 * n + ·)) 0

/-- The line ends inside a quoted scalar after the first one. -/
def quotedBreaks : Nat → Cursor → Except Problem (Text × Cursor)
  | 0, k => .ok ([], k)
  | steps + 1, k =>
    if k.seesDocumentMarker then malformed "found unexpected document separator"
    else
      let (_, k) := k.takeWhile fun c => c == ' ' || c == '\t'
      match k.peek? with
      | some c =>
        if isBreak c then do
          let (mark, k) := k.lineBreak
          let (others, k) ← quotedBreaks steps k
          .ok (mark ++ others, k)
        else .ok ([], k)
      | none => .ok ([], k)

/-- The blanks and line ends inside a quoted scalar. -/
def quotedSpaces (k : Cursor) : Except Problem (Text × Cursor) :=
  let (blanks, k) := k.takeWhile fun c => c == ' ' || c == '\t'
  match k.peek? with
  | none => malformed "found unexpected end of stream"
  | some c =>
    if isBreak c then do
      let (mark, k) := k.lineBreak
      let (breaks, k) ← quotedBreaks (k.rest.length + 1) k
      let lead := if mark ≠ ['\n'] then mark else if breaks.isEmpty then [' '] else []
      .ok (lead ++ breaks, k)
    else .ok (blanks, k)

/-- What stands after a backslash in a double-quoted scalar. -/
def escaped (k : Cursor) : Except Problem (Text × Cursor) :=
  match k.peek? with
  | none => malformed "found unknown escape character"
  | some c =>
    match escapes.lookup c, escapeDigits.lookup c with
    | some d, _ => .ok ([d], k.next)
    | none, some n =>
      let k := k.next
      let digits := k.rest.take n
      match (if digits.length = n then hexNumber? digits else none) with
      | some code => .ok ([Char.ofNat code], k.skip n)
      | none => malformed "expected escape sequence of hexadecimal numbers"
    | none, none =>
      if isBreak c then
        let (_, k) := k.lineBreak
        quotedBreaks (k.rest.length + 1) k
      else malformed "found unknown escape character"

/-- The rest of a quoted scalar, up to its closing quote. -/
def quotedFrom (double : Bool) : Nat → Cursor → Except Problem (Text × Cursor)
  | 0, _ => malformed "found unexpected end of stream"
  | steps + 1, k =>
    match k.peek? with
    | none => malformed "found unexpected end of stream"
    | some c =>
      if isGap c then do
        let (spaces, k) ← quotedSpaces k
        let (others, k) ← quotedFrom double steps k
        .ok (spaces ++ others, k)
      else if double && c == '\\' then do
        let (t, k) ← escaped k.next
        let (others, k) ← quotedFrom double steps k
        .ok (t ++ others, k)
      else if !double && c == '\'' && k.peekAt? 1 == some '\'' then do
        let (others, k) ← quotedFrom double steps (k.skip 2)
        .ok ('\'' :: others, k)
      else if c = (if double then '"' else '\'') then .ok ([], k.next)
      else do
        let (others, k) ← quotedFrom double steps k.next
        .ok (c :: others, k)

/-- A quoted scalar, from its opening quote on. -/
def quotedScalar (double : Bool) (k : Cursor) : Except Problem (Text × Cursor) :=
  quotedFrom double (2 * k.rest.length) k.next

/-- How a block scalar treats the line ends at its end. -/
inductive Chomping where
  | clip
  | keep
  | strip
  deriving DecidableEq, Repr

/-- A digit that says how far a block scalar is indented. -/
def indentDigit (k : Cursor) : Except Problem (Option Nat × Cursor) :=
  match k.peek? with
  | some c =>
    if Text.isAsciiDigit c then
      if c = '0' then malformed "expected indentation indicator in the range 1-9, but found 0"
      else .ok (some (c.toNat - 48), k.next)
    else .ok (none, k)
  | none => .ok (none, k)

/-- A sign that says how a block scalar ends. -/
def chompingSign (k : Cursor) : Option Chomping × Cursor :=
  if k.sees '+' then (some .keep, k.next)
  else if k.sees '-' then (some .strip, k.next)
  else (none, k)

/-- The head of a block scalar after its first character. -/
def blockHead (k : Cursor) : Except Problem (Chomping × Option Nat × Cursor) := do
  let (sign, k) := chompingSign k
  let (digit, k) ← indentDigit k
  let (sign, k) := match sign with
    | some s => (some s, k)
    | none => if digit.isSome then chompingSign k else (none, k)
  match k.peek? with
  | some c =>
    if c = ' ' ∨ isBreak c then .ok (sign.getD .clip, digit, k)
    else malformed "expected chomping or indentation indicators"
  | none => .ok (sign.getD .clip, digit, k)

/-- Passes blanks, a comment and the end of the line; nothing else may stand there. -/
def ignoredLine (k : Cursor) : Except Problem Cursor :=
  let (_, k) := k.takeWhile (· == ' ')
  let k := if k.sees '#' then (k.takeWhile fun c => !isBreak c).2 else k
  match k.peek? with
  | some c =>
    if isBreak c then .ok k.lineBreak.2 else malformed "expected a comment or a line break"
  | none => .ok k

/-- The empty lines at the beginning of a block scalar: their ends, and the greatest column reached.
-/
def blockIndentation : Nat → Nat → Cursor → Text × Nat × Cursor
  | 0, greatest, k => ([], greatest, k)
  | steps + 1, greatest, k =>
    match k.peek? with
    | some c =>
      if c = ' ' then blockIndentation steps (max greatest k.next.column) k.next
      else if isBreak c then
        let (mark, k) := k.lineBreak
        let (others, greatest, k) := blockIndentation steps greatest k
        (mark ++ others, greatest, k)
      else ([], greatest, k)
    | none => ([], greatest, k)

/-- Passes blanks up to a column. -/
def toColumn (indent : Nat) : Nat → Cursor → Cursor
  | 0, k => k
  | steps + 1, k => if k.column < indent && k.sees ' ' then toColumn indent steps k.next else k

/-- The empty lines inside a block scalar. -/
def blockBreaks (indent : Nat) : Nat → Cursor → Text × Cursor
  | 0, k => ([], k)
  | steps + 1, k =>
    let k := toColumn indent indent k
    match k.peek? with
    | some c =>
      if isBreak c then
        let (mark, k) := k.lineBreak
        let (others, k) := blockBreaks indent steps k
        (mark ++ others, k)
      else ([], k)
    | none => ([], k)

/-- The lines of a block scalar, with the empty lines before the next one: the text without what
stands at its end, the last line end, and the empty lines after it. -/
def blockLines (folded : Bool) (indent : Nat) :
    Nat → Text → Cursor → Text × Text × Text × Cursor
  | 0, breaks, k => ([], [], breaks, k)
  | steps + 1, breaks, k =>
    match k.peek? with
    | none => ([], [], breaks, k)
    | some c =>
      if k.column ≠ indent then ([], [], breaks, k)
      else
        let leadingText := c != ' ' && c != '\t'
        let (line, k) := k.takeWhile fun c => !isBreak c
        let (mark, k) := k.lineBreak
        let (after, k) := blockBreaks indent (k.rest.length + 1) k
        match k.peek? with
        | some d =>
          if k.column = indent then
            let joint :=
              if folded && mark == ['\n'] && leadingText && d != ' ' && d != '\t' then
                (if after.isEmpty then [' '] else [])
              else mark
            let (others, last, tail, k) := blockLines folded indent steps after k
            (breaks ++ line ++ joint ++ others, last, tail, k)
          else (breaks ++ line, mark, after, k)
        | none => (breaks ++ line, mark, after, k)

/-- A block scalar, from its first character on, inside a collection of a given indentation. -/
def blockScalar (folded : Bool) (indent : Int) (k : Cursor) : Except Problem (Text × Cursor) := do
  let (chomping, digit, k) ← blockHead k.next
  let k ← ignoredLine k
  let least : Nat := max 1 (indent + 1).toNat
  let (breaks, column, k) := match digit with
    | none =>
      let (breaks, greatest, k) := blockIndentation (k.rest.length + 1) 0 k
      (breaks, max least greatest, k)
    | some n =>
      let column := least + n - 1
      let (breaks, k) := blockBreaks column (k.rest.length + 1) k
      (breaks, column, k)
  let (t, last, tail, k) := blockLines folded column (k.rest.length + 1) breaks k
  .ok (t ++ (if chomping = .strip then [] else last) ++ (if chomping = .keep then tail else []), k)

end Stencil.Yaml
