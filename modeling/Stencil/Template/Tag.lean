import Stencil.Text.Blank
import Stencil.Text.Word

/-!
# Tags

What the content of a tag says. The first word is the keyword; a keyword that is not known is no
error but makes the tag plain text. Each known keyword has a form for its arguments, and the tags
that open or continue a conditional take any test, even an empty one.
-/

set_option autoImplicit false

namespace Stencil

/-- The constructs that have a body and a closing tag. -/
inductive Construct where
  | conditional
  | loop
  | block
  deriving DecidableEq, Repr

/-- The keyword that opens a construct. -/
def Construct.keyword : Construct → Text
  | .conditional => ['i', 'f']
  | .loop => ['f', 'o', 'r']
  | .block => ['b', 'l', 'o', 'c', 'k']

/-- The keyword that closes a construct. -/
def Construct.endKeyword (c : Construct) : Text := ['e', 'n', 'd'] ++ c.keyword

/-- The meaning of a tag. -/
inductive Tag where
  | openIf (test : Text)
  | openFor (names : List Text) (iterable : Text)
  | openBlock (name : Text)
  | elseIf (test : Text)
  | otherwise
  | close (construct : Construct)
  | inclusion (path : Text)
  | extension (path : Text)
  /-- A known keyword whose arguments do not have the expected form. -/
  | malformed (keyword expected : Text)
  /-- A keyword that is not known. -/
  | unknown
  deriving DecidableEq, Repr

namespace Tag

/-- The arguments of a tag: its content without the keyword, trimmed. -/
def arguments (keyword content : Text) : Text := Text.strip (content.drop keyword.length)

/-- Reads a blank stretch, which must not be empty, and gives what follows it. -/
def afterBlanks? : Text → Option Text
  | [] => none
  | c :: rest => if Text.isBlank c then some (Text.stripLeft rest) else none

/-- Reads the longest name at the beginning of a text, and gives what follows it. -/
def nameAndRest? (t : Text) : Option (Text × Text) :=
  let name := t.takeWhile Text.isWord
  if name.isEmpty then none else some (name, t.dropWhile Text.isWord)

/-- Reads the `in` of a loop and the iterable after it, to the end. -/
def iterable? (t : Text) : Option Text := do
  let t ← afterBlanks? t
  let t ← Text.dropLead ['i', 'n'] t
  let t ← afterBlanks? t
  if t.isEmpty then none else some (Text.strip t)

/-- The names and the iterable of a loop: one name, or two with a comma between them, then `in` and
an expression. The text is what follows the keyword. -/
def loopHeader? (t : Text) : Option (List Text × Text) := do
  let t ← afterBlanks? t
  let (first, rest) ← nameAndRest? t
  match Text.stripLeft rest with
  | ',' :: after =>
    let (second, rest) ← nameAndRest? (Text.stripLeft after)
    let it ← iterable? rest
    some ([first, second], it)
  | _ =>
    let it ← iterable? rest
    some ([first], it)

/-- The name of a block: a single name after the keyword. -/
def blockName? (t : Text) : Option Text := do
  let t ← afterBlanks? t
  if Text.isName t then some t else none

/-- The path of an inclusion or extension: one or more characters between two equal quotes, which
stand at the ends of the argument, and no line feed. -/
def quotedPath? (t : Text) : Option Text := do
  match ← afterBlanks? t with
  | [] => none
  | quote :: rest =>
    if quote = '"' ∨ quote = '\'' then
      match rest.reverse with
      | [] => none
      | last :: inner =>
        if last = quote ∧ inner ≠ [] ∧ '\n' ∉ inner then some inner.reverse else none
    else none

/-- The form that a loop tag should have. -/
def loopForm : Text := "'for name in expr' or 'for key, value in expr'".toList

/-- The form that a block tag should have. -/
def blockForm : Text := "'block name'".toList

/-- The form that a tag with a path should have. -/
def pathForm (keyword : Text) : Text := keyword ++ " \"path\"".toList

/-- The meaning of the trimmed content of a tag. -/
def ofContent (content : Text) : Tag :=
  let keyword := Text.firstWord content
  let rest := content.drop keyword.length
  if keyword = "if".toList then .openIf (arguments keyword content)
  else if keyword = "elif".toList then .elseIf (arguments keyword content)
  else if keyword = "else".toList then .otherwise
  else if keyword = "endif".toList then .close .conditional
  else if keyword = "for".toList then
    match loopHeader? rest with
    | some (names, iterable) => .openFor names iterable
    | none => .malformed keyword loopForm
  else if keyword = "endfor".toList then .close .loop
  else if keyword = "block".toList then
    match blockName? rest with
    | some name => .openBlock name
    | none => .malformed keyword blockForm
  else if keyword = "endblock".toList then .close .block
  else if keyword = "include".toList then
    match quotedPath? rest with
    | some path => .inclusion path
    | none => .malformed keyword (pathForm keyword)
  else if keyword = "extends".toList then
    match quotedPath? rest with
    | some path => .extension path
    | none => .malformed keyword (pathForm keyword)
  else .unknown

end Tag
end Stencil
