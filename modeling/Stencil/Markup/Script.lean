import Stencil.Text.Basic

/-!
# Text inside a script element

A script element ends at the first `</script`, in whatever case. Inside one, that text is broken up
with a backslash, which string literals and JSON texts read as the slash alone.
-/

set_option autoImplicit false

namespace Stencil.Markup

/-- The spellings of each letter of the word that would end a script element. The long s and the
dotted and dotless i have the capital letters of s and i. -/
def scriptLetters : List (List Char) :=
  [['s', 'S', 'ſ'], ['c', 'C'], ['r', 'R'], ['i', 'I', 'İ', 'ı'], ['p', 'P'], ['t', 'T']]

/-- Whether a text begins with one spelling of each letter of a word. -/
def beginsWithWord : List (List Char) → Text → Bool
  | [], _ => true
  | _ :: _, [] => false
  | spellings :: letters, c :: rest => spellings.contains c && beginsWithWord letters rest

/-- Breaks up every `</script` with a backslash before its slash. -/
def defuseScript : Text → Text
  | '<' :: '/' :: rest =>
    if beginsWithWord scriptLetters rest then '<' :: '\\' :: '/' :: defuseScript rest
    else '<' :: '/' :: defuseScript rest
  | c :: rest => c :: defuseScript rest
  | [] => []

/-- A character inside a string literal of a script. -/
def literalChar (c : Char) : Text :=
  if c = '\\' then ['\\', '\\']
  else if c = '"' then ['\\', '"']
  else if c = '\'' then ['\\', '\'']
  else if c = '\u2028' then "\\u2028".toList
  else if c = '\u2029' then "\\u2029".toList
  else [c]

/-- A text as a double-quoted string literal of a script. -/
def scriptLiteral (t : Text) : Text :=
  ['"'] ++ defuseScript (t.flatMap literalChar) ++ ['"']

end Stencil.Markup
