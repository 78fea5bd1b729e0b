import Stencil.Template.Node
import Stencil.Template.Tag

/-!
# Printing trees

A tree written as a template source in normalized spacing. A path that holds a double quote is
written between single quotes.
-/

set_option autoImplicit false

namespace Stencil.Node

/-- A tag with single blanks around its content. -/
def asTag (content : Text) : Text := ['{', '%', ' '] ++ content ++ [' ', '%', '}']

/-- A tag of words; empty words are left out. -/
def printTag (words : List Text) : Text :=
  asTag (Text.join [' '] (words.filter fun w => !w.isEmpty))

/-- A path between quotes. -/
def printPath (path : Text) : Text :=
  if path.contains '"' then '\'' :: path ++ ['\''] else '"' :: path ++ ['"']

/-- The tag that begins a branch; the first branch of a conditional has a keyword of its own. -/
def printTest (first : Bool) : Option Text → Text
  | none => printTag ["else".toList]
  | some test => printTag [if first then "if".toList else "elif".toList, test]

mutual

/-- A node as source. -/
def print : Node → Text
  | .text value => value
  | .interpolation expression _ => ['{', '{', ' '] ++ expression ++ [' ', '}', '}']
  | .conditional branches => printBranches true branches ++ printTag ["endif".toList]
  | .loop names iterable body =>
    asTag ("for ".toList ++ Text.join ", ".toList names ++ " in ".toList ++ iterable) ++
      printTree body ++ printTag ["endfor".toList]
  | .block name body =>
    asTag ("block ".toList ++ name) ++ printTree body ++ printTag ["endblock".toList]
  | .inclusion path => asTag ("include ".toList ++ printPath path)
  | .extension path => asTag ("extends ".toList ++ printPath path)

/-- A tree as source. -/
def printTree : List Node → Text
  | [] => []
  | n :: rest => print n ++ printTree rest

/-- The branches of a conditional as source, each with the tag that begins it. -/
def printBranches (first : Bool) : List (Branch Node) → Text
  | [] => []
  | ⟨test, body⟩ :: rest => printTest first test ++ printTree body ++ printBranches false rest

end

end Stencil.Node
