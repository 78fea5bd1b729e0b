import Stencil.Text.Basic

/-!
# Paths of files

A location is the list of names that lead to it from the root of the file tree. A path is resolved
against a location by its names alone: empty names and single dots vanish, a double dot drops the
name before it, and a path that begins with a slash starts at the root.
-/

set_option autoImplicit false

namespace Stencil

/-- A place in a file tree: the names that lead to it from the root. -/
abbrev Location := List Text

namespace Location

/-- Takes one name of a path. -/
def step (here : Location) (name : Text) : Location :=
  if name.isEmpty ∨ name = ['.'] then here
  else if name = ['.', '.'] then here.dropLast
  else here ++ [name]

/-- The location that a path leads to from another location. -/
def resolve (base : Location) (path : Text) : Location :=
  let start := if path.head? = some '/' then [] else base
  (Text.splitOn '/' path).foldl step start

/-- Whether a location is another one or lies below it. -/
def isWithin (base location : Location) : Bool := base.isPrefixOf location

/-- A location as an absolute path. -/
def toText (l : Location) : Text := if l.isEmpty then ['/'] else l.flatMap ('/' :: ·)

end Location

namespace FilePath

/-- A path in its plain form: without empty names, single dots, and a slash at the end. A path that
begins with a slash keeps it, and a path without names is a single dot. -/
def normalized (path : Text) : Text :=
  let names := (Text.splitOn '/' path).filter fun n => !n.isEmpty && n != ['.']
  let lead :=
    if Text.begins "//".toList path && !Text.begins "///".toList path then "//".toList
    else if path.head? = some '/' then ['/'] else []
  let body := Text.join ['/'] names
  if lead.isEmpty && body.isEmpty then ['.'] else lead ++ body

end FilePath
end Stencil
