import Stencil.Text.Case
import Stencil.Journal.Entry

/-!
# Levels

A level is a number; the common ones have names. One level has two further names, which are only
read.
-/

set_option autoImplicit false

namespace Stencil.Level

/-- The names of levels. -/
def names : List (Text × Int) := [
  ("CRITICAL".toList, 50), ("ERROR".toList, 40), ("WARNING".toList, 30), ("INFO".toList, 20),
  ("DEBUG".toList, 10), ("NOTSET".toList, 0)]

/-- Further names of levels. -/
def otherNames : List (Text × Int) := [("FATAL".toList, 50), ("WARN".toList, 30)]

/-- The level of a name. -/
def ofName? (name : Text) : Option Int := (names ++ otherNames).lookup name

/-- The name of a level; a level without a name is shown by its number. -/
def nameOf (n : Int) : Text :=
  match names.find? fun e => e.2 == n with
  | some e => e.1
  | none => "Level ".toList ++ Text.ofInt n

/-- The level that is in force where none is set. -/
def fallback : Int := warning.number

/-- The name of a level that the library reports at. -/
def name (l : Level) : Text := nameOf l.number

end Stencil.Level
