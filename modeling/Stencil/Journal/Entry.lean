import Stencil.Value.Basic

/-!
# Journal entries

What the library reports while it works: an entry has a level, the component that reports, a
message, and named fields.
-/

set_option autoImplicit false

namespace Stencil

/-- The levels that the library itself reports at, as numbers. -/
inductive Level where
  | debug
  | info
  | warning
  | error
  deriving DecidableEq, Repr

/-- The number of a level; a higher number is more urgent. -/
def Level.number : Level → Int
  | .debug => 10
  | .info => 20
  | .warning => 30
  | .error => 40

/-- A report. -/
structure Entry where
  level : Level
  component : Text
  message : Text
  fields : List (Text × Value)

namespace Entry

/-- The field that stands for a measured time, in milliseconds. Times are not measured here. -/
def duration : Value := .text "<ms>".toList

end Entry
end Stencil
