import Stencil.Text.Basic

/-!
# Integers as text

Integers of any size are computed with, but neither read nor written beyond 4300 digits.
-/

set_option autoImplicit false

namespace Stencil.Number

/-- The greatest number of digits of an integer that is read or written. -/
def digitLimit : Nat := 4300

/-- The least natural number that has too many digits. -/
def firstUnwritable : Nat := Nat.pow 10 digitLimit

/-- Whether an integer has at most the allowed number of digits. -/
def isWritable (n : Int) : Bool := n.natAbs < firstUnwritable

/-- The text of an integer, unless it has too many digits. -/
def integerText? (n : Int) : Option Text := if isWritable n then some (Text.ofInt n) else none

end Stencil.Number
