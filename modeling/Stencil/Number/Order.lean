import Stencil.Number.Binary64

/-!
# Comparing numbers

Integers and binary64 numbers are compared by their exact values, whatever their size. A number that
is undefined stands in no order to any other.
-/

set_option autoImplicit false

namespace Stencil

/-- A number: an integer of any size, or a binary64 number. -/
inductive Number where
  | integer (n : Int)
  | float (x : Binary64)
  deriving DecidableEq, Repr

namespace Number

/-- The order of `a * 2 ^ e` and `b * 2 ^ f`. -/
def scaledOrder (a : Int) (e : Int) (b : Int) (f : Int) : Ordering :=
  let least := min e f
  compare (a * Int.pow 2 (e - least).toNat) (b * Int.pow 2 (f - least).toNat)

/-- A signed significand. -/
def signed (negative : Bool) (m : Nat) : Int := if negative then -m else m

/-- The order of two numbers, if both are defined. -/
def order? : Number → Number → Option Ordering
  | .integer a, .integer b => some (compare a b)
  | .float .nan, _ => none
  | _, .float .nan => none
  | .float (.infinite s), .float (.infinite t) =>
    some (if s = t then .eq else if s then .lt else .gt)
  | .float (.infinite s), _ => some (if s then .lt else .gt)
  | _, .float (.infinite t) => some (if t then .gt else .lt)
  | .integer a, .float (.finite t n f) => some (scaledOrder a 0 (signed t n) f)
  | .float (.finite s m e), .integer b => some (scaledOrder (signed s m) e b 0)
  | .float (.finite s m e), .float (.finite t n f) =>
    some (scaledOrder (signed s m) e (signed t n) f)

/-- Whether two numbers are defined and equal. -/
def equals (a b : Number) : Bool := order? a b == some .eq

end Number
end Stencil
