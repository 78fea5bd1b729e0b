import Stencil.Value.Display

/-!
# Truth and comparison

What a test makes of a value, and how two values compare: as numbers if both are numbers, and as
their output texts otherwise.
-/

set_option autoImplicit false

namespace Stencil.Value

/-- The truth of a value in a test. Undefined, false, zero, an undefined number and empty text are
false; everything else is true, empty collections included. -/
def isTrue : Value → Bool
  | .undefined => false
  | .bool b => b
  | .int n => n != 0
  | .float x => !x.isZero && x != .nan
  | .text t | .safe t => !t.isEmpty
  | _ => true

/-- Whether a value is something: not undefined, false or zero, and not empty. -/
def isPresent : Value → Bool
  | .undefined => false
  | .bool b => b
  | .int n => n != 0
  | .float x => !x.isZero
  | v => match v.size? with
    | some n => n != 0
    | none => true

/-- The comparisons of a test. -/
inductive Comparison where
  | equal
  | unequal
  | atLeast
  | atMost
  | greater
  | less
  deriving DecidableEq, Repr

namespace Comparison

/-- How a comparison is written. -/
def symbol : Comparison → Text
  | .equal => ['=', '=']
  | .unequal => ['!', '=']
  | .atLeast => ['>', '=']
  | .atMost => ['<', '=']
  | .greater => ['>']
  | .less => ['<']

/-- The comparison that a symbol writes. -/
def ofSymbol? (t : Text) : Option Comparison :=
  [equal, unequal, atLeast, atMost, greater, less].find? fun c => c.symbol == t

/-- Whether a comparison holds of two things in a given order; things in no order are unequal, and
no other comparison holds of them. -/
def holds (c : Comparison) (o : Option Ordering) : Bool :=
  match c with
  | .equal => o == some .eq
  | .unequal => o != some .eq
  | .atLeast => o == some .gt || o == some .eq
  | .atMost => o == some .lt || o == some .eq
  | .greater => o == some .gt
  | .less => o == some .lt

end Comparison

/-- Compares two values; there is no answer if one of the texts that are needed does not exist. -/
def compare? (left : Value) (c : Comparison) (right : Value) : Option Bool :=
  match left.number?, right.number? with
  | some a, some b => some (c.holds (a.order? b))
  | _, _ => do
    let a ← left.output?
    let b ← right.output?
    some (c.holds (some (Text.order a b)))

end Stencil.Value
