import Stencil.Expr.Eval
import Stencil.Markup.Entity

/-!
# Optional filters

Further filters that an application can register: reversing, repeating, wrapping, constants, and
filters that are of use in testing an engine.
-/

set_option autoImplicit false

namespace Stencil.Filter

/-- Fails because a filter was given an argument and takes none. -/
def noArgument (f : Value → Eval Value) : Filter := fun v argument =>
  match argument with
  | none => f v
  | some _ => throw (.unfit "<lambda>() takes 1 positional argument but 2 were given".toList)

/-- The elements or characters of a value in reverse order. -/
def reversed : Value → Except Failure Value
  | .text t => .ok (.text t.reverse)
  | .safe t => .ok (.safe t.reverse)
  | .bytes octets => .ok (.bytes octets.reverse)
  | .list items => .ok (.list items.reverse)
  | .tuple items => .ok (.tuple items.reverse)
  | .range start stop step =>
    let n : Int := Value.rangeSize start stop step
    .ok (.range (start + (n - 1) * step) (start - step) (-step))
  | .dict _ | .view _ => .error (.unfit "unhashable type: 'slice'".toList)
  | v => .error (.unfit (['\''] ++ v.typeName ++ "' object is not subscriptable".toList))

/-- The sequence or text in reverse order. -/
def reverse (v : Value) : Eval Value := do
  let w ← Eval.asking v.opened
  let r ← Eval.ofExcept (reversed w)
  r.anew

/-- The integer that a factor is. -/
def factor? : Value → Option Int
  | .int n => some n
  | .bool b => some (if b then 1 else 0)
  | _ => none

/-- The greatest size of a repeated sequence. -/
def repetitionLimit : Nat := Nat.pow 2 40

/-- A list repeated. -/
def repeated {α : Type} (items : List α) (n : Int) : List α :=
  if items.isEmpty then [] else (List.replicate n.toNat items).flatten

/-- Why a sequence cannot be repeated so often: the number is too large to count with, the size would
be, or there is no room. -/
def repetitionProblem? (v : Value) (n : Int) : Option Raised :=
  let size := n.toNat * v.size?.getD 0
  let overflow (message : String) : Option Raised :=
    some (.ofKind "OverflowError".toList message.toList)
  let noRoom : Option Raised := some (.ofKind "MemoryError".toList [])
  if Value.sizeLimit < n.natAbs then overflow "cannot fit 'int' into an index-sized integer"
  else if size ≤ repetitionLimit then none
  else match v with
    | .text _ | .safe _ =>
      if Value.sizeLimit < size then overflow "repeated string is too long" else noRoom
    | .bytes _ => if Value.sizeLimit < size then overflow "repeated bytes are too long" else noRoom
    | _ => noRoom

/-- A sequence repeated, if the value is one. -/
def repeatSequence? (v : Value) (n : Int) : Option Value :=
  match v with
  | .text t => some (.text (repeated t n))
  | .safe t => some (.safe (repeated t n))
  | .bytes octets => some (.bytes (repeated octets n))
  | .list items => some (.list (repeated items n))
  | .tuple items => some (.tuple (repeated items n))
  | _ => none

/-- Whether a value can be repeated. -/
def isRepeatable (v : Value) : Bool := (repeatSequence? v 0).isSome

/-- An integer as a floating-point number, if it is not too large. -/
def floatOf (n : Int) : Eval Binary64 :=
  match Binary64.ofInt n with
  | .infinite _ => throw (.unfit "int too large to convert to float".toList)
  | x => pure x

/-- The product of two values: numbers are multiplied, and a sequence is repeated. -/
def product (left right : Value) : Eval Value := do
  let a ← Eval.asking left.opened
  let b ← Eval.asking right.opened
  let sized (v : Value) (n : Int) : Eval Value :=
    match repetitionProblem? v n with
    | some r => throw (.raised r)
    | none => ((repeatSequence? v n).getD v).anew
  match factor? a, factor? b, a, b with
  | some m, some n, _, _ => pure (.int (m * n))
  | some m, none, _, .float y => do
    let x ← floatOf m
    pure (.float (x.mul y))
  | none, some n, .float x, _ => do
    let y ← floatOf n
    pure (.float (x.mul y))
  | none, none, .float x, .float y => pure (.float (x.mul y))
  | fa, fb, a, b =>
    match fa, fb with
    | none, some n => if isRepeatable a then sized a n else unsupported a b
    | some m, none => if isRepeatable b then sized b m else unsupported a b
    | _, _ =>
      if isRepeatable a then throw (.unfit ("can't multiply sequence by non-int of type '".toList ++
        b.typeName ++ ['\'']))
      else if isRepeatable b then
        throw (.unfit ("can't multiply sequence by non-int of type '".toList ++ a.typeName ++
          ['\'']))
      else unsupported a b
where
  /-- Fails because two values have no product. -/
  unsupported (a b : Value) : Eval Value :=
    throw (.unfit ("unsupported operand type(s) for *: '".toList ++ a.typeName ++
      "' and '".toList ++ b.typeName ++ ['\'']))

/-- A value times its argument. -/
def multiply : Filter := fun v argument =>
  match argument with
  | some n => product v n
  | none => throw (.unfit "<lambda>() missing 1 required positional argument: 'n'".toList)

/-- The plain text of a value between angle brackets. -/
def tagged (v : Value) : Eval Value := do
  let w ← Eval.asking v.now
  let t ← Eval.required w.plain?
  pure (.text (['<'] ++ t ++ ['>']))

/-- The output text of a value in bold type, marked as safe. -/
def bold (v : Value) : Eval Value := do
  let t ← Eval.textOf v
  pure (.safe ("<b>".toList ++ Markup.escape t ++ "</b>".toList))

/-- The list of a value and its argument. -/
def pair : Filter := fun v argument => (Value.list [v, argument.getD .undefined]).anew

/-- Always fails. -/
def boom : Filter := fun _ _ => throw (.raised (.ofKind "RuntimeError".toList "boom".toList))

/-- The optional filters. -/
def optional : Filters := [
  ("reverse".toList, noArgument reverse),
  ("repeat".toList, multiply),
  ("tag".toList, noArgument tagged),
  ("bold".toList, noArgument bold),
  ("const".toList, noArgument fun _ => pure (.text "up".toList)),
  ("none".toList, noArgument fun _ => pure .undefined),
  ("boom".toList, boom),
  ("pair".toList, pair)]

end Stencil.Filter
