import Stencil.Expr.Path
import Stencil.Failure

/-!
# Expressions

What the text of an expression means: a literal or a path, and filters applied to it one after the
other. Every text means something; a text that is neither empty, a literal nor a path stands for the
undefined value.
-/

set_option autoImplicit false

namespace Stencil

/-- A literal. -/
inductive Literal where
  | undefined
  | bool (b : Bool)
  /-- An integer, by its sign and its digits. -/
  | integer (negative : Bool) (digits : Text)
  | float (x : Binary64)
  | text (t : Text)
  deriving DecidableEq, Repr

namespace Literal

/-- The literals that are words. -/
def keyword? (t : Text) : Option Literal :=
  if t = "true".toList then some (.bool true)
  else if t = "false".toList then some (.bool false)
  else if t = "null".toList ∨ t = "undefined".toList then some .undefined
  else none

/-- The number without sign that a text writes: digits, or digits with a point between them. -/
def unsigned? (negative : Bool) (t : Text) : Option Literal :=
  let whole := t.takeWhile Text.isDecimal
  if whole.isEmpty then none
  else match t.dropWhile Text.isDecimal with
    | [] => some (.integer negative whole)
    | '.' :: fraction =>
      if !fraction.isEmpty && fraction.all Text.isDecimal then
        some (.float (.ofDecimal negative (Text.digitsValue (whole ++ fraction))
          (-fraction.length)))
      else none
    | _ => none

/-- The number that a text writes. -/
def number? : Text → Option Literal
  | '-' :: t => unsigned? true t
  | t => unsigned? false t

/-- The text between two equal quotes, if it does not hold that quote. -/
def quoted? : Text → Option Literal
  | [] => none
  | quote :: rest =>
    if Scan.isQuote quote then
      match rest.reverse with
      | [] => none
      | last :: inner =>
        if last = quote ∧ quote ∉ inner then some (.text inner.reverse) else none
    else none

/-- The literal that a text writes. -/
def ofText? (t : Text) : Option Literal :=
  (keyword? t).or ((number? t).or (quoted? t))

/-- The value of a literal. Integers of too many digits have none. -/
def value : Literal → Except Failure Value
  | .undefined => .ok .undefined
  | .bool b => .ok (.bool b)
  | .integer negative digits =>
    if digits.length ≤ Number.digitLimit then
      let n : Int := Text.digitsValue digits
      .ok (.int (if negative then -n else n))
    else .error (.tooManyDigits (some digits.length))
  | .float x => .ok (.float x)
  | .text t => .ok (.text t)

end Literal

/-- A step of a path; the key of an element is an expression. -/
inductive Step (ε : Type) where
  | member (name : Text)
  | element (key : ε)
  | call

/-- An expression. -/
inductive Expr where
  /-- Nothing is written. -/
  | absent
  /-- What is written is no expression. -/
  | malformed
  | literal (l : Literal)
  /-- A name and steps from its value; the text is what reports show. -/
  | path (written root : Text) (steps : List (Step Expr))
  /-- A filter applied to a value, with an argument or without. -/
  | filtered (value : Expr) (name : Text) (argument : Option Expr)

namespace Expr

/-- A step of a path, given how texts are read as expressions. -/
def readStep (read : Text → Expr) : PathStep → Step Expr
  | .member name => .member name
  | .element t => .element (read t)
  | .call => .call

/-- The operand that a trimmed text writes, given how texts inside it are read. -/
def readOperand (read : Text → Expr) (t : Text) : Expr :=
  if t.isEmpty then .absent
  else match Literal.ofText? t with
    | some l => .literal l
    | none => match Path.parse? t with
      | some (root, steps) => .path t root (steps.map (readStep read))
      | none => .malformed

/-- A value with the filter that a text writes applied to it. -/
def applyWritten (read : Text → Expr) (value : Expr) (t : Text) : Expr :=
  let parts := filterParts t
  .filtered value parts.1 (parts.2.map read)

/-- The expression that a text writes, read to a given depth of nesting. -/
def ofTextWithin : Nat → Text → Expr
  | 0, _ => .malformed
  | depth + 1, t =>
    match pipeline (Text.strip t) with
    | [] => .absent
    | operand :: filters =>
      filters.foldl (applyWritten (ofTextWithin depth)) (readOperand (ofTextWithin depth) operand)

/-- The expression that a text writes. Expressions inside it are shorter than the text, so that its
length bounds their nesting. -/
def ofText (t : Text) : Expr := ofTextWithin (t.length + 1) t

end Expr

/-- What a condition tests. -/
inductive Test where
  /-- Nothing is written; such a test fails. -/
  | absent
  | truth (e : Expr)
  | comparison (left : Expr) (c : Value.Comparison) (right : Expr)

/-- The test that a text writes. -/
def Test.ofText (t : Text) : Test :=
  let t := Text.strip t
  if t.isEmpty then .absent
  else match Expr.comparisonParts? t with
    | some (left, c, right) => .comparison (.ofText left) c (.ofText right)
    | none => .truth (.ofText t)

end Stencil
