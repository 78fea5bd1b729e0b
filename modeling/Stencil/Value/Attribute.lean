import Stencil.Markup.Entity
import Stencil.Failure

/-!
# Attributes

The attributes of values. An object has the attributes it was given, some of which fail when they
are read. Built-in values have parts and methods of their own.
-/

set_option autoImplicit false

namespace Stencil.Value

/-- The methods of texts. -/
def textMethods : List String := [
  "capitalize", "casefold", "center", "count", "encode", "endswith", "expandtabs", "find", "format",
  "format_map", "index", "isalnum", "isalpha", "isascii", "isdecimal", "isdigit", "isidentifier",
  "islower", "isnumeric", "isprintable", "isspace", "istitle", "isupper", "join", "ljust", "lower",
  "lstrip", "maketrans", "partition", "removeprefix", "removesuffix", "replace", "rfind", "rindex",
  "rjust", "rpartition", "rsplit", "rstrip", "split", "splitlines", "startswith", "strip",
  "swapcase", "title", "translate", "upper", "zfill"]

/-- The methods of octets. -/
def octetMethods : List String := [
  "capitalize", "center", "count", "decode", "endswith", "expandtabs", "find", "fromhex", "hex",
  "index", "isalnum", "isalpha", "isascii", "isdigit", "islower", "isspace", "istitle", "isupper",
  "join", "ljust", "lower", "lstrip", "maketrans", "partition", "removeprefix", "removesuffix",
  "replace", "rfind", "rindex", "rjust", "rpartition", "rsplit", "rstrip", "split", "splitlines",
  "startswith", "strip", "swapcase", "title", "translate", "upper", "zfill"]

/-- The methods of integers and truth values. -/
def integerMethods : List String :=
  ["as_integer_ratio", "bit_count", "bit_length", "conjugate", "from_bytes", "to_bytes"]

/-- The methods of floating-point numbers. -/
def floatMethods : List String :=
  ["as_integer_ratio", "conjugate", "fromhex", "hex", "is_integer"]

/-- The methods of lists. -/
def listMethods : List String :=
  ["append", "clear", "copy", "count", "extend", "index", "insert", "pop", "remove", "reverse",
    "sort"]

/-- The methods of sets. -/
def setMethods : List String :=
  ["add", "clear", "copy", "difference", "difference_update", "discard", "intersection",
    "intersection_update", "isdisjoint", "issubset", "issuperset", "pop", "remove",
    "symmetric_difference", "symmetric_difference_update", "union", "update"]

/-- The methods of tuples and ranges. -/
def sequenceMethods : List String := ["count", "index"]

/-- The methods of a built-in value. -/
def methods : Value → List String
  | .text _ | .safe _ => textMethods
  | .bytes _ => octetMethods
  | .int _ | .bool _ => integerMethods
  | .float _ => floatMethods
  | .list _ | .shared _ .list _ | .itself => listMethods
  | .set _ | .shared _ .set _ => setMethods
  | .tuple _ | .range _ _ _ => sequenceMethods
  | _ => []

/-- The parts of a built-in value that are no methods, by name. -/
def fields : Value → List (Text × Value)
  | .int n => integerFields n
  | .bool b => integerFields (if b then 1 else 0)
  | .float x => [("real".toList, .float x), ("imag".toList, .float (.ofInt 0))]
  | .range start stop step =>
    [("start".toList, .int start), ("stop".toList, .int stop), ("step".toList, .int step)]
  | _ => []
where
  /-- The parts of an integer. -/
  integerFields (n : Int) : List (Text × Value) :=
    [("real".toList, .int n), ("imag".toList, .int 0), ("numerator".toList, .int n),
      ("denominator".toList, .int 1)]

/-- The attributes of built-in values. -/
def builtinAttribute? (v : Value) (name : Text) : Option Value :=
  match v.fields.lookup name with
  | some w => some w
  | none => if v.methods.any fun m => m.toList == name then some (.method v name) else none

/-- An attribute's value as it is when read from an object: a routine that refers to the object's
own attributes is bound to what it refers to. -/
def bound (attributes : List (Text × Value)) (faults : List (Text × Raised)) : Value → Value
  | .routine i arity (.ownAttribute lead name) =>
    match faults.lookup name with
    | some r => .routine i arity (.failure r)
    | none => match attributes.lookup name with
      | some v => .routine i arity (.labelled lead v)
      | none => .routine i arity (.failure (.ofKind "AttributeError".toList
          (Failure.message (.lacking "Obj".toList name))))
  | v => v

/-- Reads an attribute: its value, or why there is none. -/
def readAttribute (v : Value) (name : Text) : Except Failure Value :=
  match v with
  | .object _ attributes faults _ =>
    match faults.lookup name with
    | some r => .error (.raised r)
    | none => match attributes.lookup name with
      | some a => .ok (bound attributes faults a)
      | none => .error (.lacking v.typeName name)
  | v => match builtinAttribute? v name with
    | some a => .ok a
    | none => .error (.lacking v.typeName name)

/-- Whether a failure says that an attribute does not exist. -/
def saysLacking : Failure → Bool
  | .lacking _ _ => true
  | .raised r => r.kind == "AttributeError".toList
  | _ => false

/-- A text before a value. The text is escaped if the value is safe text. -/
def labelledValue (lead : Text) : Value → Except Failure Value
  | .text t => .ok (.text (lead ++ t))
  | .safe t => .ok (.safe (Markup.escape lead ++ t))
  | v => .error (.unfit ("can only concatenate str (not \"".toList ++ v.typeName ++
      "\") to str".toList))

end Stencil.Value
