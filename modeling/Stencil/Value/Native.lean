import Stencil.Value.Attribute
import Stencil.Text.Octets
import Stencil.Files.Encoding

/-!
# Methods that change nothing

What the methods of texts, octets and numbers give when they are called without arguments. Those that
insist on arguments fail.
-/

set_option autoImplicit false

namespace Stencil.Value

/-! ## Missing arguments -/

/-- The methods that say how many arguments they expect at least, with that number. -/
def leastArguments : List (String × Nat) :=
  [("center", 1), ("ljust", 1), ("rjust", 1), ("maketrans", 1), ("replace", 2)]

/-- The methods that search, which take at least one argument. -/
def searchMethods : List String :=
  ["count", "endswith", "find", "index", "rfind", "rindex", "startswith"]

/-- How a failure names a number of arguments. -/
def argumentsText (n : Nat) : Text :=
  Text.ofNat n ++ (if n = 1 then " argument" else " arguments").toList

/-- What is said when a method of a type is called without the arguments that it needs. -/
def missingArguments (v : Value) (name : Text) : Text :=
  let expected (n : Nat) : Text :=
    name ++ " expected at least ".toList ++ argumentsText n ++ ", got 0".toList
  match leastArguments.find? fun m => m.1.toList == name with
  | some (_, n) => expected n
  | none =>
    if v.isSequence && name = "index".toList && v.typeName != "range".toList then expected 1
    else if name = "insert".toList then "insert expected 2 arguments, got 0".toList
    else if (v.text?.isSome || v.typeName = "bytes".toList) &&
        searchMethods.any fun m => m.toList == name then
      name ++ "() takes at least 1 argument (0 given)".toList
    else
      (if v.text?.isSome then "str".toList else v.typeName) ++ ['.'] ++ name ++
        "() takes exactly one argument (0 given)".toList

/-- Fails because a method was called without the arguments that it needs. -/
def needsArguments {α : Type} (v : Value) (name : Text) : Except Failure α :=
  .error (.unfit (v.missingArguments name))

/-- Looks a method up by its name. -/
def methodIn {α : Type} (table : List (String × α)) (name : Text) : Option α :=
  (table.find? fun m => m.1.toList == name).map (·.2)

/-! ## Texts -/

/-- The methods that make a text of a text. -/
def textChanges : List (String × (Text → Text)) := [
  ("capitalize", Text.capitalize), ("casefold", Text.fold), ("expandtabs", Text.expandTabs),
  ("lower", Text.lower), ("lstrip", Text.stripLeft), ("rstrip", Text.stripRight),
  ("strip", Text.strip), ("swapcase", Text.swapCase), ("title", Text.title), ("upper", Text.upper)]

/-- The methods that cut a text into pieces. -/
def textCuts : List (String × (Text → List Text)) :=
  [("split", Text.words), ("rsplit", Text.words), ("splitlines", Text.lines)]

/-- The methods that answer questions about a text. -/
def textQuestions : List (String × (Text → Bool)) := [
  ("isalnum", Text.consistsOf Text.isAlphanumeric), ("isalpha", Text.consistsOf Text.isLetter),
  ("isascii", fun t => t.all fun c => c.toNat < 128), ("isdecimal", Text.consistsOf Text.isDecimal),
  ("isdigit", Text.consistsOf Text.isDigit), ("isidentifier", Text.isIdentifier),
  ("islower", Text.isLowerText), ("isnumeric", Text.consistsOf Text.isNumeric),
  ("isprintable", fun t => t.all Text.isPrintable), ("isspace", Text.consistsOf Text.isBlank),
  ("istitle", Text.isTitleText), ("isupper", Text.isUpperText)]

/-- A pattern filled with no values at all, which fails at its first field or mistake. -/
def fillWithNothing : List Piece → Except Failure Text
  | [] => .ok []
  | .literal c :: rest => do
    let others ← fillWithNothing rest
    .ok (c :: others)
  | .broken e :: _ => .error (.pattern e)
  | .field f :: _ => do
    let first := Pattern.firstName f.name
    let position ← (Pattern.position? first).mapError Failure.pattern
    if first.isEmpty || position.isSome then
      .error (.unfit ("Replacement index ".toList ++ Text.ofNat (position.getD 0) ++
        " out of range for positional args tuple".toList))
    else .error (.missingKey first)

/-- Calls a method of a text; `wrap` makes a text of the same kind. -/
def callTextMethod (wrap : Text → Value) (t name : Text) : Except Failure Value :=
  match methodIn textChanges name, methodIn textCuts name, methodIn textQuestions name with
  | some f, _, _ => .ok (wrap (f t))
  | none, some f, _ => .ok (.list ((f t).map wrap))
  | none, none, some f => .ok (.bool (f t))
  | none, none, none =>
    if name = "encode".toList then .ok (.bytes (Text.octets t))
    else if name = "format".toList then do
      let filled ← fillWithNothing (Pattern.pieces t)
      .ok (wrap filled)
    else needsArguments (wrap t) name

/-! ## Octets -/

/-- The methods that make octets of octets. -/
def octetChanges : List (String × (List Nat → List Nat)) := [
  ("capitalize", Octets.capitalize), ("expandtabs", Octets.expandTabs),
  ("lower", fun os => os.map Octets.lowerOf), ("lstrip", Octets.stripLeft),
  ("rstrip", Octets.stripRight), ("strip", fun os => Octets.stripRight (Octets.stripLeft os)),
  ("swapcase", Octets.swapCase), ("title", Octets.titleFrom false),
  ("upper", fun os => os.map Octets.upperOf)]

/-- The methods that cut octets into pieces. -/
def octetCuts : List (String × (List Nat → List (List Nat))) :=
  [("split", Octets.words), ("rsplit", Octets.words), ("splitlines", Octets.lines)]

/-- The methods that answer questions about octets. -/
def octetQuestions : List (String × (List Nat → Bool)) := [
  ("isalnum", Octets.consistOf fun o => Octets.isLetter o || Octets.isDigit o),
  ("isalpha", Octets.consistOf Octets.isLetter), ("isascii", fun os => os.all fun o => o < 128),
  ("isdigit", Octets.consistOf Octets.isDigit),
  ("islower", fun os => os.any Octets.isLower && os.all fun o => !Octets.isUpper o),
  ("isspace", Octets.consistOf Octets.isBlank),
  ("istitle", fun os => os.any Octets.isLetter && Octets.isTitledFrom false os),
  ("isupper", fun os => os.any Octets.isUpper && os.all fun o => !Octets.isLower o)]

/-- Calls a method of octets. -/
def callOctetMethod (os : List Nat) (name : Text) : Except Failure Value :=
  match methodIn octetChanges name, methodIn octetCuts name, methodIn octetQuestions name with
  | some f, _, _ => .ok (.bytes (f os))
  | none, some f, _ => .ok (.list ((f os).map .bytes))
  | none, none, some f => .ok (.bool (f os))
  | none, none, none =>
    if name = "hex".toList then .ok (.text (Octets.hex os))
    else if name = "decode".toList then
      match Encoding.decode8 os with
      | .ok t => .ok (.text t)
      | .error p => .error (.undecodable p)
    else if name = "maketrans".toList then
      .error (.unfit "maketrans expected 2 arguments, got 0".toList)
    else if name = "translate".toList then
      .error (.unfit "translate() takes at least 1 positional argument (0 given)".toList)
    else needsArguments (.bytes os) name

/-! ## Numbers -/

/-- The number of binary digits of an integer. -/
def bitLength (n : Int) : Nat := if n = 0 then 0 else n.natAbs.log2 + 1

/-- The number of ones among the binary digits of an integer. -/
def bitCount (n : Int) : Nat := (Nat.toDigits 2 n.natAbs).count '1'

/-- Calls a method of an integer. -/
def callIntegerMethod (n : Int) (name : Text) : Except Failure Value :=
  if name = "as_integer_ratio".toList then .ok (.tuple [.int n, .int 1])
  else if name = "bit_count".toList then .ok (.int (bitCount n))
  else if name = "bit_length".toList then .ok (.int (bitLength n))
  else if name = "conjugate".toList then .ok (.int n)
  else if name = "to_bytes".toList then
    if n < 0 then .error (.unfit "can't convert negative int to unsigned".toList)
    else if 256 ≤ n then .error (.unfit "int too big to convert".toList)
    else .ok (.bytes [n.toNat])
  else .error (.unfit (name ++ "() missing required argument 'bytes' (pos 1)".toList))

/-- A number as a ratio of integers without a common factor. -/
def ratio : Binary64 → Except Failure (Int × Int)
  | .nan => .error (.unfit "cannot convert NaN to integer ratio".toList)
  | .infinite _ => .error (.unfit "cannot convert Infinity to integer ratio".toList)
  | .finite negative m e =>
    let num : Nat := m * Nat.pow 2 e.toNat
    let den : Nat := Nat.pow 2 (-e).toNat
    let common := Nat.gcd num den
    .ok ((if negative then -(num / common : Int) else (num / common : Int)), (den / common : Int))

/-- The hexadecimal form of a number: a leading one or zero, thirteen digits, and the exponent. -/
def hexadecimal : Binary64 → Text
  | .nan => "nan".toList
  | .infinite negative => (if negative then "-inf" else "inf").toList
  | .finite negative m e =>
    let sign : Text := if negative then ['-'] else []
    let leading := m / Nat.pow 2 52
    let exponent : Int := e + 52
    let exponentText : Text := (if exponent < 0 then ['-'] else ['+']) ++ Text.ofNat exponent.natAbs
    if m = 0 then sign ++ "0x0.0p+0".toList
    else sign ++ "0x".toList ++ Text.ofNat leading ++ ['.'] ++
      Text.padded 16 13 (m % Nat.pow 2 52) ++ ['p'] ++ exponentText

/-- Calls a method of a floating-point number. -/
def callFloatMethod (x : Binary64) (name : Text) : Except Failure Value :=
  if name = "as_integer_ratio".toList then do
    let (num, den) ← ratio x
    .ok (.tuple [.int num, .int den])
  else if name = "conjugate".toList then .ok (.float x)
  else if name = "hex".toList then .ok (.text (hexadecimal x))
  else if name = "is_integer".toList then .ok (.bool x.isIntegral)
  else needsArguments (.float x) name

/-- Calls a method of a value that does not change. -/
def callNative (owner : Value) (name : Text) : Except Failure Value :=
  match owner with
  | .text t => callTextMethod .text t name
  | .safe t => callTextMethod .safe t name
  | .bytes os => callOctetMethod os name
  | .int n => callIntegerMethod n name
  | .bool b => callIntegerMethod (if b then 1 else 0) name
  | .float x => callFloatMethod x name
  | v => needsArguments v name

end Stencil.Value
