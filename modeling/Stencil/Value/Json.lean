import Stencil.Value.Display

/-!
# Values as JSON

Mappings become objects, lists and tuples arrays. Keys that are numbers, truth values or undefined
are written as text. A style decides the spacing, the characters that are escaped, and what happens
to values that JSON does not know: the strict style refuses them and writes numbers that are not
finite as null; the lenient style writes their texts.
-/

set_option autoImplicit false

namespace Stencil

/-- Why a value has no JSON text. -/
inductive JsonProblem where
  /-- A value of a type that JSON does not know. -/
  | foreign (type : Text)
  /-- A key of a type that cannot be written as text. -/
  | foreignKey (type : Text)
  /-- A key that is a number but not finite. -/
  | notFinite
  /-- An integer with too many digits. -/
  | tooManyDigits
  /-- Collections nested deeper than there is room for, or without end. -/
  | tooDeep
  /-- A list that contains itself, in the lenient style. -/
  | circular
  deriving DecidableEq, Repr

/-- How JSON is written. -/
structure JsonStyle where
  comma : Text
  colon : Text
  /-- Whether all characters beyond ASCII are escaped. -/
  asciiOnly : Bool
  /-- Whether values that JSON does not know are written as text. -/
  lenient : Bool

namespace JsonStyle

/-- No spaces, no needless escapes, nothing but JSON. -/
def compact : JsonStyle := ⟨[','], [':'], false, false⟩

/-- A space after each mark, ASCII only, any value. -/
def spaced : JsonStyle := ⟨[',', ' '], [':', ' '], true, true⟩

end JsonStyle

namespace Json

/-- One unit of an escape by number. -/
def unicodeEscape (n : Nat) : Text := '\\' :: 'u' :: Text.padded 16 4 n

/-- A character by number: one unit, or two for characters beyond the first 65536. -/
def numericEscape (c : Char) : Text :=
  let n := c.toNat
  if n < 0x10000 then unicodeEscape n
  else
    let m := n - 0x10000
    unicodeEscape (0xD800 + m / 0x400) ++ unicodeEscape (0xDC00 + m % 0x400)

/-- A character inside a JSON string. -/
def stringChar (asciiOnly : Bool) (c : Char) : Text :=
  if c = '"' then ['\\', '"']
  else if c = '\\' then ['\\', '\\']
  else if c = '\n' then ['\\', 'n']
  else if c = '\r' then ['\\', 'r']
  else if c = '\t' then ['\\', 't']
  else if c = '\x08' then ['\\', 'b']
  else if c = '\x0c' then ['\\', 'f']
  else if c.toNat < 32 then numericEscape c
  else if asciiOnly && 127 ≤ c.toNat then numericEscape c
  else [c]

/-- A text as a JSON string. -/
def string (asciiOnly : Bool) (t : Text) : Text :=
  ['"'] ++ t.flatMap (stringChar asciiOnly) ++ ['"']

/-- A number that is not finite, where it may be written. -/
def notFiniteText : Binary64 → Text
  | .infinite true => "-Infinity".toList
  | .infinite false => "Infinity".toList
  | _ => "NaN".toList

/-- The text of an integer. -/
def integer (n : Int) : Except JsonProblem Text :=
  match Number.integerText? n with
  | some t => .ok t
  | none => .error .tooManyDigits

/-- The text of a key, without quotes. -/
def key (s : JsonStyle) : Value → Except JsonProblem Text
  | .text t | .safe t => .ok t
  | .undefined => .ok "null".toList
  | .bool b => .ok (if b then "true" else "false").toList
  | .int n => integer n
  | .float x =>
    if x.isFinite then .ok x.toText
    else if s.lenient then .ok (notFiniteText x)
    else .error .notFinite
  | v => .error (.foreignKey v.typeName)

/-- The text of a value that JSON does not know. -/
def foreign (s : JsonStyle) (v : Value) : Except JsonProblem Text :=
  if s.lenient then
    match v.plain? with
    | some t => .ok (string s.asciiOnly t)
    | none => .error .tooManyDigits
  else .error (.foreign v.typeName)

mutual

/-- The JSON text of a value. -/
def ofValue (s : JsonStyle) : Value → Except JsonProblem Text
  | .undefined => .ok "null".toList
  | .bool b => .ok (if b then "true" else "false").toList
  | .int n => integer n
  | .float x =>
    if x.isFinite then .ok x.toText
    else if s.lenient then .ok (notFiniteText x)
    else .ok "null".toList
  | .text t => .ok (string s.asciiOnly t)
  | .safe t => .ok (string s.asciiOnly t)
  | .list items | .shared _ .list items => do
    .ok (['['] ++ Text.join s.comma (← ofItems s items) ++ [']'])
  | .tuple items => do .ok (['['] ++ Text.join s.comma (← ofItems s items) ++ [']'])
  | .dict entries => do .ok (['{'] ++ Text.join s.comma (← ofEntries s entries) ++ ['}'])
  | .itself => .error (if s.lenient then .circular else .tooDeep)
  | v => foreign s v

/-- The JSON texts of the elements of an array. -/
def ofItems (s : JsonStyle) : List Value → Except JsonProblem (List Text)
  | [] => .ok []
  | v :: rest => do
    let first ← ofValue s v
    let others ← ofItems s rest
    .ok (first :: others)

/-- The JSON texts of the members of an object. -/
def ofEntries (s : JsonStyle) : List (Value × Value) → Except JsonProblem (List Text)
  | [] => .ok []
  | (k, v) :: rest => do
    let name ← key s k
    let value ← ofValue s v
    let others ← ofEntries s rest
    .ok ((string s.asciiOnly name ++ s.colon ++ value) :: others)

end

mutual

/-- Whether lists, tuples and values of mappings nest to at most a given depth. A list that contains
itself nests without end. -/
def fits (room : Nat) : Value → Bool
  | .list items | .shared _ .list items => 0 < room && allFit (room - 1) items
  | .tuple items => 0 < room && allFit (room - 1) items
  | .dict entries => 0 < room && entriesFit (room - 1) entries
  | .itself => false
  | _ => true

/-- Whether the elements of a list nest to at most a given depth. -/
def allFit (room : Nat) : List Value → Bool
  | [] => true
  | v :: rest => fits room v && allFit room rest

/-- Whether the values of entries nest to at most a given depth. -/
def entriesFit (room : Nat) : List (Value × Value) → Bool
  | [] => true
  | (_, v) :: rest => fits room v && entriesFit room rest

end

/-- The compact JSON text of a value, for which there is room to some depth; values that are nested
deeper are found before anything else. -/
def compact (room : Nat) (v : Value) : Except JsonProblem Text :=
  if fits room v then ofValue .compact v else .error .tooDeep

end Json

namespace JsonProblem

/-- What a report says about the problem. -/
def message : JsonProblem → Text
  | .foreign type => "Object of type ".toList ++ type ++ " is not JSON serializable".toList
  | .foreignKey type => "keys must be str, int, float, bool or None, not ".toList ++ type
  | .notFinite => "Out of range float values are not JSON compliant".toList
  | .tooManyDigits =>
    ("Exceeds the limit (4300 digits) for integer string conversion; " ++
      "use sys.set_int_max_str_digits() to increase the limit").toList
  | .tooDeep => "maximum recursion depth exceeded".toList
  | .circular => "Circular reference detected".toList

end JsonProblem
end Stencil
