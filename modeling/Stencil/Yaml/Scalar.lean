import Stencil.Yaml.Cursor
import Stencil.Value.Basic
import Stencil.Number.Limit

/-!
# Plain scalars of YAML

What a plain scalar stands for: nothing, a truth value, a number, a date, or its own text. Integers
may be binary, octal, to base sixteen, or in sexagesimal places; underscores may stand between
digits.
-/

set_option autoImplicit false

namespace Stencil.Yaml

/-- The spellings of a word that count: small, with a capital, and in capitals. -/
def spellings (words : List String) (t : Text) : Bool := words.any fun w => w.toList == t

/-- A truth value. -/
def bool? (t : Text) : Option Bool :=
  if spellings ["yes", "Yes", "YES", "true", "True", "TRUE", "on", "On", "ON"] t then some true
  else if spellings ["no", "No", "NO", "false", "False", "FALSE", "off", "Off", "OFF"] t then
    some false
  else none

/-- A scalar that stands for nothing. -/
def isNull (t : Text) : Bool := t.isEmpty || spellings ["~", "null", "Null", "NULL"] t

/-- The sign of a number, and the rest. -/
def signed (t : Text) : Bool × Text :=
  match t with
  | '-' :: rest => (true, rest)
  | '+' :: rest => (false, rest)
  | rest => (false, rest)

/-- A digit to a base of at most sixteen. -/
def digitOf? (base : Nat) (c : Char) : Option Nat :=
  let value? :=
    if '0' ≤ c ∧ c ≤ '9' then some (c.toNat - 48)
    else if 'a' ≤ c ∧ c ≤ 'f' then some (c.toNat - 87)
    else if 'A' ≤ c ∧ c ≤ 'F' then some (c.toNat - 55)
    else none
  value?.bind fun n => if n < base then some n else none

/-- The number that digits and underscores write to a base. -/
def natural? (base : Nat) (t : Text) : Option Nat :=
  let digits := t.filter (· != '_')
  if digits.isEmpty then none
  else digits.foldlM (fun n c => (digitOf? base c).map (base * n + ·)) 0

/-- Digits and underscores that begin with a digit. -/
def isDigits (t : Text) : Bool :=
  match t with
  | [] => false
  | c :: rest => Text.isAsciiDigit c && rest.all fun c => Text.isAsciiDigit c || c == '_'

/-- A sexagesimal place: one digit, or two of which the first is at most five. -/
def isPlace (t : Text) : Bool :=
  match t with
  | [a] => Text.isAsciiDigit a
  | [a, b] => '0' ≤ a && a ≤ '5' && Text.isAsciiDigit b
  | _ => false

/-- The number without sign that a text writes, with the number of its decimal digits. -/
def unsigned? (t : Text) : Option (Nat × Nat) :=
  let count := (t.filter (· != '_')).length
  match t with
  | '0' :: 'b' :: rest => (natural? 2 rest).map fun n => (n, 0)
  | '0' :: 'x' :: rest => (natural? 16 rest).map fun n => (n, 0)
  | ['0'] => some (0, 1)
  | '0' :: rest =>
    if rest.all (· == '_') then some (0, 1) else (natural? 8 rest).map fun n => (n, 0)
  | t =>
    match Text.splitOn ':' t with
    | [whole] => if isDigits whole then (natural? 10 whole).map fun n => (n, count) else none
    | whole :: places =>
      if isDigits whole && places.all isPlace then
        (natural? 10 whole).map fun n =>
          (places.foldl (fun n p => 60 * n + (natural? 10 p).getD 0) n, 0)
      else none
    | [] => none

/-- An exponent part of a decimal, which has a sign; nothing counts as zero. -/
def exponent? (t : Text) : Option Int :=
  match t with
  | [] => some 0
  | e :: sign :: digits =>
    if (e = 'e' ∨ e = 'E') ∧ (sign = '+' ∨ sign = '-') ∧ !digits.isEmpty ∧
        digits.all Text.isAsciiDigit then
      let n : Int := Text.digitsValue digits
      some (if sign = '-' then -n else n)
    else none
  | _ => none

/-- The decimal that a whole part, a fraction and an exponent write. -/
def decimal (negative : Bool) (whole fraction : Text) (exponent : Int) : Binary64 :=
  let plain (t : Text) := t.filter (· != '_')
  .ofDecimal negative (Text.digitsValue (plain whole ++ plain fraction))
    (exponent - (plain fraction).length)

/-- A number with a point, in sexagesimal places before it if there are colons. -/
def float? (t : Text) : Option Binary64 :=
  let (negative, unsignedPart) := signed t
  if spellings [".nan", ".NaN", ".NAN"] t then some .nan
  else if spellings [".inf", ".Inf", ".INF"] unsignedPart then some (.infinite negative)
  else
    let whole := unsignedPart.takeWhile (· != '.')
    match unsignedPart.dropWhile (· != '.') with
    | [] => none
    | _ :: rest =>
      let fraction := rest.takeWhile fun c => Text.isAsciiDigit c || c == '_'
      let exponentPart := rest.dropWhile fun c => Text.isAsciiDigit c || c == '_'
      match Text.splitOn ':' whole with
      | [[]] =>
        if isDigits fraction && t == unsignedPart then
          (exponent? exponentPart).map (decimal negative [] fraction)
        else none
      | [whole] =>
        if isDigits whole then
          (exponent? exponentPart).map (decimal negative whole fraction)
        else none
      | whole :: places =>
        if isDigits whole && places.all isPlace && exponentPart.isEmpty then
          let n := places.foldl (fun n p => 60 * n + (natural? 10 p).getD 0)
            ((natural? 10 whole).getD 0)
          some (decimal negative (Text.ofNat n) fraction 0)
        else none
      | [] => none

/-- A date: year, month and day, with as many digits as they need. -/
def isDate (t : Text) : Bool :=
  match Text.splitOn '-' t with
  | [year, month, day] =>
    [year, month, day].all (·.all Text.isAsciiDigit) && year.length == 4 && month.length == 2 &&
      day.length == 2
  | _ => false

/-- The value of a plain scalar. Dates are objects, which only have their text. -/
def plainValue (t : Text) : Except Problem Value :=
  match bool? t with
  | some b => .ok (.bool b)
  | none => match float? t with
    | some x => .ok (.float x)
    | none =>
      let (negative, unsignedPart) := signed t
      match unsigned? unsignedPart with
      | some (n, count) =>
        if Number.digitLimit < count then .error (.tooManyDigits count)
        else
          let n : Int := n
          .ok (.int (if negative then -n else n))
      | none =>
        if isNull t then .ok .undefined
        else if t = ['='] then malformed "could not determine a constructor for the value tag"
        else if isDate t then .ok (.object 0 [] [] t)
        else .ok (.text t)

end Stencil.Yaml
