import Stencil.Text.Word
import Stencil.Text.Quoted
import Stencil.Number.Limit
import Stencil.Number.Places

/-!
# Field layouts

A field of a message may say how its value is laid out: fill character, alignment, sign, width,
digit grouping, precision and a type code. This module reads such a layout and applies it to texts
and numbers.
-/

set_option autoImplicit false

namespace Stencil

/-- Why a layout cannot be read or applied. -/
inductive SpecError where
  | tooManyDigits
  | missingPrecision
  | bothGroupings
  | groupingWithType (mark : Char) (type : Char)
  | invalid (spec type : Text)
  | unknownCode (code : Char) (type : Text)
  | spaceForText
  | signForText
  | negativeZero (kind : Text)
  | alternateForText
  | padAfterSignForText
  | precisionForInteger
  | signForCharacter
  | alternateForCharacter
  /-- A number that is no code point. -/
  | notACharacter
  /-- An integer beyond the floating-point numbers. -/
  | tooLargeForFloat
  deriving DecidableEq, Repr

/-- A layout as it is written. -/
structure Spec where
  fill : Char
  align : Char
  sign : Option Char
  noNegativeZero : Bool
  alternate : Bool
  width : Nat
  grouping : Option Char
  precision : Option Nat
  type : Char
  deriving Repr

namespace Spec

/-- The greatest number that a layout may hold. -/
def numberLimit : Nat := Nat.pow 2 63 - 1

/-- Whether a character is one of the four alignments. -/
def isAlignment (c : Char) : Bool := c == '<' || c == '>' || c == '=' || c == '^'

/-- Reads a number, which may be absent, and gives what follows it. -/
def number? (t : Text) : Except SpecError (Option Nat × Text) :=
  let digits := t.takeWhile Text.isDecimal
  let n := Text.digitsValue digits
  if n > numberLimit then .error .tooManyDigits
  else .ok (if digits.isEmpty then none else some n, t.dropWhile Text.isDecimal)

/-- Reads the fill character and the alignment. -/
def fillAndAlign : Text → Option Char × Option Char × Text
  | a :: b :: rest =>
    if isAlignment b then (some a, some b, rest)
    else if isAlignment a then (none, some a, b :: rest)
    else (none, none, a :: b :: rest)
  | [a] => if isAlignment a then (none, some a, []) else (none, none, [a])
  | [] => (none, none, [])

/-- Reads one character if it is the expected one. -/
def flag (c : Char) : Text → Bool × Text
  | a :: rest => if a = c then (true, rest) else (false, a :: rest)
  | [] => (false, [])

/-- Reads the sign option. -/
def signOption : Text → Option Char × Text
  | a :: rest => if a = ' ' ∨ a = '+' ∨ a = '-' then (some a, rest) else (none, a :: rest)
  | [] => (none, [])

/-- Reads the grouping marks. -/
def groupingOption (t : Text) : Except SpecError (Option Char × Text) :=
  let (comma, t) := flag ',' t
  let (underscore, t) := flag '_' t
  if comma && underscore then .error .bothGroupings
  else if underscore && t.head? == some ',' then .error .bothGroupings
  else .ok (if comma then some ',' else if underscore then some '_' else none, t)

/-- Reads the precision. -/
def precisionOption (t : Text) : Except SpecError (Option Nat × Text) := do
  let (dot, t) := flag '.' t
  if dot then
    let (n, t) ← number? t
    match n with
    | none => .error .missingPrecision
    | some n => .ok (some n, t)
  else .ok (none, t)

/-- Whether a grouping mark goes with a type code. -/
def groups (mark type : Char) : Bool :=
  "defgEG%F\x00".toList.contains type || (mark == '_' && "boxX".toList.contains type)

/-- Reads a layout for a type of value with a default type code and a default alignment. -/
def parse (typeName : Text) (type align : Char) (spec : Text) : Except SpecError Spec := do
  let (fill, alignment, t) := fillAndAlign spec
  let (sign, t) := signOption t
  let (noNegativeZero, t) := flag 'z' t
  let (alternate, t) := flag '#' t
  let zero := fill.isNone && t.head? == some '0'
  let t := if zero then t.drop 1 else t
  let (width, t) ← number? t
  let (grouping, t) ← groupingOption t
  let (precision, t) ← precisionOption t
  match t with
  | _ :: _ :: _ => .error (.invalid spec typeName)
  | rest =>
    let type := rest.head?.getD type
    let fill := if zero then '0' else fill.getD ' '
    let align := alignment.getD (if zero && align == '>' then '=' else align)
    match grouping with
    | some mark =>
      if groups mark type then
        .ok ⟨fill, align, sign, noNegativeZero, alternate, width.getD 0, grouping, precision, type⟩
      else .error (.groupingWithType mark type)
    | none =>
      .ok ⟨fill, align, sign, noNegativeZero, alternate, width.getD 0, none, precision, type⟩

/-- Fills a text up to the width; the extra character of uneven centring goes to the right. -/
def pad (s : Spec) (t : Text) : Text :=
  let n := s.width - t.length
  let left := if s.align = '>' then n else if s.align = '^' then n / 2 else 0
  List.replicate left s.fill ++ t ++ List.replicate (n - left) s.fill

/-- Lays out a text. -/
def layText (typeName spec t : Text) : Except SpecError Text := do
  let s ← parse typeName 's' '<' spec
  if s.type ≠ 's' then .error (.unknownCode s.type typeName)
  else if s.sign = some ' ' then .error .spaceForText
  else if s.sign.isSome then .error .signForText
  else if s.noNegativeZero then .error (.negativeZero "string".toList)
  else if s.alternate then .error .alternateForText
  else if s.align = '=' then .error .padAfterSignForText
  else .ok (s.pad (match s.precision with | some n => t.take n | none => t))

/-- Writes a mark between groups of digits, counted from the right. The digits come last one
first. -/
def groupFrom (mark : Char) (size : Nat) : Nat → Text → Text
  | _, [] => []
  | 0, c :: rest => mark :: c :: groupFrom mark size (size - 1) rest
  | n + 1, c :: rest => c :: groupFrom mark size n rest

/-- Digits in groups. -/
def grouped (mark : Char) (size : Nat) (digits : Text) : Text :=
  (groupFrom mark size size digits.reverse).reverse

/-- The number of characters that digits in groups take. -/
def groupedLength (size n : Nat) : Nat := n + (n - 1) / size

/-- The least number of digits, from a given one on, that in groups fill a width. -/
def digitsToFill (size width : Nat) : Nat → Nat → Nat
  | 0, n => n
  | tries + 1, n =>
    if width ≤ groupedLength size n then n else digitsToFill size width tries (n + 1)

/-- The base of a type code for integers, and the mark that the alternate form writes before the
digits. -/
def base? (type : Char) : Option (Nat × Text) :=
  if type = 'd' ∨ type = 'n' then some (10, [])
  else if type = 'b' then some (2, ['0', 'b'])
  else if type = 'o' then some (8, ['0', 'o'])
  else if type = 'x' then some (16, ['0', 'x'])
  else if type = 'X' then some (16, ['0', 'X'])
  else none

/-- The sign that a layout writes. -/
def signText (s : Spec) (negative : Bool) : Text :=
  if negative then ['-'] else match s.sign with
    | some '+' => ['+']
    | some ' ' => [' ']
    | _ => []

/-- Lays out a number: what precedes its digits, its digits, which may be grouped by a size, and
what follows them. -/
def layNumber (s : Spec) (lead digits rest : Text) (size : Nat) : Text :=
  let zeros := s.align = '=' ∧ s.fill = '0'
  let room := s.width - lead.length - rest.length
  let body := match s.grouping with
    | none => if zeros then List.replicate (room - digits.length) '0' ++ digits else digits
    | some mark =>
      let count := if zeros then digitsToFill size room room digits.length else digits.length
      grouped mark size (List.replicate (count - digits.length) '0' ++ digits)
  let body := body ++ rest
  if s.align = '=' then
    lead ++ List.replicate (s.width - lead.length - body.length) s.fill ++ body
  else s.pad (lead ++ body)

/-- Lays out an integer's digits. -/
def layDigits (s : Spec) (base : Nat) (mark : Text) (n : Int) : Text :=
  let digits := Nat.toDigits base n.natAbs
  let digits := if s.type = 'X' then digits.map Char.toUpper else digits
  s.layNumber (s.signText (n < 0) ++ (if s.alternate then mark else [])) digits []
    (if base = 10 then 3 else 4)

/-- The number of decimals that are written if a layout does not say. -/
def defaultPrecision : Nat := 6

/-- The digits of a finite number before the point, and what follows them, by the type code. NUL
stands for no code. -/
def floatParts (s : Spec) (m : Nat) (e : Int) : Text × Text :=
  let precision := s.precision.getD defaultPrecision
  let type := s.type.toLower
  if type = 'f' then Binary64.fixedParts m e precision s.alternate
  else if type = 'e' then Binary64.scientificParts m e precision s.alternate
  else if type = '\x00' ∧ s.precision.isNone then
    let t := (Binary64.finite false m e).toText
    (t.takeWhile Text.isAsciiDigit, t.dropWhile Text.isAsciiDigit)
  else Binary64.generalParts m e (max precision 1) s.alternate (type == '\x00')

/-- Lays out a floating-point number by a layout that was read. -/
def layFloatBy (s : Spec) (x : Binary64) : Text :=
  let percent := s.type = '%'
  let s := if percent then { s with type := 'f' } else s
  let x := if percent then x.mul (.ofInt 100) else x
  let tail := if percent then ['%'] else []
  let upper (t : Text) : Text := if s.type.isUpper then t.map Char.toUpper else t
  -- Without digits there is nothing to group.
  let plain := { s with grouping := none }
  match x with
  | .nan => plain.layNumber (s.signText false) [] (upper "nan".toList ++ tail) 3
  | .infinite negative => plain.layNumber (s.signText negative) [] (upper "inf".toList ++ tail) 3
  | .finite negative m e =>
    let (digits, rest) := s.floatParts m e
    let vanishes := (digits ++ rest.takeWhile fun c => c != 'e').all fun c => c == '0' || c == '.'
    let negative := negative && !(s.noNegativeZero && vanishes)
    s.layNumber (s.signText negative) digits (upper rest ++ tail) 3

/-- Lays out a floating-point number. -/
def layFloat (typeName spec : Text) (x : Binary64) : Except SpecError Text := do
  let s ← parse typeName '\x00' '>' spec
  if s.type = 'n' ∧ s.grouping.isSome then .error (.groupingWithType ',' 'n')
  else if "eEfFgGn%\x00".toList.contains s.type then .ok (s.layFloatBy x)
  else .error (.unknownCode s.type typeName)

/-- Lays out an integer, which must have a text. -/
def layInteger (typeName spec : Text) (n : Int) : Except SpecError Text := do
  let s ← parse typeName 'd' '>' spec
  match base? s.type with
  | some (base, mark) =>
    if s.precision.isSome then .error .precisionForInteger
    else if s.noNegativeZero then .error (.negativeZero "integer".toList)
    else if s.type = 'n' ∧ s.grouping.isSome then .error (.groupingWithType ',' 'n')
    else .ok (s.layDigits base mark n)
  | none =>
    if "eEfFgG%".toList.contains s.type then
      let x := Binary64.ofInt n
      if x.isFinite then .ok (s.layFloatBy x) else .error .tooLargeForFloat
    else if s.type = 'c' then
      if s.precision.isSome then .error .precisionForInteger
      else if s.noNegativeZero then .error (.negativeZero "integer".toList)
      else if s.sign.isSome then .error .signForCharacter
      else if s.alternate then .error .alternateForCharacter
      else if n < 0 ∨ 0x110000 ≤ n then .error .notACharacter
      else .ok ({ s with align := if s.align = '=' then '>' else s.align }.pad
        [Char.ofNat n.toNat])
    else .error (.unknownCode s.type typeName)

end Spec

namespace SpecError

/-- A type code as reports show it. -/
def shownCode (c : Char) : Text :=
  if 32 < c.toNat ∧ c.toNat < 128 then [c]
  else ['\\', 'x'] ++ Nat.toDigits 16 c.toNat

/-- What a report says about the error. -/
def message : SpecError → Text
  | .tooManyDigits => "Too many decimal digits in format string".toList
  | .missingPrecision => "Format specifier missing precision".toList
  | .bothGroupings => "Cannot specify both ',' and '_'.".toList
  | .groupingWithType mark type =>
    "Cannot specify '".toList ++ [mark] ++ "' with '".toList ++ shownCode type ++ "'.".toList
  | .invalid spec type =>
    "Invalid format specifier '".toList ++ spec ++ "' for object of type '".toList ++ type ++ ['\'']
  | .unknownCode code type =>
    "Unknown format code '".toList ++ shownCode code ++ "' for object of type '".toList ++ type ++
      ['\'']
  | .spaceForText => "Space not allowed in string format specifier".toList
  | .signForText => "Sign not allowed in string format specifier".toList
  | .negativeZero kind =>
    "Negative zero coercion (z) not allowed in ".toList ++ kind ++ " format specifier".toList
  | .alternateForText => "Alternate form (#) not allowed in string format specifier".toList
  | .padAfterSignForText => "'=' alignment not allowed in string format specifier".toList
  | .precisionForInteger => "Precision not allowed in integer format specifier".toList
  | .signForCharacter => "Sign not allowed with integer format specifier 'c'".toList
  | .alternateForCharacter =>
    "Alternate form (#) not allowed with integer format specifier 'c'".toList
  | .notACharacter => "%c arg not in range(0x110000)".toList
  | .tooLargeForFloat => "int too large to convert to float".toList

end SpecError
end Stencil
