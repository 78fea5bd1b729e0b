import Stencil.Value.Json

/-!
# Reading JSON

A reader of RFC 8259 texts. It takes exactly the texts of that grammar whose strings can be kept as
characters: a string must not hold one half of a surrogate pair without the other. Objects keep
their members in the order of the text.
-/

set_option autoImplicit false

namespace Stencil.Json

/-- What a text begins with, and the rest of the text. -/
abbrev Reader (α : Type) := Text → Option (α × Text)

/-- White space between the marks. -/
def isSpace (c : Char) : Bool := c = ' ' || c = '\t' || c = '\n' || c = '\r'

def skipSpaces (t : Text) : Text := t.dropWhile isSpace

/-! ## Strings -/

def hexValue? (c : Char) : Option Nat :=
  if c.isDigit then some (c.toNat - '0'.toNat)
  else if 'a' ≤ c ∧ c ≤ 'f' then some (c.toNat - 'a'.toNat + 10)
  else if 'A' ≤ c ∧ c ≤ 'F' then some (c.toNat - 'A'.toNat + 10)
  else none

/-- The given number of hexadecimal digits, after those that were read before. -/
def readHex : Nat → Nat → Reader Nat
  | 0, n, t => some (n, t)
  | _ + 1, _, [] => none
  | count + 1, n, c :: t => do readHex count (16 * n + (← hexValue? c)) t

/-- The second unit of a character of two. -/
def readSecondUnit (first : Nat) : Reader Char
  | '\\' :: 'u' :: t => do
    let (second, t) ← readHex 4 0 t
    if 0xDC00 ≤ second ∧ second < 0xE000 then
      some (Char.ofNat (0x10000 + (first - 0xD800) * 0x400 + (second - 0xDC00)), t)
    else none
  | _ => none

/-- A character that is written with one letter after a backslash. -/
def shortEscape? : Char → Option Char
  | '"' => some '"'
  | '\\' => some '\\'
  | '/' => some '/'
  | 'b' => some '\x08'
  | 'f' => some '\x0c'
  | 'n' => some '\n'
  | 'r' => some '\r'
  | 't' => some '\t'
  | _ => none

/-- What follows a backslash. -/
def readEscape : Reader Char
  | 'u' :: t => do
    let (unit, t) ← readHex 4 0 t
    if unit < 0xD800 ∨ 0xE000 ≤ unit then some (Char.ofNat unit, t)
    else if unit < 0xDC00 then readSecondUnit unit t
    else none
  | c :: t => do some (← shortEscape? c, t)
  | [] => none

/-- The characters of a string up to its closing quote, at most the given number. -/
def readChars : Nat → Reader Text
  | 0, _ => none
  | _ + 1, [] => none
  | _ + 1, '"' :: t => some ([], t)
  | limit + 1, '\\' :: t => do
    let (c, t) ← readEscape t
    let (cs, t) ← readChars limit t
    some (c :: cs, t)
  | limit + 1, c :: t =>
    if c.toNat < 32 then none
    else do
      let (cs, t) ← readChars limit t
      some (c :: cs, t)

theorem readChars_plain {c : Char} (hquote : c ≠ '"') (hbackslash : c ≠ '\\')
    (hc : ¬ c.toNat < 32) (limit : Nat) (rest : Text) :
    readChars (limit + 1) (c :: rest) =
      (readChars limit rest).map fun p => (c :: p.1, p.2) := by
  rw [readChars]
  · rw [if_neg hc]
    cases readChars limit rest <;> rfl
  · exact hquote
  · exact hbackslash

/-! ## Numbers -/

/-- Digits, at least one. -/
def readDigits : Reader Text := fun t =>
  match t.takeWhile Char.isDigit with
  | [] => none
  | digits => some (digits, t.dropWhile Char.isDigit)

/-- The digits before the point: no zero stands before others. -/
def readWhole : Reader Text
  | '0' :: t => some (['0'], t)
  | t => readDigits t

/-- The digits after the point, if there is a point. -/
def readFraction : Reader Text
  | '.' :: t => readDigits t
  | t => some ([], t)

/-- Whether an exponent is negative, and what follows its sign. -/
def readSign : Text → Bool × Text
  | '-' :: t => (true, t)
  | '+' :: t => (false, t)
  | t => (false, t)

/-- The exponent, if there is one. -/
def readExponent : Reader (Option Int)
  | [] => some (none, [])
  | c :: t =>
    if c = 'e' ∨ c = 'E' then do
      let (digits, rest) ← readDigits (readSign t).2
      some (some (Number.signed (readSign t).1 (Nat.ofDigitChars 10 digits 0)), rest)
    else some (none, c :: t)

/-- A number after its sign. Without a point and an exponent it is an integer. -/
def readNumber (negative : Bool) : Reader Value := fun t => do
  let (whole, t) ← readWhole t
  let (fraction, t) ← readFraction t
  let (exponent?, t) ← readExponent t
  let n := Nat.ofDigitChars 10 (whole ++ fraction) 0
  if fraction.isEmpty && exponent?.isNone then some (.int (Number.signed negative n), t)
  else some (.float (Binary64.ofDecimal negative n (exponent?.getD 0 - fraction.length)), t)

/-! ## Values -/

/-- Items with commas between them, up to a closing mark: at least one and at most the given
number. -/
def readItems {α : Type} (closing : Char) (item : Reader α) : Nat → Reader (List α)
  | 0, _ => none
  | limit + 1, t => do
    let (x, t) ← item t
    match skipSpaces t with
    | [] => none
    | c :: t =>
      if c = ',' then do
        let (xs, t) ← readItems closing item limit t
        some (x :: xs, t)
      else if c = closing then some ([x], t)
      else none

/-- Items after an opening mark. -/
def readGroup {α : Type} (closing : Char) (item : Reader α) (limit : Nat) : Reader (List α) :=
  fun t =>
    match skipSpaces t with
    | [] => none
    | c :: rest => if c = closing then some ([], rest) else readItems closing item limit t

/-- A member of an object: a string, a colon and a value. -/
def readMember (limit : Nat) (value : Reader Value) : Reader (Value × Value) := fun t =>
  match skipSpaces t with
  | '"' :: t => do
    let (name, t) ← readChars limit t
    match skipSpaces t with
    | ':' :: t => do
      let (v, t) ← value t
      some ((.text name, v), t)
    | _ => none
  | _ => none

/-- A word that stands for a value. -/
def readWord (word : Text) (v : Value) : Reader Value := fun t =>
  (Text.dropLead word t).map fun rest => (v, rest)

/-- A value without white space before it; the values in it are read with the given reader. -/
def readUnspaced (limit : Nat) (value : Reader Value) : Reader Value
  | '[' :: t => do
    let (items, t) ← readGroup ']' value limit t
    some (.list items, t)
  | '{' :: t => do
    let (members, t) ← readGroup '}' (readMember limit value) limit t
    some (.dict members, t)
  | '"' :: t => do
    let (cs, t) ← readChars limit t
    some (.text cs, t)
  | 'n' :: t => readWord "ull".toList .undefined t
  | 't' :: t => readWord "rue".toList (.bool true) t
  | 'f' :: t => readWord "alse".toList (.bool false) t
  | '-' :: t => readNumber true t
  | t => readNumber false t

/-- A value, as far as the limit allows. -/
def readValue : Nat → Reader Value
  | 0, _ => none
  | limit + 1, t => readUnspaced limit (readValue limit) (skipSpaces t)

/-- The value that a JSON text stands for. Each step takes a character of the text, so its length is
limit enough. -/
def decode? (t : Text) : Option Value :=
  match readValue (t.length + 1) t with
  | some (v, rest) => if (skipSpaces rest).isEmpty then some v else none
  | none => none

end Stencil.Json
