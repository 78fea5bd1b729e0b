/-!
# Text

A text is the list of its characters. Scanning, cutting and counting are then list operations,
and every position and length in this library counts characters.
-/

set_option autoImplicit false

namespace Stencil

/-- A piece of text: its characters in order. -/
abbrev Text := List Char

namespace Text

/-- Joins texts, writing a separator between neighbours. -/
def join (separator : Text) : List Text → Text
  | [] => []
  | [t] => t
  | t :: rest => t ++ separator ++ join separator rest

/-- Whether the first text begins the second. -/
def begins (lead text : Text) : Bool := lead.isPrefixOf text

/-- What is left of a text after a leading part, if it begins with that part. -/
def dropLead : Text → Text → Option Text
  | [], rest => some rest
  | _ :: _, [] => none
  | a :: lead, c :: rest => if a = c then dropLead lead rest else none

/-- The order of texts, character by character by code point; a proper beginning comes first. -/
def order : Text → Text → Ordering
  | [], [] => .eq
  | [], _ :: _ => .lt
  | _ :: _, [] => .gt
  | a :: s, b :: t => (compare a.toNat b.toNat).then (order s t)

/-- Splits a text at every occurrence of a character; `n` occurrences give `n + 1` pieces. -/
def splitOn (mark : Char) : Text → List Text
  | [] => [[]]
  | c :: rest =>
    if c = mark then [] :: splitOn mark rest
    else match splitOn mark rest with
      | [] => [[c]]
      | piece :: pieces => (c :: piece) :: pieces

/-- The decimal digits of a natural number. -/
def ofNat (n : Nat) : Text := Nat.toDigits 10 n

/-- The decimal digits of an integer, after a minus sign if it is negative. -/
def ofInt : Int → Text
  | .ofNat n => ofNat n
  | .negSucc n => '-' :: ofNat (n + 1)

/-- The digits of a number to a base of at most sixteen, filled with zeros on the left to a
width. -/
def padded (base width n : Nat) : Text :=
  let digits := Nat.toDigits base n
  List.replicate (width - digits.length) '0' ++ digits

end Text
end Stencil
