import Stencil.Number.Shortest

/-!
# Decimals of a given length

The decimal text of a finite number with a given number of places after the point, or of significant
digits. A half goes to the even neighbour.
-/

set_option autoImplicit false

namespace Stencil.Binary64

/-- The number `m * 2 ^ e` as a multiple of `10 ^ (-places)`, rounded. -/
def roundedTo (m : Nat) (e places : Int) : Nat :=
  roundedQuotient (m * Nat.pow 2 e.toNat * Nat.pow 10 places.toNat)
    (Nat.pow 2 (-e).toNat * Nat.pow 10 (-places).toNat)

/-- The given number of significant digits of `m * 2 ^ e`, as a natural number, and the decimal
exponent of the first of them. -/
def significantTo (m : Nat) (e : Int) (count : Nat) : Nat × Int :=
  if m = 0 then (0, 0)
  else
    let lead := ratioLog10 (m * Nat.pow 2 e.toNat) (Nat.pow 2 (-e).toNat)
    let k := roundedTo m e (count - 1 - lead)
    if k = Nat.pow 10 count then (Nat.pow 10 (count - 1), lead + 1) else (k, lead)

/-- The digits before the point and those after it, of a multiple of a negative power of ten. -/
def splitPlaces (k places : Nat) : Text × Text :=
  let digits := Text.padded 10 (places + 1) k
  (digits.take (digits.length - places), digits.drop (digits.length - places))

/-- An exponent with its sign and at least two digits. -/
def exponentText (exponent : Int) : Text :=
  ['e', if exponent < 0 then '-' else '+'] ++ Text.padded 10 2 exponent.natAbs

/-- Digits after the point, with the point if there are any or if it is always wanted. -/
def fractionText (always : Bool) (fraction : Text) : Text :=
  if fraction.isEmpty && !always then [] else '.' :: fraction

/-- Digits without the zeros at their end. -/
def withoutZeros (digits : Text) : Text := (digits.reverse.dropWhile (· == '0')).reverse

/-- Positional form: the digits before the point, and what follows them. -/
def fixedParts (m : Nat) (e : Int) (places : Nat) (always : Bool) : Text × Text :=
  let (whole, fraction) := splitPlaces (roundedTo m e places) places
  (whole, fractionText always fraction)

/-- Form with an exponent: the digit before the point, and what follows it. -/
def scientificParts (m : Nat) (e : Int) (places : Nat) (always : Bool) : Text × Text :=
  let (k, lead) := significantTo m e (places + 1)
  let (whole, fraction) := splitPlaces k places
  (whole, fractionText always fraction ++ exponentText lead)

/-- The form that suits the size: positional from `0.0001` up to a bound, with an exponent beyond.
Zeros at the end are dropped unless they are wanted; `pointed` asks for a digit after the point. -/
def generalParts (m : Nat) (e : Int) (count : Nat) (zeros pointed : Bool) : Text × Text :=
  let (k, lead) := significantTo m e count
  let bound : Int := if pointed then count - 1 else count
  let trim (t : Text) : Text := if zeros then t else withoutZeros t
  if lead < -4 ∨ bound ≤ lead then
    let (whole, fraction) := splitPlaces k (count - 1)
    (whole, fractionText zeros (trim fraction) ++ exponentText lead)
  else
    let (whole, fraction) := splitPlaces k (count - 1 - lead).toNat
    let fraction := trim fraction
    (whole, fractionText zeros (if pointed && fraction.isEmpty then ['0'] else fraction))

end Stencil.Binary64
