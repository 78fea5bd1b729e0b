import Stencil.Number.Binary64
import Stencil.Text.Basic

/-!
# Shortest decimals

The decimal text of a binary64 number has the fewest digits that read back as that number, and among
those the digits nearest to it. Up to 17 digits are tried; on each decimal grid only the two
neighbours of the number can lie in the interval of reals that round to it.
-/

set_option autoImplicit false

namespace Stencil.Binary64

/-- The interval of reals that round to a positive number, as natural multiples of a power of two:
the lower end, the number itself, the upper end, and the exponent of the power. Below a power of two
the numbers stand twice as close. -/
def roundingInterval (m : Nat) (e : Int) : Nat × Nat × Nat × Int :=
  if m = Nat.pow 2 52 ∧ e > leastExponent then (4 * m - 1, 4 * m, 4 * m + 2, e - 2)
  else (2 * m - 1, 2 * m, 2 * m + 1, e - 1)

/-- The exponent of the largest power of ten that is at most a ratio of positive numbers. -/
def ratioLog10 (num den : Nat) : Int :=
  if den ≤ num then ((Nat.toDigits 10 (num / den)).length : Int) - 1
  else
    let places := (Nat.toDigits 10 (den / num)).length - 1
    if den ≤ num * Nat.pow 10 places then -places else -(places + 1)

/-- The multiple of `10 ^ grid` that reads back as a number and is nearest to it, if there is one.
The number and the ends of its interval are numerators over a common denominator; the ends belong to
the interval if `closed`. -/
def onGrid? (low mid high den : Nat) (closed : Bool) (grid : Int) : Option Nat :=
  -- All four quantities are scaled so that one grid step is `unit`.
  let scale := if 0 ≤ grid then 1 else Nat.pow 10 (-grid).toNat
  let unit := if 0 ≤ grid then den * Nat.pow 10 grid.toNat else den
  let low := low * scale
  let mid := mid * scale
  let high := high * scale
  let below := mid / unit
  let above := below + 1
  let inside (k : Nat) : Bool :=
    if closed then low ≤ k * unit && k * unit ≤ high else low < k * unit && k * unit < high
  let below? := 0 < below && inside below
  if below? && inside above then
    let down := mid - below * unit
    let up := above * unit - mid
    if down < up then some below
    else if up < down then some above
    else if below % 2 = 0 then some below else some above
  else if below? then some below
  else if inside above then some above
  else none

/-- The first of the grids with 1, 2, ... digits, at most the given number of grids, that holds a
decimal reading back as the number: the decimal as a multiple of its power of ten. -/
def firstGrid (low mid high den : Nat) (closed : Bool) (lead : Int) : Nat → Nat → Nat × Int
  | _, 0 => (0, 0)
  | digits, tries + 1 =>
    let grid := lead - digits + 1
    match onGrid? low mid high den closed grid with
    | some k => (k, grid)
    | none => firstGrid low mid high den closed lead (digits + 1) tries

/-- The shortest decimal of a positive number `m * 2 ^ e`, as a multiple of a power of ten. -/
def shortestDecimal (m : Nat) (e : Int) : Nat × Int :=
  let (low, mid, high, q) := roundingInterval m e
  let scale := if 0 ≤ q then Nat.pow 2 q.toNat else 1
  let den := if 0 ≤ q then 1 else Nat.pow 2 (-q).toNat
  let lead := ratioLog10 (mid * scale) den
  firstGrid (low * scale) (mid * scale) (high * scale) den (m % 2 == 0) lead 1 17

/-- The digits of a number without trailing zeros. -/
def significantDigits (k : Nat) : Text :=
  ((Text.ofNat k).reverse.dropWhile (· == '0')).reverse

/-- How decimal numbers are laid out: positional up to an exponent and down to another, with an
exponent part beyond. -/
structure Layout where
  /-- The least decimal exponent that is written positionally. -/
  leastPositional : Int
  /-- The first decimal exponent that is no longer written positionally. -/
  firstScientific : Int
  /-- The least number of digits of a written exponent. -/
  exponentDigits : Nat

/-- Numbers from `0.0001` up to but not including `10 ^ 16` are positional; exponents have a sign
and at least two digits. -/
def layout : Layout := ⟨-4, 16, 2⟩

/-- Lays out digits whose first one has the given decimal exponent. -/
def Layout.write (l : Layout) (digits : Text) (exponent : Int) : Text :=
  if l.leastPositional ≤ exponent ∧ exponent < l.firstScientific then
    if exponent < 0 then
      ['0', '.'] ++ List.replicate (-exponent - 1).toNat '0' ++ digits
    else
      let places := exponent.toNat + 1
      let whole := digits.take places
      let fraction := digits.drop places
      whole ++ List.replicate (places - whole.length) '0' ++ ['.'] ++
        (if fraction.isEmpty then ['0'] else fraction)
  else
    let fraction := digits.drop 1
    digits.take 1 ++ (if fraction.isEmpty then [] else '.' :: fraction) ++
      ['e', if exponent < 0 then '-' else '+'] ++ Text.padded 10 l.exponentDigits exponent.natAbs

/-- The text of a number. -/
def toText : Binary64 → Text
  | .nan => "nan".toList
  | .infinite negative => (if negative then ['-'] else []) ++ "inf".toList
  | .finite negative m e =>
    (if negative then ['-'] else []) ++
      if m = 0 then "0.0".toList
      else
        let (k, grid) := shortestDecimal m e
        let all := Text.ofNat k
        layout.write (significantDigits k) (grid + (all.length : Int) - 1)

end Stencil.Binary64
