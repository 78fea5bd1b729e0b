import Stencil.Text.Word
import Stencil.Text.Quoted

/-!
# Moments

The date and time of day of a fault, with the distance of the clock from universal time if it is
known. A moment is read from and written to the usual numeric form:
`2024-01-02T03:04:05.678901+00:00`. The parts after the date may be left out from the right.
-/

set_option autoImplicit false

namespace Stencil

/-- Why a text is no moment. -/
inductive MomentError where
  | unreadable (text : Text)
  | yearZero
  | month
  | day
  | hour
  | minute
  | second
  deriving DecidableEq, Repr

/-- A time of day, or a distance from universal time. -/
structure ClockTime where
  hour : Nat
  minute : Nat
  second : Nat
  microsecond : Nat
  deriving DecidableEq, Repr

/-- A moment; the distance from universal time is negative to the west. -/
structure Moment where
  year : Nat
  month : Nat
  day : Nat
  time : ClockTime
  offset : Option (Bool × ClockTime)
  deriving DecidableEq, Repr

namespace Moment

/-- Reads a number of exactly so many digits. -/
def digits? (count : Nat) (t : Text) : Option (Nat × Text) :=
  let digits := t.take count
  if digits.length = count ∧ digits.all Text.isAsciiDigit then
    some (Text.digitsValue digits, t.drop count)
  else none

/-- Reads a mark and two digits; without the mark, there is zero. -/
def nextPart? (mark : Char) : Text → Option (Nat × Text)
  | c :: rest => if c = mark then digits? 2 rest else some (0, c :: rest)
  | [] => some (0, [])

/-- Reads the fraction of a second, of which six digits count. -/
def fraction? : Text → Option (Nat × Text)
  | c :: rest =>
    if c = '.' ∨ c = ',' then
      let digits := rest.takeWhile Text.isAsciiDigit
      if digits.isEmpty then none
      else
        let six := (digits ++ List.replicate 6 '0').take 6
        some (Text.digitsValue six, rest.dropWhile Text.isAsciiDigit)
    else some (0, c :: rest)
  | [] => some (0, [])

/-- Reads a time of day. -/
def clock? (t : Text) : Option (ClockTime × Text) := do
  let (hour, t) ← digits? 2 t
  let (minute, t) ← nextPart? ':' t
  let (second, t) ← nextPart? ':' t
  let (microsecond, t) ← fraction? t
  some (⟨hour, minute, second, microsecond⟩, t)

/-- Reads the distance from universal time at the end of a text. -/
def offset? : Text → Option (Option (Bool × ClockTime))
  | [] => some none
  | ['Z'] => some (some (false, ⟨0, 0, 0, 0⟩))
  | '+' :: rest => match clock? rest with
    | some (c, []) => if c.hour < 24 then some (some (false, c)) else none
    | _ => none
  | '-' :: rest => match clock? rest with
    | some (c, []) => if c.hour < 24 then some (some (true, c)) else none
    | _ => none
  | _ => none

/-- Reads the parts of a moment, whatever their sizes. -/
def parts? (t : Text) : Option Moment := do
  let (year, t) ← digits? 4 t
  let (month, t) ← match t with
    | '-' :: rest => digits? 2 rest
    | _ => none
  let (day, t) ← match t with
    | '-' :: rest => digits? 2 rest
    | _ => none
  match t with
  | [] => some ⟨year, month, day, ⟨0, 0, 0, 0⟩, none⟩
  | _ :: rest => do
    let (time, t) ← clock? rest
    let offset ← offset? t
    some ⟨year, month, day, time, offset⟩

/-- Whether a year has a leap day. -/
def isLeap (year : Nat) : Bool := year % 4 == 0 && (year % 100 != 0 || year % 400 == 0)

/-- The number of days of a month. -/
def daysOf (year month : Nat) : Nat :=
  if month = 2 then (if isLeap year then 29 else 28)
  else if [4, 6, 9, 11].contains month then 30 else 31

/-- The moment that a text tells. -/
def ofText (t : Text) : Except MomentError Moment :=
  match parts? t with
  | none => .error (.unreadable t)
  | some m =>
    if m.year = 0 then .error .yearZero
    else if m.month = 0 ∨ 12 < m.month then .error .month
    else if m.day = 0 ∨ daysOf m.year m.month < m.day then .error .day
    else if 24 ≤ m.time.hour then .error .hour
    else if 60 ≤ m.time.minute then .error .minute
    else if 60 ≤ m.time.second then .error .second
    else .ok m

/-- The fraction of a second, unless it is zero. -/
def fractionText (microsecond : Nat) : Text :=
  if microsecond = 0 then [] else '.' :: Text.padded 10 6 microsecond

/-- Two digits. -/
def two (n : Nat) : Text := Text.padded 10 2 n

/-- A distance from universal time; seconds are written only if there are any. -/
def offsetText : Option (Bool × ClockTime) → Text
  | none => []
  | some (west, c) =>
    let isZero := c.hour = 0 ∧ c.minute = 0 ∧ c.second = 0 ∧ c.microsecond = 0
    (if west ∧ !isZero then ['-'] else ['+']) ++ two c.hour ++ [':'] ++ two c.minute ++
      (if c.second = 0 ∧ c.microsecond = 0 then []
        else [':'] ++ two c.second ++ fractionText c.microsecond)

/-- The text of a moment. -/
def toText (m : Moment) : Text :=
  Text.padded 10 4 m.year ++ ['-'] ++ two m.month ++ ['-'] ++ two m.day ++ ['T'] ++
    two m.time.hour ++ [':'] ++ two m.time.minute ++ [':'] ++ two m.time.second ++
    fractionText m.time.microsecond ++ offsetText m.offset

end Moment

namespace MomentError

/-- What a report says about the error. -/
def message : MomentError → Text
  | .unreadable t => "Invalid isoformat string: ".toList ++ Text.quoted t
  | .yearZero => "year 0 is out of range".toList
  | .month => "month must be in 1..12".toList
  | .day => "day is out of range for month".toList
  | .hour => "hour must be in 0..23".toList
  | .minute => "minute must be in 0..59".toList
  | .second => "second must be in 0..59".toList

end MomentError
end Stencil
