import Stencil.Value.Basic

/-!
# Keys of mappings

Which values can be keys, and when two keys are the same: numbers by value whatever their type, with
truth values counting as one and zero; text by its characters, safe or not; tuples part by part;
ranges by their members; objects and routines by identity. What can change is no key.
-/

set_option autoImplicit false

namespace Stencil.Value

mutual

/-- Whether a value can be a key. -/
def isKey : Value → Bool
  | .list _ | .set _ | .shared _ _ _ | .itself | .dict _ | .view _ => false
  | .tuple items => allKeys items
  | _ => true

/-- Whether every value of a list can be a key. -/
def allKeys : List Value → Bool
  | [] => true
  | v :: rest => isKey v && allKeys rest

end

/-- The number that a key counts as. -/
def keyNumber? : Value → Option Number
  | .bool b => some (.integer (if b then 1 else 0))
  | v => v.number?

/-- Whether two values count as equal numbers. -/
def numbered (a b : Value) : Bool :=
  match keyNumber? a, keyNumber? b with
  | some x, some y => x.equals y
  | _, _ => false

mutual

/-- Whether two keys are the same. -/
def sameKey : Value → Value → Bool
  | .undefined, .undefined => true
  | .text a, v => v.text? == some a
  | .safe a, v => v.text? == some a
  | .bytes a, .bytes b => a == b
  | .tuple as, .tuple bs => sameKeys as bs
  | .range a b c, .range d e f =>
    let n := rangeSize a b c
    n == rangeSize d e f && (n == 0 || (a == d && (n == 1 || c == f)))
  | .object i _ _ _, .object j _ _ _ => i == j
  | .routine i _ _, .routine j _ _ => i == j
  | .method a m, .method b n => m == n && sameKey a b
  | .cursor i _, .cursor j _ => i == j
  | .bool a, v => numbered (.bool a) v
  | .int a, v => numbered (.int a) v
  | .float a, v => numbered (.float a) v
  | _, _ => false

/-- Whether two lists of keys are the same, one by one. -/
def sameKeys : List Value → List Value → Bool
  | [], [] => true
  | a :: as, b :: bs => sameKey a b && sameKeys as bs
  | _, _ => false

end

/-- The value under a key. -/
def lookup (key : Value) : List (Value × Value) → Option Value
  | [] => none
  | (k, v) :: rest => if sameKey k key then some v else lookup key rest

/-- The value under a text key. -/
def lookupName (name : Text) (entries : List (Value × Value)) : Option Value :=
  lookup (.text name) entries

/-- Stores a value under a key. A key that is present keeps its place and its spelling. -/
def store (key value : Value) : List (Value × Value) → List (Value × Value)
  | [] => [(key, value)]
  | (k, v) :: rest =>
    if sameKey k key then (k, value) :: rest else (k, v) :: store key value rest

end Stencil.Value
