import Stencil.Value.Key

/-!
# The order of elements

Sorting compares elements by what they are: numbers by value, texts and octets one by one, lists and
tuples by the first parts that differ, sets by inclusion. Other values have no order. What is
compared is the rank of a value, from which everything else is left out.

The sort is stable. It goes on from the run of elements at the beginning that is in order, or the
other way round, and puts each further element in its place by halving. A comparison that fails stops
it, and the elements stay in the order that they have got so far.
-/

set_option autoImplicit false

namespace Stencil

/-- What an element is for sorting. A type name is kept for reports. -/
inductive Rank where
  | number (type : Text) (x : Number)
  | text (type : Text) (t : Text)
  | octets (os : List Nat)
  | list (parts : List Rank)
  | tuple (parts : List Rank)
  | set (parts : List Rank)
  | mapping (type : Text) (entries : List (Rank × Rank))
  /-- A value without order, with the numbers that tell it from others of its type, if it can be the
  same as another one. -/
  | other (type : Text) (marks : Option (List Int))

namespace Rank

/-- The name of the type of the value that has a rank. -/
def type : Rank → Text
  | .number type _ | .text type _ | .mapping type _ | .other type _ => type
  | .octets _ => "bytes".toList
  | .list _ => "list".toList
  | .tuple _ => "tuple".toList
  | .set _ => "set".toList

mutual

/-- Whether values of two ranks are equal. -/
def equals : Rank → Rank → Bool
  | .number _ x, .number _ y => x.equals y
  | .text _ s, .text _ t => s == t
  | .octets as, .octets bs => as == bs
  | .list as, .list bs => allEqual as bs
  | .tuple as, .tuple bs => allEqual as bs
  | .set as, .set bs => as.length == bs.length && allAmong as bs
  | .mapping _ as, .mapping _ bs => as.length == bs.length && entriesAmong as bs
  | .other s (some as), .other t (some bs) => s == t && as == bs
  | _, _ => false

/-- Whether two lists have equal parts, one by one. -/
def allEqual : List Rank → List Rank → Bool
  | [], [] => true
  | a :: as, b :: bs => equals a b && allEqual as bs
  | _, _ => false

/-- Whether each element is equal to one of a list. -/
def allAmong : List Rank → List Rank → Bool
  | [], _ => true
  | a :: as, bs => bs.any (equals a) && allAmong as bs

/-- Whether each entry is equal to one of a mapping. -/
def entriesAmong : List (Rank × Rank) → List (Rank × Rank) → Bool
  | [], _ => true
  | (k, v) :: as, bs => bs.any (fun e => equals k e.1 && equals v e.2) && entriesAmong as bs

end

/-- Whether octets come before other ones. -/
def octetsBefore : List Nat → List Nat → Bool
  | [], bs => !bs.isEmpty
  | _ :: _, [] => false
  | a :: as, b :: bs => if a = b then octetsBefore as bs else a < b

mutual

/-- Whether a rank comes before another one; if they are in no order, the types are given. -/
def before : Rank → Rank → Except (Text × Text) Bool
  | .number _ x, .number _ y => .ok (x.order? y == some .lt)
  | .text _ s, .text _ t => .ok (Text.order s t == .lt)
  | .octets as, .octets bs => .ok (octetsBefore as bs)
  | .list as, .list bs => partsBefore as bs
  | .tuple as, .tuple bs => partsBefore as bs
  | .set as, .set bs => .ok (as.length < bs.length && allAmong as bs)
  | a, b => .error (a.type, b.type)

/-- Whether a list comes before another one: by the first parts that differ. -/
def partsBefore : List Rank → List Rank → Except (Text × Text) Bool
  | [], bs => .ok (!bs.isEmpty)
  | _ :: _, [] => .ok false
  | a :: as, b :: bs => if equals a b then partsBefore as bs else before a b

end

end Rank

namespace Value

mutual

/-- The rank of a value as it is now. -/
def rank : Value → Rank
  | .undefined => .other "NoneType".toList (some [])
  | .bool b => .number "bool".toList (.integer (if b then 1 else 0))
  | .int n => .number "int".toList (.integer n)
  | .float x => .number "float".toList (.float x)
  | .text t => .text "str".toList t
  | .safe t => .text "Markup".toList t
  | .bytes octets => .octets octets
  | .list items | .shared _ .list items => .list (ranks items)
  | .tuple items => .tuple (ranks items)
  | .set items | .shared _ .set items => .set (ranks items)
  | .itself => .other "list".toList (some [])
  | .range start stop step =>
    let n := rangeSize start stop step
    .other "range".toList (some [n, if n = 0 then 0 else start, if n ≤ 1 then 0 else step])
  | .dict entries => .mapping "dict".toList (entryRanks entries)
  | .view entries => .mapping "mappingproxy".toList (entryRanks entries)
  | .object identity _ _ _ => .other "Obj".toList (some [identity])
  | .routine identity _ _ => .other "Fn".toList (some [identity])
  | .method _ _ => .other "builtin_function_or_method".toList none
  | .cursor cell _ => .other "list_iterator".toList (some [cell])

/-- The ranks of elements. -/
def ranks : List Value → List Rank
  | [] => []
  | v :: rest => rank v :: ranks rest

/-- The ranks of keys and values. -/
def entryRanks : List (Value × Value) → List (Rank × Rank)
  | [] => []
  | (k, v) :: rest => (rank k, rank v) :: entryRanks rest

end

end Value

/-! ## Sorting -/

namespace Sorting

variable {α ε : Type} (before : α → α → Except ε Bool)

/-- How many elements go on a run after its last one, each before the one it follows or, in a run
that rises, none. -/
def runLength (falls : Bool) (last : α) : List α → Except ε Nat
  | [] => .ok 0
  | x :: rest => do
    if (← before x last) = falls then
      let n ← runLength falls x rest
      .ok (n + 1)
    else .ok 0

/-- Where an element goes between the first and the last place that are possible in a sorted list,
after the ones that it is equal to. Halving takes at most the given number of tries. -/
def placeOf (x : α) (sorted : List α) : Nat → Nat → Nat → Except ε Nat
  | 0, first, _ => .ok first
  | tries + 1, first, last =>
    if first < last then
      let middle := (first + last) / 2
      match sorted[middle]? with
      | none => .ok first
      | some y => do
        if ← before x y then placeOf x sorted tries first middle
        else placeOf x sorted tries (middle + 1) last
    else .ok first

/-- Puts elements into a sorted list, one after the other; with the outcome comes what went wrong. -/
def insertAll (sorted : List α) : List α → List α × Option ε
  | [] => (sorted, none)
  | x :: rest =>
    match placeOf before x sorted (sorted.length + 1) 0 sorted.length with
    | .ok i => insertAll (sorted.take i ++ x :: sorted.drop i) rest
    | .error e => (sorted ++ x :: rest, some e)

/-- Sorts elements; with the outcome comes what went wrong. -/
def sort : List α → List α × Option ε
  | x :: y :: rest =>
    let run : Except ε (Bool × Nat) := do
      let falls ← before y x
      let n ← runLength before falls y rest
      .ok (falls, n)
    match run with
    | .error e => (x :: y :: rest, some e)
    | .ok (falls, n) =>
      let first := x :: y :: rest.take n
      insertAll before (if falls then first.reverse else first) (rest.drop n)
  | few => (few, none)

end Sorting
end Stencil
