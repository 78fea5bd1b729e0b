import Stencil.Text.Basic
import Stencil.Number.Order

/-!
# Values

The values that a template works on: what an application passes in, what expressions yield and what
filters take and return. Text that is marked as safe is output as it stands; all other text is
escaped on output.

Objects and routines belong to the application. An object has attributes, some of which fail when
they are read; a routine is called without arguments. What changes when it is used, a counter, a
cursor, or a list or set that several names may refer to, has a numbered cell, and the value itself
says only how it started.
-/

set_option autoImplicit false

namespace Stencil

/-- A failure raised by the application's own code. Handlers stop ordinary failures only; a request
to end the program passes them. -/
inductive Raised where
  /-- A failure with a text. -/
  | told (kind message : Text) (ordinary : Bool)
  /-- A failure whose text cannot be written: writing it raises another failure. -/
  | untold (kind : Text) (ordinary : Bool) (instead : Raised)
  deriving DecidableEq, Repr

namespace Raised

/-- The name of the kind of a failure. -/
def kind : Raised → Text
  | .told kind _ _ | .untold kind _ _ => kind

/-- Whether handlers of ordinary failures stop a failure. -/
def isOrdinary : Raised → Bool
  | .told _ _ ordinary | .untold _ ordinary _ => ordinary

/-- The text of a failure, or what is raised in its place. -/
def text : Raised → Except Raised Text
  | .told _ message _ => .ok message
  | .untold _ _ instead => .error instead

/-- The kinds of failures that are requests to end the program. -/
def requests : List Text :=
  ["SystemExit", "KeyboardInterrupt", "GeneratorExit", "BaseException"].map String.toList

/-- A failure with a text, which is ordinary unless its kind is that of a request. -/
def ofKind (kind message : Text) : Raised := .told kind message (!requests.contains kind)

end Raised

/-- The kinds of collections that change. -/
inductive Collection where
  | list
  | set
  deriving DecidableEq, Repr

/-- The name of a kind of collections. -/
def Collection.name : Collection → Text
  | .list => "list".toList
  | .set => "set".toList

/-- What a routine does when it is called. -/
inductive Routine (α : Type) where
  /-- Gives a value, made anew for each call. -/
  | constant (value : α)
  | failure (raised : Raised)
  /-- Gives `start`, `start + 1`, ... on successive calls. -/
  | counter (cell : Nat) (start : Int)
  /-- Gives a text before an attribute of the object it is read from. -/
  | ownAttribute (lead name : Text)
  /-- Gives a text before a value. -/
  | labelled (lead : Text) (value : α)

/-- A value. -/
inductive Value where
  /-- The value of a name that is not defined. -/
  | undefined
  | bool (b : Bool)
  | int (n : Int)
  | float (x : Binary64)
  | text (t : Text)
  /-- Text that is output as it stands. -/
  | safe (t : Text)
  | bytes (octets : List Nat)
  /-- A list that nothing else refers to. -/
  | list (items : List Value)
  | tuple (items : List Value)
  /-- A set that nothing else refers to. -/
  | set (items : List Value)
  /-- A list or a set that several names may refer to. It began with these elements; the cell says
  which of them are left. -/
  | shared (cell : Nat) (kind : Collection) (items : List Value)
  /-- As an element of a list that others refer to: that list again. -/
  | itself
  | range (start stop step : Int)
  | dict (entries : List (Value × Value))
  /-- A mapping that can only be read. -/
  | view (entries : List (Value × Value))
  | object (identity : Nat) (attributes : List (Text × Value)) (faults : List (Text × Raised))
      (shown : Text)
  /-- A routine of the application, with the number of arguments that it insists on. -/
  | routine (identity : Nat) (arity : Option Nat) (action : Routine Value)
  /-- A built-in method of a value, by name. -/
  | method (owner : Value) (name : Text)
  /-- Elements that can be walked through once; the cell counts how many have been taken. -/
  | cursor (cell : Nat) (items : List Value)

namespace Value

/-- The name of a value's type in reports. -/
def typeName : Value → Text
  | .undefined => "NoneType".toList
  | .bool _ => "bool".toList
  | .int _ => "int".toList
  | .float _ => "float".toList
  | .text _ => "str".toList
  | .safe _ => "Markup".toList
  | .bytes _ => "bytes".toList
  | .list _ | .itself => "list".toList
  | .tuple _ => "tuple".toList
  | .set _ => "set".toList
  | .shared _ kind _ => kind.name
  | .range _ _ _ => "range".toList
  | .dict _ => "dict".toList
  | .view _ => "mappingproxy".toList
  | .object _ _ _ _ => "Obj".toList
  | .routine _ _ _ => "Fn".toList
  | .method _ _ => "builtin_function_or_method".toList
  | .cursor _ _ => "list_iterator".toList

/-- The characters of a text, marked as safe or not. -/
def text? : Value → Option Text
  | .text t | .safe t => some t
  | _ => none

/-- The entries of a mapping. -/
def entries? : Value → Option (List (Value × Value))
  | .dict es | .view es => some es
  | _ => none

/-- The number that a value is. Truth values are no numbers here. -/
def number? : Value → Option Number
  | .int n => some (.integer n)
  | .float x => some (.float x)
  | _ => none

/-- The number of members of a range. -/
def rangeSize (start stop step : Int) : Nat :=
  if 0 < step then
    if start < stop then ((stop - start - 1) / step).toNat + 1 else 0
  else if step < 0 then
    if stop < start then ((start - stop - 1) / (-step)).toNat + 1 else 0
  else 0

/-- The members of a range. -/
def rangeItems (start stop step : Int) : List Value :=
  (List.range (rangeSize start stop step)).map fun i : Nat => .int (start + step * (i : Int))

/-- The number of parts of a value that has a size. -/
def size? : Value → Option Nat
  | .text t | .safe t => some t.length
  | .bytes octets => some octets.length
  | .list items | .tuple items | .set items | .shared _ _ items => some items.length
  | .range start stop step => some (rangeSize start stop step)
  | .dict es | .view es => some es.length
  | _ => none

/-- The element of a value at a position, for lists, tuples, ranges, texts and octets. -/
def at? (v : Value) (i : Nat) : Option Value :=
  match v with
  | .text t => t[i]?.map fun c => .text [c]
  | .safe t => t[i]?.map fun c => .safe [c]
  | .bytes octets => octets[i]?.map fun o => .int o
  | .list items | .tuple items | .shared _ .list items => items[i]?
  | .range start stop step =>
    if i < rangeSize start stop step then some (.int (start + step * i)) else none
  | _ => none

/-- Whether a value is a sequence other than text or octets. -/
def isSequence : Value → Bool
  | .list _ | .tuple _ | .range _ _ _ | .shared _ .list _ | .itself => true
  | _ => false

/-- Whether an attribute is private: names that begin with an underscore are not read from outside
the object. -/
def isPrivate (name : Text) : Bool := name.head? == some '_'

/-- Whether a value can be called. -/
def isCallable : Value → Bool
  | .routine _ _ _ | .method _ _ => true
  | _ => false

end Value

/-- A collection that nothing else refers to. -/
def Collection.hold : Collection → List Value → Value
  | .list, items => .list items
  | .set, items => .set items

end Stencil
