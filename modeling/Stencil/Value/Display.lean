import Stencil.Value.Basic
import Stencil.Number.Limit
import Stencil.Number.Shortest
import Stencil.Text.Quoted

/-!
# Values as text

A value has two plain texts: the text it stands for, and its quoted form inside a collection, where
text stands between quotes and a read-only mapping is named as such. Output uses a third form, in
which an undefined value is empty and truth values are spelled like the literals of expressions. A
value that holds an integer of too many digits has no text.
-/

set_option autoImplicit false

namespace Stencil.Value

/-- Entries as they stand between braces. -/
def braced (pairs : List (Text × Text)) : Text :=
  ['{'] ++ Text.join ", ".toList (pairs.map fun p => p.1 ++ ": ".toList ++ p.2) ++ ['}']

/-- Elements as they stand in a list. -/
def listed (parts : List Text) : Text := ['['] ++ Text.join ", ".toList parts ++ [']']

/-- Elements as they stand in a set. -/
def gathered : List Text → Text
  | [] => "set()".toList
  | parts => ['{'] ++ Text.join ", ".toList parts ++ ['}']

/-- The text of a range; a step of one is left out. -/
def rangeText? (start stop step : Int) : Option Text := do
  let a ← Number.integerText? start
  let b ← Number.integerText? stop
  let c ← Number.integerText? step
  let parts := if step = 1 then [a, b] else [a, b, c]
  some ("range(".toList ++ Text.join ", ".toList parts ++ [')'])

mutual

/-- The form of a value inside a collection. -/
def quoted? : Value → Option Text
  | .undefined => some "None".toList
  | .bool b => some (if b then "True" else "False").toList
  | .int n => Number.integerText? n
  | .float x => some x.toText
  | .text t => some (Text.quoted t)
  | .safe t => some ("Markup(".toList ++ Text.quoted t ++ [')'])
  | .bytes octets => some (Text.quotedOctets octets)
  | .list items | .shared _ .list items => do some (listed (← quotedAll? items))
  | .tuple items => do
    match ← quotedAll? items with
    | [one] => some (['('] ++ one ++ [',', ')'])
    | parts => some (['('] ++ Text.join ", ".toList parts ++ [')'])
  | .set items | .shared _ .set items => do some (gathered (← quotedAll? items))
  | .itself => some "[...]".toList
  | .range start stop step => rangeText? start stop step
  | .dict entries => do some (braced (← quotedEntries? entries))
  | .view entries => do
    some ("mappingproxy(".toList ++ braced (← quotedEntries? entries) ++ [')'])
  | .object _ _ _ shown => some shown
  | .routine _ _ _ => some "<fn>".toList
  | .method _ name => some ("<method ".toList ++ name ++ ['>'])
  | .cursor _ _ => some "<iterator>".toList

/-- The forms of the elements of a collection. -/
def quotedAll? : List Value → Option (List Text)
  | [] => some []
  | v :: rest => do some ((← quoted? v) :: (← quotedAll? rest))

/-- The forms of the entries of a mapping. -/
def quotedEntries? : List (Value × Value) → Option (List (Text × Text))
  | [] => some []
  | (k, v) :: rest => do some ((← quoted? k, ← quoted? v) :: (← quotedEntries? rest))

end

/-- The text that a value stands for. -/
def plain? : Value → Option Text
  | .text t | .safe t => some t
  | .view entries => do some (braced (← quotedEntries? entries))
  | v => quoted? v

/-- The text of a value in output, before escaping. -/
def output? : Value → Option Text
  | .undefined => some []
  | .bool b => some (if b then "true" else "false").toList
  | v => plain? v

end Stencil.Value
