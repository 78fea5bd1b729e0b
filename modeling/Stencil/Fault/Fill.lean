import Stencil.Failure
import Stencil.Value.Attribute
import Stencil.Value.Key

/-!
# Filling patterns

A pattern is filled from named values. A name without a value stands for itself between braces, so
that a message shows what was left out; its steps, conversion and layout are applied to that text.
Layouts may hold fields of their own, one level deep.
-/

set_option autoImplicit false

namespace Stencil

namespace Pattern

/-- The text that a value must have. -/
def required (t : Option Text) : Except Failure Text :=
  match t with
  | some t => .ok t
  | none => .error (.tooManyDigits none)

/-- How reports name the collection that a position is beyond. -/
def collectionName (v : Value) : Text :=
  match v with
  | .text _ | .safe _ => "string".toList
  | .range _ _ _ => "range object".toList
  | v => v.typeName

/-- The element of a value that a field names, by position if the name is a number. -/
def element (v : Value) (name : Text) : Except Failure Value := do
  let position ← (position? name).mapError Failure.pattern
  match v.entries?, position with
  | some entries, some i =>
    match Value.lookup (.int i) entries with
    | some w => .ok w
    | none => .error (.missingKey (Text.ofNat i))
  | some entries, none =>
    match Value.lookupName name entries with
    | some w => .ok w
    | none => .error (.missingKey name)
  | none, some i =>
    match v, v.size?, v.at? i with
    | _, _, some w => .ok w
    | .set _, _, _ | .shared _ .set _, _, _ =>
      .error (.unfit "'set' object is not subscriptable".toList)
    | v, some _, none => .error (.outOfRange (collectionName v))
    | v, none, none =>
      .error (.unfit (['\''] ++ v.typeName ++ "' object is not subscriptable".toList))
  | none, none =>
    .error (.unfit (v.typeName ++ " indices must be integers or slices".toList))

/-- Takes the steps of a field. -/
def follow (v : Value) : List Step → Except Failure Value
  | [] => .ok v
  | .attribute name :: rest => do follow (← v.readAttribute name) rest
  | .element name :: rest => do follow (← element v name) rest
  | .broken e :: _ => .error (.pattern e)

/-- The value that a field names. -/
def valueOf (values : List (Text × Value)) (name : Text) : Except Failure Value := do
  let first := firstName name
  let position ← (position? first).mapError Failure.pattern
  if first.isEmpty || position.isSome then .error (.pattern .positional)
  else
    let v := (values.lookup first).getD (.text (['{'] ++ first ++ ['}']))
    follow v (stepsOf name)

/-- A quoted text with escapes for all characters beyond ASCII. -/
def asciiQuoted (t : Text) : Text :=
  t.flatMap fun c =>
    if c.toNat < 128 then [c]
    else if c.toNat < 0x100 then ['\\', 'x'] ++ Text.padded 16 2 c.toNat
    else if c.toNat < 0x10000 then ['\\', 'u'] ++ Text.padded 16 4 c.toNat
    else ['\\', 'U'] ++ Text.padded 16 8 c.toNat

/-- Applies the conversion of a field. -/
def convert (v : Value) : Option Char → Except Failure Value
  | none => .ok v
  | some c =>
    if c = 's' then do .ok (.text (← required v.plain?))
    else if c = 'r' then do .ok (.text (← required v.quoted?))
    else if c = 'a' then do .ok (.text (asciiQuoted (← required v.quoted?)))
    else .error (.pattern (.unknownConversion c))

/-- A value laid out. Only texts and numbers know layouts; an empty layout is the plain text. -/
def layOut (v : Value) (spec : Text) : Except Failure Text :=
  if spec.isEmpty then required v.plain?
  else
    let integer (n : Int) : Except Failure Text :=
      if Number.isWritable n then (Spec.layInteger v.typeName spec n).mapError Failure.spec
      else .error (.tooManyDigits none)
    match v with
    | .text t | .safe t => (Spec.layText v.typeName spec t).mapError Failure.spec
    | .int n => integer n
    | .bool b => integer (if b then 1 else 0)
    | .float x => (Spec.layFloat v.typeName spec x).mapError Failure.spec
    | v => .error (.unfit ("unsupported format string passed to ".toList ++ v.typeName ++
        ".__format__".toList))

/-- Fills one piece of a pattern, given how the layouts are filled. -/
def fillPiece (values : List (Text × Value)) (fillSpec : Text → Except Failure Text) :
    Piece → Except Failure Text
  | .literal c => .ok [c]
  | .broken e => .error (.pattern e)
  | .field f => do
    let v ← valueOf values f.name
    let v ← convert v f.conversion
    let spec ← if f.nested then fillSpec f.spec else .ok f.spec
    layOut v spec

/-- Fills pieces in order and joins their texts. -/
def fillPieces (values : List (Text × Value)) (fillSpec : Text → Except Failure Text) :
    List Piece → Except Failure Text
  | [] => .ok []
  | p :: rest => do
    let first ← fillPiece values fillSpec p
    let others ← fillPieces values fillSpec rest
    .ok (first ++ others)

/-- Fills a pattern whose layouts may nest to a given depth. -/
def fillWithin (values : List (Text × Value)) : Nat → Text → Except Failure Text
  | 0, _ => .error (.pattern .tooDeep)
  | depth + 1, t => fillPieces values (fillWithin values depth) (pieces t)

/-- Fills a pattern. -/
def fill (values : List (Text × Value)) (t : Text) : Except Failure Text := fillWithin values 2 t

end Pattern
end Stencil
