import Stencil.Value.Method
import Stencil.Value.Renew

/-!
# Steps into values

The three steps of a path: an attribute by name, an element by key, and a call. None of them fails
when a step does not apply; the result is undefined. An ordinary failure of the application's own
code is reported and gives an undefined value too; a request to end the program passes, and so does a
failure whose text cannot be written into the report.
-/

set_option autoImplicit false

namespace Stencil.Value

/-- The component that reports about steps. -/
def component : Text := "expressions".toList

/-- The position that a key names: an integer, or a text of ASCII digits. -/
def position? : Value → Eval (Option Int)
  | .int n => pure (some n)
  | .text t | .safe t =>
    if Text.isPosition t then
      if t.length ≤ Number.digitLimit then pure (some (Text.digitsValue t))
      else throw (.tooManyDigits (some t.length))
    else pure none
  | _ => pure none

/-- The greatest size that a sequence may have to be asked for a position. -/
def sizeLimit : Nat := Nat.pow 2 63 - 1

/-- The element of a sequence or text at the position that a key names. -/
def elementAt (v key : Value) : Eval Value := do
  match ← position? key with
  | none => pure .undefined
  | some i =>
    if i < 0 then pure .undefined
    else do
      let w ← Eval.asking v.opened
      if sizeLimit < w.size?.getD 0 then throw .overlong
      else pure ((w.at? i.toNat).getD .undefined)

/-- An attribute of a value that is neither a mapping nor asked for a position. Private attributes
are undefined. -/
def publicAttribute (v : Value) (name : Text) : Eval Value :=
  if isPrivate name then pure .undefined
  else Eval.orElse (Eval.ofExcept (v.readAttribute name)) fun e => do
    if saysLacking e then pure .undefined
    else do
      Eval.report component "Attribute lookup failed".toList ("attribute".toList, .text name) e
      pure .undefined

/-- The step `value.name`: the entry of a mapping, the element of a sequence, or a public
attribute. -/
def member (v : Value) (name : Text) : Eval Value :=
  match v.entries? with
  | some entries => pure ((lookupName name entries).getD .undefined)
  | none =>
    if v.isSequence && Text.isPosition name then elementAt v (.text name)
    else publicAttribute v name

/-- The entry of a mapping under a key. A number that is no key of the mapping is looked up again as
text. -/
def entry (entries : List (Value × Value)) (key : Value) : Eval Value := do
  if !key.isKey then pure .undefined
  else match lookup key entries with
    | some v => pure v
    | none =>
      if key.number?.isSome then do
        let name ← Eval.required key.output?
        pure ((lookupName name entries).getD .undefined)
      else pure .undefined

/-- The step `value[key]`: the entry of a mapping, the element of a sequence or text, or an
attribute. -/
def item (v key : Value) : Eval Value :=
  match key with
  | .undefined => pure .undefined
  | key =>
    match v.entries? with
    | some entries => entry entries key
    | none =>
      if v.isSequence || v.text?.isSome then elementAt v key
      else match key.text?, v with
        | none, _ => pure .undefined
        | some _, .undefined => pure .undefined
        | some name, v => member v name

/-- Calls a routine or method without arguments. -/
def invoke : Value → Eval Value
  | .routine _ arity action =>
    if arity.getD 0 ≠ 0 then throw (.unfit "wrong number of arguments".toList)
    else match action with
      | .constant v => Eval.fresh fun next => v.renew next
      | .failure r => throw (.raised r)
      | .counter cell start => do
        let n ← Eval.take cell
        pure (.int (start + n))
      | .ownAttribute _ _ => throw (.unfit "the routine has no owner".toList)
      | .labelled lead v => Eval.ofExcept (labelledValue lead v)
  | .method owner name => callMethod owner name
  | v => throw (.unfit (['\''] ++ v.typeName ++ "' object is not callable".toList))

/-- The step `value()` of a path, which is given for reports: what the call gives, or undefined if
the value cannot be called or the call fails. -/
def call (path : Text) (v : Value) : Eval Value :=
  if v.isCallable then
    Eval.orElse v.invoke fun e => do
      Eval.report component "Call failed".toList ("expression".toList, .text path) e
      pure .undefined
  else pure .undefined

end Stencil.Value
