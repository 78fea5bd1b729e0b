import Stencil.Expr.Eval
import Stencil.Markup.Script
import Stencil.Value.Json

/-!
# Built-in filters

The filters that every engine knows: case, marking as safe, embedding in scripts, sizes and
defaults.
-/

set_option autoImplicit false

namespace Stencil.Filter

/-- A filter that takes no argument; the name is the one that reports show. -/
def unary (name : Text) (f : Value → Eval Value) : Filter := fun v argument =>
  match argument with
  | none => f v
  | some _ => throw (.unfit (name ++ "() takes 1 positional argument but 2 were given".toList))

/-- A text changed by a function, safe or not as before; other values stay as they are. -/
def mapText (f : Text → Text) : Value → Value
  | .text t => .text (f t)
  | .safe t => .safe (f t)
  | v => v

/-- The JSON text of a value as it is now, safe inside a script element. A value that has none, or
that is nested too deep, is reported and becomes `null`. -/
def json (v : Value) : Eval Text := do
  let result ← Eval.asking fun c => Json.compact c.room (v.now c)
  match result with
  | .ok t => pure (Markup.defuseScript t)
  | .error e => do
    Eval.debug "filters".toList "JSON serialization failed".toList
      [("error".toList, .text e.message), ("value_type".toList, .text v.typeName)]
    pure "null".toList

/-- The output text of a value, marked as safe. -/
def markSafe (v : Value) : Eval Value := do
  let t ← Eval.textOf v
  pure (.safe t)

/-- A value as a string literal of a script. -/
def scriptLiteral : Value → Eval Value
  | .undefined => pure (.safe "\"\"".toList)
  | v => do
    let t ← Eval.textOf v
    pure (.safe (Markup.scriptLiteral t))

/-- A value as JSON, marked as safe. -/
def rawJson (v : Value) : Eval Value := do
  let t ← json v
  pure (.safe t)

/-- The element id of a JSON script that is given none. -/
def defaultScriptId : Text := "__data__".toList

/-- A script element that holds a value as JSON; the argument is its id. -/
def jsonScript : Filter := fun v argument => do
  let id ← match argument.getD .undefined with
    | .undefined => pure defaultScriptId
    | a => Eval.textOf a
  let payload ← json v
  pure (.safe ("<script id=\"".toList ++ Markup.escape id ++
    "\" type=\"application/json\">".toList ++ payload ++ "</script>".toList))

/-- The size of a value, zero if it has none. -/
def length (v : Value) : Eval Value := do
  let w ← Eval.asking v.opened
  let n := w.size?.getD 0
  if Value.sizeLimit < n then throw .overlong else pure (.int n)

/-- The argument in place of an undefined value. -/
def default : Filter := fun v argument =>
  match v with
  | .undefined => pure (argument.getD .undefined)
  | v => pure v

/-- The filters that every engine knows. -/
def builtin : Filters := [
  ("upper".toList, unary "filter_upper".toList fun v => pure (mapText Text.upper v)),
  ("lower".toList, unary "filter_lower".toList fun v => pure (mapText Text.lower v)),
  ("safe".toList, unary "filter_safe".toList markSafe),
  ("escapejs".toList, unary "filter_escapejs".toList scriptLiteral),
  ("raw_json".toList, unary "filter_raw_json".toList rawJson),
  ("raw_json_escaped".toList, unary "filter_raw_json".toList rawJson),
  ("json_script".toList, jsonScript),
  ("length".toList, unary "filter_length".toList length),
  ("default".toList, default)]

end Stencil.Filter
