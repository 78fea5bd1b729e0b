import Stencil.Journal.Level
import Stencil.Settings.Basic
import Stencil.Failure
import Stencil.Table

/-!
# Log records

A record is what one line of the log is made from: a level, a component, a message, named fields,
and the text of an error. A line is either a JSON object or plain text. A trace that is being
recorded adds its two identifiers before the fields. A field with the name of another part takes its
place.
-/

set_option autoImplicit false

namespace Stencil

/-- The layout of a name, which has to exist. -/
def LogLayout.named (name : Text) : Except Failure LogLayout :=
  match LogLayout.ofName? name with
  | some layout => .ok layout
  | none => .error (.unknownChoice (Text.quoted name) "LogFormat".toList)

/-- A span of a trace: the identifiers of the trace and of the span, and whether it is being
recorded. -/
structure TraceSpan where
  trace : Nat
  span : Nat
  recording : Bool
  deriving DecidableEq, Repr

namespace TraceSpan

/-- Whether the identifiers are valid: not zero, and of at most 128 and 64 bits. -/
def isValid (s : TraceSpan) : Bool :=
  0 < s.trace && s.trace < Nat.pow 2 128 && 0 < s.span && s.span < Nat.pow 2 64

/-- The fields that a span adds to records. -/
def fields : Option TraceSpan → List (Text × Value)
  | none => []
  | some s =>
    if s.recording && s.isValid then
      [("trace_id".toList, .text (Text.padded 16 32 s.trace)),
        ("span_id".toList, .text (Text.padded 16 16 s.span))]
    else []

end TraceSpan

/-- A record of the log. -/
structure Record where
  level : Value
  component : Value
  message : Value
  fields : List (Text × Value)
  exception : Option Text

namespace Record

/-- The parts of a record that are not shown as fields. -/
def hiddenNames : List Text := [
  "name", "msg", "args", "created", "filename", "funcName", "levelname", "levelno", "lineno",
  "module", "msecs", "pathname", "process", "processName", "relativeCreated", "stack_info",
  "exc_info", "exc_text", "thread", "threadName", "message", "asctime", "taskName"].map String.toList

/-- A name that no field can have, since the record itself uses it. -/
def isReserved (name : Text) : Bool := hiddenNames.contains name && name != "taskName".toList

/-- Sets a part of a record by name: the level, the component or the message, a hidden part, which
does not show, or a field. -/
def assign (r : Record) (name : Text) (v : Value) : Record :=
  if name = "levelname".toList then { r with level := v }
  else if name = "name".toList then { r with component := v }
  else if name = "msg".toList then { r with message := v }
  else if hiddenNames.contains name then r
  else { r with fields := Table.put name v r.fields }

/-- The time of a record. Times are not taken here. -/
def time : Value := .text "<TS>".toList

/-- The text of a value in a record. -/
def shown (v : Value) : Except Failure Text :=
  match v.plain? with
  | some t => .ok t
  | none => .error (.tooManyDigits none)

/-- The members of the JSON line of a record, by name. -/
def members (r : Record) (span : Option TraceSpan) (message : Text) : List (Text × Value) :=
  let parts : List (Text × Value) := [("timestamp".toList, time), ("level".toList, r.level),
    ("component".toList, r.component), ("message".toList, .text message)]
  let all := Table.update (Table.update parts (TraceSpan.fields span)) r.fields
  match r.exception with
  | some t => Table.put "exception".toList (.text t) all
  | none => all

/-- The JSON line of a record. -/
def jsonLine (r : Record) (span : Option TraceSpan) : Except Failure Text := do
  let message ← shown r.message
  let object := Value.dict ((r.members span message).map fun m => (.text m.1, m.2))
  (Json.ofValue .spaced object).mapError Failure.json

/-- A field in a plain line. -/
def plainField (field : Text × Value) : Except Failure Text := do
  let t ← shown field.2
  .ok (field.1 ++ ['='] ++ t)

/-- The plain line of a record. -/
def plainLine (r : Record) (span : Option TraceSpan) : Except Failure Text := do
  let level ← shown r.level
  let component ← shown r.component
  let message ← shown r.message
  let fields ← (Table.update (TraceSpan.fields span) r.fields).mapM plainField
  let head := level ++ " [".toList ++ component ++ "] ".toList ++ message
  let tail := if fields.isEmpty then [] else [' '] ++ Text.join [' '] fields
  let trail := match r.exception with
    | some t => ['\n'] ++ t
    | none => []
  .ok (head ++ tail ++ trail)

/-- The line of a record. -/
def line (r : Record) (layout : LogLayout) (span : Option TraceSpan) : Except Failure Text :=
  match layout with
  | .json => r.jsonLine span
  | .plain => r.plainLine span

end Record

/-- The last line of a report about a failure of the application's own code. -/
def Raised.line (r : Raised) : Text :=
  match (Failure.raised r).told with
  | .ok t => if t.isEmpty then r.kind else r.kind ++ ": ".toList ++ t
  | .error _ => r.kind ++ ": <exception str() failed>".toList

end Stencil
