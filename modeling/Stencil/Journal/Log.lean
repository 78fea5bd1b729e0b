import Stencil.Journal.Record

/-!
# The log

The log takes reports from loggers, one for each component, and writes those that are urgent enough
to a stream. It is configured with a level and a layout; configuring it again replaces the stream
and the layout, so that a report is never written twice. Without a configuration, and after a reset,
nothing is written.
-/

set_option autoImplicit false

namespace Stencil

/-- A logger: the component that it reports for, and how often the loggers had been given up before
it was made. -/
structure Logger where
  component : Text
  generation : Nat
  deriving DecidableEq, Repr

/-- The name of the log, under which all loggers stand. -/
def Logger.root : Text := "djeno".toList

/-- The full name of a logger. -/
def Logger.name (l : Logger) : Text := Logger.root ++ ['.'] ++ l.component

/-- The log. -/
structure Log where
  /-- The level that was set, zero if none was. -/
  level : Int
  /-- The stream that lines go to, and their layout. -/
  target : Option (Text × LogLayout)
  /-- What was written to each stream. -/
  written : List (Text × Text)
  generation : Nat

namespace Log

/-- A log that is not configured. -/
def new : Log := ⟨0, none, [], 0⟩

/-- The logger of a component. -/
def logger (l : Log) (component : Text) : Logger := ⟨component, l.generation⟩

/-- The level from which on reports are taken. -/
def threshold (l : Log) : Int := if l.level = 0 then Level.fallback else l.level

/-- Whether reports at a level are taken. -/
def takes (l : Log) (level : Int) : Bool := 0 < level && l.threshold ≤ level

/-- Makes a stream, unless there is one of that name. -/
def withStream (l : Log) (stream : Text) : Log :=
  if Table.has stream l.written then l else { l with written := l.written ++ [(stream, [])] }

/-- Sets the level, in any case, and then the stream and the layout. A level that does not exist
leaves the log as it was. -/
def configure (l : Log) (stream level : Text) (layout : LogLayout) : Except Failure Unit × Log :=
  match Level.ofName? (Text.upper level) with
  | none => (.error (.unknownLevel (Text.upper level)), l)
  | some n => (.ok (), { l with level := n, target := some (stream, layout) })

/-- Gives up the stream and the loggers; the level stays. -/
def reset (l : Log) : Log := { l with target := none, generation := l.generation + 1 }

/-- The number of streams that a report is written to. -/
def targetCount (l : Log) : Nat := if l.target.isSome then 1 else 0

/-- Writes a line to a stream. -/
def write (l : Log) (stream line : Text) : Log :=
  { l with written :=
    Table.put stream ((l.written.lookup stream).getD [] ++ line ++ ['\n']) l.written }

/-- Writes a record; a record without a line is not written. -/
def record (l : Log) (r : Record) (span : Option TraceSpan) : Log :=
  match l.target with
  | none => l
  | some (stream, layout) =>
    match r.line layout span with
    | .ok line => l.write stream line
    | .error _ => l

/-- The names that a report uses for its own parts, so that no field can have them; a report of an
error that is being handled has no level of its own. -/
def partNames (handling : Bool) : List Text :=
  ["self".toList, "message".toList] ++ if handling then [] else ["level".toList]

/-- What a report says about the error that is being handled when there is none. -/
def noException : Text := "NoneType: None".toList

/-- Takes a report of a component. A report of an error that is being handled also tells that error,
of which there is none here. -/
def report (l : Log) (component : Text) (level : Level) (handling : Bool) (message : Text)
    (fields : List (Text × Value)) (span : Option TraceSpan) : Except Failure Unit × Log :=
  match fields.find? fun f => (partNames handling).contains f.1 with
  | some f => (.error (.unfit ("got multiple values for argument '".toList ++ f.1 ++ ['\''])), l)
  | none =>
    if !l.takes level.number then (.ok (), l)
    else match fields.find? fun f => Record.isReserved f.1 with
      | some f => (.error (.reservedField f.1), l)
      | none =>
        let r : Record := {
          level := .text level.name
          component := .text (l.logger component).name
          message := .text message
          fields := fields.filter fun f => !Record.hiddenNames.contains f.1
          exception := if handling then some noException else none }
        (.ok (), l.record r span)

/-- Takes an entry of a journal. -/
def note (l : Log) (e : Entry) : Log :=
  (l.report e.component e.level false e.message e.fields none).2

/-- What was written to each stream, which is then forgotten. -/
def drain (l : Log) : List (Text × Text) × Log :=
  (l.written, { l with written := l.written.map fun w => (w.1, []) })

end Log
end Stencil
