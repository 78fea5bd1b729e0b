import Stencil.Text.Case
import Stencil.Value.Basic

/-!
# Settings

What an engine is set up with: the directory and the encoding of the templates, and the level and
the layout of the log.
-/

set_option autoImplicit false

namespace Stencil

/-- The layout of log lines. -/
inductive LogLayout where
  | json
  | plain
  deriving DecidableEq, Repr

namespace LogLayout

/-- The name of a layout. -/
def name : LogLayout → Text
  | .json => "json".toList
  | .plain => "text".toList

/-- The layouts. -/
def all : List LogLayout := [.json, .plain]

/-- The layout of a name. -/
def ofName? (t : Text) : Option LogLayout := all.find? fun f => f.name == t

end LogLayout

/-- A text that may be marked as safe. -/
structure Label where
  text : Text
  safe : Bool
  deriving DecidableEq, Repr

namespace Label

/-- A text without a mark. -/
def ofText (t : Text) : Label := ⟨t, false⟩

/-- The text that a value is. -/
def ofValue? : Value → Option Label
  | .text t => some ⟨t, false⟩
  | .safe t => some ⟨t, true⟩
  | _ => none

/-- A text as a value. -/
def toValue (l : Label) : Value := if l.safe then .safe l.text else .text l.text

/-- A text in upper case, marked as before. -/
def upper (l : Label) : Label := { l with text := Text.upper l.text }

end Label

/-- The settings of an engine. -/
structure Settings where
  directory : Label
  encoding : Label
  level : Label
  layout : LogLayout
  deriving DecidableEq, Repr

namespace Settings

/-- The settings of an engine that is given none. -/
def default : Settings :=
  ⟨.ofText "./templates".toList, .ofText "utf-8".toList, .ofText "INFO".toList, .json⟩

/-- The levels that settings may name. -/
def levelNames : List Text := [
  "DEBUG".toList, "INFO".toList, "WARN".toList, "WARNING".toList, "ERROR".toList, "CRITICAL".toList]

end Settings
end Stencil
