import Stencil.Engine
import Stencil.Journal.Log
import Stencil.Settings.Loader

/-!
# Applications

An application is an engine made from settings, together with the log that its reports go to.
-/

set_option autoImplicit false

namespace Stencil

/-- An engine and its log. -/
structure Application where
  engine : Engine
  log : Log

namespace Engine

/-- An engine that reads the templates of a directory, as settings say. -/
def ofSettings (d : Disk) (s : Settings) : Except Failure Engine := do
  let source ← Source.ofDirectory d s.directory.text s.encoding.text
  .ok (.new d source)

end Engine

namespace Application

/-- The report about a new engine. -/
def announcement (s : Settings) : Entry :=
  ⟨.info, "application".toList, "Template engine initialized".toList,
    [("templates_dir".toList, s.directory.toValue), ("encoding".toList, s.encoding.toValue)]⟩

/-- Makes an application from given settings, or from those that are found, with a log that writes
to a stream. -/
def create (s : Environs) (path : Option Text) (given : Option Settings) (stream : Text) :
    Except Failure Application := do
  let settings ← match given with
    | some settings => .ok settings
    | none => (Settings.find s path true).map Loaded.settings
  let (configured, log) :=
    (Log.new.withStream stream).configure stream settings.level.text settings.layout
  configured
  let engine ← Engine.ofSettings s.disk settings
  .ok ⟨engine, log.note (announcement settings)⟩

/-- Takes an engine that has worked on; what it has reported meanwhile goes to the log. -/
def follow (a : Application) (e : Engine) : Application :=
  let seen := a.engine.session.machine.journal.length
  ⟨e, (e.session.machine.journal.drop seen).foldl Log.note a.log⟩

end Application
end Stencil
