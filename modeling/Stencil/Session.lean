import Stencil.Template.Source
import Stencil.Machine

/-!
# Sessions

A session loads templates. The first load of a path reads its source and parses it; the template is
then kept, and later loads give it back without reading anything. A load that fails leaves nothing
behind but the read. The session also carries the state of evaluation, and all of it is kept when an
operation fails.
-/

set_option autoImplicit false

namespace Stencil

/-- A parsed template. -/
structure Template where
  path : Text
  source : Text
  tree : List Node

/-- A template that is kept, with the number of reads that preceded its own. -/
structure Kept where
  template : Template
  read : Nat

/-- Where templates come from and what has been done with them. -/
structure Session where
  disk : Disk
  source : Source
  /-- The templates that were loaded, by path. -/
  kept : List (Text × Kept)
  /-- The paths whose sources were read, the latest last. -/
  reads : List Text
  /-- The paths that were asked for, the latest last. -/
  requests : List Text
  machine : Machine

/-- A computation in a session. -/
abbrev Work := ExceptT Failure (StateM Session)

namespace Session

/-- A session before the first load. -/
def start (disk : Disk) (source : Source) : Session :=
  ⟨disk, source, [], [], [], ⟨.startingAt 0, []⟩⟩

/-- A session that has forgotten its templates. -/
def forget (s : Session) : Session := { s with kept := [] }

/-- Whether a path is loaded. -/
def has (s : Session) (path : Text) : Bool := Table.has path s.kept

/-- A bound for the number of different templates that can follow one another without one coming
twice. -/
def chainBound (s : Session) : Nat := s.kept.length + s.source.size s.disk + 2

end Session

namespace Work

/-- Runs a computation of the evaluator. -/
def evaluating {α : Type} (x : Eval α) : Work α :=
  ExceptT.mk fun s =>
    let (result, machine) := x.run.run s.machine
    (result, { s with machine := machine })

/-- Adds an entry to the journal. -/
def note (e : Entry) : Work Unit := evaluating (Eval.note e)

/-- A result as a computation. -/
def ofExcept {α : Type} : Except Failure α → Work α
  | .ok a => pure a
  | .error e => throw e

/-- The component that reports about loading. -/
def storeComponent : Text := "store".toList

/-- Reports that a source could not be parsed. -/
def noteRejected (path : Text) : Failure → Work Unit
  | .fault f =>
    note ⟨.warning, storeComponent, "Template parse failed".toList,
      [("path".toList, .text path), ("code".toList, .text f.code),
        ("error".toList, .text f.message)]⟩
  | _ => pure ()

/-- Reads and parses a template, and keeps it. -/
def loadAnew (path : Text) : Work Template := do
  let s ← get
  set { s with reads := s.reads ++ [path] }
  let source ← ofExcept (s.source.read s.disk path)
  match Node.parse (some path) source with
  | .error e => do
    noteRejected path e
    throw e
  | .ok tree => do
    let template : Template := ⟨path, source, tree⟩
    modify fun t => { t with kept := Table.put path ⟨template, s.reads.length⟩ t.kept }
    note ⟨.debug, storeComponent, "Template loaded".toList,
      [("path".toList, .text path), ("parse_ms".toList, Entry.duration),
        ("nodes".toList, .int tree.length)]⟩
    pure template

/-- The template of a path. -/
def load (path : Text) : Work Template := do
  modify fun s => { s with requests := s.requests ++ [path] }
  let s ← get
  match s.kept.lookup path with
  | some kept => pure kept.template
  | none => loadAnew path

end Work
end Stencil
