import Stencil.Render.Inheritance
import Stencil.Filter.Builtin

/-!
# Engines

An engine has filters and a session. Its operations render templates by path or from a source at
hand, load templates, check sources and list what a template refers to. Each operation gives its
result and the engine after it, also when it fails.
-/

set_option autoImplicit false

namespace Stencil

/-- An engine. -/
structure Engine where
  filters : Filters
  session : Session

namespace Engine

/-- An engine with the built-in filters. -/
def new (disk : Disk) (source : Source) : Engine := ⟨Filter.builtin, .start disk source⟩

/-- The depth to which inclusions nest. It lies beyond the number of templates that can be read, so
that only inclusions that come back to a template reach it. -/
def inclusionLimit (s : Session) : Nat := 1000 + s.source.size s.disk

/-- Runs a computation in the engine's session. -/
def run {α : Type} (e : Engine) (x : Work α) : Except Failure α × Engine :=
  let (result, session) := ExceptT.run x |>.run e.session
  (result, { e with session := session })

/-- The output of the template at a path. -/
def renderPath (filters : Filters) (path : Text) (c : Context) : Work Text := do
  let template ← Work.load path
  let depth := inclusionLimit (← get)
  let output ← Node.renderTemplate filters depth template.tree c (some template.path)
  Work.note ⟨.debug, "engine".toList, "Template rendered".toList,
    [("path".toList, .text path), ("duration_ms".toList, Entry.duration),
      ("size".toList, .int output.length)]⟩
  pure output

/-- The output of a source, which is not kept. -/
def renderSource (filters : Filters) (source : Text) (c : Context) : Work Text := do
  let tree ← Work.ofExcept (Node.parse none source)
  let depth := inclusionLimit (← get)
  Node.renderTemplate filters depth tree c none

/-- Renders the template at a path. -/
def renderTemplate (e : Engine) (path : Text) (c : Context) : Except Failure Text × Engine :=
  e.run (renderPath e.filters path c)

/-- Renders a source. -/
def renderString (e : Engine) (source : Text) (c : Context) : Except Failure Text × Engine :=
  e.run (renderSource e.filters source c)

/-- Renders a tree, whose path is given if it is known. -/
def renderTree (e : Engine) (tree : List Node) (c : Context) (path : Option Text) :
    Except Failure Text × Engine :=
  e.run (Node.renderTemplate e.filters (inclusionLimit e.session) tree c path)

/-- The template at a path. -/
def load (e : Engine) (path : Text) : Except Failure Template × Engine := e.run (Work.load path)

/-- The paths that the template at a path refers to. -/
def dependencies (e : Engine) (path : Text) : Except Failure (List Text) × Engine :=
  e.run do
    let template ← Work.load path
    pure (Node.treeReferences template.tree)

/-- What is wrong with a source: nothing, or the first problem. -/
def validate (source : Text) : List Text :=
  match Node.parse none source with
  | .ok _ => []
  | .error e => [e.message]

/-- Registers a filter under a name, in place of any other of that name. -/
def register (e : Engine) (name : Text) (f : Filter) : Engine :=
  { e with filters := Table.put name f e.filters }

/-- The names of the filters, in alphabetical order. -/
def filterNames (e : Engine) : List Text :=
  (Table.keys e.filters).mergeSort fun a b => Text.order a b != .gt

/-- Forgets the templates that were loaded. -/
def forget (e : Engine) : Engine := { e with session := e.session.forget }

/-- Reads templates from another source from now on. -/
def withSource (e : Engine) (source : Source) : Engine :=
  { e with session := { e.session.forget with source := source } }

/-- Changes the source of a template that is read from a table. What is kept stays. -/
def putSource (e : Engine) (path text : Text) : Engine :=
  { e with session := { e.session with source := e.session.source.put path text } }

/-- Puts a file or directory on the disk. What is kept stays. -/
def putFile (e : Engine) (path : Text) (n : FileNode) : Engine :=
  { e with session := { e.session with disk := e.session.disk.put path n } }

/-- The source text of a template, as the loader gives it. -/
def readSource (e : Engine) (path : Text) : Except Failure Text × Engine :=
  e.run do
    let s ← get
    set { s with reads := s.reads ++ [path] }
    Work.ofExcept (s.source.read s.disk path)

/-- Renders a source with a second engine on the same disk and source, which has the built-in
filters and no templates of its own yet. -/
def renderAside (e : Engine) (source : Text) (c : Context) : Except Failure Text × Engine :=
  let (result, other) := renderString ⟨Filter.builtin, e.session.forget⟩ source c
  (result, { e with session := { other.session with kept := e.session.kept } })

/-- How often each path was read, in alphabetical order of the paths. -/
def readCounts (e : Engine) : List (Text × Nat) :=
  let paths := e.session.reads.foldl
    (fun counts path => Table.put path ((counts.lookup path).getD 0 + 1) counts) []
  paths.mergeSort fun a b => Text.order a.1 b.1 != .gt

end Engine
end Stencil
