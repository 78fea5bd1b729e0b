import Stencil.Fault.Registry
import Stencil.Files.Tree
import Stencil.Files.Encoding
import Stencil.Template.Frame

/-!
# Sources of templates

Where the sources of templates come from: a table in memory, or a directory of files. A path that
does not lead to a readable file of the directory gives the fault for a missing template, with the
reason as its detail.
-/

set_option autoImplicit false

namespace Stencil

/-- Where templates are read from. -/
inductive Source where
  | table (templates : List (Text × Text))
  | directory (root : Location) (encoding : Text)

namespace Source

/-- The directory at a path. -/
def ofDirectory (d : Disk) (root encoding : Text) : Except Failure Source :=
  if root.contains '\x00' then .error .nulInPath
  else .ok (.directory (d.workingDirectory.resolve root) encoding)

/-- The code of the fault for a template that cannot be read. -/
def missingCode : Text := "TEMPLATE_NOT_FOUND".toList

/-- Fails because a template cannot be read, for a reason with a kind and a text. -/
def missing {α : Type} (path kind message : Text) : Except Failure α :=
  Registry.raiseWrapped kind message missingCode [("path".toList, .text path)]

/-- Reads a file below a root. -/
def readFile (d : Disk) (root : Location) (encoding path : Text) : Except Failure Text :=
  if path.contains '\x00' then .error .nulInPath
  else
    let location := root.resolve path
    if !root.isWithin location then
      Registry.raise missingCode [("path".toList, .text path),
        ("detail".toList, .text ("Path resolves outside the templates directory ".toList ++
          root.toText))]
    else if encoding.contains '\x00' then .error .nulInEncoding
    else match d.tree.read location.toText location with
      | .error p => missing path p.kind p.message
      | .ok octets => match d.codecs.reader encoding with
        | .error reason => .error (.noEncoding reason)
        | .ok decode => match decode octets with
          | .ok t => .ok (Encoding.unifyLines t)
          | .error (.undecodable p) => missing path DecodeProblem.kind p.message
          | .error (.misencoded reason) => .error (.misencoded reason)

/-- The source text of a template. -/
def read (d : Disk) (path : Text) : Source → Except Failure Text
  | .table templates => match templates.lookup path with
    | some t => .ok t
    | none => missing path "KeyError".toList (Text.quoted path)
  | .directory root encoding => readFile d root encoding path

/-- Changes or adds a source of the table; a directory stays as it is. -/
def put (path text : Text) : Source → Source
  | .table templates => .table (Table.put path text templates)
  | source => source

/-- A bound for the number of templates that can be read. -/
def size (d : Disk) : Source → Nat
  | .table templates => templates.length
  | .directory _ _ => d.tree.nodes.length

end Source

/-- The template that a fault names, if it is known. -/
def templateValue : Option Text → Value
  | none => .undefined
  | some path => .text path

/-- The fault of a source that is not a template; it names the template if its path is known. -/
def SyntaxProblem.failure (p : SyntaxProblem) (path : Option Text) : Failure :=
  let place : List (Text × Value) := [
    ("template".toList, templateValue path),
    ("line".toList, .int p.token.position.line),
    ("column".toList, .int p.token.position.column),
    ("content".toList, .text p.token.content)]
  let (code, context) : Text × List (Text × Value) := match p.cause with
    | .unexpected keyword => ("TEMPLATE_SYNTAX".toList, [("tag".toList, .text keyword)])
    | .malformed keyword expected => ("TEMPLATE_INVALID_TAG".toList,
        [("tag".toList, .text keyword), ("expected".toList, .text expected)])
    | .unclosed keyword => ("TEMPLATE_UNCLOSED_TAG".toList, [("tag".toList, .text keyword)])
  match Registry.builtin.create code (place ++ context) with
  | .ok f => .fault f
  | .error e => e

/-- The tree of a template, whose faults name it if its path is known. -/
def Node.parse (path : Option Text) (source : Text) : Except Failure (List Node) :=
  match Node.ofSource? source with
  | .ok tree => .ok tree
  | .error p => .error (p.failure path)

end Stencil
