import Stencil.Files.Path
import Stencil.Files.Codecs
import Stencil.Table

/-!
# File trees

Files and directories by location. A directory exists if it was made or if something lies below it.
Opening a file follows its names one by one, and the first name that leads nowhere decides how it
fails.
-/

set_option autoImplicit false

namespace Stencil

/-- What was put at a location: the octets of a file, or an empty directory. -/
inductive FileNode where
  | file (octets : List Nat)
  | directory
  deriving DecidableEq, Repr

/-- A file tree without symbolic links. -/
structure FileTree where
  nodes : List (Location × FileNode)

namespace FileTree

/-- The tree that holds nothing. -/
def empty : FileTree := ⟨[]⟩

/-- Puts a file or directory at a location. -/
def put (t : FileTree) (l : Location) (n : FileNode) : FileTree := ⟨Table.put l n t.nodes⟩

/-- The octets of the file at a location. -/
def file? (t : FileTree) (l : Location) : Option (List Nat) :=
  match t.nodes.lookup l with
  | some (.file octets) => some octets
  | _ => none

/-- Whether a location is a directory. -/
def isDirectory (t : FileTree) (l : Location) : Bool :=
  l.isEmpty || t.nodes.any fun e =>
    (l.isPrefixOf e.1 && l.length < e.1.length) || (e.1 == l && e.2 == .directory)

/-- Whether there is anything at a location. -/
def contains (t : FileTree) (l : Location) : Bool := (t.file? l).isSome || t.isDirectory l

/-- The number of octets of a text in UTF-8. -/
def octetCount (t : Text) : Nat := t.foldl (fun n c => n + c.utf8Size) 0

/-- The greatest number of octets of a name. -/
def nameLimit : Nat := 255

/-- The greatest number of octets of a path. -/
def pathLimit : Nat := 4095

/-- Follows names below a directory to a file. The text is the whole path, for the problem. -/
def followFrom (t : FileTree) (path : Text) (here : Location) :
    List Text → Except FileProblem (List Nat)
  | [] => .error (.isDirectory path)
  | name :: rest =>
    if nameLimit < octetCount name then .error (.nameTooLong path)
    else match t.file? (here ++ [name]) with
      | some octets => if rest.isEmpty then .ok octets else .error (.notDirectory path)
      | none =>
        if t.isDirectory (here ++ [name]) then followFrom t path (here ++ [name]) rest
        else .error (.notFound path)

/-- The octets of the file at a location, which problems call by the given path. -/
def read (t : FileTree) (path : Text) (l : Location) : Except FileProblem (List Nat) :=
  if pathLimit < octetCount path then .error (.nameTooLong path) else followFrom t path [] l

/-- Follows the names of a path, as they are written, from a directory to a file. Unlike in a
location, a double dot leads up from a directory that has to exist. -/
def walk (t : FileTree) (path : Text) (here : Location) :
    List Text → Except FileProblem (List Nat)
  | [] => .error (.isDirectory path)
  | name :: rest =>
    if name.isEmpty ∨ name = ['.'] then walk t path here rest
    else if name = ['.', '.'] then walk t path here.dropLast rest
    else if nameLimit < octetCount name then .error (.nameTooLong path)
    else match t.file? (here ++ [name]) with
      | some octets => if rest.isEmpty then .ok octets else .error (.notDirectory path)
      | none =>
        if t.isDirectory (here ++ [name]) then walk t path (here ++ [name]) rest
        else .error (.notFound path)

end FileTree

/-- The files that an engine can reach, the directory that relative paths start from, and the
encodings that files can be read in. -/
structure Disk where
  workingDirectory : Location
  tree : FileTree
  codecs : Codecs

namespace Disk

/-- A disk without files. -/
def empty (codecs : Codecs) : Disk := ⟨[], .empty, codecs⟩

/-- The octets of the file at a path, whose names are followed one by one. -/
def fileAt (d : Disk) (path : Text) : Except FileProblem (List Nat) :=
  let start := if path.head? = some '/' then [] else d.workingDirectory
  if FileTree.pathLimit < FileTree.octetCount path then .error (.nameTooLong path)
  else d.tree.walk path start (Text.splitOn '/' path)

/-- Puts a file or directory at a path. -/
def put (d : Disk) (path : Text) (n : FileNode) : Disk :=
  { d with tree := d.tree.put (d.workingDirectory.resolve path) n }

end Disk
end Stencil
