import Stencil.Settings.Check
import Stencil.Files.Tree
import Stencil.Files.Encoding

/-!
# Loading settings

A loader reads settings from data or from a file, and keeps those of the last success together with
the file that they came from. A failure leaves it as it was. What the texts of such files mean is up
to the host, which reads documents.
-/

set_option autoImplicit false

namespace Stencil

/-- Why a text is no document. -/
inductive DocumentProblem where
  /-- The text is malformed. -/
  | malformed (reason : Text)
  /-- Reading it failed in another way. -/
  | broken (e : Failure)

/-- What settings are looked for in: the environment, the disk, and what reads documents. -/
structure Environs where
  environment : Environment
  disk : Disk
  /-- The value of a document. -/
  document : Text → Except DocumentProblem Value

/-- Settings, and the file that they came from if they came from one. -/
structure Loaded where
  settings : Settings
  path : Option Text

/-- A loader of settings; it holds what it loaded last. -/
structure SettingsLoader where
  last : Option Loaded

namespace Settings

/-- The variable that names the file of the settings. -/
def pathVariable : Text := "DJENO_CONFIG_PATH".toList

/-- The file of the settings where none is named. -/
def defaultPath : Text := "djeno.yaml".toList

/-- The first text that is not empty. -/
def firstGiven : List (Option Text) → Text → Text
  | [], fallback => fallback
  | some (c :: t) :: _, _ => c :: t
  | _ :: rest, fallback => firstGiven rest fallback

/-- The path of the file to load. -/
def chosenPath (env : Environment) (path : Option Text) : Text :=
  FilePath.normalized (firstGiven [path, env.lookup pathVariable] defaultPath)

/-- The octets of the file at a path; nothing if there is no such file. -/
def octetsAt (d : Disk) (path : Text) : Except Failure (Option (List Nat)) :=
  if path.contains '\x00' then .ok none
  else match d.fileAt path with
    | .ok octets => .ok (some octets)
    | .error (.notFound _) | .error (.notDirectory _) => .ok none
    | .error p => .error (.file p)

/-- The text of a file of settings, which is always in UTF-8. -/
def textOf (octets : List Nat) : Except Failure Text :=
  match Encoding.decode .utf8 octets with
  | .ok t => .ok (Encoding.unifyLines t)
  | .error (.undecodable p) => .error (.undecodable p)
  | .error (.misencoded reason) => .error (.misencoded reason)

/-- The data that a document stands for; an empty document has no entries. -/
def dataOfDocument (path : Text) (document : Except DocumentProblem Value) :
    Except Failure SettingsData :=
  match document with
  | .error (.malformed reason) => refuse ("Invalid YAML in config file: ".toList ++ reason)
  | .error (.broken e) => .error e
  | .ok .undefined => .ok []
  | .ok (.dict entries) => .ok entries
  | .ok _ => refuse ("Configuration root must be a mapping: ".toList ++ path)

/-- The settings of a file, with the references in it resolved. -/
def ofFile (s : Environs) (path : Text) (octets : List Nat) : Except Failure Settings := do
  let t ← textOf octets
  let data ← dataOfDocument path (s.document t)
  let filled ← s.environment.fillEntries data
  ofData s.disk.codecs filled

/-- The settings of the file at a path, of the file that the environment names, or of the usual one.
If there is no such file, there are the default settings, unless they are not wanted. -/
def find (s : Environs) (path : Option Text) (useDefaults : Bool) : Except Failure Loaded := do
  let path := chosenPath s.environment path
  match ← octetsAt s.disk path with
  | some octets => do
    let settings ← ofFile s path octets
    .ok ⟨settings, some path⟩
  | none =>
    if useDefaults then do
      let settings ← ofData s.disk.codecs []
      .ok ⟨settings, none⟩
    else refuse ("Configuration file not found: ".toList ++ path)

end Settings

namespace SettingsLoader

/-- A loader that has loaded nothing. -/
def new : SettingsLoader := ⟨none⟩

/-- Keeps what was loaded; a failure leaves the loader as it was. -/
def keep (l : SettingsLoader) : Except Failure Loaded → Except Failure Settings × SettingsLoader
  | .ok loaded => (.ok loaded.settings, ⟨some loaded⟩)
  | .error e => (.error e, l)

/-- Loads settings from data; the path says where the data came from, if that is known. -/
def loadData (l : SettingsLoader) (codecs : Codecs) (data : SettingsData) (path : Option Text) :
    Except Failure Settings × SettingsLoader :=
  l.keep ((Settings.ofData codecs data).map fun s => ⟨s, path⟩)

/-- Loads settings from a file. -/
def load (l : SettingsLoader) (s : Environs) (path : Option Text) (useDefaults : Bool) :
    Except Failure Settings × SettingsLoader :=
  l.keep (Settings.find s path useDefaults)

/-- The settings that were loaded last. -/
def get (l : SettingsLoader) : Except Failure Settings :=
  match l.last with
  | some loaded => .ok loaded.settings
  | none => Settings.refuse "Configuration not loaded".toList

/-- The file that the settings came from. -/
def path? (l : SettingsLoader) : Option Text := l.last.bind Loaded.path

end SettingsLoader
end Stencil
