import Stencil.Settings.Basic
import Stencil.Settings.Environment
import Stencil.Files.Codecs
import Stencil.Value.Display
import Stencil.Value.Key

/-!
# Checking settings

The data of a configuration is a dictionary. Keys that are not known give warnings; texts that are
no texts, an encoding that does not exist, and a wrong section about logging give errors. A report
is valid only if it has no errors.
-/

set_option autoImplicit false

namespace Stencil

/-- The data of a configuration: the entries of a dictionary. -/
abbrev SettingsData := List (Value × Value)

/-- A remark about the data: the key that it is about, and its text. -/
structure Remark where
  key : Value
  text : Text

/-- What a check found. -/
structure Report where
  valid : Bool
  errors : List Remark
  warnings : List Remark

namespace Report

/-- A report that claims to be valid or not; with errors it is not, whatever it claims. -/
def make (claimed : Bool) (errors warnings : List Remark) : Report :=
  ⟨claimed && errors.isEmpty, errors, warnings⟩

end Report

namespace Settings

/-- The key of the directory of the templates. -/
def directoryKey : Text := "templates_dir".toList

/-- The key of their encoding. -/
def encodingKey : Text := "encoding".toList

/-- The key of the section about logging. -/
def loggingKey : Text := "logging".toList

/-- The key of the level, in the section about logging. -/
def levelKey : Text := "level".toList

/-- The key of the layout of the log, in the section about logging. -/
def layoutKey : Text := "format".toList

/-- The text of a value in a remark. -/
def shown (v : Value) : Except Failure Text :=
  match v.plain? with
  | some t => .ok t
  | none => .error (.tooManyDigits none)

/-- A remark about a key of the data. -/
def remark (key text : Text) : Remark := ⟨.text key, text⟩

/-- Whether a key is known. -/
def isKnown (key : Value) : Bool :=
  [directoryKey, encodingKey, loggingKey].any fun name => key.sameKey (.text name)

/-- The warnings about keys that are not known. -/
def unknownKeys : SettingsData → Except Failure (List Remark)
  | [] => .ok []
  | (k, _) :: rest => do
    if isKnown k then unknownKeys rest
    else
      let name ← shown k
      let others ← unknownKeys rest
      .ok (⟨k, "Unknown configuration key: ".toList ++ name⟩ :: others)

/-- The error about a key whose value has to be a text. -/
def notText (data : SettingsData) (key : Text) : List Remark :=
  match Value.lookupName key data with
  | none => []
  | some v =>
    if v.text?.isSome then [] else [remark key (key ++ " must be a string".toList)]

/-- The error about an encoding that does not exist. -/
def unknownEncoding (codecs : Codecs) (data : SettingsData) : Except Failure (List Remark) :=
  match (Value.lookupName encodingKey data).bind Value.text? with
  | none => .ok []
  | some name =>
    if name.contains '\x00' then .error .nulInEncoding
    else if codecs.knows name then .ok []
    else .ok [remark encodingKey ("Unknown encoding: ".toList ++ name)]

/-- Whether a value names a level, in any case. -/
def isLevel (v : Value) : Bool :=
  match v.text? with
  | some t => levelNames.contains (Text.upper t)
  | none => false

/-- The error about a level that does not exist. -/
def unknownLevel (logging : SettingsData) : Except Failure (List Remark) :=
  match Value.lookupName levelKey logging with
  | none => .ok []
  | some v => do
    if isLevel v then .ok []
    else
      let t ← shown v
      .ok [remark "logging.level".toList ("Invalid log level: ".toList ++ t)]

/-- The layout that a value names. -/
def layoutOf? (v : Value) : Option LogLayout := v.text?.bind LogLayout.ofName?

/-- Whether a value can be looked for among names; what can change cannot, unless it is a set. -/
def isComparable : Value → Bool
  | .set _ | .shared _ .set _ => true
  | v => v.isKey

/-- The error about a layout that does not exist. -/
def unknownLayout (logging : SettingsData) : Except Failure (List Remark) :=
  match Value.lookupName layoutKey logging with
  | none => .ok []
  | some v => do
    if !isComparable v then .error (.unfit ("unhashable type: '".toList ++ v.typeName ++ ['\'']))
    else if (layoutOf? v).isSome then .ok []
    else
      let t ← shown v
      .ok [remark "logging.format".toList ("Invalid log format: ".toList ++ t)]

/-- The errors of the section about logging. -/
def loggingErrors (data : SettingsData) : Except Failure (List Remark) :=
  match Value.lookupName loggingKey data with
  | none => .ok []
  | some (.dict logging) => do
    let level ← unknownLevel logging
    let layout ← unknownLayout logging
    .ok (level ++ layout)
  | some _ => .ok [remark loggingKey "logging must be a dictionary".toList]

/-- Checks the data of a configuration. -/
def check (codecs : Codecs) (data : SettingsData) : Except Failure Report := do
  let warnings ← unknownKeys data
  let encoding ← unknownEncoding codecs data
  let logging ← loggingErrors data
  .ok (.make true
    (notText data directoryKey ++ notText data encodingKey ++ encoding ++ logging) warnings)

/-- The text under a key, or a default. -/
def textAt (data : SettingsData) (key : Text) (fallback : Label) : Label :=
  ((Value.lookupName key data).bind Label.ofValue?).getD fallback

/-- The section about logging, which is empty if it is left out. -/
def loggingSection (data : SettingsData) : SettingsData :=
  match Value.lookupName loggingKey data with
  | some (.dict logging) => logging
  | _ => []

/-- The settings that checked data stands for. -/
def ofChecked (data : SettingsData) : Settings :=
  let logging := loggingSection data
  { directory := textAt data directoryKey default.directory
    encoding := textAt data encodingKey default.encoding
    level := (textAt logging levelKey default.level).upper
    layout := ((Value.lookupName layoutKey logging).bind layoutOf?).getD default.layout }

/-- The reason for refusing data with errors. -/
def refusal (errors : List Remark) : Text :=
  "Configuration validation failed:\n".toList ++
    Text.join ['\n'] (errors.map fun e => "- ".toList ++ e.text)

/-- The settings of the data of a configuration. -/
def ofData (codecs : Codecs) (data : SettingsData) : Except Failure Settings := do
  let report ← check codecs data
  if report.valid then .ok (ofChecked data)
  else refuse (refusal report.errors)

/-- Goes through keys as a check does, which fails at a key that cannot be one or has no text. -/
def passKeys : List Value → Except Failure Unit
  | [] => .ok ()
  | k :: rest =>
    if !isComparable k then .error (.unfit ("unhashable type: '".toList ++ k.typeName ++ ['\'']))
    else do
      let _ ← unknownKeys [(k, .undefined)]
      passKeys rest

/-- Whether a text holds another one. -/
def holds (part : Text) : Text → Bool
  | [] => part.isEmpty
  | c :: rest => Text.begins part (c :: rest) || holds part rest

/-- Fails because a value is no mapping: it has no entries to go through, its parts cannot be keys,
a part is a known key but has no value, or there is nothing to look a key up in. -/
def noMapping (v : Value) : Except Failure SettingsData :=
  let names := [directoryKey, encodingKey]
  let noValue : Except Failure SettingsData :=
    .error (.unfit (v.typeName ++ " indices must be integers".toList))
  let noLookup : Except Failure SettingsData := .error (.lacking v.typeName "get".toList)
  match v with
  | .text t | .safe t => if names.any fun name => holds name t then noValue else noLookup
  | .bytes _ => .error (.unfit "a bytes-like object is required, not 'str'".toList)
  | .list items | .tuple items | .set items | .shared _ _ items => do
    passKeys items
    if items.any fun k => names.any fun name => k.sameKey (.text name) then noValue else noLookup
  | .cursor _ items => do
    passKeys items
    noLookup
  | .range _ _ _ => noLookup
  | v => .error (.unfit (['\''] ++ v.typeName ++ "' object is not iterable".toList))

/-- The data that a value is: the entries of a mapping. -/
def dataOf : Value → Except Failure SettingsData
  | .dict entries | .view entries => .ok entries
  | v => noMapping v

end Settings
end Stencil
