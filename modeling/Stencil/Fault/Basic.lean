import Stencil.Value.Truth

/-!
# Faults

A fault is an error of a template, its loading, its rendering or the configuration: a code, a
category, texts for the reader, and where in which template it was found. What a fault says of
its place is whatever it was given, which is why these fields hold values.
-/

set_option autoImplicit false

namespace Stencil

/-- Where a fault comes from. -/
inductive Category where
  | structural
  | loading
  | rendering
  | configuration
  deriving DecidableEq, Repr

namespace Category

/-- The name of a category. -/
def name : Category → Text
  | .structural => "SYNTAX".toList
  | .loading => "LOADER".toList
  | .rendering => "RENDER".toList
  | .configuration => "CONFIG".toList

/-- The category of a name. -/
def ofName? (t : Text) : Option Category :=
  [structural, loading, rendering, configuration].find? fun c => c.name == t

end Category

/-- An error with its texts and its place. -/
structure Fault where
  code : Text
  category : Category
  message : Text
  detail : Value
  suggestion : Option Text
  template : Value
  line : Value
  column : Value

/-- The place of a fault in words, for the end of a sentence: the template if it is named, the line
if it is known, and the column if the line is. There is no text if a part has none. -/
def Fault.location? (template line column : Value) : Option Text := do
  let named ← if template.isPresent then
      (template.plain?).map fun t => " in \"".toList ++ t ++ ['"']
    else some []
  match line with
  | .undefined => some named
  | line =>
    let atLine ← (line.plain?).map fun t => " at line ".toList ++ t
    match column with
    | .undefined => some (named ++ atLine)
    | column =>
      let atColumn ← (column.plain?).map fun t => ", column ".toList ++ t
      some (named ++ atLine ++ atColumn)

end Stencil
