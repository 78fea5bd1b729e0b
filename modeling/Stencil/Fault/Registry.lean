import Stencil.Fault.Fill
import Stencil.Table

/-!
# Registered errors

The wording of errors by code. A fault is made from the code and named values, which fill the
patterns of its texts and give its place. Some of the values have a meaning of their own:
`template`, `line` and `column` are the place, `location` is the place in words unless it is given,
and `detail` takes the place of the registered detail.
-/

set_option autoImplicit false

namespace Stencil

/-- The patterns of an error's texts. -/
structure Wording where
  code : Text
  category : Category
  message : Text
  detail : Option Text
  suggestion : Option Text
  deriving DecidableEq, Repr

/-- The wordings that are known, by code, in the order of registration. -/
structure Registry where
  wordings : List (Text × Wording)

/-- The category of a name, which has to exist. -/
def Category.named (name : Text) : Except Failure Category :=
  match Category.ofName? name with
  | some c => .ok c
  | none => .error (.unknownChoice (Text.quoted name) "ErrorCategory".toList)

namespace Registry

/-- The errors of templates, loading, rendering and configuration. -/
def builtinWordings : List Wording := [
  ⟨"TEMPLATE_SYNTAX".toList, .structural,
    "Unexpected '{tag}'{location}".toList,
    some "The tag does not close or continue the innermost open tag".toList,
    some "Check that every if/for/block is closed in the right order".toList⟩,
  ⟨"TEMPLATE_INVALID_TAG".toList, .structural,
    "Invalid '{tag}' tag{location}".toList,
    some "Malformed arguments: {content}".toList,
    some "Expected {expected}".toList⟩,
  ⟨"TEMPLATE_UNCLOSED_TAG".toList, .structural,
    "Unclosed '{tag}' tag{location}".toList,
    some "Reached end of template with the tag still open".toList,
    some "Add the matching '{{% end{tag} %}}'".toList⟩,
  ⟨"TEMPLATE_NOT_FOUND".toList, .loading,
    "Template '{path}' not found".toList,
    some "The loader could not read the template source".toList,
    some "Check the template path and the templates directory".toList⟩,
  ⟨"TEMPLATE_EXTENDS_CYCLE".toList, .rendering,
    "Circular extends: {chain}".toList,
    some "A template in the extends chain extends itself".toList,
    some "Remove the cycle from the extends chain".toList⟩,
  ⟨"CONFIG_INVALID".toList, .configuration,
    "Configuration is invalid".toList,
    some "The configuration could not be loaded".toList,
    some "Check the configuration file syntax and values".toList⟩]

/-- The registry that holds the built-in errors. -/
def builtin : Registry := ⟨builtinWordings.map fun w => (w.code, w)⟩

/-- The codes that are registered. -/
def codes (r : Registry) : List Text := Table.keys r.wordings

/-- The wording of a code. -/
def find? (r : Registry) (code : Text) : Option Wording := r.wordings.lookup code

/-- Registers a wording; a wording with the same code is replaced. -/
def register (r : Registry) (w : Wording) : Registry := ⟨Table.put w.code w r.wordings⟩

/-- A value by name; a name that is not there is undefined. -/
def valueOf (context : List (Text × Value)) (name : Text) : Value :=
  (context.lookup name).getD .undefined

/-- Fills a pattern if there is one. -/
def fillOptional (values : List (Text × Value)) : Option Text → Except Failure (Option Text)
  | none => .ok none
  | some t => do
    let filled ← Pattern.fill values t
    .ok (some filled)

/-- Makes the fault of a wording. A message that comes out empty is replaced by the code. -/
def fault (w : Wording) (context : List (Text × Value)) : Except Failure Fault := do
  let template := valueOf context "template".toList
  let line := valueOf context "line".toList
  let column := valueOf context "column".toList
  let location ← Pattern.required (Fault.location? template line column)
  let values :=
    if Table.has "location".toList context then context
    else context ++ [("location".toList, .text location)]
  let message ← Pattern.fill values w.message
  let given := valueOf context "detail".toList
  let detail ← if given.isPresent then .ok given else do
    let filled ← fillOptional values w.detail
    .ok (match filled with | some t => Value.text t | none => .undefined)
  let suggestion ← fillOptional values w.suggestion
  .ok {
    code := w.code, category := w.category
    message := if message.isEmpty then w.code else message
    detail := detail, suggestion := suggestion
    template := template, line := line, column := column }

/-- Makes the fault of a code. -/
def create (r : Registry) (code : Text) (context : List (Text × Value)) : Except Failure Fault :=
  match r.find? code with
  | none => .error (.unknownCode code)
  | some w => fault w context

/-- Makes a fault from another failure, whose kind and text become the detail unless one is given.
-/
def wrap (r : Registry) (kind message : Text) (code : Text) (context : List (Text × Value)) :
    Except Failure Fault :=
  let detail := Value.text (kind ++ ": ".toList ++ message)
  r.create code
    (if Table.has "detail".toList context then context
      else context ++ [("detail".toList, detail)])

/-- A call that names some of its own parts among the values for the texts cannot be made. -/
def unambiguous (own : List String) (context : List (Text × Value)) : Except Failure Unit :=
  match context.find? fun e => own.any fun name => name.toList == e.1 with
  | some e => .error (.unfit ("got multiple values for argument '".toList ++ e.1 ++ ['\'']))
  | none => .ok ()

/-- Makes a fault from values and further ones, which go before those of the same names. -/
def createWith (r : Registry) (code : Text) (context further : List (Text × Value)) :
    Except Failure Fault := do
  unambiguous ["self", "code", "context"] further
  r.create code (Table.update context further)

/-- Makes the fault of a built-in code. -/
def createBuiltin (code : Text) (context : List (Text × Value)) : Except Failure Fault := do
  unambiguous ["code"] context
  builtin.create code context

/-- Makes a fault from another failure; a failure that is a fault stays the same. -/
def ofFailure (r : Registry) (e : Failure) (kind code : Text) (context : List (Text × Value)) :
    Except Failure Fault := do
  unambiguous ["self", "error", "code"] context
  match e with
  | .fault f => .ok f
  | e => do
    let t ← e.told
    r.wrap kind t code context

/-- A fault that is made without a wording. -/
def bare (code : Text) (category : Category) (message : Text) : Fault :=
  { code := code, category := category, message := message
    detail := .undefined, suggestion := none
    template := .undefined, line := .undefined, column := .undefined }

/-- Fails with the fault of a built-in code. -/
def raise {α : Type} (code : Text) (context : List (Text × Value)) : Except Failure α :=
  match builtin.create code context with
  | .ok f => .error (.fault f)
  | .error e => .error e

/-- Fails with the fault of a built-in code that another failure is the cause of. -/
def raiseWrapped {α : Type} (kind message code : Text) (context : List (Text × Value)) :
    Except Failure α :=
  match builtin.wrap kind message code context with
  | .ok f => .error (.fault f)
  | .error e => .error e

end Registry
end Stencil
