import Stencil.Fault.Basic
import Stencil.Fault.Pattern
import Stencil.Fault.Spec
import Stencil.Fault.Moment
import Stencil.Files.Problem
import Stencil.Value.Json

/-!
# Failures

Everything that can end an operation early, one constructor for each cause, and the text that
reports give for it.
-/

set_option autoImplicit false

namespace Stencil

/-- The cause of a failed operation. -/
inductive Failure where
  /-- An error of a template, its loading, its rendering or the configuration. -/
  | fault (f : Fault)
  /-- A failure of the application's own code. -/
  | raised (r : Raised)
  /-- An integer with too many digits; their number is known if it was being read. -/
  | tooManyDigits (count : Option Nat)
  /-- A value for which an operation has no meaning, or a wrong number of arguments. -/
  | unfit (reason : Text)
  /-- An attribute that a value does not have. -/
  | lacking (type name : Text)
  /-- A position beyond the end of a collection. -/
  | outOfRange (collection : Text)
  /-- A key that a mapping does not have. -/
  | missingKey (key : Text)
  /-- An element was to be taken out of a collection that has none. -/
  | nothingLeft (kind : Collection)
  /-- A set got smaller while a loop walked through it. -/
  | resized
  /-- A mistake in a message pattern. -/
  | pattern (e : PatternError)
  /-- A mistake in the layout of a field. -/
  | spec (e : SpecError)
  /-- A text that is no moment. -/
  | moment (e : MomentError)
  /-- A size or a number beyond what a machine word holds. -/
  | overlong
  /-- Work without end: templates that include each other, or a list that holds itself. -/
  | endless
  /-- An error code that is not registered. -/
  | unknownCode (code : Text)
  /-- A value that is none of the choices of a type. -/
  | unknownChoice (shown type : Text)
  /-- The name of a log level that does not exist. -/
  | unknownLevel (name : Text)
  /-- A field of a log record with a name that the record itself uses. -/
  | reservedField (name : Text)
  /-- A value without a JSON text. -/
  | json (p : JsonProblem)
  /-- A name that is no encoding of text. -/
  | noEncoding (reason : Text)
  /-- A path with a NUL character. -/
  | nulInPath
  /-- The name of an encoding with a NUL character. -/
  | nulInEncoding
  /-- A file that cannot be opened. -/
  | file (p : FileProblem)
  /-- Octets that an encoding does not know. -/
  | undecodable (p : DecodeProblem)
  /-- Octets that are no text in an encoding, for another reason. -/
  | misencoded (reason : Text)

namespace Failure

/-- What a report says about an integer with too many digits. -/
def digitsMessage (count : Option Nat) : Text :=
  "Exceeds the limit (4300 digits) for integer string conversion".toList ++
    (match count with
      | some n => ": value has ".toList ++ Text.ofNat n ++ " digits".toList
      | none => []) ++
    "; use sys.set_int_max_str_digits() to increase the limit".toList

/-- The text of a failure. -/
def message : Failure → Text
  | .fault f => f.message
  | .raised (.told _ message _) => message
  | .raised (.untold _ _ _) => []
  | .tooManyDigits count => digitsMessage count
  | .unfit reason => reason
  | .lacking type name =>
    ['\''] ++ type ++ "' object has no attribute '".toList ++ name ++ ['\'']
  | .outOfRange collection => collection ++ " index out of range".toList
  | .missingKey key => key
  | .nothingLeft .list => "pop from empty list".toList
  | .nothingLeft .set => "pop from an empty set".toList
  | .resized => "Set changed size during iteration".toList
  | .pattern e => e.message
  | .spec e => e.message
  | .moment e => e.message
  | .overlong => "Python int too large to convert to C ssize_t".toList
  | .endless => "maximum recursion depth exceeded".toList
  | .unknownCode code => "Unknown error code: ".toList ++ code
  | .unknownChoice shown type => shown ++ " is not a valid ".toList ++ type
  | .unknownLevel name => "Unknown level: ".toList ++ Text.quoted name
  | .reservedField name =>
    "Attempt to overwrite ".toList ++ Text.quoted name ++ " in LogRecord".toList
  | .json p => p.message
  | .noEncoding reason => reason
  | .nulInPath => "embedded null byte".toList
  | .nulInEncoding => "embedded null character".toList
  | .file p => p.message
  | .undecodable p => p.message
  | .misencoded reason => reason

/-- Whether a failure is about a key, so that its text stands between quotes. -/
def isAboutKey : Failure → Bool
  | .missingKey _ | .nothingLeft .set => true
  | .raised r => r.kind == "KeyError".toList
  | _ => false

/-- The text of a failure in a report about it, or the failure that comes up when it is written. -/
def told : Failure → Except Failure Text
  | .raised (.untold _ _ instead) => .error (.raised instead)
  | f => .ok (if f.isAboutKey then Text.quoted f.message else f.message)

/-- Whether handlers of ordinary failures stop a failure: all but the requests of the application to
end the program. -/
def isOrdinary : Failure → Bool
  | .raised r => r.isOrdinary
  | _ => true

end Failure
end Stencil
