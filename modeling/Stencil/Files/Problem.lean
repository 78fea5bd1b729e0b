import Stencil.Text.Quoted

/-!
# Problems with files

Why a file cannot be opened, and why its octets are not the text that they should be.
-/

set_option autoImplicit false

namespace Stencil

/-- Why a path does not lead to a file. -/
inductive FileProblem where
  | notFound (path : Text)
  | notDirectory (path : Text)
  | isDirectory (path : Text)
  | nameTooLong (path : Text)
  deriving DecidableEq, Repr

namespace FileProblem

/-- The name of the kind of problem in reports. -/
def kind : FileProblem → Text
  | .notFound _ => "FileNotFoundError".toList
  | .notDirectory _ => "NotADirectoryError".toList
  | .isDirectory _ => "IsADirectoryError".toList
  | .nameTooLong _ => "OSError".toList

/-- What a report says about the problem: the number of the system's error, its text, and the
path. -/
def message : FileProblem → Text
  | .notFound path => "[Errno 2] No such file or directory: ".toList ++ Text.quoted path
  | .notDirectory path => "[Errno 20] Not a directory: ".toList ++ Text.quoted path
  | .isDirectory path => "[Errno 21] Is a directory: ".toList ++ Text.quoted path
  | .nameTooLong path => "[Errno 36] File name too long: ".toList ++ Text.quoted path

end FileProblem

/-- Octets that an encoding does not know: the encoding, the first octet and how many of them are at
fault, where they stand, and the reason. -/
structure DecodeProblem where
  encoding : Text
  octet : Nat
  start : Nat
  count : Nat
  reason : Text
  deriving DecidableEq, Repr

namespace DecodeProblem

/-- The name of the kind of problem in reports. -/
def kind : Text := "UnicodeDecodeError".toList

/-- What a report says about the problem. -/
def message (p : DecodeProblem) : Text :=
  let place :=
    if p.count = 1 then
      "byte 0x".toList ++ Text.padded 16 2 p.octet ++ " in position ".toList ++ Text.ofNat p.start
    else
      "bytes in position ".toList ++ Text.ofNat p.start ++ ['-'] ++
        Text.ofNat (p.start + p.count - 1)
  ['\''] ++ p.encoding ++ "' codec can't decode ".toList ++ place ++ ": ".toList ++ p.reason

end DecodeProblem
end Stencil
