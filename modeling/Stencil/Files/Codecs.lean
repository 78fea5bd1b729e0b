import Stencil.Files.Problem

/-!
# Encodings by name

Which names are encodings, and what these make of octets, is up to the host, but every host knows
UTF-8. A host may know a name that is no encoding of text; it then has nothing to read texts with.
-/

set_option autoImplicit false

namespace Stencil

/-- Why octets are no text in an encoding. -/
inductive Trouble where
  | undecodable (p : DecodeProblem)
  /-- Another reason than octets that the encoding does not know. -/
  | misencoded (reason : Text)
  deriving DecidableEq, Repr

/-- The encodings of a host. -/
structure Codecs where
  /-- Whether a name is that of an encoding. -/
  knows : Text → Bool
  /-- What reads octets in the encoding of a name, or why no text can be read in it. -/
  reader : Text → Except Text (List Nat → Except Trouble Text)
  knows_utf8 : knows "utf-8".toList = true

end Stencil
