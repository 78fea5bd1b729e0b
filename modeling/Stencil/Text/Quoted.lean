import Stencil.Text.Basic
import Stencil.Text.Span
import Stencil.Text.PrintTable

/-!
# Quoted text

How a text is shown inside other text, as an element of a list or in a report: between quotes, with
escapes for what cannot be seen. Single quotes are used unless the text holds a single quote and no
double quote.
-/

set_option autoImplicit false

namespace Stencil.Text

/-- Whether quoted text shows a character as it is. -/
def isPrintable (c : Char) : Bool :=
  if c.toNat < 128 then 32 ≤ c.toNat && c.toNat < 127
  else inRanges printableRanges c.toNat

/-- The quote that suits a text. -/
def quoteFor (t : Text) : Char :=
  if t.contains '\'' && !t.contains '"' then '"' else '\''

/-- One character inside quotes. -/
def quotedChar (quote c : Char) : Text :=
  if c = quote || c = '\\' then ['\\', c]
  else if c = '\n' then ['\\', 'n']
  else if c = '\r' then ['\\', 'r']
  else if c = '\t' then ['\\', 't']
  else if isPrintable c then [c]
  else if c.toNat < 0x100 then '\\' :: 'x' :: padded 16 2 c.toNat
  else if c.toNat < 0x10000 then '\\' :: 'u' :: padded 16 4 c.toNat
  else '\\' :: 'U' :: padded 16 8 c.toNat

/-- A text between quotes. -/
def quoted (t : Text) : Text :=
  quoteFor t :: t.flatMap (quotedChar (quoteFor t)) ++ [quoteFor t]

/-- One octet inside quotes; only printable ASCII is shown as it is. -/
def quotedOctet (quote : Char) (octet : Nat) : Text :=
  if octet < 128 then quotedChar quote (Char.ofNat octet)
  else '\\' :: 'x' :: padded 16 2 octet

/-- Octets between quotes, marked with a leading `b`. -/
def quotedOctets (octets : List Nat) : Text :=
  let quote := quoteFor (octets.map Char.ofNat)
  'b' :: quote :: octets.flatMap (quotedOctet quote) ++ [quote]

end Stencil.Text
