import Stencil.Text.Basic

/-!
# Entities

The five characters that have a meaning in HTML text and attributes, and the entities that stand for
them. Escaping leaves no such character except the ampersands that begin entities.
-/

set_option autoImplicit false

namespace Stencil.Markup

/-- The entity of a character, or the character itself. -/
def entity (c : Char) : Text :=
  if c = '&' then "&amp;".toList
  else if c = '<' then "&lt;".toList
  else if c = '>' then "&gt;".toList
  else if c = '"' then "&quot;".toList
  else if c = '\'' then "&#39;".toList
  else [c]

/-- Replaces the special characters of a text by their entities. -/
def escape (t : Text) : Text := t.flatMap entity

end Stencil.Markup
