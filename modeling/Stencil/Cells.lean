import Stencil.Table

/-!
# Cells

What changes when it is used is kept in numbered cells: how far a counter or a cursor has been
advanced, and which of its elements a list or a set still has. A value that changes says only how it
started; together with its cell it says how it is now. Beside the cells stands the room that the host
leaves for nested work, which does not change.
-/

set_option autoImplicit false

namespace Stencil

/-- The cells: the next number to give out, how far counters and cursors have been advanced, and,
for the lists and sets that were changed, the places of the elements that are left, in their order
now. -/
structure Cells where
  next : Nat
  advanced : List (Nat × Nat)
  places : List (Nat × List Nat)
  /-- How many collections deep a value may be nested for a JSON text to be made of it. -/
  room : Nat
  deriving DecidableEq, Repr

namespace Cells

/-- The room that is left under a limit of a thousand calls, of which each collection takes two and
the callers some twenty. -/
def usualRoom : Nat := 490

/-- Cells that nothing has used yet, from a number on. -/
def startingAt (next : Nat) : Cells := ⟨next, [], [], usualRoom⟩

/-- How far a cell has been advanced. -/
def count (c : Cells) (cell : Nat) : Nat := (c.advanced.lookup cell).getD 0

/-- Advances a cell by one. -/
def advance (c : Cells) (cell : Nat) : Cells :=
  { c with advanced := Table.put cell (c.count cell + 1) c.advanced }

/-- The places of the elements that a collection of some size has left: at first all of them. There
are never more than it began with. -/
def placesOf (c : Cells) (cell size : Nat) : List Nat :=
  ((c.places.lookup cell).getD (List.range size)).take size

/-- Leaves a collection with the elements at some places, in that order. -/
def leave (c : Cells) (cell : Nat) (places : List Nat) : Cells :=
  { c with places := Table.put cell places c.places }

/-- The elements that a collection has left, in their order now. -/
def left {α : Type} (c : Cells) (cell : Nat) (items : List α) : List α :=
  (c.placesOf cell items.length).filterMap fun i => items[i]?

end Cells
end Stencil
