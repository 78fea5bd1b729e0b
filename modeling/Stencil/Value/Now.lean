import Stencil.Cells
import Stencil.Value.Basic

/-!
# Values as they are now

What a value is in given cells: with `opened` a list or set that others refer to is the collection
of its elements that are left, and each element is as it stands; with `now` so are all collections
inside it. A list that is one of its own elements is opened to an element that is the list again,
and stays a mark inside the list as it is now.
-/

set_option autoImplicit false

namespace Stencil.Value

/-- An element of a list, which may be the list itself. -/
def tied (owner : Value) : Value → Value
  | .itself => owner
  | v => v

/-- A value whose elements can be taken: a collection that others refer to is one of the elements
that are left. -/
def opened (v : Value) (c : Cells) : Value :=
  match v with
  | .shared cell kind items => kind.hold ((c.left cell items).map (tied v))
  | v => v

mutual

/-- A value as it is now, with all collections in it. -/
def now (v : Value) (c : Cells) : Value :=
  match v with
  | .list items => .list (allNow items c)
  | .tuple items => .tuple (allNow items c)
  | .set items => .set (allNow items c)
  | .shared cell kind items => kind.hold (c.left cell (allNow items c))
  | .dict entries => .dict (entriesNow entries c)
  | .view entries => .view (entriesNow entries c)
  | v => v

/-- Values as they are now. -/
def allNow (vs : List Value) (c : Cells) : List Value :=
  match vs with
  | [] => []
  | v :: rest => now v c :: allNow rest c

/-- The entries of a mapping as they are now. Keys do not change. -/
def entriesNow (entries : List (Value × Value)) (c : Cells) : List (Value × Value) :=
  match entries with
  | [] => []
  | (k, v) :: rest => (k, now v c) :: entriesNow rest c

end

end Stencil.Value
