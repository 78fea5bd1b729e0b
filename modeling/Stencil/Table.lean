/-!
# Insertion-ordered tables

Association lists in which a key stands once, where it was first put. Looking up is `List.lookup`.
-/

set_option autoImplicit false

namespace Stencil.Table

variable {κ ν : Type} [BEq κ]

/-- Stores a value under a key: in place if the key is present, at the end otherwise. -/
def put (key : κ) (value : ν) : List (κ × ν) → List (κ × ν)
  | [] => [(key, value)]
  | (k, v) :: rest => if k == key then (k, value) :: rest else (k, v) :: put key value rest

/-- A table without a key. -/
def remove (key : κ) (table : List (κ × ν)) : List (κ × ν) :=
  table.filter fun e => !(e.1 == key)

/-- The first table extended, and where keys agree overwritten, by the second. -/
def update (base changes : List (κ × ν)) : List (κ × ν) :=
  changes.foldl (fun t e => put e.1 e.2 t) base

/-- Whether a key is present. -/
def has (key : κ) (table : List (κ × ν)) : Bool := table.any fun e => e.1 == key

/-- The keys in order. -/
def keys (table : List (κ × ν)) : List κ := table.map (·.1)

end Stencil.Table
