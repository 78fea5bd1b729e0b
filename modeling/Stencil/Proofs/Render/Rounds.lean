import Stencil.Proofs.Value.Now
import Stencil.Proofs.Session.Ensures

/-!
# The rounds of a loop

What a loop binds its names to in a round: an entry of a mapping, an element of a value as it is at
the time, or the first two parts of such an element. A round cannot begin where the size of an
element cannot be counted.
-/

set_option autoImplicit false

namespace Stencil.Loop

/-- The values that an element gives to the names of a loop, at some time. -/
inductive Shares (names : List Text) (w : Value) : List Value → Prop where
  | whole : names.length = 1 → Shares names w [w]
  | parts (c : Cells) {values : List Value} : names.length ≠ 1 →
      Loop.parts (w.opened c) = .ok values → Shares names w values

/-- A value has an element at some time. -/
def HasElement (v w : Value) : Prop := ∃ c, w ∈ elements (v.opened c)

/-- The values that a loop over a value gives to its names in some round. -/
inductive Binds (names : List Text) (v : Value) : List Value → Prop where
  | entry {entries : List (Value × Value)} {e : Value × Value} :
      v.entries? = some entries → e ∈ entries → Binds names v (valuesOfEntry names e)
  | element {w : Value} {values : List Value} :
      HasElement v w → Shares names w values → Binds names v values

/-- A set that others can change. -/
def IsExposed (v : Value) : Prop := ∃ cell items, v = .shared cell .set items

variable {names : List Text} {v w : Value}

/-- The size of a list or set is the number of its elements that are left. -/
theorem sizeIn_shared (cell : Nat) (kind : Collection) (items : List Value) (c : Cells) :
    (Value.shared cell kind items).sizeIn c =
      some (elements ((Value.shared cell kind items).opened c)).length := by
  cases kind <;> rfl

theorem overlong_of_parts {f : Failure} (h : parts v = .error f) :
    f = .overlong ∧ Value.sizeLimit < v.size?.getD 0 := by
  unfold parts at h
  split at h
  all_goals try cases h
  split at h
  · rename_i hsize
    cases h
    exact ⟨rfl, hsize⟩
  · cases h

theorem not_resizes_valuesOfElement (names : List Text) (w : Value) :
    ¬(valuesOfElement names w).Resizes v := by
  unfold valuesOfElement
  split
  · exact Eval.not_resizes_pure _
  · intro h
    rcases h.of_bind with hask | ⟨u, hparts⟩
    · exact Eval.not_resizes_asking _ hask
    · exact Eval.not_resizes_ofExcept _ hparts

/-- An element gives its values, unless its size cannot be counted. -/
theorem ensures_valuesOfElement (names : List Text) (w : Value) :
    (valuesOfElement names w).Ensures (Shares names w)
      fun f => f = .overlong ∧ Value.sizeLimit < w.size?.getD 0 := by
  unfold valuesOfElement
  split
  · rename_i hone
    exact .pure (.whole hone)
  · rename_i hmany
    apply Eval.Ensures.bind (.asked w.opened)
    rintro _ ⟨c, rfl⟩
    apply Eval.Ensures.ofExcept
    cases hparts : parts (w.opened c) with
    | ok values => exact .parts c hmany hparts
    | error f =>
      obtain ⟨rfl, hsize⟩ := overlong_of_parts hparts
      exact ⟨rfl, Nat.lt_of_lt_of_le hsize (w.size_opened_le c)⟩

end Stencil.Loop
