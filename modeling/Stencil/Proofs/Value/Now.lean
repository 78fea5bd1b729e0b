import Stencil.Value.Now
import Stencil.Render.Loop
import Stencil.Proofs.Value.Integers
import Mathlib.Data.List.Forall2

/-!
# What cells leave of a value

Cells take elements away from a collection and change their order; they never add any. A value that
is opened has no elements but those that it was made with, or itself, and its size and the integers
in it are among the ones that it began with.
-/

set_option autoImplicit false

namespace Stencil

/-- Lists that are related one by one are so at every place. -/
theorem forall₂_getElem? {α β : Type} {R : α → β → Prop} {as : List α} {bs : List β}
    (h : List.Forall₂ R as bs) (i : Nat) : Option.Rel R as[i]? bs[i]? := by
  induction h generalizing i with
  | nil => exact .none
  | cons hab _ ih =>
    cases i with
    | zero => exact .some hab
    | succ i => exact ih i

namespace Cells

variable {α β : Type} {c : Cells} {cell : Nat} {items : List α}

theorem mem_of_mem_left {a : α} (h : a ∈ c.left cell items) : a ∈ items := by
  obtain ⟨i, -, hi⟩ := List.mem_filterMap.1 h
  exact List.mem_of_getElem? hi

theorem length_left_le (c : Cells) (cell : Nat) (items : List α) :
    (c.left cell items).length ≤ items.length :=
  Nat.le_trans (List.length_filterMap_le _ _) (List.length_take_le _ _)

/-- Related lists stay related one by one, whatever cells leave of them. -/
theorem forall₂_left {R : α → β → Prop} {as : List α} {bs : List β} (h : List.Forall₂ R as bs)
    (c : Cells) (cell : Nat) : List.Forall₂ R (c.left cell as) (c.left cell bs) := by
  unfold left
  rw [h.length_eq]
  induction c.placesOf cell bs.length with
  | nil => exact .nil
  | cons i places ih =>
    have hi := forall₂_getElem? h i
    rw [List.filterMap_cons, List.filterMap_cons]
    generalize as[i]? = a at hi ⊢
    generalize bs[i]? = b at hi ⊢
    cases hi with
    | none => exact ih
    | some hab => exact .cons hab ih

end Cells

namespace Value

variable {v w : Value} {c : Cells}

/-- The elements that a list or set was made with. -/
def members : Value → List Value
  | .list items | .set items | .shared _ _ items => items
  | _ => []

/-- A value that is taken out of a collection: an element, or the collection again. -/
def IsMember (owner v : Value) : Prop := ∃ e ∈ owner.members, v = tied owner e

theorem isMember_of_mem_left {cell : Nat} {kind : Collection} {items : List Value}
    (h : v ∈ (c.left cell items).map (tied (.shared cell kind items))) :
    IsMember (.shared cell kind items) v := by
  obtain ⟨e, he, rfl⟩ := List.mem_map.1 h
  exact ⟨e, Cells.mem_of_mem_left he, rfl⟩

/-- A value that is opened is unchanged, or a collection of things to take out of it. -/
theorem opened_cases (v : Value) (c : Cells) :
    v.opened c = v ∨ ∃ cell kind items, v = .shared cell kind items ∧
      v.opened c = kind.hold ((c.left cell items).map (tied v)) := by
  cases v with
  | shared cell kind items => exact .inr ⟨cell, kind, items, rfl, rfl⟩
  | _ => exact .inl rfl

theorem size?_hold (kind : Collection) (items : List Value) :
    (kind.hold items).size? = some items.length := by
  cases kind <;> rfl

/-- A value that is opened has at most the size that it was made with. -/
theorem size_opened_le (v : Value) (c : Cells) :
    (v.opened c).size?.getD 0 ≤ v.size?.getD 0 := by
  obtain h | ⟨cell, kind, items, rfl, h⟩ := v.opened_cases c
  · exact Nat.le_of_eq (by rw [h])
  · rw [h, size?_hold]
    simpa [size?] using c.length_left_le cell items

/-- What stands at a position of an opened value stands there in the value, or is taken out of it. -/
theorem at?_opened {i : Nat} (h : (v.opened c).at? i = some w) :
    v.at? i = some w ∨ v.IsMember w := by
  obtain hv | ⟨cell, kind, items, rfl, hv⟩ := v.opened_cases c
  · exact .inl (hv ▸ h)
  · rw [hv] at h
    cases kind with
    | list => exact .inr (isMember_of_mem_left (List.mem_of_getElem? h))
    | set => cases h

/-! ## Values as they are now -/

theorem now_of_number? (h : v.number?.isSome) (c : Cells) : v.now c = v := by
  cases v with
  | int | float => rfl
  | _ => cases h

theorem mem_itemIntegers {items : List Value} {n : Int} :
    n ∈ itemIntegers items ↔ ∃ v ∈ items, n ∈ v.integers := by
  induction items with
  | nil => simp [itemIntegers]
  | cons v rest ih => simp [itemIntegers, ih]

theorem integers_hold (kind : Collection) (items : List Value) :
    (kind.hold items).integers = itemIntegers items := by
  cases kind <;> rfl

mutual

/-- Cells bring no integers into a value. -/
theorem integers_now_subset (c : Cells) : ∀ v : Value, (v.now c).integers ⊆ v.integers
  | .list items => by
    rw [now]
    exact itemIntegers_allNow_subset c items
  | .tuple items => by
    rw [now]
    exact itemIntegers_allNow_subset c items
  | .set items => by
    rw [now]
    exact itemIntegers_allNow_subset c items
  | .shared cell kind items => by
    intro n hn
    rw [now, integers_hold, mem_itemIntegers] at hn
    obtain ⟨v, hv, hn⟩ := hn
    exact itemIntegers_allNow_subset c items (mem_itemIntegers.2 ⟨v, Cells.mem_of_mem_left hv, hn⟩)
  | .dict entries => by
    rw [now]
    exact entryIntegers_entriesNow_subset c entries
  | .view entries => by
    rw [now]
    exact entryIntegers_entriesNow_subset c entries
  | .undefined | .bool _ | .int _ | .float _ | .text _ | .safe _ | .bytes _ | .itself
  | .range _ _ _ | .object _ _ _ _ | .routine _ _ _ | .method _ _ | .cursor _ _ => by
    rw [now]
    · exact List.Subset.refl _
    all_goals nofun

theorem itemIntegers_allNow_subset (c : Cells) :
    ∀ items : List Value, itemIntegers (allNow items c) ⊆ itemIntegers items
  | [] => List.Subset.refl _
  | v :: rest => by
    rw [allNow, itemIntegers, itemIntegers]
    exact List.append_subset.2 ⟨
      List.subset_append_of_subset_left _ (integers_now_subset c v),
      List.subset_append_of_subset_right _ (itemIntegers_allNow_subset c rest)⟩

theorem entryIntegers_entriesNow_subset (c : Cells) : ∀ entries : List (Value × Value),
    entryIntegers (entriesNow entries c) ⊆ entryIntegers entries
  | [] => List.Subset.refl _
  | (k, v) :: rest => by
    rw [entriesNow, entryIntegers, entryIntegers]
    refine List.append_subset.2 ⟨List.subset_append_left .., ?_⟩
    refine List.append_subset.2 ⟨?_, ?_⟩
    · exact List.subset_append_of_subset_right _
        (List.subset_append_of_subset_left _ (integers_now_subset c v))
    · exact List.subset_append_of_subset_right _
        (List.subset_append_of_subset_right _ (entryIntegers_entriesNow_subset c rest))

end

/-- A value whose integers have texts has a text in any cells. -/
theorem output?_now_isSome (h : Writable v.integers) (c : Cells) : (v.now c).output?.isSome :=
  output?_isSome fun n hn => h n (integers_now_subset c v hn)

end Value
end Stencil
