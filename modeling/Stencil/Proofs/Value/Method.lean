import Stencil.Proofs.Session.Ensures
import Stencil.Proofs.Value.Now
import Stencil.Value.Method

/-!
# What methods give

The parts of numbers are numbers. The methods of texts, octets and numbers give values without
parts, or a list or tuple of such. The methods of lists and sets give what can be taken out of the
collection, or a collection of that. A list or set that a method gives is a new one, with a cell of
its own.
-/

set_option autoImplicit false

namespace Stencil.Value

/-- Whether a value has no parts but texts and numbers. -/
def isAtom : Value → Bool
  | .undefined | .bool _ | .int _ | .float _ | .text _ | .safe _ | .bytes _ | .range _ _ _
  | .itself => true
  | _ => false

/-- Whether a value is safe text. -/
def isSafe : Value → Bool
  | .safe _ => true
  | _ => false

/-- A value that has a property, or a list or tuple of such values. -/
inductive Flat (P : Value → Prop) : Value → Prop where
  | whole {v : Value} : P v → Flat P v
  | list {items : List Value} : (∀ v ∈ items, P v) → Flat P (.list items)
  | tuple {items : List Value} : (∀ v ∈ items, P v) → Flat P (.tuple items)

/-- A value without parts, which is safe text only if another value is. -/
def Simple (owner v : Value) : Prop := v.isAtom ∧ (v.isSafe → owner.isSafe)

variable {owner v w : Value} {name : Text}

/-- A value without parts that is not marked as safe. -/
theorem Simple.unmarked (hatom : v.isAtom = true) (hsafe : v.isSafe = false) : Simple owner v :=
  ⟨hatom, fun h => absurd (hsafe.symm.trans h) Bool.false_ne_true⟩

/-! ## Parts -/

theorem simple_of_mem_fields (h : (name, w) ∈ v.fields) : Simple v w := by
  have hinteger : ∀ n, (name, w) ∈ fields.integerFields n → Simple v w := by
    intro n h
    simp only [fields.integerFields, List.mem_cons, Prod.mk.injEq, List.not_mem_nil, or_false] at h
    rcases h with ⟨-, rfl⟩ | ⟨-, rfl⟩ | ⟨-, rfl⟩ | ⟨-, rfl⟩ <;> exact .unmarked rfl rfl
  cases v with
  | int n => exact hinteger n h
  | bool b => exact hinteger _ h
  | float x =>
    simp only [fields, List.mem_cons, Prod.mk.injEq, List.not_mem_nil, or_false] at h
    rcases h with ⟨-, rfl⟩ | ⟨-, rfl⟩ <;> exact .unmarked rfl rfl
  | range start stop step =>
    simp only [fields, List.mem_cons, Prod.mk.injEq, List.not_mem_nil, or_false] at h
    rcases h with ⟨-, rfl⟩ | ⟨-, rfl⟩ | ⟨-, rfl⟩ <;> exact .unmarked rfl rfl
  | _ => cases h

/-! ## Methods that change nothing -/

/-- No method gives anything for want of arguments. -/
theorem needsArguments_ne_ok {α : Type} {a : α} :
    (needsArguments v name : Except Failure α) ≠ .ok a := by
  unfold needsArguments
  exact nofun

theorem flat_of_callTextMethod {wrap : Text → Value} {t : Text}
    (hwrap : ∀ t, Simple owner (wrap t)) (h : callTextMethod wrap t name = .ok w) :
    Flat (Simple owner) w := by
  unfold callTextMethod at h
  split at h
  · cases h
    exact .whole (hwrap _)
  · cases h
    refine .list fun u hu => ?_
    obtain ⟨piece, -, rfl⟩ := List.mem_map.1 hu
    exact hwrap piece
  · cases h
    exact .whole (.unmarked rfl rfl)
  · split at h
    · cases h
      exact .whole (.unmarked rfl rfl)
    · split at h
      · obtain ⟨filled, -, hfilled⟩ := eq_ok_of_bind_eq_ok h
        cases hfilled
        exact .whole (hwrap filled)
      · cases h

theorem flat_of_callOctetMethod {os : List Nat} (h : callOctetMethod os name = .ok w) :
    Flat (Simple owner) w := by
  unfold callOctetMethod at h
  split at h
  · cases h
    exact .whole (.unmarked rfl rfl)
  · cases h
    refine .list fun u hu => ?_
    obtain ⟨piece, -, rfl⟩ := List.mem_map.1 hu
    exact .unmarked rfl rfl
  · cases h
    exact .whole (.unmarked rfl rfl)
  · repeat' split at h
    all_goals cases h
    all_goals exact .whole (.unmarked rfl rfl)

theorem flat_of_callIntegerMethod {n : Int} (h : callIntegerMethod n name = .ok w) :
    Flat (Simple owner) w := by
  unfold callIntegerMethod at h
  split at h
  · cases h
    refine .tuple fun u hu => ?_
    simp only [List.mem_cons, List.not_mem_nil, or_false] at hu
    rcases hu with rfl | rfl <;> exact .unmarked rfl rfl
  · repeat' split at h
    all_goals cases h
    all_goals exact .whole (.unmarked rfl rfl)

theorem flat_of_callFloatMethod {x : Binary64} (h : callFloatMethod x name = .ok w) :
    Flat (Simple owner) w := by
  unfold callFloatMethod at h
  split at h
  · obtain ⟨⟨num, den⟩, -, hratio⟩ := eq_ok_of_bind_eq_ok h
    cases hratio
    refine .tuple fun u hu => ?_
    simp only [List.mem_cons, List.not_mem_nil, or_false] at hu
    rcases hu with rfl | rfl <;> exact .unmarked rfl rfl
  · repeat' split at h
    all_goals cases h
    all_goals exact .whole (.unmarked rfl rfl)

/-- What a method of a value that does not change gives has no parts, or only one layer of them. -/
theorem flat_of_callNative (h : callNative owner name = .ok w) : Flat (Simple owner) w := by
  cases owner with
  | text t => exact flat_of_callTextMethod (fun _ => .unmarked rfl rfl) h
  | safe t => exact flat_of_callTextMethod (fun _ => ⟨rfl, fun _ => rfl⟩) h
  | bytes os => exact flat_of_callOctetMethod h
  | int n => exact flat_of_callIntegerMethod h
  | bool b => exact flat_of_callIntegerMethod h
  | float x => exact flat_of_callFloatMethod h
  | _ => exact absurd h needsArguments_ne_ok

/-! ## Methods of lists and sets -/

/-- What a method of a list or set gives: nothing, what can be taken out of it, or a collection of
that. -/
inductive Taken (owner : Value) : Value → Prop where
  | undefined : Taken owner .undefined
  | member {v : Value} : IsMember owner v → Taken owner v
  | collection (kind : Collection) {items : List Value} : (∀ v ∈ items, IsMember owner v) →
      Taken owner (kind.hold items)

/-- Elements with their places that were all taken from the members of a value. -/
def AreMembers (owner : Value) (elements : List (Value × Nat)) : Prop :=
  ∀ e ∈ elements, e.1 ∈ owner.members

theorem areMembers_zipIdx {items : List Value} (h : owner.members = items) :
    AreMembers owner items.zipIdx := by
  intro e he
  rw [h, ← List.zipIdx_map_fst 0 items]
  exact List.mem_map_of_mem he

theorem areMembers_left {c : Cells} {cell : Nat} {items : List Value} (h : owner.members = items) :
    AreMembers owner (c.left cell items.zipIdx) :=
  fun e he => areMembers_zipIdx h e (Cells.mem_of_mem_left he)

variable {elements : List (Value × Nat)} {c : Cells}

theorem taken_copy (kind : Collection) (h : AreMembers owner elements) :
    Taken owner (kind.hold (elements.map fun e => tied owner e.1)) := by
  refine .collection kind fun u hu => ?_
  obtain ⟨e, he, rfl⟩ := List.mem_map.1 hu
  exact ⟨e.1, h e he, rfl⟩

theorem taken_of_callList (h : AreMembers owner elements)
    (hcall : (callList owner elements name c).1 = .ok w) : Taken owner w := by
  unfold callList at hcall
  simp only at hcall
  split at hcall
  · split at hcall
    · rename_i e hlast
      cases hcall
      exact .member ⟨e.1, h e (List.mem_of_getLast? hlast), rfl⟩
    · cases hcall
  · split at hcall
    · cases hcall
      exact .undefined
    · split at hcall
      · cases hcall
        exact .undefined
      · split at hcall
        · split at hcall
          · cases hcall
            exact .undefined
          · cases hcall
        · split at hcall
          · cases hcall
            exact taken_copy .list h
          · cases hcall

theorem taken_of_callSet (h : AreMembers owner elements)
    (hcall : (callSet owner elements name).1 = .ok w) : Taken owner w := by
  unfold callSet at hcall
  simp only at hcall
  split at hcall
  · split at hcall
    · rename_i e rest
      cases hcall
      exact .member ⟨e.1, h e List.mem_cons_self, rfl⟩
    · cases hcall
  · split at hcall
    · cases hcall
      exact .undefined
    · split at hcall
      · cases hcall
        exact taken_copy .set h
      · split at hcall
        · cases hcall
          exact .undefined
        · cases hcall

theorem taken_of_callCollection {kind : Collection} (h : AreMembers owner elements)
    (hcall : (callCollection kind owner elements name c).1 = .ok w) : Taken owner w := by
  cases kind with
  | list => exact taken_of_callList h hcall
  | set => exact taken_of_callSet h hcall

/-! ## Calls -/

/-- What a method gives before a new collection gets its cell. -/
def Found (owner w : Value) : Prop := Taken owner w ∨ Flat (Simple owner) w

/-- A value, as it is or with a new cell. -/
inductive Renewed : Value → Value → Prop where
  | same (v : Value) : Renewed v v
  | shared (cell : Nat) (kind : Collection) (items : List Value) :
      Renewed (kind.hold items) (.shared cell kind items)

theorem renewed_of_anew (v : Value) {fail : Failure → Prop} :
    v.anew.Ensures (Renewed v) fail := by
  unfold anew Eval.fresh
  cases v with
  | list items => exact .acting fun c => .shared c.next .list items
  | set items => exact .acting fun c => .shared c.next .set items
  | _ => exact .pure (.same _)

theorem found_of_perform (h : (perform owner name c).1 = .ok w) : Found owner w := by
  cases owner with
  | list items => exact .inl (taken_of_callList (areMembers_zipIdx rfl) h)
  | set items => exact .inl (taken_of_callSet (areMembers_zipIdx rfl) h)
  | shared cell kind items => exact .inl (taken_of_callCollection (areMembers_left rfl) h)
  | _ => exact .inr (flat_of_callNative h)

/-- A method gives what it finds, with a new cell if it is a new collection. -/
theorem ensures_callMethod (owner : Value) (name : Text) :
    (callMethod owner name).Ensures (fun w => ∃ u, Found owner u ∧ Renewed u w) fun _ => True := by
  have hfound : (Eval.acting (perform owner name)).Ensures
      (Yields (Found owner) fun _ => True) fun _ => True := by
    refine .acting fun c => ?_
    cases h : (perform owner name c).1 with
    | ok u => exact found_of_perform h
    | error e => trivial
  refine hfound.bind fun result hresult => Eval.Ensures.bind (.ofExcept hresult) fun u hu => ?_
  exact (renewed_of_anew u).weaken fun w hw => ⟨u, hu, hw⟩

end Stencil.Value
