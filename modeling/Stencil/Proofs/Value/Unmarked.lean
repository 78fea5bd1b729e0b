import Stencil.Proofs.Value.Step
import Stencil.Proofs.Render.Rounds
import Stencil.Proofs.Table.Lookup

/-!
# Values without safe text

A value is unmarked if no text that is marked as safe can be reached from it, through elements, keys
and entries, attributes, methods or the results of calls. What a step gives from an unmarked value is
unmarked again, and so is what a loop takes from it.
-/

set_option autoImplicit false

namespace Stencil.Value

mutual

/-- Whether no safe text can be reached from a value. -/
def isUnmarked : Value → Bool
  | .safe _ => false
  | .list items | .tuple items | .set items | .shared _ _ items | .cursor _ items =>
    areUnmarked items
  | .dict entries | .view entries => entriesUnmarked entries
  | .object _ attributes _ _ => attributesUnmarked attributes
  | .routine _ _ action => actionUnmarked action
  | .method owner _ => isUnmarked owner
  | _ => true

/-- Whether no safe text can be reached from the values of a list. -/
def areUnmarked : List Value → Bool
  | [] => true
  | v :: rest => isUnmarked v && areUnmarked rest

/-- Whether no safe text can be reached from the keys and values of entries. -/
def entriesUnmarked : List (Value × Value) → Bool
  | [] => true
  | (k, v) :: rest => isUnmarked k && isUnmarked v && entriesUnmarked rest

/-- Whether no safe text can be reached from the attributes of an object. -/
def attributesUnmarked : List (Text × Value) → Bool
  | [] => true
  | (_, v) :: rest => isUnmarked v && attributesUnmarked rest

/-- Whether no safe text can be reached by calling a routine. -/
def actionUnmarked : Routine Value → Bool
  | .constant v | .labelled _ v => isUnmarked v
  | _ => true

end

/-! ## Parts of unmarked values -/

theorem areUnmarked_iff {items : List Value} :
    areUnmarked items ↔ ∀ v ∈ items, v.isUnmarked := by
  induction items with
  | nil => simp [areUnmarked]
  | cons v rest ih => simp [areUnmarked, ih]

theorem entriesUnmarked_iff {entries : List (Value × Value)} :
    entriesUnmarked entries ↔ ∀ e ∈ entries, e.1.isUnmarked ∧ e.2.isUnmarked := by
  induction entries with
  | nil => simp [entriesUnmarked]
  | cons e rest ih =>
    rcases e with ⟨k, v⟩
    simp [entriesUnmarked, ih]

theorem attributesUnmarked_iff {attributes : List (Text × Value)} :
    attributesUnmarked attributes ↔ ∀ e ∈ attributes, e.2.isUnmarked := by
  induction attributes with
  | nil => simp [attributesUnmarked]
  | cons e rest ih =>
    rcases e with ⟨name, v⟩
    simp [attributesUnmarked, ih]

variable {v w : Value}

theorem isUnmarked_of_at? {i : Nat} (h : v.isUnmarked) (hat : v.at? i = some w) :
    w.isUnmarked := by
  unfold at? at hat
  split at hat
  · obtain ⟨c, -, rfl⟩ := Option.map_eq_some_iff.1 hat
    rfl
  · cases h
  · obtain ⟨o, -, rfl⟩ := Option.map_eq_some_iff.1 hat
    rfl
  · exact areUnmarked_iff.1 h w (List.mem_of_getElem? hat)
  · exact areUnmarked_iff.1 h w (List.mem_of_getElem? hat)
  · exact areUnmarked_iff.1 h w (List.mem_of_getElem? hat)
  · split at hat
    · cases hat
      rfl
    · cases hat
  · cases hat

theorem areUnmarked_members (h : v.isUnmarked) : ∀ w ∈ v.members, w.isUnmarked := by
  cases v with
  | list items => exact areUnmarked_iff.1 h
  | set items => exact areUnmarked_iff.1 h
  | shared cell kind items => exact areUnmarked_iff.1 h
  | _ => nofun

theorem IsMember.isUnmarked (hw : v.IsMember w) (h : v.isUnmarked) : w.isUnmarked := by
  obtain ⟨e, he, rfl⟩ := hw
  unfold tied
  split
  · exact h
  · exact areUnmarked_members h _ he

theorem isUnmarked_hold (kind : Collection) (items : List Value) :
    (kind.hold items).isUnmarked = areUnmarked items := by
  cases kind <;> rfl

theorem isUnmarked_opened (h : v.isUnmarked) (c : Cells) : (v.opened c).isUnmarked := by
  obtain hv | ⟨cell, kind, items, rfl, hv⟩ := v.opened_cases c
  · rw [hv]
    exact h
  · rw [hv, isUnmarked_hold, areUnmarked_iff]
    exact fun w hw => (isMember_of_mem_left hw).isUnmarked h

theorem mem_of_lookup {key : Value} {entries : List (Value × Value)}
    (h : lookup key entries = some w) : ∃ k, (k, w) ∈ entries := by
  induction entries with
  | nil => cases h
  | cons e rest ih =>
    rcases e with ⟨k, u⟩
    unfold lookup at h
    split at h
    · cases h
      exact ⟨k, List.mem_cons_self ..⟩
    · obtain ⟨k', hmem⟩ := ih h
      exact ⟨k', List.mem_cons_of_mem _ hmem⟩

theorem entriesUnmarked_of_entries? {entries : List (Value × Value)} (h : v.isUnmarked)
    (hentries : v.entries? = some entries) : entriesUnmarked entries := by
  cases v with
  | dict es =>
    cases hentries
    exact h
  | view es =>
    cases hentries
    exact h
  | _ => cases hentries

/-! ## Steps -/

theorem isUnmarked_bound {attributes : List (Text × Value)} {faults : List (Text × Raised)}
    (hattributes : attributesUnmarked attributes) (h : v.isUnmarked) :
    (bound attributes faults v).isUnmarked := by
  unfold bound
  split
  · split
    · rfl
    · split
      · rename_i u hlookup
        exact attributesUnmarked_iff.1 hattributes _ (Table.mem_of_lookup hlookup)
      · rfl
  · exact h

theorem Simple.isUnmarked (hw : Simple v w) (h : v.isUnmarked) : w.isUnmarked := by
  obtain ⟨hatom, hsafe⟩ := hw
  cases w with
  | safe t =>
    cases v with
    | safe _ => cases h
    | _ => cases hsafe rfl
  | list | tuple | set | shared | dict | view | object | routine | method | cursor => cases hatom
  | _ => rfl

theorem isUnmarked_builtinAttribute? {name : Text} (h : v.isUnmarked)
    (hattribute : builtinAttribute? v name = some w) : w.isUnmarked := by
  unfold builtinAttribute? at hattribute
  split at hattribute
  · rename_i u hfield
    cases hattribute
    exact (simple_of_mem_fields (Table.mem_of_lookup hfield)).isUnmarked h
  · split at hattribute
    · cases hattribute
      exact h
    · cases hattribute

theorem isUnmarked_readAttribute {name : Text} (h : v.isUnmarked)
    (hread : v.readAttribute name = .ok w) : w.isUnmarked := by
  unfold readAttribute at hread
  split at hread
  · split at hread
    · cases hread
    · split at hread
      · rename_i a hlookup
        cases hread
        exact isUnmarked_bound h (attributesUnmarked_iff.1 h _ (Table.mem_of_lookup hlookup))
      · cases hread
  · split at hread
    · rename_i a hattribute
      cases hread
      exact isUnmarked_builtinAttribute? h hattribute
    · cases hread

/-- What a method finds in an unmarked value is unmarked. -/
theorem Found.isUnmarked (hw : v.Found w) (h : v.isUnmarked) : w.isUnmarked := by
  cases hw with
  | inl htaken =>
    cases htaken with
    | undefined => rfl
    | member hmember => exact hmember.isUnmarked h
    | collection kind hitems =>
      rw [isUnmarked_hold, areUnmarked_iff]
      exact fun u hu => (hitems u hu).isUnmarked h
  | inr hflat =>
    cases hflat with
    | whole hsimple => exact hsimple.isUnmarked h
    | list hitems => exact areUnmarked_iff.2 fun u hu => (hitems u hu).isUnmarked h
    | tuple hitems => exact areUnmarked_iff.2 fun u hu => (hitems u hu).isUnmarked h

theorem Renewed.isUnmarked_eq (h : v.Renewed w) : w.isUnmarked = v.isUnmarked := by
  cases h with
  | same => rfl
  | shared cell kind items => exact (isUnmarked_hold kind items).symm

theorem isUnmarked_labelledValue {lead : Text} (h : v.isUnmarked)
    (hlabel : labelledValue lead v = .ok w) : w.isUnmarked := by
  unfold labelledValue at hlabel
  split at hlabel
  · cases hlabel
    rfl
  · cases h
  · cases hlabel

/-! ## Copies -/

mutual

theorem isUnmarked_renew (next : Nat) : ∀ v : Value, (renew next v).1.isUnmarked = v.isUnmarked
  | .list items => areUnmarked_renewAll next items
  | .tuple items => areUnmarked_renewAll next items
  | .set items => areUnmarked_renewAll next items
  | .shared _ _ items => areUnmarked_renewAll (next + 1) items
  | .dict entries => entriesUnmarked_renewEntries next entries
  | .view entries => entriesUnmarked_renewEntries next entries
  | .object _ attributes _ _ => attributesUnmarked_renewAttributes (next + 1) attributes
  | .routine _ _ action => actionUnmarked_renewRoutine (next + 1) action
  | .method owner _ => isUnmarked_renew next owner
  | .cursor _ items => areUnmarked_renewAll (next + 1) items
  | .undefined | .bool _ | .int _ | .float _ | .text _ | .safe _ | .bytes _ | .range _ _ _
  | .itself => rfl

theorem areUnmarked_renewAll (next : Nat) :
    ∀ items : List Value, areUnmarked (renewAll next items).1 = areUnmarked items
  | [] => rfl
  | v :: rest => by
    simp only [renewAll, areUnmarked, isUnmarked_renew next v, areUnmarked_renewAll _ rest]

theorem entriesUnmarked_renewEntries (next : Nat) : ∀ entries : List (Value × Value),
    entriesUnmarked (renewEntries next entries).1 = entriesUnmarked entries
  | [] => rfl
  | (k, v) :: rest => by
    simp only [renewEntries, entriesUnmarked, isUnmarked_renew _ k, isUnmarked_renew _ v,
      entriesUnmarked_renewEntries _ rest]

theorem attributesUnmarked_renewAttributes (next : Nat) : ∀ attributes : List (Text × Value),
    attributesUnmarked (renewAttributes next attributes).1 = attributesUnmarked attributes
  | [] => rfl
  | (name, v) :: rest => by
    cases h : isPrivate name with
    | false =>
      simp only [renewAttributes, h, Bool.false_eq_true, if_false, attributesUnmarked,
        isUnmarked_renew _ v, attributesUnmarked_renewAttributes _ rest]
    | true =>
      simp only [renewAttributes, h, if_true, attributesUnmarked,
        attributesUnmarked_renewAttributes _ rest]

theorem actionUnmarked_renewRoutine (next : Nat) :
    ∀ action : Routine Value, actionUnmarked (renewRoutine next action).1 = actionUnmarked action
  | .constant _ | .failure _ | .counter _ _ | .ownAttribute _ _ => rfl
  | .labelled _ v => isUnmarked_renew next v

end

/-- What a step gives from an unmarked value is unmarked. -/
theorem Next.isUnmarked (h : v.Next w) (hv : v.isUnmarked) : w.isUnmarked := by
  cases h with
  | undefined => rfl
  | element hat => exact isUnmarked_of_at? hv hat
  | member hmember => exact hmember.isUnmarked hv
  | entry hentries hlookup =>
    obtain ⟨k, hmem⟩ := mem_of_lookup hlookup
    exact (entriesUnmarked_iff.1 (entriesUnmarked_of_entries? hv hentries) _ hmem).2
  | property hread => exact isUnmarked_readAttribute hv hread
  | made next hroutine =>
    subst hroutine
    rw [isUnmarked_renew]
    exact hv
  | counted n _ => rfl
  | @labelled _ _ _ u _ hroutine hlabel =>
    subst hroutine
    have hu : u.isUnmarked := hv
    exact isUnmarked_labelledValue hu hlabel
  | @called owner _ _ _ hmethod hfound hrenewed =>
    subst hmethod
    have howner : owner.isUnmarked := hv
    rw [hrenewed.isUnmarked_eq]
    exact hfound.isUnmarked howner

/-! ## Loops -/

theorem areUnmarked_elements (h : v.isUnmarked) : ∀ w ∈ Loop.elements v, w.isUnmarked := by
  cases v with
  | list items => exact areUnmarked_iff.1 h
  | tuple items => exact areUnmarked_iff.1 h
  | set items => exact areUnmarked_iff.1 h
  | cursor cell items => exact areUnmarked_iff.1 h
  | range start stop step =>
    intro w hw
    obtain ⟨i, -, rfl⟩ := List.mem_map.1 hw
    rfl
  | _ =>
    intro w hw
    cases hw

theorem areUnmarked_parts {values : List Value} (h : v.isUnmarked)
    (hparts : Loop.parts v = .ok values) : ∀ w ∈ values, w.isUnmarked := by
  have hpart : ∀ i, ((v.at? i).getD .undefined).isUnmarked := by
    intro i
    cases hat : v.at? i with
    | none => rfl
    | some w => exact isUnmarked_of_at? h hat
  have hpair : ∀ a b : Value, a.isUnmarked → b.isUnmarked → ∀ w ∈ [a, b], w.isUnmarked := by
    intro a b ha hb w hw
    simp only [List.mem_cons, List.not_mem_nil, or_false] at hw
    rcases hw with rfl | rfl
    · exact ha
    · exact hb
  unfold Loop.parts at hparts
  repeat' split at hparts
  all_goals cases hparts
  all_goals
    apply hpair
    all_goals first
      | exact hpart _
      | rfl

/-- The values that a loop over an unmarked value gives to its names are unmarked. -/
theorem areUnmarked_of_binds {names : List Text} {values : List Value} (h : v.isUnmarked)
    (hbinds : Loop.Binds names v values) : ∀ w ∈ values, w.isUnmarked := by
  cases hbinds with
  | @entry entries e hentries he =>
    have hentry := entriesUnmarked_iff.1 (entriesUnmarked_of_entries? h hentries) e he
    intro w hw
    unfold Loop.valuesOfEntry at hw
    split at hw
    · rw [List.mem_singleton.1 hw]
      exact hentry.2
    · simp only [List.mem_cons, List.not_mem_nil, or_false] at hw
      rcases hw with rfl | rfl
      · exact hentry.1
      · exact hentry.2
  | @element u values helement hshares =>
    obtain ⟨c, hmem⟩ := helement
    have hu : u.isUnmarked := areUnmarked_elements (isUnmarked_opened h c) u hmem
    cases hshares with
    | whole _ =>
      intro w hw
      rw [List.mem_singleton.1 hw]
      exact hu
    | parts d _ hparts => exact areUnmarked_parts (isUnmarked_opened hu d) hparts

end Stencil.Value
