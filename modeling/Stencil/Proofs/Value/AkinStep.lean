import Stencil.Proofs.Session.Pairs
import Stencil.Proofs.Value.Akin
import Stencil.Render.Loop
import Stencil.Proofs.Render.Rounds

/-!
# Steps into akin values

Attributes, elements, entries and calls of values that are akin give values that are akin, or fail
in the same way, and so do the rounds of a loop over them: no step reads a private attribute. Copies
of akin values take the same number of identities and cells, since private attributes are not
copied.
-/

set_option autoImplicit false

namespace Stencil

open Eval (Pairs)

namespace Value

variable {v w k l : Value}

/-! ## Attributes -/

theorem AttributesAkin.lookup {as bs : List (Text × Value)} {name : Text}
    (h : AttributesAkin as bs) (hname : isPrivate name = false) :
    Option.Rel Akin (as.lookup name) (bs.lookup name) := by
  have hne : ∀ other, isPrivate other = true → name ≠ other := by
    rintro other hother rfl
    rw [hother] at hname
    cases hname
  match h with
  | .nil => exact .none
  | .both other hv hrest =>
    rw [Table.lookup_cons, Table.lookup_cons]
    split
    · exact .some hv
    · exact hrest.lookup hname
  | @AttributesAkin.left other v as bs hother hrest =>
    rw [Table.lookup_cons name other v as, if_neg (hne other hother)]
    exact hrest.lookup hname
  | @AttributesAkin.right other w as bs hother hrest =>
    rw [Table.lookup_cons name other w bs, if_neg (hne other hother)]
    exact hrest.lookup hname
termination_by structural h

/-- Leaving out private faults changes nothing for public names. -/
theorem lookup_publicFaults {name : Text} (hname : isPrivate name = false)
    (faults : List (Text × Raised)) :
    (publicFaults faults).lookup name = faults.lookup name := by
  induction faults with
  | nil => rfl
  | cons f rest ih =>
    rcases f with ⟨other, r⟩
    unfold publicFaults at ih ⊢
    rw [Table.lookup_cons, List.filter_cons]
    split
    · rw [Table.lookup_cons, ih]
    · rename_i hother
      have hne : name ≠ other := by
        rintro rfl
        exact hother (by rw [hname]; rfl)
      rw [if_neg hne, ih]

theorem lookup_faults_eq {fs gs : List (Text × Raised)} (h : publicFaults fs = publicFaults gs)
    {name : Text} (hname : isPrivate name = false) : fs.lookup name = gs.lookup name := by
  rw [← lookup_publicFaults hname fs, ← lookup_publicFaults hname gs, h]

theorem Akin.bound {as bs : List (Text × Value)} {fs gs : List (Text × Raised)}
    (hattributes : AttributesAkin as bs) (hfaults : publicFaults fs = publicFaults gs)
    (h : Akin v w) : Akin (Value.bound as fs v) (Value.bound bs gs w) := by
  have hwhole := h
  cases h with
  | @atom v hatom =>
    cases v with
    | routine i arity action => cases hatom
    | _ => exact .atom hatom
  | routine i arity haction =>
    cases haction with
    | @ownAttribute lead name hname =>
      have hvalue := hattributes.lookup hname
      rw [Value.bound, Value.bound, lookup_faults_eq hfaults hname]
      split
      · exact .routine i arity (.failure _)
      · generalize as.lookup name = a at hvalue ⊢
        generalize bs.lookup name = b at hvalue ⊢
        cases hvalue with
        | some hab => exact .routine i arity (.labelled lead hab)
        | none => exact .routine i arity (.failure _)
    | _ => exact hwhole
  | _ => exact hwhole

theorem Akin.methods_eq (h : Akin v w) : v.methods = w.methods := by
  cases h with
  | shared cell kind _ => cases kind <;> rfl
  | _ => rfl

theorem Akin.builtinAttribute? (h : Akin v w) (name : Text) :
    Option.Rel Akin (Value.builtinAttribute? v name) (Value.builtinAttribute? w name) := by
  have hfield : Option.Rel Akin (v.fields.lookup name) (w.fields.lookup name) := by
    cases h with
    | atom _ =>
      exact rel_refl fun u hu => .atom (simple_of_mem_fields (Table.mem_of_lookup hu)).1
    | _ => exact .none
  unfold Value.builtinAttribute?
  rw [h.methods_eq]
  generalize v.fields.lookup name = a at hfield ⊢
  generalize w.fields.lookup name = b at hfield ⊢
  cases hfield with
  | some hab => exact .some hab
  | none =>
    show Option.Rel Akin (if _ then _ else _) (if _ then _ else _)
    split
    · exact .some (.method name h)
    · exact .none

/-- Whether a value is an object of the application. -/
def isObject : Value → Bool
  | .object _ _ _ _ => true
  | _ => false

theorem readAttribute_of_isObject_eq_false (h : v.isObject = false) (name : Text) :
    v.readAttribute name = match v.builtinAttribute? name with
      | some a => .ok a
      | none => .error (.lacking v.typeName name) := by
  unfold Value.readAttribute
  split
  · cases h
  · rfl

theorem Akin.readAttribute_of_isObject_eq_false (h : Akin v w) (hv : v.isObject = false)
    (hw : w.isObject = false) (name : Text) :
    Agree Akin (v.readAttribute name) (w.readAttribute name) := by
  have hbuiltin := h.builtinAttribute? name
  rw [Value.readAttribute_of_isObject_eq_false hv, Value.readAttribute_of_isObject_eq_false hw,
    h.typeName_eq]
  generalize v.builtinAttribute? name = a at hbuiltin ⊢
  generalize w.builtinAttribute? name = b at hbuiltin ⊢
  cases hbuiltin with
  | some hab => exact .ok hab
  | none => exact .error _

theorem Akin.readAttribute (h : Akin v w) {name : Text} (hname : isPrivate name = false) :
    Agree Akin (v.readAttribute name) (w.readAttribute name) := by
  have hwhole := h
  cases h with
  | object i shown hattributes hfaults =>
    have hvalue := hattributes.lookup hname
    rw [Value.readAttribute, Value.readAttribute, lookup_faults_eq hfaults hname]
    split
    · exact .error _
    · generalize List.lookup name _ = a at hvalue ⊢
      generalize List.lookup name _ = b at hvalue ⊢
      cases hvalue with
      | some hab => exact .ok (.bound hattributes hfaults hab)
      | none => exact .error _
  | @atom v hatom =>
    have hv : v.isObject = false := by
      cases v with
      | object => cases hatom
      | _ => rfl
    exact hwhole.readAttribute_of_isObject_eq_false hv hv name
  | _ => exact hwhole.readAttribute_of_isObject_eq_false rfl rfl name

/-! ## Methods -/

theorem akin_of_flat {owner : Value} (h : Flat (Simple owner) v) : Akin v v := by
  cases h with
  | whole h => exact .atom h.1
  | list h => exact .list (allAkin_refl fun u hu => (h u hu).1)
  | tuple h => exact .tuple (allAkin_refl fun u hu => (h u hu).1)

/-- Elements that are akin one by one, at the same places. -/
def ElementsAkin (es fs : List (Value × Nat)) : Prop :=
  List.Forall₂ (fun e f => Akin e.1 f.1 ∧ e.2 = f.2) es fs

theorem AllAkin.zipIdx {vs ws : List Value} (h : AllAkin vs ws) :
    ElementsAkin vs.zipIdx ws.zipIdx := by
  suffices hfrom : ∀ i, ElementsAkin (vs.zipIdx i) (ws.zipIdx i) from hfrom 0
  replace h := allAkin_iff.1 h
  induction h with
  | nil => exact fun i => .nil
  | cons hv _ ih => exact fun i => .cons ⟨hv, rfl⟩ (ih (i + 1))

namespace ElementsAkin

variable {es fs : List (Value × Nat)}

theorem places_eq (h : ElementsAkin es fs) : es.map (·.2) = fs.map (·.2) := by
  induction h with
  | nil => rfl
  | cons he _ ih => rw [List.map_cons, List.map_cons, he.2, ih]

theorem map_tied (h : ElementsAkin es fs) (hv : Akin v w) :
    AllAkin (es.map fun e => Value.tied v e.1) (fs.map fun e => Value.tied w e.1) := by
  rw [allAkin_iff, List.forall₂_map_left_iff, List.forall₂_map_right_iff]
  exact h.imp fun _ _ he => hv.tied he.1

theorem sorted_eq (h : ElementsAkin es fs) (c : Cells) : sorted es c = sorted fs c := by
  have hranks : es.map (fun e => ((e.1.now c).rank, e.2)) =
      fs.map fun e => ((e.1.now c).rank, e.2) := by
    induction h with
    | nil => rfl
    | cons he _ ih => rw [List.map_cons, List.map_cons, (he.1.now c).rank_eq, he.2, ih]
  unfold sorted
  simp only [hranks]

theorem getLast? (h : ElementsAkin es fs) :
    Option.Rel (fun e f => Akin e.1 f.1 ∧ e.2 = f.2) es.getLast? fs.getLast? := by
  rw [List.getLast?_eq_getElem?, List.getLast?_eq_getElem?, h.length_eq]
  exact forall₂_getElem? h _

end ElementsAkin

/-- Two calls agree in what they give and leave the same elements. -/
def CallsAgree {α : Type} (r s : Except Failure Value × α) : Prop := Agree Akin r.1 s.1 ∧ r.2 = s.2

theorem Akin.needsArguments_eq {α : Type} (h : Akin v w) (name : Text) :
    (needsArguments v name : Except Failure α) = needsArguments w name := by
  unfold needsArguments missingArguments
  rw [h.isSequence_eq, h.typeName_eq, h.text?_eq]

theorem Akin.callNative (h : Akin v w) (name : Text) :
    Agree Akin (Value.callNative v name) (Value.callNative w name) := by
  have hneeds : (needsArguments v name : Except Failure Value) = needsArguments w name :=
    h.needsArguments_eq name
  cases h with
  | atom _ => exact .refl fun u hu => akin_of_flat (flat_of_callNative hu)
  | _ =>
    show Agree Akin (needsArguments _ name) (needsArguments _ name)
    rw [hneeds]
    exact .error _

theorem Akin.callList (h : Akin v w) {es fs : List (Value × Nat)} (hes : ElementsAkin es fs)
    (name : Text) (c : Cells) :
    CallsAgree (Value.callList v es name c) (Value.callList w fs name c) := by
  have hlast := hes.getLast?
  unfold Value.callList
  rw [hes.places_eq, hes.sorted_eq, h.needsArguments_eq]
  simp only
  split
  · generalize es.getLast? = a at hlast ⊢
    generalize fs.getLast? = b at hlast ⊢
    cases hlast with
    | some he => exact ⟨.ok (h.tied he.1), rfl⟩
    | none => exact ⟨.error _, rfl⟩
  · split
    · exact ⟨.ok (.atom rfl), rfl⟩
    · split
      · exact ⟨.ok (.atom rfl), rfl⟩
      · split
        · rcases sorted fs c with ⟨places, _ | e⟩
          · exact ⟨.ok (.atom rfl), rfl⟩
          · exact ⟨.error e, rfl⟩
        · split
          · exact ⟨.ok (.list (hes.map_tied h)), rfl⟩
          · exact ⟨.error _, rfl⟩

theorem Akin.callSet (h : Akin v w) {es fs : List (Value × Nat)} (hes : ElementsAkin es fs)
    (name : Text) : CallsAgree (Value.callSet v es name) (Value.callSet w fs name) := by
  have hplaces := hes.places_eq
  unfold Value.callSet
  rw [h.needsArguments_eq]
  simp only
  split
  · cases hes with
    | nil => exact ⟨.error _, rfl⟩
    | cons he hrest => exact ⟨.ok (h.tied he.1), ElementsAkin.places_eq hrest⟩
  · split
    · exact ⟨.ok (.atom rfl), rfl⟩
    · split
      · exact ⟨.ok (.set (hes.map_tied h)), hplaces⟩
      · split
        · exact ⟨.ok (.atom rfl), hplaces⟩
        · exact ⟨.error _, hplaces⟩

theorem Akin.callCollection (h : Akin v w) (kind : Collection) {es fs : List (Value × Nat)}
    (hes : ElementsAkin es fs) (name : Text) (c : Cells) :
    CallsAgree (Value.callCollection kind v es name c)
      (Value.callCollection kind w fs name c) := by
  cases kind with
  | list => exact h.callList hes name c
  | set => exact h.callSet hes name

theorem Akin.perform (h : Akin v w) (name : Text) (c : Cells) :
    CallsAgree (Value.perform v name c) (Value.perform w name c) := by
  have hwhole := h
  cases h with
  | @atom v hatom =>
    cases v with
    | list | set | shared => cases hatom
    | _ => exact ⟨hwhole.callNative name, rfl⟩
  | list h => exact ⟨(hwhole.callList h.zipIdx name c).1, rfl⟩
  | set h => exact ⟨(hwhole.callSet h.zipIdx name).1, rfl⟩
  | shared cell kind h =>
    have hleft := Cells.forall₂_left h.zipIdx c cell
    obtain ⟨hresult, hplaces⟩ := hwhole.callCollection kind hleft name c
    exact ⟨hresult, congrArg (c.leave cell) hplaces⟩
  | _ => exact ⟨hwhole.callNative name, rfl⟩

theorem Akin.anew (h : Akin v w) : Pairs Akin v.anew w.anew := by
  have hwhole := h
  cases h with
  | @atom v hatom =>
    cases v with
    | list | set => cases hatom
    | _ => exact .pure hwhole
  | list h =>
    rw [Value.anew, Value.anew]
    exact .fresh fun n => ⟨.shared n .list h, rfl⟩
  | set h =>
    rw [Value.anew, Value.anew]
    exact .fresh fun n => ⟨.shared n .set h, rfl⟩
  | _ => exact .pure hwhole

theorem Akin.callMethod (h : Akin v w) (name : Text) :
    Pairs Akin (Value.callMethod v name) (Value.callMethod w name) :=
  .bind (.acting (h.perform name)) fun _ _ hresult =>
    .bind (.ofExcept hresult) fun _ _ hfound => hfound.anew

/-! ## Copies -/

theorem Akin.labelledValue (h : Akin v w) (lead : Text) :
    Agree Akin (Value.labelledValue lead v) (Value.labelledValue lead w) := by
  cases h with
  | @atom v h =>
    refine Agree.refl fun u hu => ?_
    unfold Value.labelledValue at hu
    split at hu
    · cases hu
      exact .atom rfl
    · cases hu
      exact .atom rfl
    · cases hu
  | _ => exact .error _

theorem renew_of_isAtom (h : v.isAtom = true) (next : Nat) : renew next v = (v, next) := by
  cases v with
  | list | tuple | set | shared | dict | view | object | routine | method | cursor => cases h
  | _ => rfl

mutual

theorem Akin.renew {v w : Value} (h : Akin v w) (next : Nat) :
    Akin (Value.renew next v).1 (Value.renew next w).1 ∧
      (Value.renew next v).2 = (Value.renew next w).2 := by
  match h with
  | .atom h =>
    rw [renew_of_isAtom h]
    exact ⟨.atom h, rfl⟩
  | .list h => exact ⟨.list (h.renewAll next).1, (h.renewAll next).2⟩
  | .tuple h => exact ⟨.tuple (h.renewAll next).1, (h.renewAll next).2⟩
  | .set h => exact ⟨.set (h.renewAll next).1, (h.renewAll next).2⟩
  | .shared _ kind h =>
    exact ⟨.shared next kind (h.renewAll (next + 1)).1, (h.renewAll (next + 1)).2⟩
  | .dict h => exact ⟨.dict (h.renewEntries next).1, (h.renewEntries next).2⟩
  | .view h => exact ⟨.view (h.renewEntries next).1, (h.renewEntries next).2⟩
  | .object _ shown hattributes hfaults =>
    obtain ⟨hcopies, hnext⟩ := hattributes.renewAttributes (next + 1)
    exact ⟨.object next shown hcopies hfaults, hnext⟩
  | .routine _ arity h =>
    obtain ⟨hcopy, hnext⟩ := h.renewRoutine (next + 1)
    exact ⟨.routine next arity hcopy, hnext⟩
  | .method name h => exact ⟨.method name (h.renew next).1, (h.renew next).2⟩
  | .cursor _ h => exact ⟨.cursor next (h.renewAll (next + 1)).1, (h.renewAll (next + 1)).2⟩
termination_by structural h

theorem AllAkin.renewAll {vs ws : List Value} (h : AllAkin vs ws) (next : Nat) :
    AllAkin (Value.renewAll next vs).1 (Value.renewAll next ws).1 ∧
      (Value.renewAll next vs).2 = (Value.renewAll next ws).2 := by
  match h with
  | .nil => exact ⟨.nil, rfl⟩
  | @AllAkin.cons v w vs ws hv hrest =>
    obtain ⟨hcopy, hnext⟩ := hv.renew next
    obtain ⟨hcopies, hlast⟩ := hrest.renewAll (Value.renew next v).2
    simp only [Value.renewAll, ← hnext]
    exact ⟨.cons hcopy hcopies, hlast⟩
termination_by structural h

theorem EntriesAkin.renewEntries {es fs : List (Value × Value)} (h : EntriesAkin es fs)
    (next : Nat) :
    EntriesAkin (Value.renewEntries next es).1 (Value.renewEntries next fs).1 ∧
      (Value.renewEntries next es).2 = (Value.renewEntries next fs).2 := by
  match h with
  | .nil => exact ⟨.nil, rfl⟩
  | @EntriesAkin.cons k l v w es fs hk hv hrest =>
    obtain ⟨hkey, hnext⟩ := hk.renew next
    obtain ⟨hvalue, hthen⟩ := hv.renew (Value.renew next k).2
    obtain ⟨hcopies, hlast⟩ := hrest.renewEntries (Value.renew (Value.renew next k).2 v).2
    simp only [Value.renewEntries, ← hnext, ← hthen]
    exact ⟨.cons hkey hvalue hcopies, hlast⟩
termination_by structural h

theorem AttributesAkin.renewAttributes {as bs : List (Text × Value)} (h : AttributesAkin as bs)
    (next : Nat) :
    AttributesAkin (Value.renewAttributes next as).1 (Value.renewAttributes next bs).1 ∧
      (Value.renewAttributes next as).2 = (Value.renewAttributes next bs).2 := by
  match h with
  | .nil => exact ⟨.nil, rfl⟩
  | @AttributesAkin.both name v w as bs hv hrest =>
    cases hname : isPrivate name with
    | true =>
      obtain ⟨hcopies, hlast⟩ := hrest.renewAttributes next
      simp only [Value.renewAttributes, hname, if_true]
      exact ⟨.both name hv hcopies, hlast⟩
    | false =>
      obtain ⟨hcopy, hnext⟩ := hv.renew next
      obtain ⟨hcopies, hlast⟩ := hrest.renewAttributes (Value.renew next v).2
      simp only [Value.renewAttributes, hname, Bool.false_eq_true, if_false, ← hnext]
      exact ⟨.both name hcopy hcopies, hlast⟩
  | @AttributesAkin.left name v as bs hname hrest =>
    obtain ⟨hcopies, hlast⟩ := hrest.renewAttributes next
    simp only [Value.renewAttributes, hname, if_true]
    exact ⟨.left hname hcopies, hlast⟩
  | @AttributesAkin.right name w as bs hname hrest =>
    obtain ⟨hcopies, hlast⟩ := hrest.renewAttributes next
    simp only [Value.renewAttributes, hname, if_true]
    exact ⟨.right hname hcopies, hlast⟩
termination_by structural h

theorem ActionAkin.renewRoutine {a b : Routine Value} (h : ActionAkin a b) (next : Nat) :
    ActionAkin (Value.renewRoutine next a).1 (Value.renewRoutine next b).1 ∧
      (Value.renewRoutine next a).2 = (Value.renewRoutine next b).2 := by
  match h with
  | .constant h => exact ⟨.constant h, rfl⟩
  | .failure r => exact ⟨.failure r, rfl⟩
  | .counter _ start => exact ⟨.counter next start, rfl⟩
  | .ownAttribute lead h => exact ⟨.ownAttribute lead h, rfl⟩
  | .labelled lead h => exact ⟨.labelled lead (h.renew next).1, (h.renew next).2⟩
termination_by structural h

end

/-! ## Steps -/

theorem Akin.position?_eq (h : Akin v w) : position? v = position? w := by
  cases h <;> rfl

theorem Akin.elementAt (h : Akin v w) (hk : Akin k l) :
    Pairs Akin (Value.elementAt v k) (Value.elementAt w l) := by
  unfold Value.elementAt
  rw [hk.position?_eq]
  refine .bind (ignoresJournal_position? l).pairs fun i j hij => ?_
  subst hij
  cases i with
  | none => exact .pure (.atom rfl)
  | some i =>
    show Pairs Akin (if i < 0 then _ else _) (if i < 0 then _ else _)
    split
    · exact .pure (.atom rfl)
    · refine .bind (.asking h.opened) fun v' w' hopened => ?_
      rw [hopened.size?_eq]
      split
      · exact .throw _
      · exact .pure (.getD_undefined (hopened.at? i.toNat))

theorem Akin.publicAttribute (h : Akin v w) (name : Text) :
    Pairs Akin (Value.publicAttribute v name) (Value.publicAttribute w name) := by
  unfold Value.publicAttribute
  split
  · exact .pure (.atom rfl)
  · rename_i hprivate
    refine .orElse (.ofExcept (h.readAttribute (Bool.eq_false_iff.2 hprivate))) fun e => ?_
    split
    · exact .pure (.atom rfl)
    · exact .report_bind _ _ _ _ (.pure (.atom rfl))

theorem Akin.member (h : Akin v w) (name : Text) : Pairs Akin (v.member name) (w.member name) := by
  have hentries := h.entries?
  unfold Value.member
  rw [h.isSequence_eq]
  generalize v.entries? = es at hentries ⊢
  generalize w.entries? = fs at hentries ⊢
  cases hentries with
  | some hentries => exact .pure (.getD_undefined (hentries.lookup (.atom rfl)))
  | none =>
    show Pairs Akin (if _ then _ else _) (if _ then _ else _)
    split
    · exact h.elementAt (.atom rfl)
    · exact h.publicAttribute name

theorem EntriesAkin.entry {es fs : List (Value × Value)} (h : EntriesAkin es fs)
    (hk : Akin k l) : Pairs Akin (Value.entry es k) (Value.entry fs l) := by
  have hvalue := h.lookup hk
  unfold Value.entry
  rw [hk.isKey_eq, hk.number?_eq, hk.output?_eq]
  split
  · exact .pure (.atom rfl)
  · generalize Value.lookup k es = a at hvalue ⊢
    generalize Value.lookup l fs = b at hvalue ⊢
    cases hvalue with
    | some hab => exact .pure hab
    | none =>
      show Pairs Akin (if _ then _ else _) (if _ then _ else _)
      split
      · refine .bind (.required rfl) fun name name' hname => ?_
        subst hname
        exact .pure (.getD_undefined (h.lookup (.atom rfl)))
      · exact .pure (.atom rfl)

theorem item_of_ne_undefined (hk : k ≠ .undefined) (v : Value) :
    v.item k = match v.entries? with
      | some entries => Value.entry entries k
      | none =>
        if v.isSequence || v.text?.isSome then Value.elementAt v k
        else match k.text?, v with
          | none, _ => pure .undefined
          | some _, .undefined => pure .undefined
          | some name, v => v.member name := by
  unfold Value.item
  split
  · exact absurd rfl hk
  · rfl

theorem Akin.item (h : Akin v w) (hk : Akin k l) : Pairs Akin (v.item k) (w.item l) := by
  by_cases hkey : k = .undefined
  · subst hkey
    cases hk
    exact .pure (.atom rfl)
  · have hentries := h.entries?
    rw [item_of_ne_undefined hkey, item_of_ne_undefined (hk.not_undefined hkey), h.isSequence_eq,
      h.text?_eq, hk.text?_eq]
    generalize v.entries? = es at hentries ⊢
    generalize w.entries? = fs at hentries ⊢
    cases hentries with
    | some hentries => exact hentries.entry hk
    | none =>
      show Pairs Akin (if _ then _ else _) (if _ then _ else _)
      split
      · exact h.elementAt hk
      · cases l.text? with
        | none => exact .pure (.atom rfl)
        | some name =>
          by_cases hv : v = .undefined
          · subst hv
            cases h
            exact .pure (.atom rfl)
          · have hw := h.not_undefined hv
            split
            · contradiction
            · exact absurd rfl hv
            · rename_i hname _
              cases hname
              exact h.member name

theorem Akin.invoke (h : Akin v w) : Pairs Akin v.invoke w.invoke := by
  cases h with
  | @atom v h =>
    cases v with
    | routine | method => cases h
    | _ => exact .throw _
  | routine identity arity h =>
    show Pairs Akin (if arity.getD 0 ≠ 0 then _ else _) (if arity.getD 0 ≠ 0 then _ else _)
    split
    · exact .throw _
    · cases h with
      | constant h => exact .fresh h.renew
      | failure r => exact .throw _
      | counter cell start =>
        refine .bind (Eval.IgnoresJournal.acting _).pairs fun n n' hn => ?_
        subst hn
        exact .pure (.atom rfl)
      | ownAttribute lead _ => exact .throw _
      | labelled lead h => exact .ofExcept (h.labelledValue lead)
  | method name h => exact h.callMethod name
  | _ => exact .throw _

theorem Akin.call (h : Akin v w) (path : Text) : Pairs Akin (v.call path) (w.call path) := by
  unfold Value.call
  rw [h.isCallable_eq]
  split
  · exact .orElse h.invoke fun e => .report_bind _ _ _ _ (.pure (.atom rfl))
  · exact .pure (.atom rfl)

end Value

/-! ## Rounds of a loop -/

namespace Loop

open Value (Akin AllAkin)

variable {v w : Value}

theorem akin_elements (h : Akin v w) : AllAkin (elements v) (elements w) := by
  cases h with
  | @atom v h =>
    refine Value.allAkin_refl fun u hu => ?_
    cases v with
    | range start stop step =>
      obtain ⟨i, -, rfl⟩ := List.mem_map.1 hu
      rfl
    | list | tuple | set | cursor => cases h
    | _ => cases hu
  | list h => exact h
  | tuple h => exact h
  | set h => exact h
  | cursor _ h => exact h
  | _ => exact .nil

/-- The first two parts, for values that have a size and elements or neither. -/
theorem akin_firstTwo (h : Akin v w) : Agree AllAkin
    (if Value.sizeLimit < v.size?.getD 0 then .error .overlong
      else .ok [(v.at? 0).getD .undefined, (v.at? 1).getD .undefined])
    (if Value.sizeLimit < w.size?.getD 0 then .error .overlong
      else .ok [(w.at? 0).getD .undefined, (w.at? 1).getD .undefined]) := by
  rw [h.size?_eq]
  split
  · exact .error _
  · exact .ok (.cons (.getD_undefined (h.at? 0)) (.cons (.getD_undefined (h.at? 1)) .nil))

theorem akin_parts (h : Akin v w) : Agree AllAkin (parts v) (parts w) := by
  have hundefined : AllAkin [.undefined, .undefined] [.undefined, .undefined] :=
    Value.allAkin_refl (by simp [Value.isAtom])
  have hfirst := akin_firstTwo h
  cases h with
  | @atom v _ =>
    cases v with
    | text _ | safe _ | set _ | dict _ | view _ => exact .ok hundefined
    | _ => exact hfirst
  | set _ | dict _ | view _ => exact .ok hundefined
  | _ => exact hfirst

theorem akin_valuesOfElement (names : List Text) (h : Akin v w) :
    Pairs AllAkin (valuesOfElement names v) (valuesOfElement names w) := by
  unfold valuesOfElement
  split
  · exact .pure (.cons h .nil)
  · exact .bind (.asking h.opened) fun _ _ hopened => .ofExcept (akin_parts hopened)

theorem akin_valuesOfEntry (names : List Text) {k l : Value} (hk : Akin k l) (h : Akin v w) :
    AllAkin (valuesOfEntry names (k, v)) (valuesOfEntry names (l, w)) := by
  unfold valuesOfEntry
  split
  · exact .cons h .nil
  · exact .cons hk (.cons h .nil)

end Loop
end Stencil
