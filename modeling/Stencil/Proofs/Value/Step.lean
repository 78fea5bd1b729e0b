import Stencil.Proofs.Value.Method
import Stencil.Value.Access

/-!
# What steps into values give

A step gives an undefined value, a part of the value that it is taken from, or what the application's
routine or a method gives. It fails only where a text of too many digits is used as a position, where
a number without a text is used as a key, where a position is asked of a sequence whose size cannot
be counted, or where a failure of the application passes the handler: because it is a request to end
the program, or because its text cannot be written.
-/

set_option autoImplicit false

namespace Stencil

/-- What comes out of a handler of ordinary failures when the application raises a failure: the
failure itself if it is not ordinary, or what comes up instead of its text. -/
inductive Raised.Escapes : Raised → Raised → Prop where
  | request {r : Raised} : r.isOrdinary = false → Escapes r r
  | untold (kind : Text) (instead : Raised) : Escapes (.untold kind true instead) instead

/-- A failure that passes handlers is one of the application. -/
theorem Failure.escapes_of_not_ordinary {f : Failure} (h : f.isOrdinary = false) :
    ∃ r : Raised, f = .raised r ∧ r.Escapes r := by
  cases f with
  | raised r => exact ⟨r, rfl, .request h⟩
  | _ => cases h

/-- A failure that has no text is one of the application. -/
theorem Failure.escapes_of_untold {f g : Failure} (hf : f.isOrdinary = true)
    (h : f.told = .error g) : ∃ r s : Raised, f = .raised r ∧ g = .raised s ∧ r.Escapes s := by
  cases f with
  | raised r =>
    cases r with
    | told kind message ordinary => cases h
    | untold kind ordinary instead =>
      cases h
      cases (show ordinary = true from hf)
      exact ⟨_, _, rfl, rfl, .untold kind instead⟩
  | _ => cases h

namespace Eval

variable {α : Type} {x : Eval α} {post : α → Prop}

/-- What a handler that reports ensures: besides the failures of the application that escape, only
what the computation and the value after the report do. -/
theorem Ensures.reporting {midFail fail : Failure → Prop} {handler : Failure → Eval α}
    (hx : x.Ensures post midFail)
    (hescapes : ∀ r s, midFail (.raised r) → r.Escapes s → fail (.raised s))
    (hh : ∀ e, midFail e → e.isOrdinary = true →
      (∀ f, e.told = .error f → fail f) → (handler e).Ensures post fail) :
    (Eval.orElse x handler).Ensures post fail := by
  refine hx.orElse ?_ ?_
  · intro e he hpasses
    obtain ⟨r, rfl, hr⟩ := Failure.escapes_of_not_ordinary hpasses
    exact hescapes r r he hr
  · intro e he hordinary
    refine hh e he hordinary fun f hf => ?_
    obtain ⟨r, s, rfl, rfl, hr⟩ := Failure.escapes_of_untold hordinary hf
    exact hescapes r s he hr

end Eval

namespace Value

/-- A value that one step from another value can give. -/
inductive Next (v : Value) : Value → Prop where
  | undefined : Next v .undefined
  | element {i : Nat} {w : Value} : v.at? i = some w → Next v w
  | member {w : Value} : v.IsMember w → Next v w
  | entry {entries : List (Value × Value)} {key w : Value} :
      v.entries? = some entries → lookup key entries = some w → Next v w
  | property {name : Text} {w : Value} : v.readAttribute name = .ok w → Next v w
  | made {identity : Nat} {arity : Option Nat} {u : Value} (next : Nat) :
      v = .routine identity arity (.constant u) → Next v (u.renew next).1
  | counted {identity cell : Nat} {arity : Option Nat} {start : Int} (n : Nat) :
      v = .routine identity arity (.counter cell start) → Next v (.int (start + n))
  | labelled {identity : Nat} {arity : Option Nat} {lead : Text} {u w : Value} :
      v = .routine identity arity (.labelled lead u) → labelledValue lead u = .ok w → Next v w
  | called {owner u w : Value} {name : Text} :
      v = .method owner name → Found owner u → Renewed u w → Next v w

/-- A public attribute of a value fails, with a failure of the application. -/
def Refuses (v : Value) (name : Text) (r : Raised) : Prop :=
  isPrivate name = false ∧ v.readAttribute name = .error (.raised r)

/-- How a step from a value fails, given its key. -/
inductive StepRisk (v key : Value) : Failure → Prop where
  | position {t : Text} : key.text? = some t → Text.isPosition t →
      Number.digitLimit < t.length → StepRisk v key (.tooManyDigits (some t.length))
  | key : key.number?.isSome → key.output? = none → StepRisk v key (.tooManyDigits none)
  | size : sizeLimit < v.size?.getD 0 → StepRisk v key .overlong
  | refused {name : Text} {r s : Raised} : key.text? = some name → v.Refuses name r →
      r.Escapes s → StepRisk v key (.raised s)

/-- How a call of a value fails. -/
inductive CallRisk (v : Value) : Failure → Prop where
  | escape {r s : Raised} : v.invoke.Fails (.raised r) → r.Escapes s → CallRisk v (.raised s)

variable (v key : Value)

theorem ensures_position? :
    (position? key).Ensures (fun _ => True) (StepRisk v key) := by
  have htext : ∀ t, key.text? = some t → Eval.Ensures (fun _ => True) (StepRisk v key)
      (if Text.isPosition t then
        if t.length ≤ Number.digitLimit then pure (some ((Text.digitsValue t : Nat) : Int))
        else throw (.tooManyDigits (some t.length))
      else pure none : Eval (Option Int)) := by
    intro t ht
    split
    · rename_i hposition
      split
      · exact .pure trivial
      · exact .throw (.position ht hposition (by omega))
    · exact .pure trivial
  cases key with
  | text t => exact htext t rfl
  | safe t => exact htext t rfl
  | _ => exact .pure trivial

theorem ensures_elementAt : (elementAt v key).Ensures (Next v) (StepRisk v key) := by
  apply (ensures_position? v key).bind
  intro position _
  cases position with
  | none => exact .pure .undefined
  | some i =>
    show Eval.Ensures _ _ (if i < 0 then _ else _)
    split
    · exact .pure .undefined
    · apply Eval.Ensures.bind (.asked v.opened)
      rintro _ ⟨c, rfl⟩
      split
      · rename_i hsize
        exact .throw (.size (Nat.lt_of_lt_of_le hsize (v.size_opened_le c)))
      · apply Eval.Ensures.pure
        cases hat : (v.opened c).at? i.toNat with
        | none => exact .undefined
        | some w =>
          rcases at?_opened hat with hat | hmember
          · exact .element hat
          · exact .member hmember

theorem ensures_publicAttribute {key : Value} {name : Text} (hkey : key.text? = some name) :
    (publicAttribute v name).Ensures (Next v) (StepRisk v key) := by
  unfold publicAttribute
  split
  · exact .pure .undefined
  · rename_i hprivate
    have hread : (Eval.ofExcept (v.readAttribute name)).Ensures (Next v)
        fun e => v.readAttribute name = .error e := by
      apply Eval.Ensures.ofExcept
      cases hread : v.readAttribute name with
      | ok w => exact .property hread
      | error e => rfl
    refine hread.reporting
      (fun r s hr hs => .refused hkey ⟨Bool.eq_false_iff.2 hprivate, hr⟩ hs) ?_
    intro e _ _ htold
    split
    · exact .pure .undefined
    · exact .report _ _ _ .undefined htold

theorem ensures_member (name : Text) :
    (v.member name).Ensures (Next v) (StepRisk v (.text name)) := by
  unfold member
  split
  · rename_i entries hentries
    apply Eval.Ensures.pure
    cases hlookup : lookupName name entries with
    | none => exact .undefined
    | some w => exact .entry hentries hlookup
  · split
    · exact ensures_elementAt v (.text name)
    · exact ensures_publicAttribute v rfl

/-- A value that is no mapping and is not asked for positions has public attributes only. -/
theorem ensures_member_of_plain {v key : Value} (hentries : v.entries? = none)
    (hplain : ¬(v.isSequence || v.text?.isSome) = true) {name : Text}
    (hkey : key.text? = some name) : (v.member name).Ensures (Next v) (StepRisk v key) := by
  have hsequence : v.isSequence = false := by
    cases h : v.isSequence with
    | false => rfl
    | true => simp [h] at hplain
  unfold member
  simp only [hentries, hsequence, Bool.false_and]
  exact ensures_publicAttribute v hkey

theorem ensures_entry {entries : List (Value × Value)} (h : v.entries? = some entries) :
    (entry entries key).Ensures (Next v) (StepRisk v key) := by
  unfold entry
  split
  · exact .pure .undefined
  · split
    · rename_i w hlookup
      exact .pure (.entry h hlookup)
    · split
      · rename_i hnumber
        have htext : (Eval.required key.output?).Ensures (fun _ => True) (StepRisk v key) :=
          .required (fun _ _ => trivial) fun hnone => .key hnumber hnone
        apply htext.bind
        intro name _
        apply Eval.Ensures.pure
        cases hlookup : lookupName name entries with
        | none => exact .undefined
        | some w => exact .entry h hlookup
      · exact .pure .undefined

theorem ensures_item : (v.item key).Ensures (Next v) (StepRisk v key) := by
  unfold item
  split
  · exact .pure .undefined
  · split
    · rename_i entries hentries
      exact ensures_entry v key hentries
    · rename_i hentries
      split
      · exact ensures_elementAt v key
      · rename_i hsequence
        split
        · exact .pure .undefined
        · exact .pure .undefined
        · rename_i hname _
          exact ensures_member_of_plain hentries hsequence hname

theorem ensures_invoke : v.invoke.Ensures (Next v) (fun _ => True) := by
  cases v with
  | routine identity arity action =>
    show Eval.Ensures _ _ (if arity.getD 0 ≠ 0 then _ else _)
    split
    · exact .throw trivial
    · cases action with
      | constant u => exact .acting fun c => .made c.next rfl
      | failure raised => exact .throw trivial
      | counter cell start =>
        have htake : (Eval.take cell).Ensures (fun _ => True) fun _ => True := .trivial
        apply htake.bind
        intro n _
        exact .pure (.counted n rfl)
      | ownAttribute lead name => exact .throw trivial
      | labelled lead u =>
        apply Eval.Ensures.ofExcept
        cases hlabel : labelledValue lead u with
        | ok w => exact .labelled rfl hlabel
        | error e => trivial
  | method owner name =>
    exact (ensures_callMethod owner name).weaken fun w ⟨u, hu, hw⟩ => .called rfl hu hw
  | _ => exact .throw trivial

theorem ensures_call (path : Text) : (v.call path).Ensures (Next v) (CallRisk v) := by
  unfold call
  split
  · refine (ensures_invoke v).fails.reporting (fun r s hr hs => .escape hr.2 hs) ?_
    intro e _ _ htold
    exact .report _ _ _ .undefined htold
  · exact .pure .undefined

end Value
end Stencil
