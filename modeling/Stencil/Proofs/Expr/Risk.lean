import Stencil.Proofs.Value.Step
import Stencil.Proofs.Expr.Meaning
import Mathlib.Data.List.Induction

/-!
# What evaluation gives, and how it fails

The value of an expression has every property that its literals and the names of its context have
and that steps and filters keep. Evaluation fails only where an integer of too many digits is written
or used, where a sequence whose size cannot be counted is asked for a position, or where a failure of
the application passes the handlers; filters and their arguments make it fail in no other way.
-/

set_option autoImplicit false

namespace Stencil

namespace Expr

/-- A part of an expression that is evaluated whenever the expression is, up to undefined values on
the way: a path that stops early, a key, or what a filter is applied to. Arguments of filters do not
count: what fails in them is stopped, unless it passes every handler. -/
inductive Part : Expr → Expr → Prop where
  | self (e : Expr) : Part e e
  | filtered {value part : Expr} {name : Text} {argument : Option Expr} :
      Part value part → Part (.filtered value name argument) part
  | lead {written root : Text} (before after : List (Step Expr)) :
      Part (.path written root (before ++ after)) (.path written root before)
  | key {written root : Text} {steps : List (Step Expr)} {k part : Expr} :
      .element k ∈ steps → Part k part → Part (.path written root steps) part

/-- An expression that an expression uses as a key. -/
def HasKey (e k : Expr) : Prop :=
  ∃ written root steps, e.Part (.path written root steps) ∧ .element k ∈ steps

/-- Digits that an expression writes: those of an integer, or those of a position after a point. -/
inductive Writes (e : Expr) : Text → Prop where
  | integer {negative : Bool} {digits : Text} :
      e.Part (.literal (.integer negative digits)) → Writes e digits
  | position {written root name : Text} {steps : List (Step Expr)} :
      e.Part (.path written root steps) → .member name ∈ steps → Text.isPosition name →
      Writes e name

/-- A value that a part of an expression gives in some state. -/
def Meets (filters : Filters) (c : Context) (e : Expr) (v : Value) : Prop :=
  ∃ part, e.Part part ∧ (part.eval filters c).Gives v

/-- A filter with its argument, before its failures are stopped. -/
def applied (filters : Filters) (c : Context) (f : Filter) (v : Value) (argument : Option Expr) :
    Eval Value := do
  let a ← evalArgument filters c argument
  f v a

/-- An expression takes a step from a value: a path in it goes on with the step, and gives the value
up to there. -/
def Takes (filters : Filters) (c : Context) (e : Expr) (v : Value) (step : Step Expr) : Prop :=
  ∃ written root before after, e.Part (.path written root (before ++ step :: after)) ∧
    ((Expr.path written root before).eval filters c).Gives v

/-- A failure of the application that the evaluation of an expression can meet: in an attribute that
it asks for by name or by key, in a call, or in a filter with its argument. -/
inductive Raises (filters : Filters) (c : Context) (e : Expr) : Raised → Prop where
  | member {v : Value} {name : Text} {r : Raised} : e.Takes filters c v (.member name) →
      v.Refuses name r → Raises filters c e r
  | element {v key : Value} {k : Expr} {name : Text} {r : Raised} :
      e.Takes filters c v (.element k) → (k.eval filters c).Gives key → key.text? = some name →
      v.Refuses name r → Raises filters c e r
  | call {v : Value} {r : Raised} : e.Takes filters c v .call → v.invoke.Fails (.raised r) →
      Raises filters c e r
  | filter {value : Expr} {name : Text} {argument : Option Expr} {f : Filter} {v : Value}
      {r : Raised} : e.Part (.filtered value name argument) → filters.lookup name = some f →
      (value.eval filters c).Gives v → (applied filters c f v argument).Fails (.raised r) →
      Raises filters c e r

/-- How the evaluation of an expression fails, or the use of its value as text. -/
inductive Risk (filters : Filters) (c : Context) (e : Expr) : Failure → Prop where
  | written {digits : Text} : e.Writes digits → Number.digitLimit < digits.length →
      Risk filters c e (.tooManyDigits (some digits.length))
  | key {k : Expr} {v : Value} {t : Text} : e.HasKey k → (k.eval filters c).Gives v →
      v.text? = some t → Text.isPosition t → Number.digitLimit < t.length →
      Risk filters c e (.tooManyDigits (some t.length))
  | textless {v : Value} (cells : Cells) : e.Meets filters c v → (v.now cells).output? = none →
      Risk filters c e (.tooManyDigits none)
  | size {v : Value} : e.Meets filters c v → Value.sizeLimit < v.size?.getD 0 →
      Risk filters c e .overlong
  | escape {r s : Raised} : e.Raises filters c r → r.Escapes s → Risk filters c e (.raised s)

variable {filters : Filters} {c : Context}

/-! ## Parts -/

/-- A path without steps has no part but itself. -/
theorem Part.eq_of_name {written root : Text} {part : Expr}
    (h : Part (.path written root []) part) : part = .path written root [] := by
  generalize he : Expr.path written root [] = e at h
  cases h with
  | self => rfl
  | filtered _ => cases he
  | lead before after =>
    injection he with hwritten hroot hsteps
    obtain ⟨rfl, rfl⟩ := List.append_eq_nil_iff.1 hsteps.symm
    rfl
  | key hmem _ =>
    injection he with _ _ hsteps
    rw [← hsteps] at hmem
    cases hmem

theorem Meets.of_part {e part : Expr} {v : Value} (h : part.Meets filters c v)
    (hparts : ∀ inner, part.Part inner → e.Part inner) : e.Meets filters c v := by
  obtain ⟨inner, hpart, hgives⟩ := h
  exact ⟨inner, hparts _ hpart, hgives⟩

theorem Takes.of_part {e part : Expr} {v : Value} {step : Step Expr}
    (h : part.Takes filters c v step) (hparts : ∀ inner, part.Part inner → e.Part inner) :
    e.Takes filters c v step := by
  obtain ⟨written, root, before, after, hpart, hgives⟩ := h
  exact ⟨written, root, before, after, hparts _ hpart, hgives⟩

theorem Raises.of_part {e part : Expr} {r : Raised} (h : part.Raises filters c r)
    (hparts : ∀ inner, part.Part inner → e.Part inner) : e.Raises filters c r := by
  cases h with
  | member htakes hrefuses => exact .member (htakes.of_part hparts) hrefuses
  | element htakes hgives hname hrefuses =>
    exact .element (htakes.of_part hparts) hgives hname hrefuses
  | call htakes hfails => exact .call (htakes.of_part hparts) hfails
  | filter hpart hlookup hgives hfails => exact .filter (hparts _ hpart) hlookup hgives hfails

/-- What can go wrong in a part can go wrong in the whole, if the parts of the one are parts of the
other. -/
theorem Risk.of_part {e part : Expr} {f : Failure} (h : part.Risk filters c f)
    (hparts : ∀ inner, part.Part inner → e.Part inner) : e.Risk filters c f := by
  cases h with
  | written hwrites hdigits =>
    refine .written ?_ hdigits
    cases hwrites with
    | integer hpart => exact .integer (hparts _ hpart)
    | position hpart hmem hposition => exact .position (hparts _ hpart) hmem hposition
  | key hkey hgives ht hposition hdigits =>
    obtain ⟨written, root, steps, hpart, hmem⟩ := hkey
    exact .key ⟨written, root, steps, hparts _ hpart, hmem⟩ hgives ht hposition hdigits
  | textless cells hmeets hnone => exact .textless cells (hmeets.of_part hparts) hnone
  | size hmeets hsize => exact .size (hmeets.of_part hparts) hsize
  | escape hraises hescapes => exact .escape (hraises.of_part hparts) hescapes

theorem risk_of_output_none {e : Expr} {v : Value} {cells : Cells} (h : (e.eval filters c).Gives v)
    (hnone : (v.now cells).output? = none) : e.Risk filters c (.tooManyDigits none) :=
  .textless cells ⟨e, .self e, h⟩ hnone

/-! ## Properties that evaluation keeps -/

/-- A property of values that literals have and that steps and filters keep. -/
structure Lasting (filters : Filters) (P : Value → Prop) : Prop where
  literal : ∀ (l : Literal) (v : Value), l.value = .ok v → P v
  step : ∀ v w, P v → v.Next w → P w
  filter : ∀ name f, filters.lookup name = some f → ∀ v argument, P v →
    (∀ a, argument = some a → P a) → (f v argument).Ensures P fun _ => True

theorem lasting_true (filters : Filters) : Lasting filters fun _ => True :=
  ⟨fun _ _ _ => trivial, fun _ _ _ _ => trivial, fun _ _ _ _ _ _ _ => .trivial⟩

variable {P : Value → Prop}

theorem Lasting.undefined (h : Lasting filters P) : P .undefined := h.literal .undefined _ rfl

/-! ## Paths -/

section Paths

variable {written root : Text} {steps : List (Step Expr)}

/-- A step of a path gives a lasting value, and fails only as the path may fail. -/
theorem ensures_evalStep (h : Lasting filters P) {v : Value} (hv : P v)
    {before after : List (Step Expr)} {step : Step Expr} (hsteps : steps = before ++ step :: after)
    (hgives : ((Expr.path written root before).eval filters c).Gives v)
    (hkeys : ∀ k, .element k ∈ steps → (k.eval filters c).Ensures P (k.Risk filters c)) :
    (evalStep filters c written v step).Ensures P
      ((Expr.path written root steps).Risk filters c) := by
  have hstep : step ∈ steps := by simp [hsteps]
  have htakes : (Expr.path written root steps).Takes filters c v step :=
    ⟨written, root, before, after, hsteps ▸ .self _, hgives⟩
  have hmeets : (Expr.path written root steps).Meets filters c v :=
    ⟨.path written root before, hsteps ▸ .lead before _, hgives⟩
  cases step with
  | member name =>
    rw [evalStep]
    refine (Value.ensures_member v name).mono (fun w hw => h.step v w hv hw) ?_
    intro f hf
    cases hf with
    | position ht hposition hdigits =>
      cases ht
      exact .written (.position (.self _) hstep hposition) hdigits
    | key hnumber _ => cases hnumber
    | size hsize => exact .size hmeets hsize
    | refused hname hrefuses hescapes =>
      cases hname
      exact .escape (.member htakes hrefuses) hescapes
  | element k =>
    rw [evalStep]
    have hkey : (k.eval filters c).Ensures P ((Expr.path written root steps).Risk filters c) :=
      (hkeys k hstep).weakenFail fun f hf => hf.of_part fun inner hinner => .key hstep hinner
    apply hkey.gives.bind
    rintro u ⟨-, hkeyed⟩
    refine (Value.ensures_item v u).mono (fun w hw => h.step v w hv hw) ?_
    intro f hf
    cases hf with
    | position ht hposition hdigits =>
      exact .key ⟨written, root, steps, .self _, hstep⟩ hkeyed ht hposition hdigits
    | key hnumber hnone =>
      rw [← u.now_of_number? hnumber (.startingAt 0)] at hnone
      exact .textless _ ⟨k, .key hstep (.self k), hkeyed⟩ hnone
    | size hsize => exact .size hmeets hsize
    | refused hname hrefuses hescapes =>
      exact .escape (.element htakes hkeyed hname hrefuses) hescapes
  | call =>
    rw [evalStep]
    refine (Value.ensures_call v written).mono (fun w hw => h.step v w hv hw) ?_
    intro f hf
    cases hf with
    | escape hfails hescapes => exact .escape (.call htakes hfails) hescapes

/-- A path gives a lasting value after each of its steps. -/
theorem ensures_evalSteps (h : Lasting filters P) (hroot : P (c.get root))
    (hkeys : ∀ k, .element k ∈ steps → (k.eval filters c).Ensures P (k.Risk filters c))
    {before after : List (Step Expr)} (hsteps : steps = before ++ after) :
    (evalSteps filters c written (c.get root) before).Ensures P
      ((Expr.path written root steps).Risk filters c) := by
  -- From the back: the path without its last step is a part of the path, so its value is met.
  induction before using List.reverseRecOn generalizing after with
  | nil =>
    rw [evalSteps]
    exact .pure hroot
  | append_singleton before step ih =>
    rw [List.append_assoc] at hsteps
    rw [evalSteps_append]
    apply (ih hsteps).gives.bind
    rintro v ⟨hv, hgives⟩
    rw [evalSteps_singleton]
    have hpath : ((Expr.path written root before).eval filters c).Gives v := by
      rw [eval]
      exact hgives
    cases v with
    | undefined => exact .pure h.undefined
    | _ => exact ensures_evalStep h hv hsteps hpath hkeys

end Paths

/-! ## Expressions -/

theorem ensures_literal (h : Lasting filters P) (l : Literal) :
    (eval filters c (.literal l)).Ensures P ((Expr.literal l).Risk filters c) := by
  rw [eval]
  apply Eval.Ensures.ofExcept
  cases hvalue : l.value with
  | ok v => exact h.literal l v hvalue
  | error e =>
    cases l with
    | integer negative digits =>
      simp only [Literal.value] at hvalue
      split at hvalue
      · cases hvalue
      · cases hvalue
        exact .written (.integer (.self _)) (by omega)
    | _ => cases hvalue

theorem ensures_filtered (h : Lasting filters P) {value : Expr} {name : Text}
    {argument : Option Expr}
    (hvalue : (value.eval filters c).Ensures P (value.Risk filters c))
    (hargument : ∀ a, argument = some a → (a.eval filters c).Ensures P (a.Risk filters c)) :
    ((Expr.filtered value name argument).eval filters c).Ensures P
      ((Expr.filtered value name argument).Risk filters c) := by
  rw [eval]
  apply (hvalue.weakenFail fun f hf => hf.of_part fun inner hinner => .filtered hinner).gives.bind
  rintro v ⟨hv, hgives⟩
  split
  · exact .pure hv
  · rename_i f hlookup
    have hgiven : (evalArgument filters c argument).Ensures
        (fun o => ∀ a, o = some a → P a) fun _ => True := by
      cases argument with
      | none =>
        rw [evalArgument]
        apply Eval.Ensures.pure
        rintro _ ⟨⟩
      | some a =>
        rw [evalArgument]
        apply ((hargument a rfl).weakenFail fun _ _ => trivial).bind
        intro w hw
        apply Eval.Ensures.pure
        rintro _ ⟨⟩
        exact hw
    have hrun : (applied filters c f v argument).Ensures P fun _ => True :=
      hgiven.bind fun a ha => h.filter name f hlookup v a hv ha
    -- A failing filter leaves its value as it is, so only what passes the handler is a risk.
    refine hrun.fails.reporting (fun r s hr hs => ?_) fun e _ _ htold => .report _ _ _ hv htold
    exact .escape (.filter (.self _) hlookup hgives hr.2) hs

/-- The value of an expression has every lasting property of the context, and evaluation fails only
for a reason that stands in the expression or is met on the way. -/
theorem ensures_eval (h : Lasting filters P) (hc : ∀ name, P (c.get name)) (e : Expr) :
    (e.eval filters c).Ensures P (e.Risk filters c) := by
  cases e with
  | absent =>
    rw [eval]
    exact .pure h.undefined
  | malformed =>
    rw [eval]
    exact .pure h.undefined
  | literal l => exact ensures_literal h l
  | path written root steps =>
    rw [eval]
    have hkeys : ∀ k, .element k ∈ steps → (k.eval filters c).Ensures P (k.Risk filters c) :=
      fun k hk => ensures_eval h hc k
    exact ensures_evalSteps h (hc root) hkeys (List.append_nil steps).symm
  | filtered value name argument =>
    exact ensures_filtered h (ensures_eval h hc value) fun a ha => ensures_eval h hc a
termination_by sizeOf e
decreasing_by
  · have := List.sizeOf_lt_of_mem hk
    simp only [Step.element.sizeOf_spec, path.sizeOf_spec] at this ⊢
    omega
  · simp only [filtered.sizeOf_spec]
    omega
  · simp only [ha, filtered.sizeOf_spec, Option.some.sizeOf_spec]
    omega

/-- Whatever is known of the values, evaluation fails only at a risk. -/
theorem ensures_risk (filters : Filters) (c : Context) (e : Expr) :
    (e.eval filters c).Ensures (fun _ => True) (e.Risk filters c) :=
  ensures_eval (lasting_true filters) (fun _ => trivial) e

end Expr

/-! ## Tests -/

theorem Value.output?_none_of_compare? {a b : Value} {sign : Value.Comparison}
    (h : a.compare? sign b = none) : a.output? = none ∨ b.output? = none := by
  unfold Value.compare? at h
  split at h
  · cases h
  · cases ha : a.output? with
    | none => exact .inl rfl
    | some s =>
      cases hb : b.output? with
      | none => exact .inr rfl
      | some t =>
        rw [ha, hb] at h
        cases h

namespace Test

/-- The expressions that a test evaluates. -/
def operands : Test → List Expr
  | .absent => []
  | .truth e => [e]
  | .comparison left _ right => [left, right]

/-- A test changes no size but those that its operands change. -/
theorem resizes_of_eval {filters : Filters} {c : Context} {t : Test} {v : Value}
    (h : (t.eval filters c).Resizes v) : ∃ e ∈ t.operands, (e.eval filters c).Resizes v := by
  cases t with
  | absent => exact absurd h (Eval.not_resizes_pure false)
  | truth e =>
    rcases h.of_bind with he | ⟨w, hpure⟩
    · exact ⟨e, by simp [operands], he⟩
    · exact absurd hpure (Eval.not_resizes_pure w.isTrue)
  | comparison left sign right =>
    rcases h.of_bind with hleft | ⟨a, hrest⟩
    · exact ⟨left, by simp [operands], hleft⟩
    rcases hrest.of_bind with hright | ⟨b, hcompare⟩
    · exact ⟨right, by simp [operands], hright⟩
    rcases hcompare.of_bind with hask | ⟨now, hrequired⟩
    · exact absurd hask (Eval.not_resizes_asking _)
    · exact absurd hrequired (Eval.not_resizes_required _)

/-- A test fails only as its operands may fail. -/
theorem ensures_risk (filters : Filters) (c : Context) (t : Test) :
    (t.eval filters c).Ensures (fun _ => True) fun f => ∃ e ∈ t.operands, e.Risk filters c f := by
  have hoperand : ∀ e ∈ t.operands, (e.eval filters c).Ensures (e.eval filters c).Gives
      fun f => ∃ e ∈ t.operands, e.Risk filters c f :=
    fun e he => (e.ensures_risk filters c).gives.mono (fun _ hv => hv.2) fun f hf => ⟨e, he, hf⟩
  cases t with
  | absent => exact .pure trivial
  | truth e =>
    apply (hoperand e (by simp [operands])).bind
    intro v _
    exact .pure trivial
  | comparison left sign right =>
    have hleft : left ∈ (Test.comparison left sign right).operands := by simp [operands]
    have hright : right ∈ (Test.comparison left sign right).operands := by simp [operands]
    apply (hoperand left hleft).bind
    intro a ha
    apply (hoperand right hright).bind
    intro b hb
    apply Eval.Ensures.bind (.asked fun cells => (a.now cells, b.now cells))
    rintro _ ⟨cells, rfl⟩
    apply Eval.Ensures.required
    · intro _ _
      trivial
    · intro hnone
      rcases Value.output?_none_of_compare? hnone with hnone | hnone
      · exact ⟨left, hleft, Expr.risk_of_output_none ha hnone⟩
      · exact ⟨right, hright, Expr.risk_of_output_none hb hnone⟩

end Test
end Stencil
