import Stencil.Proofs.Session.Outcome
import Stencil.Proofs.Table.Lookup
import Stencil.Filter.Builtin

/-!
# The journal is only written

The journal of a machine grows while expressions are evaluated, and nothing reads it: two machines
whose cells are the same give the same result and the same cells after it, whatever their journals
hold. This is shown for every step of evaluation. Filters come from outside; a table of filters that
read no journal keeps the property, and the built-in filters are such a table.
-/

set_option autoImplicit false

namespace Stencil

/-- The result of a computation and what it does to the cells do not depend on the journal. -/
def Eval.IgnoresJournal {α : Type} (x : Eval α) : Prop :=
  ∀ m n : Machine, m.cells = n.cells →
    (x.outcome m).1 = (x.outcome n).1 ∧ (x.outcome m).2.cells = (x.outcome n).2.cells

/-- No filter of a table reads the journal. -/
def Filters.IgnoreJournal (filters : Filters) : Prop :=
  ∀ name f, filters.lookup name = some f → ∀ v argument, (f v argument).IgnoresJournal

namespace Eval.IgnoresJournal

variable {α β : Type}

theorem pure (a : α) : IgnoresJournal (Pure.pure a : Eval α) := fun _ _ h => ⟨rfl, h⟩

theorem throw (e : Failure) : IgnoresJournal (MonadExcept.throw e : Eval α) :=
  fun _ _ h => ⟨rfl, h⟩

theorem bind {x : Eval α} {f : α → Eval β} (hx : IgnoresJournal x)
    (hf : ∀ a, IgnoresJournal (f a)) : IgnoresJournal (x >>= f) := by
  intro m n h
  obtain ⟨hresult, hcells⟩ := hx m n h
  rw [outcome_bind, outcome_bind]
  rcases hm : x.outcome m with ⟨r, m'⟩
  rcases hn : x.outcome n with ⟨r', n'⟩
  rw [hm, hn] at hresult hcells
  subst hresult
  cases r with
  | error e => exact ⟨rfl, hcells⟩
  | ok a => exact hf a m' n' hcells

theorem orElse {x : Eval α} {handler : Failure → Eval α} (hx : IgnoresJournal x)
    (hh : ∀ e, IgnoresJournal (handler e)) : IgnoresJournal (Eval.orElse x handler) := by
  intro m n h
  obtain ⟨hresult, hcells⟩ := hx m n h
  rw [outcome_orElse, outcome_orElse]
  rcases hm : x.outcome m with ⟨r, m'⟩
  rcases hn : x.outcome n with ⟨r', n'⟩
  rw [hm, hn] at hresult hcells
  subst hresult
  cases r with
  | ok a => exact ⟨rfl, hcells⟩
  | error e =>
    dsimp only
    split
    · exact hh e m' n' hcells
    · exact ⟨rfl, hcells⟩

theorem note (e : Entry) : IgnoresJournal (Eval.note e) := fun _ _ h => ⟨rfl, h⟩

theorem acting (f : Cells → α × Cells) : IgnoresJournal (Eval.acting f) := by
  intro m n h
  rw [outcome_acting, outcome_acting, h]
  exact ⟨rfl, rfl⟩

theorem asking (f : Cells → α) : IgnoresJournal (Eval.asking f) := .acting _

theorem ofExcept (r : Except Failure α) : IgnoresJournal (Eval.ofExcept r) := by
  cases r with
  | ok a => exact pure a
  | error e => exact throw e

theorem required (o : Option α) : IgnoresJournal (Eval.required o) := by
  cases o with
  | some a => exact pure a
  | none => exact throw _

theorem textOf (v : Value) : IgnoresJournal (Eval.textOf v) :=
  .bind (.asking _) fun _ => .required _

theorem report (component message : Text) (field : Text × Value) (e : Failure) :
    IgnoresJournal (Eval.report component message field e) :=
  .bind (.ofExcept _) fun _ => .note _

end Eval.IgnoresJournal

open Eval (IgnoresJournal)

/-! ## Steps into values -/

namespace Value

theorem ignoresJournal_position? (v : Value) : IgnoresJournal (position? v) := by
  have ofText : ∀ t : Text, IgnoresJournal
      (if Text.isPosition t then
        if t.length ≤ Number.digitLimit then pure (some ((Text.digitsValue t : Nat) : Int))
        else throw (.tooManyDigits (some t.length))
      else pure none : Eval (Option Int)) := by
    intro t
    split
    · split
      · exact .pure _
      · exact .throw _
    · exact .pure _
  cases v with
  | text t => exact ofText t
  | safe t => exact ofText t
  | _ => exact .pure _

theorem ignoresJournal_elementAt (v key : Value) : IgnoresJournal (elementAt v key) := by
  refine .bind (ignoresJournal_position? key) fun i => ?_
  cases i with
  | none => exact .pure _
  | some i =>
    show IgnoresJournal (if i < 0 then _ else _)
    split
    · exact .pure _
    · refine .bind (.asking _) fun w => ?_
      split
      · exact .throw _
      · exact .pure _

theorem ignoresJournal_publicAttribute (v : Value) (name : Text) :
    IgnoresJournal (publicAttribute v name) := by
  unfold publicAttribute
  split
  · exact .pure _
  · refine .orElse (.ofExcept _) fun e => ?_
    split
    · exact .pure _
    · exact .bind (.report _ _ _ e) fun _ => .pure _

theorem ignoresJournal_member (v : Value) (name : Text) : IgnoresJournal (v.member name) := by
  unfold member
  split
  · exact .pure _
  · split
    · exact ignoresJournal_elementAt _ _
    · exact ignoresJournal_publicAttribute _ _

theorem ignoresJournal_entry (entries : List (Value × Value)) (key : Value) :
    IgnoresJournal (entry entries key) := by
  unfold entry
  split
  · exact .pure _
  · split
    · exact .pure _
    · split
      · exact .bind (.required _) fun _ => .pure _
      · exact .pure _

theorem ignoresJournal_item (v key : Value) : IgnoresJournal (v.item key) := by
  unfold item
  split
  · exact .pure _
  · split
    · exact ignoresJournal_entry _ _
    · split
      · exact ignoresJournal_elementAt _ _
      · split
        · exact .pure _
        · exact .pure _
        · exact ignoresJournal_member _ _

theorem ignoresJournal_anew (v : Value) : IgnoresJournal v.anew := by
  unfold anew
  split
  · exact .acting _
  · exact .acting _
  · exact .pure _

theorem ignoresJournal_callMethod (owner : Value) (name : Text) :
    IgnoresJournal (callMethod owner name) :=
  .bind (.acting _) fun _ => .bind (.ofExcept _) fun v => ignoresJournal_anew v

theorem ignoresJournal_invoke (v : Value) : IgnoresJournal v.invoke := by
  unfold invoke
  split
  · split
    · exact .throw _
    · split
      · exact .acting _
      · exact .throw _
      · exact .bind (.acting _) fun _ => .pure _
      · exact .throw _
      · exact .ofExcept _
  · exact ignoresJournal_callMethod _ _
  · exact .throw _

theorem ignoresJournal_call (path : Text) (v : Value) : IgnoresJournal (v.call path) := by
  unfold call
  split
  · exact .orElse (ignoresJournal_invoke v) fun e => .bind (.report _ _ _ e) fun _ => .pure _
  · exact .pure _

end Value

/-! ## Expressions -/

namespace Expr

theorem ignoresJournal_guardFilter {name : Text} {v : Value} {run : Eval Value}
    (h : IgnoresJournal run) : IgnoresJournal (guardFilter name v run) :=
  .orElse h fun e => .bind (.report _ _ _ e) fun _ => .pure _

variable {filters : Filters}

mutual

theorem ignoresJournal_eval (hf : filters.IgnoreJournal) (c : Context) :
    ∀ e : Expr, IgnoresJournal (e.eval filters c)
  | .absent => by
    unfold eval
    exact .pure _
  | .malformed => by
    unfold eval
    exact .pure _
  | .literal l => by
    unfold eval
    exact .ofExcept _
  | .path written root steps => by
    unfold eval
    exact ignoresJournal_evalSteps hf c written _ steps
  | .filtered value name argument => by
    unfold eval
    refine .bind (ignoresJournal_eval hf c value) fun v => ?_
    split
    · exact .pure _
    · rename_i f hlookup
      exact ignoresJournal_guardFilter
        (.bind (ignoresJournal_evalArgument hf c argument) fun a => hf name f hlookup v a)

theorem ignoresJournal_evalArgument (hf : filters.IgnoreJournal) (c : Context) :
    ∀ o : Option Expr, IgnoresJournal (evalArgument filters c o)
  | none => by
    unfold evalArgument
    exact .pure _
  | some e => by
    unfold evalArgument
    exact .bind (ignoresJournal_eval hf c e) fun _ => .pure _

theorem ignoresJournal_evalSteps (hf : filters.IgnoreJournal) (c : Context) (written : Text) :
    ∀ (v : Value) (steps : List (Step Expr)),
      IgnoresJournal (evalSteps filters c written v steps)
  | v, [] => by
    unfold evalSteps
    exact .pure _
  | v, step :: rest => by
    unfold evalSteps
    split
    · exact .pure _
    · exact .bind (ignoresJournal_evalStep hf c written v step) fun w =>
        ignoresJournal_evalSteps hf c written w rest

theorem ignoresJournal_evalStep (hf : filters.IgnoreJournal) (c : Context) (written : Text)
    (v : Value) : ∀ step : Step Expr, IgnoresJournal (evalStep filters c written v step)
  | .member name => by
    unfold evalStep
    exact v.ignoresJournal_member name
  | .element key => by
    unfold evalStep
    exact .bind (ignoresJournal_eval hf c key) fun k => v.ignoresJournal_item k
  | .call => by
    unfold evalStep
    exact v.ignoresJournal_call written

end

end Expr

theorem Test.ignoresJournal_eval {filters : Filters} (hf : filters.IgnoreJournal) (c : Context)
    (t : Test) : IgnoresJournal (t.eval filters c) := by
  cases t with
  | absent => exact .pure _
  | truth e => exact .bind (e.ignoresJournal_eval hf c) fun _ => .pure _
  | comparison left sign right =>
    exact .bind (left.ignoresJournal_eval hf c) fun a =>
      .bind (right.ignoresJournal_eval hf c) fun b => .bind (.asking _) fun _ => .required _

/-! ## The built-in filters -/

namespace Filter

theorem ignoresJournal_unary {name : Text} {f : Value → Eval Value}
    (h : ∀ v, IgnoresJournal (f v)) (v : Value) (argument : Option Value) :
    IgnoresJournal (unary name f v argument) := by
  cases argument with
  | none => exact h v
  | some a => exact .throw _

theorem ignoresJournal_json (v : Value) : IgnoresJournal (json v) := by
  unfold json
  refine .bind (.asking _) fun result => ?_
  split
  · exact .pure _
  · exact .bind (.note _) fun _ => .pure _

theorem ignoresJournal_scriptLiteral (v : Value) : IgnoresJournal (scriptLiteral v) := by
  unfold scriptLiteral
  split
  · exact .pure _
  · exact .bind (.textOf _) fun _ => .pure _

theorem ignoresJournal_jsonScript (v : Value) (argument : Option Value) :
    IgnoresJournal (jsonScript v argument) := by
  have hrest : ∀ id : Text, IgnoresJournal (do
      let payload ← json v
      pure (.safe ("<script id=\"".toList ++ Markup.escape id ++
        "\" type=\"application/json\">".toList ++ payload ++ "</script>".toList)) : Eval Value) :=
    fun id => .bind (ignoresJournal_json v) fun _ => .pure _
  unfold jsonScript
  split
  · exact .bind (.pure _) hrest
  · exact .bind (.textOf _) hrest

theorem ignoresJournal_length (v : Value) : IgnoresJournal (length v) := by
  unfold length
  refine .bind (.asking _) fun w => ?_
  simp only
  split
  · exact .throw _
  · exact .pure _

theorem ignoresJournal_default (v : Value) (argument : Option Value) :
    IgnoresJournal (default v argument) := by
  unfold default
  split
  · exact .pure _
  · exact .pure _

/-- The built-in filters read no journal. -/
theorem ignoreJournal_builtin : Filters.IgnoreJournal builtin := by
  intro name f hf v argument
  have hmem := Table.mem_of_lookup hf
  simp only [builtin, List.mem_cons, Prod.mk.injEq, List.not_mem_nil, or_false] at hmem
  rcases hmem with ⟨-, rfl⟩ | ⟨-, rfl⟩ | ⟨-, rfl⟩ | ⟨-, rfl⟩ | ⟨-, rfl⟩ | ⟨-, rfl⟩ | ⟨-, rfl⟩ |
    ⟨-, rfl⟩ | ⟨-, rfl⟩
  · exact ignoresJournal_unary (fun v => .pure _) v argument
  · exact ignoresJournal_unary (fun v => .pure _) v argument
  · exact ignoresJournal_unary (fun v => .bind (.textOf _) fun _ => .pure _) v argument
  · exact ignoresJournal_unary ignoresJournal_scriptLiteral v argument
  · exact ignoresJournal_unary (fun v => .bind (ignoresJournal_json v) fun _ => .pure _) v argument
  · exact ignoresJournal_unary (fun v => .bind (ignoresJournal_json v) fun _ => .pure _) v argument
  · exact ignoresJournal_jsonScript v argument
  · exact ignoresJournal_unary ignoresJournal_length v argument
  · exact ignoresJournal_default v argument

end Filter
end Stencil
