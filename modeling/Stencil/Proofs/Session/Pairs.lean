import Stencil.Proofs.Session.Alike

/-!
# Pairs of computations

Two computations are paired by a relation of their results if, started in states that differ in
nothing but what is only written, they fail in the same way or give related results, and leave such
states again. The rules here pair composed computations by their parts, so that a comparison of two
runs follows the program that both of them run.
-/

set_option autoImplicit false

namespace Stencil

variable {α β γ δ : Type}

/-- Two results agree: related values, or the same failure. -/
inductive Agree (R : α → β → Prop) : Except Failure α → Except Failure β → Prop where
  | ok {a : α} {b : β} : R a b → Agree R (.ok a) (.ok b)
  | error (e : Failure) : Agree R (.error e) (.error e)

/-- A result agrees with itself if its value is related to itself. -/
theorem Agree.refl {R : α → α → Prop} {r : Except Failure α} (h : ∀ a, r = .ok a → R a a) :
    Agree R r r := by
  cases r with
  | ok a => exact .ok (h a rfl)
  | error e => exact .error e

theorem Agree.eq {r s : Except Failure α} (h : Agree Eq r s) : r = s := by
  cases h with
  | ok h => rw [h]
  | error e => rfl

namespace Eval

/-- Two computations that agree in machines with the same cells, and leave the cells the same. -/
def Pairs (R : α → β → Prop) (x : Eval α) (y : Eval β) : Prop :=
  ∀ m n : Machine, m.cells = n.cells →
    Agree R (x.outcome m).1 (y.outcome n).1 ∧ (x.outcome m).2.cells = (y.outcome n).2.cells

theorem IgnoresJournal.pairs {x : Eval α} (h : IgnoresJournal x) : Pairs Eq x x := by
  intro m n hcells
  obtain ⟨hresult, hafter⟩ := h m n hcells
  exact ⟨hresult ▸ Agree.refl fun _ _ => rfl, hafter⟩

namespace Pairs

variable {R : α → β → Prop} {S : γ → δ → Prop}

theorem pure {a : α} {b : β} (h : R a b) :
    Pairs R (Pure.pure a : Eval α) (Pure.pure b : Eval β) :=
  fun _ _ hcells => ⟨.ok h, hcells⟩

theorem throw (e : Failure) :
    Pairs R (MonadExcept.throw e : Eval α) (MonadExcept.throw e : Eval β) :=
  fun _ _ hcells => ⟨.error e, hcells⟩

theorem bind {x : Eval α} {y : Eval β} {f : α → Eval γ} {g : β → Eval δ} (hxy : Pairs R x y)
    (hfg : ∀ a b, R a b → Pairs S (f a) (g b)) : Pairs S (x >>= f) (y >>= g) := by
  intro m n hcells
  obtain ⟨hagree, hafter⟩ := hxy m n hcells
  rw [outcome_bind, outcome_bind]
  rcases hx : x.outcome m with ⟨r, m'⟩
  rcases hy : y.outcome n with ⟨r', n'⟩
  rw [hx, hy] at hagree hafter
  cases hagree with
  | ok h => exact hfg _ _ h m' n' hafter
  | error e => exact ⟨.error e, hafter⟩

/-- Handlers are paired if they are for each failure: both computations fail in the same way. -/
theorem orElse {x : Eval α} {y : Eval β} {handler : Failure → Eval α}
    {handler' : Failure → Eval β} (hxy : Pairs R x y)
    (hh : ∀ e, Pairs R (handler e) (handler' e)) :
    Pairs R (Eval.orElse x handler) (Eval.orElse y handler') := by
  intro m n hcells
  obtain ⟨hagree, hafter⟩ := hxy m n hcells
  rw [outcome_orElse, outcome_orElse]
  rcases hx : x.outcome m with ⟨r, m'⟩
  rcases hy : y.outcome n with ⟨r', n'⟩
  rw [hx, hy] at hagree hafter
  cases hagree with
  | ok h => exact ⟨.ok h, hafter⟩
  | error e =>
    dsimp only
    split
    · exact hh e m' n' hafter
    · exact ⟨.error e, hafter⟩

/-- Whatever is reported before makes no difference. -/
theorem note_bind (e e' : Entry) {x : Eval α} {y : Eval β} (h : Pairs R x y) :
    Pairs R (Eval.note e >>= fun _ => x) (Eval.note e' >>= fun _ => y) :=
  .bind (R := fun _ _ => True) (fun _ _ hcells => ⟨.ok trivial, hcells⟩) fun _ _ _ => h

/-- Both change the cells in the same way and find related values there. -/
theorem acting {f : Cells → α × Cells} {g : Cells → β × Cells}
    (h : ∀ c, R (f c).1 (g c).1 ∧ (f c).2 = (g c).2) :
    Pairs R (Eval.acting f) (Eval.acting g) := by
  intro m n hcells
  obtain ⟨hfound, hafter⟩ := h n.cells
  rw [outcome_acting, outcome_acting, hcells]
  exact ⟨.ok hfound, hafter⟩

theorem asking {f : Cells → α} {g : Cells → β} (h : ∀ c, R (f c) (g c)) :
    Pairs R (Eval.asking f) (Eval.asking g) :=
  .acting fun c => ⟨h c, rfl⟩

/-- New numbers are given out to both in the same way if both take equally many. -/
theorem fresh {make : Nat → α × Nat} {make' : Nat → β × Nat}
    (h : ∀ n, R (make n).1 (make' n).1 ∧ (make n).2 = (make' n).2) :
    Pairs R (Eval.fresh make) (Eval.fresh make') :=
  .acting fun c => ⟨(h c.next).1, by rw [(h c.next).2]⟩

theorem ofExcept {r : Except Failure α} {s : Except Failure β} (h : Agree R r s) :
    Pairs R (Eval.ofExcept r) (Eval.ofExcept s) := by
  cases h with
  | ok h => exact pure h
  | error e => exact throw e

theorem required {o : Option α} {o' : Option α} (h : o = o') :
    Pairs Eq (Eval.required o) (Eval.required o') :=
  h ▸ (IgnoresJournal.required o).pairs

theorem textOf {v w : Value} (h : ∀ c, (v.now c).output? = (w.now c).output?) :
    Pairs Eq (Eval.textOf v) (Eval.textOf w) :=
  .bind (.asking (R := fun a b => a.output? = b.output?) h) fun _ _ hab => .required hab

/-- What is done after the same report is paired as without it. -/
theorem report_bind (component message : Text) (field : Text × Value) (e : Failure) {x : Eval α}
    {y : Eval β} (h : Pairs R x y) :
    Pairs R (Eval.report component message field e >>= fun _ => x)
      (Eval.report component message field e >>= fun _ => y) :=
  .bind (IgnoresJournal.report component message field e).pairs fun _ _ _ => h

end Pairs
end Eval

namespace Work

open Session (Alike)

/-- Two computations that agree in sessions that answer alike, and leave them alike. -/
def Pairs (R : α → β → Prop) (x : Work α) (y : Work β) : Prop :=
  ∀ s t, Alike s t →
    Agree R (x.outcome s).1 (y.outcome t).1 ∧ Alike (x.outcome s).2 (y.outcome t).2

theorem Respects.pairs {x : Work α} (h : Respects x) : Pairs Eq x x := by
  intro s t halike
  obtain ⟨hresult, hafter⟩ := h s t halike
  exact ⟨hresult ▸ Agree.refl fun _ _ => rfl, hafter⟩

namespace Pairs

variable {R : α → β → Prop} {S : γ → δ → Prop}

theorem pure {a : α} {b : β} (h : R a b) :
    Pairs R (Pure.pure a : Work α) (Pure.pure b : Work β) :=
  fun _ _ halike => ⟨.ok h, halike⟩

theorem throw (e : Failure) :
    Pairs R (MonadExcept.throw e : Work α) (MonadExcept.throw e : Work β) :=
  fun _ _ halike => ⟨.error e, halike⟩

theorem bind {x : Work α} {y : Work β} {f : α → Work γ} {g : β → Work δ} (hxy : Pairs R x y)
    (hfg : ∀ a b, R a b → Pairs S (f a) (g b)) : Pairs S (x >>= f) (y >>= g) := by
  intro s t halike
  obtain ⟨hagree, hafter⟩ := hxy s t halike
  rw [outcome_bind, outcome_bind]
  rcases hx : x.outcome s with ⟨r, s'⟩
  rcases hy : y.outcome t with ⟨r', t'⟩
  rw [hx, hy] at hagree hafter
  cases hagree with
  | ok h => exact hfg _ _ h s' t' hafter
  | error e => exact ⟨.error e, hafter⟩

/-- Two texts one after the other are equal if each of them is. -/
theorem append {x y x' y' : Work Text} (h : Pairs Eq x y) (h' : Pairs Eq x' y') :
    Pairs Eq (do
      let first ← x
      let others ← x'
      Pure.pure (first ++ others)) (do
      let first ← y
      let others ← y'
      Pure.pure (first ++ others)) :=
  .bind h fun _ _ hfirst => .bind h' fun _ _ hothers => .pure (by rw [hfirst, hothers])

theorem evaluating {x : Eval α} {y : Eval β} (h : Eval.Pairs R x y) :
    Pairs R (Work.evaluating x) (Work.evaluating y) := by
  intro s t halike
  obtain ⟨hagree, hcells⟩ := h s.machine t.machine halike.cells
  rw [outcome_evaluating, outcome_evaluating]
  exact ⟨hagree, halike.disk, halike.source, hcells, fun path => halike.answer path⟩

end Pairs
end Work
end Stencil
