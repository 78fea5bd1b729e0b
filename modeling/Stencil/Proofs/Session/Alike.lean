import Stencil.Proofs.Session.Journal
import Stencil.Proofs.Session.Load

/-!
# Sessions that answer alike

What a session answers when a path is loaded is decided by its kept templates and, for a path that
is not kept, by its source. Loading keeps a template that the source would give again, so that it
changes no answer. Two sessions are alike if they give the same answers and have the same cells;
they may differ in what they keep, in what was read and asked for, and in their journals. A
computation that respects alikeness gives the same result in alike sessions and leaves them alike.
-/

set_option autoImplicit false

namespace Stencil

variable {α β : Type}

namespace Session

/-- Two sessions give the same answers and have the same cells. -/
structure Alike (s t : Session) : Prop where
  disk : s.disk = t.disk
  source : s.source = t.source
  cells : s.machine.cells = t.machine.cells
  answer : ∀ path, s.answer path = t.answer path

namespace Alike

theorem refl (s : Session) : Alike s s := ⟨rfl, rfl, rfl, fun _ => rfl⟩

theorem symm {s t : Session} (h : Alike s t) : Alike t s :=
  ⟨h.disk.symm, h.source.symm, h.cells.symm, fun path => (h.answer path).symm⟩

theorem trans {s t u : Session} (h : Alike s t) (h' : Alike t u) : Alike s u :=
  ⟨h.disk.trans h'.disk, h.source.trans h'.source, h.cells.trans h'.cells,
    fun path => (h.answer path).trans (h'.answer path)⟩

end Alike

/-- Loading a path changes no answer: what is kept anew is what the source would give again. -/
theorem Loaded.answer {s t : Session} {path : Text} (h : s.Loaded path t) (other : Text) :
    t.answer other = s.answer other := by
  have hfresh : t.fresh other = s.fresh other := by
    unfold fresh
    rw [h.disk, h.source]
  cases hkept : s.kept.lookup path with
  | some kept =>
    unfold Session.answer
    rw [h.kept, keptAfter_of_kept hkept, hfresh]
  | none =>
    cases hpath : s.fresh path with
    | error e =>
      unfold Session.answer
      rw [h.kept, keptAfter_of_error hpath, hfresh]
    | ok template =>
      unfold Session.answer
      rw [h.kept, keptAfter_of_fresh hkept hpath, Table.lookup_put, hfresh]
      by_cases hother : other = path
      · rw [if_pos hother, hother, hkept, hpath]
      · rw [if_neg hother]

theorem Loaded.alike {s t : Session} {path : Text} (h : s.Loaded path t) : Alike s t :=
  ⟨h.disk.symm, h.source.symm, h.cells.symm, fun other => (h.answer other).symm⟩

end Session

namespace Work

open Session (Alike)

/-- A computation that gives the same result in alike sessions and leaves them alike. -/
def Respects (x : Work α) : Prop :=
  ∀ s t, Alike s t → (x.outcome s).1 = (x.outcome t).1 ∧ Alike (x.outcome s).2 (x.outcome t).2

/-! ## Computations that respect alikeness -/

namespace Respects

theorem pure (a : α) : Respects (Pure.pure a : Work α) := fun _ _ h => ⟨rfl, h⟩

theorem throw (e : Failure) : Respects (MonadExcept.throw e : Work α) := fun _ _ h => ⟨rfl, h⟩

theorem ofExcept (r : Except Failure α) : Respects (Work.ofExcept r) := by
  cases r with
  | ok a => exact pure a
  | error e => exact throw e

theorem bind {x : Work α} {f : α → Work β} (hx : Respects x) (hf : ∀ a, Respects (f a)) :
    Respects (x >>= f) := by
  intro s t h
  obtain ⟨hresult, halike⟩ := hx s t h
  rw [outcome_bind, outcome_bind]
  rcases hs : x.outcome s with ⟨r, s'⟩
  rcases ht : x.outcome t with ⟨r', t'⟩
  rw [hs, ht] at hresult halike
  subst hresult
  cases r with
  | error e => exact ⟨rfl, halike⟩
  | ok a => exact hf a s' t' halike

/-- A computation may look at its session if it goes on in the same way in sessions that are
alike. -/
theorem get_bind {f : Session → Work α} (hsame : ∀ s t, Session.Alike s t → f s = f t)
    (hf : ∀ s, Respects (f s)) : Respects (MonadState.get >>= f) := by
  intro s t h
  rw [outcome_bind_of_ok (outcome_get s), outcome_bind_of_ok (outcome_get t), hsame s t h]
  exact hf t s t h

theorem evaluating {x : Eval α} (hx : x.IgnoresJournal) : Respects (Work.evaluating x) := by
  intro s t h
  obtain ⟨hresult, hcells⟩ := hx s.machine t.machine h.cells
  rw [outcome_evaluating, outcome_evaluating]
  refine ⟨hresult, h.disk, h.source, hcells, fun path => ?_⟩
  exact h.answer path

theorem load (path : Text) : Respects (Work.load path) := by
  intro s t h
  obtain ⟨s', hs, hs'⟩ := outcome_load path s
  obtain ⟨t', ht, ht'⟩ := outcome_load path t
  rw [hs, ht]
  exact ⟨h.answer path, hs'.alike.symm.trans (h.trans ht'.alike)⟩

end Respects
end Work
end Stencil
