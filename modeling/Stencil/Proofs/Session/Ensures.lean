import Stencil.Proofs.Session.Alike
import Stencil.Proofs.Session.Resizes

/-!
# What computations ensure

A computation ensures a property of its values and a property of its failures if every outcome has
the one or the other, in whatever state it starts. Sequences, handlers and loads are taken apart by
one rule each. In a session the answers to loads are given beforehand; a computation that ensures
something also leaves a session with the same answers, which reads from the same source. Besides, it
may be known which paths it asks for and which values it changes the size of.
-/

set_option autoImplicit false

namespace Stencil

variable {α β : Type}

/-- The value of a result has one property, or its failure another one. -/
def Yields (post : α → Prop) (fail : Failure → Prop) : Except Failure α → Prop
  | .ok a => post a
  | .error e => fail e

theorem Yields.mono {post post' : α → Prop} {fail fail' : Failure → Prop} {r : Except Failure α}
    (h : Yields post fail r) (hpost : ∀ a, post a → post' a) (hfail : ∀ e, fail e → fail' e) :
    Yields post' fail' r := by
  cases r with
  | ok a => exact hpost a h
  | error e => exact hfail e h

theorem Yields.bind {mid : α → Prop} {post : β → Prop} {fail : Failure → Prop}
    {r : Except Failure α} {f : α → Except Failure β} (h : Yields mid fail r)
    (hf : ∀ a, mid a → Yields post fail (f a)) : Yields post fail (r >>= f) := by
  cases r with
  | ok a => exact hf a h
  | error e => exact h

namespace Eval

/-- A value that a computation gives in some state. -/
def Gives (x : Eval α) (a : α) : Prop := ∃ m n, x.outcome m = (.ok a, n)

/-- A failure that a computation ends with in some state. -/
def Fails (x : Eval α) (e : Failure) : Prop := ∃ m n, x.outcome m = (.error e, n)

/-- Every outcome of a computation has the one property or the other. -/
def Ensures (post : α → Prop) (fail : Failure → Prop) (x : Eval α) : Prop :=
  ∀ m, Yields post fail (x.outcome m).1

namespace Ensures

variable {post mid : α → Prop} {after : β → Prop} {fail midFail : Failure → Prop} {x : Eval α}

theorem mono (h : Ensures mid midFail x) (hpost : ∀ a, mid a → post a)
    (hfail : ∀ e, midFail e → fail e) : Ensures post fail x :=
  fun m => (h m).mono hpost hfail

theorem weaken (h : Ensures mid fail x) (hpost : ∀ a, mid a → post a) : Ensures post fail x :=
  h.mono hpost fun _ => id

theorem weakenFail (h : Ensures post midFail x) (hfail : ∀ e, midFail e → fail e) :
    Ensures post fail x :=
  h.mono (fun _ => id) hfail

protected theorem trivial : Ensures (fun _ => True) (fun _ => True) x := by
  intro m
  cases (x.outcome m).1 <;> exact True.intro

/-- What a computation ensures is known of a value together with the fact that it gives it. -/
theorem gives (h : Ensures post fail x) : Ensures (fun a => post a ∧ x.Gives a) fail x := by
  intro m
  have hm := h m
  rcases hout : x.outcome m with ⟨r, n⟩
  rw [hout] at hm
  cases r with
  | ok a => exact ⟨hm, m, n, hout⟩
  | error e => exact hm

/-- What a computation ensures is known of a failure together with the fact that it fails so. -/
theorem fails (h : Ensures post fail x) : Ensures post (fun e => fail e ∧ x.Fails e) x := by
  intro m
  have hm := h m
  rcases hout : x.outcome m with ⟨r, n⟩
  rw [hout] at hm
  cases r with
  | ok a => exact hm
  | error e => exact ⟨hm, m, n, hout⟩

theorem pure {a : α} (h : post a) : Ensures post fail (Pure.pure a) := fun _ => h

theorem throw {e : Failure} (h : fail e) : Ensures post fail (MonadExcept.throw e) := fun _ => h

theorem bind {f : α → Eval β} (hx : Ensures mid fail x)
    (hf : ∀ a, mid a → Ensures after fail (f a)) : Ensures after fail (x >>= f) := by
  intro m
  have hm := hx m
  rw [outcome_bind]
  rcases hout : x.outcome m with ⟨r, n⟩
  rw [hout] at hm
  cases r with
  | ok a => exact hf a hm n
  | error e => exact hm

/-- A failure is handed over if it is ordinary, and passes if it is not. -/
theorem orElse {handler : Failure → Eval α} (hx : Ensures post midFail x)
    (hpass : ∀ e, midFail e → e.isOrdinary = false → fail e)
    (hh : ∀ e, midFail e → e.isOrdinary = true → Ensures post fail (handler e)) :
    Ensures post fail (Eval.orElse x handler) := by
  intro m
  have hm := hx m
  rw [outcome_orElse]
  rcases hout : x.outcome m with ⟨r, n⟩
  rw [hout] at hm
  cases r with
  | ok a => exact hm
  | error e =>
    dsimp only
    split
    · exact hh e hm ‹_› n
    · exact hpass e hm (Bool.eq_false_iff.2 ‹_›)

theorem ofExcept {r : Except Failure α} (h : Yields post fail r) :
    Ensures post fail (Eval.ofExcept r) := by
  cases r with
  | ok a => exact pure h
  | error e => exact throw h

theorem required {o : Option α} (hsome : ∀ a, o = some a → post a)
    (hnone : o = none → fail (.tooManyDigits none)) : Ensures post fail (Eval.required o) := by
  cases o with
  | some a => exact pure (hsome a rfl)
  | none => exact throw (hnone rfl)

theorem acting {f : Cells → α × Cells} (h : ∀ c, post (f c).1) :
    Ensures post fail (Eval.acting f) := fun m => h m.cells

theorem asking {f : Cells → α} (h : ∀ c, post (f c)) : Ensures post fail (Eval.asking f) :=
  .acting h

/-- What is found in the cells is what there is in some cells. -/
theorem asked (f : Cells → α) : Ensures (fun a => ∃ c, a = f c) fail (Eval.asking f) :=
  .asking fun c => ⟨c, rfl⟩

theorem textOf {v : Value} {post : Text → Prop} (hsome : ∀ c t, (v.now c).output? = some t → post t)
    (hnone : ∀ c, (v.now c).output? = none → fail (.tooManyDigits none)) :
    Ensures post fail (Eval.textOf v) :=
  .bind (.asked v.now) fun _ ⟨c, hw⟩ => hw ▸ .required (hsome c) (hnone c)

/-- A report about a failure changes nothing else, unless the failure has no text. -/
theorem report (component message : Text) (field : Text × Value) {e : Failure} {a : α} (h : post a)
    (htold : ∀ f, e.told = .error f → fail f) :
    Ensures post fail (Eval.report component message field e >>= fun _ => Pure.pure a) := by
  unfold Eval.report
  cases he : e.told with
  | ok t => exact fun _ => h
  | error f => exact fun _ => htold f he

end Ensures
end Eval

namespace Session

/-- A later session reads from the same source and gives the same answers; only some paths were
asked for in between, and only some values have another size. -/
structure Continues (asks : Text → Prop) (alters : Value → Prop) (s t : Session) : Prop where
  disk : t.disk = s.disk
  source : t.source = s.source
  answer : t.answer = s.answer
  requests : ∃ asked, t.requests = s.requests ++ asked ∧ ∀ path ∈ asked, asks path
  sizes : ∀ v : Value, v.sizeIn t.machine.cells = v.sizeIn s.machine.cells ∨ alters v

variable {asks : Text → Prop} {alters : Value → Prop} {s t u : Session}

theorem Continues.allow {asks' : Text → Prop} {alters' : Value → Prop}
    (h : s.Continues asks alters t) (hasks : ∀ path, asks path → asks' path)
    (halters : ∀ v, alters v → alters' v) : s.Continues asks' alters' t := by
  obtain ⟨asked, hasked, hall⟩ := h.requests
  exact ⟨h.disk, h.source, h.answer,
    ⟨asked, hasked, fun path hpath => hasks path (hall path hpath)⟩,
    fun v => (h.sizes v).imp_right (halters v)⟩

theorem Continues.refl (s : Session) : s.Continues asks alters s :=
  ⟨rfl, rfl, rfl, ⟨[], by simp⟩, fun _ => .inl rfl⟩

theorem Continues.trans (h : s.Continues asks alters t) (h' : t.Continues asks alters u) :
    s.Continues asks alters u := by
  obtain ⟨first, hfirst, hasks⟩ := h.requests
  obtain ⟨others, hothers, hasks'⟩ := h'.requests
  refine ⟨h'.disk.trans h.disk, h'.source.trans h.source, h'.answer.trans h.answer,
    ⟨first ++ others, by rw [hothers, hfirst, List.append_assoc], ?_⟩, ?_⟩
  · intro path hpath
    rcases List.mem_append.1 hpath with h | h
    · exact hasks path h
    · exact hasks' path h
  · intro v
    rcases h.sizes v with hsize | halters
    · rw [← hsize]
      exact h'.sizes v
    · exact .inr halters

theorem Loaded.continues {path : Text} (h : s.Loaded path t) (hasks : asks path) :
    s.Continues asks alters t :=
  ⟨h.disk, h.source, funext h.answer, ⟨[path], h.requests, by simpa using hasks⟩,
    fun _ => .inl (by rw [h.cells])⟩

end Session

namespace Work

/-- The answers to loads. -/
abbrev Answers := Text → Except Failure Template

/-- From a session, a computation goes on to one with the same answers, and its outcome has the one
property or the other. It asks for no other paths than some, and changes the size of no other values
than some. -/
def EnsuresFrom (s : Session) (post : α → Prop) (fail : Failure → Prop) (asks : Text → Prop)
    (alters : Value → Prop) (x : Work α) : Prop :=
  s.Continues asks alters (x.outcome s).2 ∧ Yields post fail (x.outcome s).1

/-- A sequence ensures something from a session if its second part does from every session that the
first part may leave. -/
theorem EnsuresFrom.bind {s : Session} {mid : α → Prop} {post : β → Prop} {fail : Failure → Prop}
    {asks : Text → Prop} {alters : Value → Prop} {x : Work α} {f : α → Work β}
    (hx : EnsuresFrom s mid fail asks alters x)
    (hf : ∀ a t, mid a → s.Continues asks alters t → EnsuresFrom t post fail asks alters (f a)) :
    EnsuresFrom s post fail asks alters (x >>= f) := by
  obtain ⟨ht, hyields⟩ := hx
  rw [EnsuresFrom, outcome_bind]
  rcases hout : x.outcome s with ⟨r, t⟩
  rw [hout] at ht hyields
  cases r with
  | ok a =>
    obtain ⟨hu, hyields⟩ := hf a t hyields ht
    exact ⟨ht.trans hu, hyields⟩
  | error e => exact ⟨ht, hyields⟩

/-- What is found in the cells is what is there. -/
theorem EnsuresFrom.asking {s : Session} {fail : Failure → Prop} {asks : Text → Prop}
    {alters : Value → Prop} (f : Cells → α) :
    EnsuresFrom s (· = f s.machine.cells) fail asks alters (Work.evaluating (Eval.asking f)) :=
  ⟨.refl s, rfl⟩

/-- What a computation ensures from every session with the given answers. It may ask for all paths
and change all sizes if nothing is said of them. -/
def Ensures (answers : Answers) (post : α → Prop) (fail : Failure → Prop)
    (asks : Text → Prop := fun _ => True) (alters : Value → Prop := fun _ => True)
    (x : Work α) : Prop :=
  ∀ s : Session, s.answer = answers → EnsuresFrom s post fail asks alters x

namespace Ensures

variable {answers : Answers} {post mid : α → Prop} {after : β → Prop} {fail : Failure → Prop}
  {x : Work α} {asks : Text → Prop} {alters : Value → Prop}

theorem mono {midFail : Failure → Prop} (h : Ensures answers mid midFail asks alters x)
    (hpost : ∀ a, mid a → post a) (hfail : ∀ e, midFail e → fail e) :
    Ensures answers post fail asks alters x := by
  intro s hs
  obtain ⟨ht, hyields⟩ := h s hs
  exact ⟨ht, hyields.mono hpost hfail⟩

theorem allow {asks' : Text → Prop} {alters' : Value → Prop}
    (h : Ensures answers post fail asks alters x) (hasks : ∀ path, asks path → asks' path)
    (halters : ∀ v, alters v → alters' v) : Ensures answers post fail asks' alters' x := by
  intro s hs
  obtain ⟨ht, hyields⟩ := h s hs
  exact ⟨ht.allow hasks halters, hyields⟩

theorem pure {a : α} (h : post a) : Ensures answers post fail asks alters (Pure.pure a) :=
  fun s _ => ⟨.refl s, h⟩

theorem throw {e : Failure} (h : fail e) :
    Ensures answers post fail asks alters (MonadExcept.throw e) :=
  fun s _ => ⟨.refl s, h⟩

theorem bind {f : α → Work β} (hx : Ensures answers mid fail asks alters x)
    (hf : ∀ a, mid a → Ensures answers after fail asks alters (f a)) :
    Ensures answers after fail asks alters (x >>= f) :=
  fun s hs => (hx s hs).bind fun a t ha ht => hf a ha t (ht.answer.trans hs)

theorem ofExcept {r : Except Failure α} (h : Yields post fail r) :
    Ensures answers post fail asks alters (Work.ofExcept r) := by
  intro s hs
  rw [EnsuresFrom, outcome_ofExcept]
  exact ⟨.refl s, h⟩

theorem evaluating {e : Eval α} (h : e.Ensures post fail) (halters : ∀ v, e.Resizes v → alters v) :
    Ensures answers post fail asks alters (Work.evaluating e) := by
  intro s hs
  rw [EnsuresFrom, outcome_evaluating]
  refine ⟨⟨rfl, rfl, rfl, ⟨[], by simp⟩, fun v => ?_⟩, h s.machine⟩
  by_cases hsize : v.sizeIn (e.outcome s.machine).2.cells = v.sizeIn s.machine.cells
  · exact .inl hsize
  · exact .inr (halters v ⟨s.machine, hsize⟩)

theorem get : Ensures answers (fun s => s.answer = answers) fail asks alters MonadState.get :=
  fun s hs => ⟨.refl s, hs⟩

theorem note (e : Entry) : Ensures answers (fun _ => True) fail asks alters (Work.note e) :=
  .evaluating (fun _ => trivial) fun _ h => absurd h (Eval.not_resizes_note e)

theorem load (path : Text) (h : asks path) :
    Ensures answers (fun t => answers path = .ok t) (fun e => answers path = .error e)
      asks alters (Work.load path) := by
  intro s hs
  obtain ⟨t, ht, hloaded⟩ := outcome_load path s
  rw [EnsuresFrom, ht, hs]
  refine ⟨hloaded.continues h, ?_⟩
  cases answers path <;> rfl

end Ensures

/-- What is done with a value need only be the same for values that the evaluator can give. -/
theorem evaluating_bind_congr {e : Eval α} {post : α → Prop} {fail : Failure → Prop}
    (h : e.Ensures post fail) {f g : α → Work β} (hfg : ∀ a, post a → f a = g a) :
    (Work.evaluating e >>= f) = Work.evaluating e >>= g := by
  refine eq_of_outcome fun s => ?_
  have hvalue := h s.machine
  rw [outcome_bind, outcome_bind, outcome_evaluating]
  rcases hout : e.outcome s.machine with ⟨r, m⟩
  rw [hout] at hvalue
  cases r with
  | ok a => simp only [hfg a hvalue]
  | error e => rfl

end Work
end Stencil
