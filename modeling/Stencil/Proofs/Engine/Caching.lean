import Stencil.Proofs.Engine.Failures

/-!
# Templates that are kept

An engine keeps the templates that it has loaded, and nothing that it gives shows which ones. As long
as the source does not change, what is kept is what the source would give again. So an operation,
after any others that went well or failed half-way, gives what it gives on an engine that has loaded
nothing yet.

Filters are functions of a value and an argument, which may advance the cells of the values; they
see neither the templates that are kept nor the reports about them.
-/

set_option autoImplicit false

namespace Stencil

/-! ## Operations -/

/-- An operation on an engine. -/
inductive Operation where
  | load (path : Text)
  | renderTemplate (path : Text) (c : Context)
  | renderString (source : Text) (c : Context)
  | dependencies (path : Text)
  | validate (source : Text)
  | register (name : Text) (f : Filter)

/-- What an operation gives. -/
inductive Response where
  | template (result : Except Failure Template)
  | output (result : Except Failure Text)
  | paths (result : Except Failure (List Text))
  | problems (messages : List Text)
  | done

namespace Engine

/-- What an operation gives, and the engine after it. -/
def perform (e : Engine) : Operation → Response × Engine
  | .load path => (e.load path).map .template id
  | .renderTemplate path c => (e.renderTemplate path c).map .output id
  | .renderString source c => (e.renderString source c).map .output id
  | .dependencies path => (e.dependencies path).map .paths id
  | .validate source => (.problems (validate source), e)
  | .register name f => (.done, e.register name f)

/-- The engine after operations, one after the other. -/
def after (e : Engine) (operations : List Operation) : Engine :=
  operations.foldl (fun e operation => (e.perform operation).2) e

/-- An engine that is set up as another one but has loaded nothing: it has the same filters and the
same source, and the cells of the values that it is given are where they are for the other. -/
structure Fresh (other e : Engine) : Prop where
  filters : other.filters = e.filters
  disk : other.session.disk = e.session.disk
  source : other.session.source = e.session.source
  cells : other.session.machine.cells = e.session.machine.cells
  kept : other.session.kept = []

/-! ## What operations leave as it is -/

open Session (Alike)
open Work (Respects)

theorem continues_perform (e : Engine) (operation : Operation) :
    e.session.Continues (fun _ => True) (fun _ => True) (e.perform operation).2.session := by
  cases operation with
  | load path => exact (ensures_load _ path e.session rfl).1
  | renderTemplate path c => exact (ensures_renderPath _ e.filters path c e.session rfl).1
  | renderString source c => exact (ensures_renderSource _ e.filters source c e.session rfl).1
  | dependencies path =>
    have hpaths : (do
        let template ← Work.load path
        pure (Node.treeReferences template.tree) : Work (List Text)).Ensures e.session.answer
          (fun _ => True) (fun _ => True) :=
      (ensures_load _ path).bind fun _ _ => .pure trivial
    exact (hpaths e.session rfl).1
  | validate source => exact .refl _
  | register name f => exact .refl _

theorem continues_after (e : Engine) (operations : List Operation) :
    e.session.Continues (fun _ => True) (fun _ => True) (e.after operations).session := by
  induction operations generalizing e with
  | nil => exact .refl _
  | cons operation rest ih => exact (e.continues_perform operation).trans (ih _)

theorem ignoreJournal_perform {e : Engine} (h : e.filters.IgnoreJournal) {operation : Operation}
    (hf : ∀ name f, operation = .register name f → ∀ v argument, (f v argument).IgnoresJournal) :
    (e.perform operation).2.filters.IgnoreJournal := by
  cases operation with
  | register name f =>
    intro other g hg
    have hlookup : (Table.put name f e.filters).lookup other = some g := hg
    rw [Table.lookup_put] at hlookup
    split at hlookup
    · cases hlookup
      exact hf name f rfl
    · exact h other g hlookup
  | _ => exact h

theorem ignoreJournal_after {e : Engine} (h : e.filters.IgnoreJournal)
    {operations : List Operation} (hf : ∀ name f, .register name f ∈ operations →
      ∀ v argument, (f v argument).IgnoresJournal) :
    (e.after operations).filters.IgnoreJournal := by
  induction operations generalizing e with
  | nil => exact h
  | cons operation rest ih =>
    have hfirst : (e.perform operation).2.filters.IgnoreJournal := by
      apply ignoreJournal_perform h
      rintro name f rfl
      exact hf name f (List.mem_cons_self ..)
    exact ih hfirst fun name f hmem => hf name f (List.mem_cons_of_mem _ hmem)

/-! ## Engines that answer alike -/

theorem inclusionLimit_of_alike {s t : Session} (h : Alike s t) :
    inclusionLimit s = inclusionLimit t := by
  unfold inclusionLimit
  rw [h.source, h.disk]

variable {filters : Filters}

theorem respects_renderSource (hf : filters.IgnoreJournal) (source : Text) (c : Context) :
    Respects (renderSource filters source c) := by
  refine .bind (.ofExcept _) fun tree => .get_bind (fun s t h => ?_) fun s => ?_
  · rw [inclusionLimit_of_alike h]
  · exact Node.respects_renderTemplate hf _ tree c none

theorem respects_renderPath (hf : filters.IgnoreJournal) (path : Text) (c : Context) :
    Respects (renderPath filters path c) := by
  refine .bind (.load path) fun template => .get_bind (fun s t h => ?_) fun s => ?_
  · rw [inclusionLimit_of_alike h]
  · exact .bind (Node.respects_renderTemplate hf _ template.tree c _) fun output =>
      .bind (.evaluating (.note _)) fun _ => .pure _

theorem run_of_alike {α : Type} {e other : Engine} {x : Work α} (hx : Respects x)
    (h : Alike e.session other.session) : (e.run x).1 = (other.run x).1 :=
  (hx _ _ h).1

theorem perform_of_alike {e other : Engine} (hf : e.filters.IgnoreJournal)
    (hfilters : other.filters = e.filters) (h : Alike e.session other.session)
    (operation : Operation) : (e.perform operation).1 = (other.perform operation).1 := by
  cases operation with
  | load path => exact congrArg Response.template (run_of_alike (.load path) h)
  | renderTemplate path c =>
    have hsame : (e.renderTemplate path c).1 = (other.renderTemplate path c).1 := by
      rw [renderTemplate, renderTemplate, hfilters]
      exact run_of_alike (respects_renderPath hf path c) h
    exact congrArg Response.output hsame
  | renderString source c =>
    have hsame : (e.renderString source c).1 = (other.renderString source c).1 := by
      rw [renderString, renderString, hfilters]
      exact run_of_alike (respects_renderSource hf source c) h
    exact congrArg Response.output hsame
  | dependencies path =>
    have hsame : (e.dependencies path).1 = (other.dependencies path).1 :=
      run_of_alike (.bind (.load path) fun _ => .pure _) h
    exact congrArg Response.paths hsame
  | validate source => rfl
  | register name f => rfl

/-- Sessions that keep nothing answer with what their source gives. -/
theorem alike_of_fresh {start e other : Engine} (hstart : start.session.kept = [])
    (he : start.session.Continues (fun _ => True) (fun _ => True) e.session)
    (hother : other.Fresh e) :
    Alike e.session other.session := by
  refine ⟨hother.disk.symm, hother.source.symm, hother.cells.symm, fun path => ?_⟩
  have hfirst : start.session.kept.lookup path = none := by rw [hstart]; rfl
  have hnone : other.session.kept.lookup path = none := by rw [hother.kept]; rfl
  calc e.session.answer path
      = start.session.answer path := congrFun he.answer path
    _ = start.session.fresh path := Session.answer_of_not_kept hfirst
    _ = other.session.fresh path := by
      unfold Session.fresh
      rw [hother.source, hother.disk, he.source, he.disk]
    _ = other.session.answer path := (Session.answer_of_not_kept hnone).symm

/-- What an engine keeps cannot be seen. After any operations on an engine that had loaded nothing,
whether they went well or failed, an operation gives what it gives on an engine that is set up in the
same way and has loaded nothing yet: the same value, or the same failure with all that it says. -/
theorem perform_of_fresh (start other : Engine) (operations : List Operation)
    (operation : Operation) (hstart : start.session.kept = [])
    (hfilters : start.filters.IgnoreJournal)
    (hregistered : ∀ name f, .register name f ∈ operations →
      ∀ v argument, (f v argument).IgnoresJournal)
    (hother : other.Fresh (start.after operations)) :
    ((start.after operations).perform operation).1 = (other.perform operation).1 :=
  perform_of_alike (ignoreJournal_after hfilters hregistered) hother.filters
    (alike_of_fresh hstart (start.continues_after operations) hother) operation

/-- An engine that has registered a filter, failed to load a path and loaded another one renders it
as an engine that has to read it. -/
theorem perform_of_fresh_of_loaded :
    let start : Engine := .new (.empty Encoding.codecs) (.table [("a".toList, "b".toList)])
    let same : Filter := fun v _ => pure v
    let operations : List Operation :=
      [.register "same".toList same, .load "c".toList, .load "a".toList]
    let warm := start.after operations
    let other : Engine :=
      ⟨warm.filters, { start.session with machine := warm.session.machine }⟩
    warm.session.has "a".toList = true ∧ other.session.has "a".toList = false ∧
      (warm.perform (.renderTemplate "a".toList .empty)).1 =
        (other.perform (.renderTemplate "a".toList .empty)).1 := by
  intro start same operations warm other
  have hloaded : warm.session.has "a".toList = true := by
    let before := start.after [.register "same".toList same, .load "c".toList]
    have hanswer : before.session.answer "a".toList =
        .ok ⟨"a".toList, "b".toList, [.text "b".toList]⟩ := by
      have hfresh : start.session.fresh "a".toList =
          .ok ⟨"a".toList, "b".toList, [.text "b".toList]⟩ :=
        Session.fresh_eq_ok.2 ⟨rfl, rfl, Node.parse_letter _⟩
      have hsame := (start.continues_after
        [.register "same".toList same, .load "c".toList]).answer
      exact (congrFun hsame _).trans hfresh
    obtain ⟨t, ht, hload⟩ := Work.outcome_load "a".toList before.session
    have hwarm : warm.session = t := congrArg Prod.snd ht
    rw [hwarm]
    exact hload.has hanswer
  refine ⟨hloaded, rfl, ?_⟩
  apply perform_of_fresh start other operations _ rfl Filter.ignoreJournal_builtin
  · intro name f hmem v argument
    have hf : name = "same".toList ∧ f = same := by simpa [operations] using hmem
    rw [hf.2]
    exact .pure v
  · have hsame := start.continues_after operations
    exact ⟨rfl, hsame.disk.symm, hsame.source.symm, rfl, rfl⟩

end Engine
end Stencil
