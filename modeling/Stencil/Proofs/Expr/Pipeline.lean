import Stencil.Proofs.Expr.Comparison
import Stencil.Proofs.Expr.Reading

/-!
# Pipelines

Cutting a text that is put together from two stretches cuts the first, and goes on in the second
from the state that the first one left. So a bar behind a text that ends outside of quotes and
brackets makes one pipeline of two: the filters behind it are applied to the value in front of it.
The pieces of any text, joined by bars again, are cut into the same pieces, because a cut is only
made where a scan stands outside of quotes and brackets.
-/

set_option autoImplicit false

namespace Stencil

open Text (strip Blanks Trimmed isBlank)

/-! ## Cutting what is put together -/

namespace Scan

variable {mark c : Char} {s : Scan} {a b t piece : Text} {pieces : List Text}

theorem cutAll_ne_nil (mark : Char) (s : Scan) (t : Text) : cutAll mark s t ≠ [] := by
  cases t with
  | nil => exact List.cons_ne_nil _ _
  | cons c rest =>
    unfold cutAll
    split
    · exact List.cons_ne_nil _ _
    · split <;> exact List.cons_ne_nil _ _

theorem cutAll_seen (h : (s.sees c && c == mark) = true) (t : Text) :
    cutAll mark s (c :: t) = [] :: cutAll mark (s.step c) t := by
  conv => lhs; unfold cutAll
  rw [if_pos h]

theorem cutAll_not_seen (h : (s.sees c && c == mark) = false) (t : Text) :
    cutAll mark s (c :: t) = glue [c] (cutAll mark (s.step c) t) := by
  conv => lhs; unfold cutAll
  rw [if_neg (by simp [h])]
  cases cutAll mark (s.step c) t <;> rfl

/-- The pieces of two stretches, one behind the other: the last piece of the first stretch goes on
in the first piece of the second one. -/
def fuse : List Text → List Text → List Text
  | [], others => others
  | [last], others => glue last others
  | piece :: next :: rest, others => piece :: fuse (next :: rest) others

theorem fuse_cons (h : pieces ≠ []) (piece : Text) (others : List Text) :
    fuse (piece :: pieces) others = piece :: fuse pieces others := by
  cases pieces with
  | nil => exact absurd rfl h
  | cons next rest => rfl

theorem glue_fuse (h : pieces ≠ []) (t : Text) (others : List Text) :
    glue t (fuse pieces others) = fuse (glue t pieces) others := by
  rcases pieces with _ | ⟨piece, _ | ⟨next, rest⟩⟩
  · exact absurd rfl h
  · cases others with
    | nil => rfl
    | cons other others => simp [fuse, glue]
  · rfl

theorem fuse_nil_cons (h : pieces ≠ []) (others : List Text) :
    fuse pieces ([] :: others) = pieces ++ others := by
  induction pieces with
  | nil => exact absurd rfl h
  | cons piece rest ih =>
    cases rest with
    | nil => simp [fuse, glue]
    | cons next rest =>
      rw [fuse_cons (List.cons_ne_nil _ _), ih (List.cons_ne_nil _ _)]
      rfl

/-- Cutting goes on in a second stretch from the state that the first one left. -/
theorem cutAll_fuse (mark : Char) (s : Scan) (a b : Text) :
    cutAll mark s (a ++ b) = fuse (cutAll mark s a) (cutAll mark (s.run a) b) := by
  induction a generalizing s with
  | nil =>
    obtain ⟨piece, rest, hcut⟩ := List.exists_cons_of_ne_nil (cutAll_ne_nil mark s b)
    show cutAll mark s b = glue [] (cutAll mark s b)
    rw [hcut]
    rfl
  | cons c a ih =>
    have hne := cutAll_ne_nil mark (s.step c) a
    have hrun : s.run (c :: a) = (s.step c).run a := rfl
    rw [List.cons_append, hrun]
    cases hsees : s.sees c && c == mark with
    | true => rw [cutAll_seen hsees, cutAll_seen hsees, ih, fuse_cons hne]
    | false => rw [cutAll_not_seen hsees, cutAll_not_seen hsees, ih, glue_fuse hne]

/-- A mark behind a text that ends outside of quotes and brackets is a cut. -/
theorem cutAll_mark (hplain : isPlain mark = true) (h : s.run a = outside) (b : Text) :
    cutAll mark s (a ++ mark :: b) = cutAll mark s a ++ cutAll mark outside b := by
  have hsees : (outside.sees mark && mark == mark) = true := by simp [sees_outside hplain]
  have hstep : outside.step mark = outside := step_plain hplain 0
  rw [cutAll_fuse, h, cutAll_seen hsees, hstep, fuse_nil_cons (cutAll_ne_nil mark s a)]

/-! ## What pieces are like -/

/-- The pieces of a text that is scanned from some state. No piece has the mark at top level, and
each piece but the last ends outside of quotes and brackets, where the next one begins. -/
inductive Pieces (mark : Char) : Scan → List Text → Prop where
  | last {s : Scan} {piece : Text} : passes mark s piece = true → Pieces mark s [piece]
  | cut {s : Scan} {piece : Text} {rest : List Text} : passes mark s piece = true →
      s.run piece = outside → Pieces mark outside rest → Pieces mark s (piece :: rest)

theorem Pieces.glue (hsees : (s.sees c && c == mark) = false) (h : Pieces mark (s.step c) pieces) :
    Pieces mark s (glue [c] pieces) := by
  cases h with
  | last hpasses => exact .last (by simp [passes, hsees, hpasses])
  | cut hpasses hrun hrest => exact .cut (by simp [passes, hsees, hpasses]) hrun hrest

theorem pieces_cutAll (hplain : isPlain mark = true) (s : Scan) (t : Text) :
    Pieces mark s (cutAll mark s t) := by
  induction t generalizing s with
  | nil => exact .last rfl
  | cons c t ih =>
    cases hsees : s.sees c && c == mark with
    | false =>
      rw [cutAll_not_seen hsees]
      exact (ih (s.step c)).glue hsees
    | true =>
      obtain ⟨hseen, rfl⟩ : s.sees c = true ∧ c = mark := by simpa using hsees
      obtain rfl : s = outside := (sees_iff hplain).1 hseen
      rw [cutAll_seen hsees, show outside.step c = outside from step_plain hplain 0]
      exact .cut rfl rfl (ih outside)

theorem Pieces.passes_of_mem (h : Pieces mark outside pieces) (hpiece : piece ∈ pieces) :
    passes mark outside piece = true := by
  generalize hs : outside = s at h
  induction h with
  | last hpasses =>
    subst hs
    rwa [List.mem_singleton.1 hpiece]
  | cut hpasses _ _ ih =>
    subst hs
    rcases List.mem_cons.1 hpiece with rfl | hpiece
    · exact hpasses
    · exact ih hpiece rfl

/-- A scan that sees a mark nowhere in a text is inside of quotes or brackets wherever the mark
stands. -/
theorem run_ne_of_passes (hplain : isPlain mark = true) (h : passes mark s (a ++ mark :: b) = true) :
    s.run a ≠ outside := by
  intro hrun
  rw [passes_append, hrun, passes, sees_outside hplain] at h
  simp at h

theorem cutAll_of_passes (h : passes mark s t = true) : cutAll mark s t = [t] := by
  have hcut := cutAll_append h []
  rw [List.append_nil] at hcut
  rw [hcut]
  show [t ++ []] = [t]
  rw [List.append_nil]

/-! ## Blanks around pieces -/

theorem passes_blanks (hmark : isBlank mark = false) (hb : Blanks b) (s : Scan) :
    passes mark s b = true := by
  induction b generalizing s with
  | nil => rfl
  | cons c b ih =>
    obtain ⟨hc, hrest⟩ := List.forall_mem_cons.1 hb
    have hne : c ≠ mark := by
      rintro rfl
      rw [hmark] at hc
      cases hc
    simp [passes, hne, ih hrest]

/-- Trimming a text does not change where a scan of it ends. -/
theorem run_strip (t : Text) : outside.run (strip t) = outside.run t := by
  obtain ⟨a, b, ha, hb, ht⟩ := Text.exists_strip t
  conv => rhs; rw [ht]
  rw [run_append, run_append, run_blanks ha, (quoting_outside.run _).run_blanks hb]

theorem passes_strip (h : passes mark outside t = true) : passes mark outside (strip t) = true := by
  obtain ⟨a, b, ha, hb, ht⟩ := Text.exists_strip t
  rw [ht, passes_append, passes_append, run_blanks ha] at h
  simp only [Bool.and_eq_true] at h
  exact h.1.2

theorem Pieces.map_strip (h : Pieces mark outside pieces) :
    Pieces mark outside (pieces.map strip) := by
  generalize hs : outside = s at h
  induction h with
  | last hpasses =>
    subst hs
    exact .last (passes_strip hpasses)
  | @cut s piece rest hpasses hrun _ ih =>
    subst hs
    exact .cut (passes_strip hpasses) ((run_strip piece).trans hrun) (ih rfl)

theorem map_strip_glue (ha : Blanks a) (h : pieces ≠ []) :
    (glue a pieces).map strip = pieces.map strip := by
  cases pieces with
  | nil => exact absurd rfl h
  | cons piece rest =>
    have hstrip : strip (a ++ piece) = strip piece := by
      simpa using Text.strip_around ha Text.blanks_nil piece
    show strip (a ++ piece) :: rest.map strip = _
    rw [hstrip]
    rfl

theorem map_strip_fuse (hb : Blanks b) (h : pieces ≠ []) :
    (fuse pieces [b]).map strip = pieces.map strip := by
  induction pieces with
  | nil => exact absurd rfl h
  | cons piece rest ih =>
    cases rest with
    | nil =>
      have hstrip : strip (piece ++ b) = strip piece :=
        Text.strip_around Text.blanks_nil hb piece
      show [strip (piece ++ b)] = _
      rw [hstrip]
      rfl
    | cons next rest =>
      rw [fuse_cons (List.cons_ne_nil _ _), List.map_cons, ih (List.cons_ne_nil _ _)]
      rfl

end Scan

/-! ## Pipelines -/

namespace Expr

open Scan

variable {a b e t : Text} {pieces : List Text}

theorem isPlain_bar : isPlain '|' = true := by decide

/-- Blanks around a text do not change its pipeline. -/
theorem pipeline_around (ha : Blanks a) (hb : Blanks b) (t : Text) :
    pipeline (a ++ t ++ b) = pipeline t := by
  have hbar : isBlank '|' = false := by decide
  have hcut : cutAll '|' outside (a ++ t ++ b) = glue a (fuse (cutAll '|' outside t) [b]) := by
    rw [List.append_assoc, cutAll_append (passes_blanks hbar ha outside), run_blanks ha,
      cutAll_fuse, cutAll_of_passes (passes_blanks hbar hb _)]
  have hne := cutAll_ne_nil '|' outside t
  have hfuse : fuse (cutAll '|' outside t) [b] ≠ [] := by
    intro hnil
    have hmap := map_strip_fuse hb hne
    rw [hnil] at hmap
    exact hne (List.map_eq_nil_iff.1 hmap.symm)
  unfold pipeline
  rw [hcut, map_strip_glue ha hfuse, map_strip_fuse hb hne]

theorem pipeline_strip (t : Text) : pipeline (strip t) = pipeline t := by
  obtain ⟨a, b, ha, hb, ht⟩ := Text.exists_strip t
  conv => rhs; rw [ht]
  rw [pipeline_around ha hb]

/-- A bar behind a text that ends outside of quotes and brackets parts two pipelines. -/
theorem pipeline_bar (h : outside.run e = outside) (p : Text) :
    pipeline (e ++ '|' :: p) = pipeline e ++ pipeline p := by
  unfold pipeline
  rw [cutAll_mark isPlain_bar h, List.map_append]

theorem pieces_pipeline (t : Text) : Pieces '|' outside (pipeline t) :=
  (pieces_cutAll isPlain_bar outside t).map_strip

theorem trimmed_of_mem_pipeline {piece : Text} (h : piece ∈ pipeline t) : Trimmed piece := by
  obtain ⟨cut, -, rfl⟩ := List.mem_map.1 h
  exact Text.trimmed_strip cut

/-- Pieces that are joined by bars between blanks are cut into the same pieces. -/
theorem pipeline_join (h : Pieces '|' outside pieces) (htrimmed : ∀ piece ∈ pieces, Trimmed piece) :
    pipeline (Text.join " | ".toList pieces) = pieces := by
  generalize hs : outside = s at h
  induction h with
  | @last s piece hpasses =>
    subst hs
    have hstrip : strip piece = piece := htrimmed piece (List.mem_singleton_self piece)
    show (cutAll '|' outside piece).map strip = [piece]
    rw [cutAll_of_passes hpasses, List.map_singleton, hstrip]
  | @cut s piece rest hpasses hrun hrest ih =>
    subst hs
    have hspace : Blanks [' '] := by simp [Blanks, isBlank]
    obtain ⟨hpiece, htail⟩ := List.forall_mem_cons.1 htrimmed
    obtain ⟨next, others, rfl⟩ : ∃ next others, rest = next :: others := by
      cases hrest <;> exact ⟨_, _, rfl⟩
    have hjoin : Text.join " | ".toList (piece :: next :: others) =
        (piece ++ [' ']) ++ '|' :: ([' '] ++ Text.join " | ".toList (next :: others)) := by
      simp [Text.join]
    have hspaced : outside.run (piece ++ [' ']) = outside := by
      rw [run_append, hrun, run_blanks hspace]
    have hhead : pipeline (piece ++ [' ']) = [piece] := by
      have haround := pipeline_around Text.blanks_nil hspace piece
      rw [List.nil_append] at haround
      rw [haround, pipeline, cutAll_of_passes hpasses, List.map_singleton, hpiece]
    have hrest : pipeline ([' '] ++ Text.join " | ".toList (next :: others)) = next :: others := by
      have haround := pipeline_around hspace Text.blanks_nil (Text.join " | ".toList (next :: others))
      rw [List.append_nil] at haround
      rw [haround, ih htail rfl]
    rw [hjoin, pipeline_bar hspaced, hhead, hrest]
    rfl

/-! ## Their values -/

/-- A text writes the expression that its pieces write. -/
theorem ofText_eq_ofParts (t : Text) : ofText t = ofParts ofText (pipeline t) := by
  have hdepth : ofText t = ofParts (ofTextWithin t.length) (pipeline t) := by
    rw [ofText, ofTextWithin_eq_ofParts, pipeline_strip]
  rw [hdepth]
  refine ofParts_congr fun part hpart u hu => ?_
  have hlt : u.length < t.length := Nat.lt_of_lt_of_le hu (length_of_mem_pipeline hpart)
  exact ofTextWithin_eq hlt (Nat.lt_succ_self _)

section Values

variable (filters : Filters) (c : Context)

/-- A filter as it is written, applied to a value: the value itself if the filter is not known or
fails. Its argument is evaluated in the same context, if the filter is known. -/
def applySegment (v : Value) (segment : Text) : Eval Value :=
  match filterParts segment with
  | (name, none) => applyFilter filters name v fun f => f v none
  | (name, some argument) => applyFilter filters name v fun f => do
    let a ← (ofText argument).eval filters c
    f v (some a)

theorem eval_applyWritten (value : Expr) (segment : Text) :
    (applyWritten ofText value segment).eval filters c = (do
      let v ← value.eval filters c
      applySegment filters c v segment) := by
  unfold applyWritten applySegment
  rcases hparts : filterParts segment with ⟨name, _ | argument⟩
  · rfl
  · show (Expr.filtered value name (some (ofText argument))).eval filters c = _
    rw [eval]
    refine bind_congr fun v => ?_
    simp only [applyFilter]
    cases filters.lookup name with
    | none => rfl
    | some f => simp only [guardFilter, evalArgument, bind_assoc, pure_bind]

/-- Filters behind a value are applied to it from left to right. -/
theorem eval_foldl_applyWritten (value : Expr) (segments : List Text) :
    (segments.foldl (applyWritten ofText) value).eval filters c = (do
      let v ← value.eval filters c
      segments.foldlM (applySegment filters c) v) := by
  induction segments generalizing value with
  | nil => simp
  | cons segment rest ih =>
    rw [List.foldl_cons, ih, eval_applyWritten]
    simp [List.foldlM_cons]

end Values

/-- Pipelines compose. A bar behind a text that ends outside of quotes and brackets cuts it off from
whatever follows, whose pieces are all filters then: they are applied from left to right to the value
of the text. The pieces of any text, joined by bars, are cut into the same pieces, and a bar stands
in none of them but inside of quotes or brackets. -/
theorem pipeline_composes (filters : Filters) (c : Context) :
    (∀ e p : Text, outside.run e = outside →
      pipeline (e ++ '|' :: p) = pipeline e ++ pipeline p ∧
        (ofText (e ++ '|' :: p)).eval filters c = (do
          let v ← (ofText e).eval filters c
          (pipeline p).foldlM (applySegment filters c) v)) ∧
    ∀ t : Text, pipeline (Text.join " | ".toList (pipeline t)) = pipeline t ∧
      ∀ segment ∈ pipeline t, ∀ before after : Text, segment = before ++ '|' :: after →
        outside.run before ≠ outside := by
  refine ⟨fun e p h => ⟨pipeline_bar h p, ?_⟩, fun t => ⟨?_, ?_⟩⟩
  · have hparts : ofText (e ++ '|' :: p) =
        (pipeline p).foldl (applyWritten ofText) (ofText e) := by
      rw [ofText_eq_ofParts, ofText_eq_ofParts e, pipeline_bar h]
      obtain ⟨operand, others, hcut⟩ : ∃ operand others, pipeline e = operand :: others :=
        List.exists_cons_of_ne_nil (mt List.map_eq_nil_iff.1 (cutAll_ne_nil '|' outside e))
      rw [hcut]
      exact List.foldl_append
    rw [hparts, eval_foldl_applyWritten]
  · exact pipeline_join (pieces_pipeline t) fun piece hpiece => trimmed_of_mem_pipeline hpiece
  · rintro segment hsegment before after rfl
    exact run_ne_of_passes isPlain_bar ((pieces_pipeline t).passes_of_mem hsegment)

/-- A bar inside of a quoted key is no cut, and behind the bar that is one there may be empty filters
and a quote that is never closed. A bracket that closes nothing does not hide the bar behind it. -/
theorem pipeline_composes_quoted :
    let e : Text := "a[\"|\"] | upper".toList
    let p : Text := "| default:'b | c".toList
    outside.run e = outside ∧
      pipeline (e ++ '|' :: p) =
        ["a[\"|\"]".toList, "upper".toList, [], "default:'b | c".toList] ∧
      (ofText (e ++ '|' :: p)).eval Filter.builtin .empty = (do
        let v ← (ofText e).eval Filter.builtin .empty
        (pipeline p).foldlM (applySegment Filter.builtin .empty) v) ∧
      pipeline (Text.join " | ".toList (pipeline "]a||(b|c".toList)) =
        ["]a".toList, [], "(b|c".toList] := by
  intro e p
  have hrun : outside.run e = outside := by decide
  obtain ⟨hcomposes, hsame⟩ := pipeline_composes Filter.builtin .empty
  obtain ⟨hpipeline, heval⟩ := hcomposes e p hrun
  refine ⟨hrun, ?_, heval, ?_⟩
  · rw [hpipeline]
    decide
  · rw [(hsame _).1]
    decide

end Expr
end Stencil
