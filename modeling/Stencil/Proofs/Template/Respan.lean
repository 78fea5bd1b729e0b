import Stencil.Proofs.Template.Pair
import Mathlib.Data.List.Forall2

/-!
# Segments of a source in which spans were replaced

When the delimited spans of a source are replaced by spans of the same delimiters that may stand in
their place, the new source has the new spans as its segments, and the same text around them. A new
span is complete by itself; before it no opener finds a closer, because there is none in the new
source that was not in the old one.
-/

set_option autoImplicit false

namespace Stencil

/-! ## Closers -/

namespace Delimiter

variable {mark : Char} {x y t : Text}

/-- There is no cut exactly where there is no pair. -/
theorem cutAtPair_eq_none : cutAtPair mark '}' t = none ↔ ¬ HasPair mark t := by
  fun_induction cutAtPair mark '}' t with
  | case1 c d rest hpair =>
    have hhas : HasPair mark (c :: d :: rest) := hasPair_cons.2 (.inl ⟨hpair.1, by simp [hpair.2]⟩)
    simp [hhas]
  | case2 c d rest hpair ih =>
    have hskip : HasPair mark (c :: d :: rest) ↔ HasPair mark (d :: rest) := by
      rw [hasPair_cons]
      refine ⟨fun h => h.resolve_left ?_, .inr⟩
      simpa using hpair
    rw [Option.map_eq_none_iff, ih, hskip]
  | case3 t hshort =>
    cases t with
    | nil => simp [hasPair_nil]
    | cons c rest =>
      cases rest with
      | nil => simp [hasPair_cons, hasPair_nil]
      | cons d rest => exact absurd rfl (hshort c d rest)

/-- The cut is at the first pair. -/
theorem cutAtPair_append (h : ¬ HasPair mark (x ++ [mark])) (y : Text) :
    cutAtPair mark '}' (x ++ mark :: '}' :: y) = some (x, y) := by
  induction x with
  | nil => simp [cutAtPair]
  | cons c x ih =>
    rw [List.cons_append, hasPair_cons, not_or] at h
    obtain ⟨hhead, hrest⟩ := h
    have hcut := ih hrest
    cases x with
    | nil =>
      have hne : ¬ (c = mark ∧ mark = '}') := by simpa using hhead
      rw [List.nil_append] at hcut
      rw [List.cons_append, List.nil_append, cutAtPair, if_neg hne, hcut]
      rfl
    | cons d rest =>
      have hne : ¬ (c = mark ∧ d = '}') := by simpa using hhead
      rw [List.cons_append] at hcut
      rw [List.cons_append, List.cons_append, cutAtPair, if_neg hne, hcut]
      rfl

/-- What is cut is what stands around the first pair. -/
theorem of_cutAtPair (h : cutAtPair mark '}' t = some (x, y)) :
    t = x ++ mark :: '}' :: y ∧ ¬ HasPair mark (x ++ [mark]) := by
  fun_induction cutAtPair mark '}' t generalizing x with
  | case1 c d rest hpair =>
    cases h
    obtain ⟨rfl, rfl⟩ := hpair
    refine ⟨rfl, ?_⟩
    simp [hasPair_cons, hasPair_nil]
  | case2 c d rest hpair ih =>
    obtain ⟨⟨x', y'⟩, hcut, heq⟩ := Option.map_eq_some_iff.1 h
    cases heq
    obtain ⟨hsplit, hnone⟩ := ih hcut
    refine ⟨by rw [hsplit, List.cons_append], ?_⟩
    rw [List.cons_append, hasPair_cons, not_or]
    refine ⟨?_, hnone⟩
    rintro ⟨rfl, hhead⟩
    have hd : d = '}' := by
      have hboth : (d :: rest).head? = (x' ++ [c]).head? := by
        rw [hsplit]
        cases x' <;> rfl
      rw [← hboth] at hhead
      exact Option.some.inj hhead
    exact hpair ⟨rfl, hd⟩
  | case3 => cases h

/-- The part of a text after an opener in which the closer is looked for. -/
def seek (d : Delimiter) (t : Text) : Text :=
  match d with
  | .comment => t
  | _ => t.tail

theorem cutBody_comment (t : Text) : Delimiter.comment.cutBody t = cutAtPair '#' '}' t := by
  cases t <;> rfl

theorem cutBody_of_ne {d : Delimiter} (hd : d ≠ .comment) (c : Char) (t : Text) :
    d.cutBody (c :: t) =
      (cutAtPair d.closeMark '}' t).map fun cut => (c :: cut.1, cut.2) := by
  cases d with
  | comment => exact absurd rfl hd
  | expression => rfl
  | tag => rfl

theorem cutBody_eq_none {d : Delimiter} : d.cutBody t = none ↔ ¬ HasPair d.closeMark (d.seek t) := by
  cases t with
  | nil => cases d <;> simp [cutBody, seek, hasPair_nil]
  | cons c rest =>
    cases d with
    | comment => exact cutAtPair_eq_none
    | expression => exact Option.map_eq_none_iff.trans cutAtPair_eq_none
    | tag => exact Option.map_eq_none_iff.trans cutAtPair_eq_none

/-- A body that begins with one more character, and has no pair before its closer after that. -/
theorem cutBody_cons {d : Delimiter} (hd : d ≠ .comment) (c : Char)
    (h : ¬ HasPair d.closeMark (x ++ [d.closeMark])) (y : Text) :
    d.cutBody (c :: x ++ d.closer ++ y) = some (c :: x, y) := by
  rw [List.append_assoc, List.cons_append, cutBody_of_ne hd]
  exact congrArg (Option.map _) (cutAtPair_append h y)

/-- A body ends at its closer, whatever comes after that. -/
theorem of_cutBody {d : Delimiter} (h : d.cutBody t = some (x, y)) :
    t = x ++ d.closer ++ y ∧ ∀ z, d.cutBody (x ++ d.closer ++ z) = some (x, z) := by
  by_cases hd : d = .comment
  · subst hd
    rw [cutBody_comment] at h
    obtain ⟨hsplit, hnone⟩ := of_cutAtPair h
    refine ⟨by simpa [closer, closeMark] using hsplit, fun z => ?_⟩
    rw [cutBody_comment, List.append_assoc]
    exact cutAtPair_append hnone z
  · cases t with
    | nil => cases h
    | cons c rest =>
      rw [cutBody_of_ne hd] at h
      obtain ⟨⟨body, after⟩, hinner, heq⟩ := Option.map_eq_some_iff.1 h
      cases heq
      obtain ⟨hsplit, hnone⟩ := of_cutAtPair hinner
      exact ⟨by simp [hsplit, closer], cutBody_cons hd c hnone⟩

theorem ofMark?_openMark (d : Delimiter) : ofMark? d.openMark = some d := by
  cases d <;> rfl

theorem openMark_of_ofMark? {c : Char} {d : Delimiter} (h : ofMark? c = some d) :
    c = d.openMark := by
  unfold ofMark? at h
  split at h
  · cases h
    assumption
  · split at h
    · cases h
      assumption
    · split at h
      · cases h
        assumption
      · cases h

end Delimiter

/-! ## Spans -/

namespace Delimited

variable {d new old : Delimited} {t rest after after' before : Text}

/-- A span whose closer is found behind its body, whatever comes after it. -/
def Complete (d : Delimited) : Prop :=
  ∀ rest, d.delimiter.cutBody (d.body ++ d.delimiter.closer ++ rest) = some (d.body, rest)

theorem raw_append (d : Delimited) (rest : Text) :
    d.raw ++ rest =
      '{' :: d.delimiter.openMark :: (d.body ++ d.delimiter.closer ++ rest) := by
  simp only [raw, Delimiter.opener, List.append_assoc, List.cons_append, List.nil_append]

theorem atHead?_raw (h : d.Complete) (rest : Text) : atHead? (d.raw ++ rest) = some (d, rest) := by
  rw [raw_append, atHead?]
  simp only [Delimiter.ofMark?_openMark, h rest, Option.map_some]

theorem of_atHead? (h : atHead? t = some (d, rest)) : t = d.raw ++ rest ∧ d.Complete := by
  unfold atHead? at h
  split at h
  · rename_i mark tail
    split at h
    · cases h
    · rename_i delimiter hmark
      obtain ⟨⟨body, after⟩, hcut, heq⟩ := Option.map_eq_some_iff.1 h
      cases heq
      obtain ⟨hsplit, hcomplete⟩ := Delimiter.of_cutBody hcut
      refine ⟨?_, hcomplete⟩
      rw [raw_append, hsplit, Delimiter.openMark_of_ofMark? hmark]
  · cases h

/-- Behind at least three characters, no complete span comes to begin at the first one. -/
theorem atHead?_of_mends {p new old : Text} (hp : 3 ≤ p.length) (h : Mends new old)
    (hnone : atHead? (p ++ old) = none) : atHead? (p ++ new) = none := by
  match p, hp with
  | x :: y :: z :: w, _ =>
    by_cases hx : x = '{'
    · subst hx
      simp only [List.cons_append, atHead?] at hnone ⊢
      split at hnone
      · rfl
      · rename_i d _
        rw [Option.map_eq_none_iff, Delimiter.cutBody_eq_none] at hnone ⊢
        refine fun hpair => hnone ?_
        -- The closer of a comment is looked for from the first character of its body, other closers
        -- from the second one; both belong to what stands in front of the change.
        cases d with
        | comment =>
          have hmends := (Mends.refl (z :: w)).append h
          exact hmends.pairs _ (Delimiter.closeMark_mem _) hpair
        | expression =>
          have hmends := (Mends.refl w).append h
          exact hmends.pairs _ (Delimiter.closeMark_mem _) hpair
        | tag =>
          have hmends := (Mends.refl w).append h
          exact hmends.pairs _ (Delimiter.closeMark_mem _) hpair
    · unfold atHead?
      split
      · rename_i heq
        exact absurd (List.cons.inj heq).1 hx
      · rfl

theorem of_first? (h : first? t = some (before, d, after)) :
    t = before ++ (d.raw ++ after) ∧ d.Complete := by
  induction t generalizing before with
  | nil => cases h
  | cons c t ih =>
    unfold first? at h
    split at h
    · rename_i hhead
      cases h
      exact of_atHead? hhead
    · obtain ⟨⟨before', found⟩, hrest, heq⟩ := Option.map_eq_some_iff.1 h
      cases heq
      obtain ⟨hsplit, hcomplete⟩ := ih hrest
      exact ⟨by rw [hsplit, List.cons_append], hcomplete⟩

/-- A span that may stand in place of another one. -/
structure Replaces (new old : Delimited) : Prop where
  delimiter : new.delimiter = old.delimiter
  complete : new.Complete
  mends : Mends (new.body ++ new.delimiter.closer) (old.body ++ old.delimiter.closer)

theorem Replaces.raw (h : Replaces new old) : Mends new.raw old.raw := by
  have hopener := (Mends.refl old.delimiter.opener).append h.mends
  rw [← List.append_assoc, ← List.append_assoc] at hopener
  unfold Delimited.raw
  rw [h.delimiter] at hopener ⊢
  exact hopener

/-- The leftmost complete span of a text stays the leftmost when it and what comes after it are
replaced. -/
theorem first?_of_mends (hfirst : first? t = some (before, old, after)) (h : Replaces new old)
    (hafter : Mends after' after) :
    first? (before ++ (new.raw ++ after')) = some (before, new, after') := by
  induction t generalizing before with
  | nil => cases hfirst
  | cons c t ih =>
    unfold first? at hfirst
    split at hfirst
    · cases hfirst
      have hhead := atHead?_raw h.complete after'
      rw [raw_append] at hhead ⊢
      rw [List.nil_append, first?, hhead]
    · rename_i hnone
      obtain ⟨⟨before', found⟩, hrest, heq⟩ := Option.map_eq_some_iff.1 hfirst
      cases heq
      obtain ⟨hsplit, -⟩ := of_first? hrest
      -- The opener is the same, so it belongs to what stands in front of the change.
      let p := c :: (before' ++ old.delimiter.opener)
      have hp : 3 ≤ p.length := by
        simp only [p, Delimiter.opener, List.length_cons, List.length_append, List.length_nil]
        omega
      have hmends := h.mends.append hafter
      have hold : c :: t = p ++ (old.body ++ old.delimiter.closer ++ after) := by
        rw [hsplit]
        simp only [p, Delimited.raw, List.append_assoc, List.cons_append]
      have hnew : c :: (before' ++ (new.raw ++ after')) =
          p ++ (new.body ++ new.delimiter.closer ++ after') := by
        simp only [p, Delimited.raw, h.delimiter, List.append_assoc, List.cons_append]
      have hhead : atHead? (c :: (before' ++ (new.raw ++ after'))) = none := by
        rw [hnew]
        exact atHead?_of_mends hp hmends (hold ▸ hnone)
      rw [List.cons_append, first?, hhead, ih hrest]
      rfl

end Delimited

/-! ## Sources -/

namespace Segment

/-- A segment that may stand in place of another one: the same text, or a span. -/
inductive Replaces : Segment → Segment → Prop where
  | text (value : Text) : Replaces (.text value) (.text value)
  | delimited {new old : Delimited} : new.Replaces old → Replaces (.delimited new) (.delimited old)

theorem Replaces.raw {new old : Segment} (h : Replaces new old) : Mends new.raw old.raw := by
  cases h with
  | text value => exact .refl value
  | delimited h => exact h.raw

theorem mends_flatMap {news olds : List Segment} (h : List.Forall₂ Replaces news olds) :
    Mends (news.flatMap raw) (olds.flatMap raw) := by
  induction h with
  | nil => exact .refl []
  | cons hhead _ ih =>
    rw [List.flatMap_cons, List.flatMap_cons]
    exact hhead.raw.append ih

theorem flatMap_raw_textOf (value : Text) : (textOf value).flatMap raw = value := by
  unfold textOf
  cases value <;> simp [raw]

theorem ofSource_of_first?_eq_none {source : Text} (h : Delimited.first? source = none) :
    ofSource source = textOf source := by
  rw [ofSource]
  split
  · rfl
  · rename_i hsome
    rw [h] at hsome
    cases hsome

theorem ofSource_of_first? {source before after : Text} {d : Delimited}
    (h : Delimited.first? source = some (before, d, after)) :
    ofSource source = textOf before ++ .delimited d :: ofSource after := by
  rw [ofSource]
  split
  · rename_i hnone
    rw [h] at hnone
    cases hnone
  · rename_i hsome
    rw [h] at hsome
    cases hsome
    rfl

/-- The segments of a source make up the source. -/
theorem flatMap_raw_ofSource (source : Text) : (ofSource source).flatMap raw = source := by
  fun_induction ofSource source with
  | case1 source _ => exact flatMap_raw_textOf source
  | case2 source before span after hfirst ih =>
    obtain ⟨hsplit, -⟩ := Delimited.of_first? hfirst
    rw [List.flatMap_append, List.flatMap_cons, ih, flatMap_raw_textOf, hsplit]
    rfl

theorem complete_of_mem {source : Text} {d : Delimited} (h : .delimited d ∈ ofSource source) :
    d.Complete := by
  fun_induction ofSource source with
  | case1 source _ =>
    unfold textOf at h
    split at h <;> simp at h
  | case2 source before span after hfirst ih =>
    rcases List.mem_append.1 h with h | h
    · unfold textOf at h
      split at h <;> simp at h
    · rcases List.mem_cons.1 h with h | h
      · cases h
        exact (Delimited.of_first? hfirst).2
      · exact ih h

theorem forall₂_textOf {news : List Segment} {value : Text} {olds : List Segment}
    (h : List.Forall₂ Replaces news (textOf value ++ olds)) :
    ∃ rest, news = textOf value ++ rest ∧ List.Forall₂ Replaces rest olds := by
  unfold textOf at h ⊢
  split at h
  · rename_i hempty
    refine ⟨news, ?_, h⟩
    rw [if_pos hempty]
    rfl
  · rename_i hempty
    rw [if_neg hempty]
    cases h with
    | cons hhead hrest =>
      cases hhead
      exact ⟨_, rfl, hrest⟩

/-- The segments that replace those of a source are the segments of the new source. -/
theorem ofSource_replaced {source : Text} {news : List Segment}
    (h : List.Forall₂ Replaces news (ofSource source)) :
    ofSource (news.flatMap raw) = news := by
  fun_induction ofSource source generalizing news with
  | case1 source hnone =>
    rw [← List.append_nil (textOf source)] at h
    obtain ⟨rest, rfl, hrest⟩ := forall₂_textOf h
    cases hrest
    rw [List.append_nil, flatMap_raw_textOf, ofSource_of_first?_eq_none hnone]
  | case2 source before span after hfirst ih =>
    obtain ⟨rest, rfl, hrest⟩ := forall₂_textOf h
    cases hrest with
    | @cons new _ rest _ hspan hafter =>
      cases hspan with
      | delimited hspan =>
        rename_i d
        have hmends : Mends (rest.flatMap raw) after := by
          have hmends := mends_flatMap hafter
          rwa [flatMap_raw_ofSource] at hmends
        have hnew := Delimited.first?_of_mends hfirst hspan hmends
        have hflat : (textOf before ++ .delimited d :: rest).flatMap raw =
            before ++ (d.raw ++ rest.flatMap raw) := by
          rw [List.flatMap_append, flatMap_raw_textOf, List.flatMap_cons]
          rfl
        rw [hflat, ofSource_of_first? hnew, ih hafter]

end Segment
end Stencil
