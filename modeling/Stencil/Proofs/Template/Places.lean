import Stencil.Template.Token
import Stencil.Proofs.Template.Respan
import Mathlib.Data.List.Chain

/-!
# The places of tokens

The raw spans of the tokens of a source, one after the other, are the source, and none of them is
empty. The lexer counts lines and columns as it goes; here they are counted again, over all that
stands before a token: its offset is the length of that text, its line is one more than the number of
line feeds in it, and its column is the distance from the last of them. Counting character by
character keeps this agreement, whatever the spans hold and wherever they end.
-/

set_option autoImplicit false

namespace Stencil

/-- The place of the last line feed of a text, counted from zero; it is -1 if there is none. -/
inductive Text.LastFeed : Text → Int → Prop where
  | missing {t : Text} : '\n' ∉ t → LastFeed t (-1)
  | between (before after : Text) : '\n' ∉ after → LastFeed (before ++ '\n' :: after) before.length

namespace Position

/-- A place that is the one behind a given text. -/
structure Behind (p : Position) (t : Text) : Prop where
  offset : p.offset = t.length
  line : p.line = 1 + t.count '\n'
  column : ∃ i : Int, t.LastFeed i ∧ (p.column : Int) = p.offset - i

theorem behind_start : start.Behind [] := by
  refine ⟨rfl, rfl, -1, .missing (by simp), ?_⟩
  simp [start]

/-- One more character moves the place behind a text to the place behind the longer text. -/
theorem Behind.step {p : Position} {t : Text} (h : p.Behind t) (c : Char) :
    (p.step c).Behind (t ++ [c]) := by
  obtain ⟨hoffset, hline, i, hfeed, hcolumn⟩ := h
  unfold Position.step
  by_cases hc : c = '\n'
  · subst hc
    rw [if_pos rfl]
    refine ⟨by simp [hoffset], ?_, t.length, .between t [] (by simp), ?_⟩
    · simp only [List.count_append, List.count_singleton_self]
      omega
    · simp only
      omega
  · rw [if_neg hc]
    refine ⟨by simp [hoffset], ?_, i, ?_, ?_⟩
    · have hcount : [c].count '\n' = 0 := by simp [hc]
      simp only [List.count_append]
      omega
    · cases hfeed with
      | missing hnone =>
        apply Text.LastFeed.missing
        simp [hnone, Ne.symm hc]
      | between before after hnone =>
        rw [List.append_assoc, List.cons_append]
        apply Text.LastFeed.between
        simp [hnone, Ne.symm hc]
    · simp only
      omega

theorem Behind.advance {p : Position} {t : Text} (h : p.Behind t) (u : Text) :
    (p.advance u).Behind (t ++ u) := by
  induction u generalizing p t with
  | nil =>
    rw [List.append_nil]
    exact h
  | cons c u ih =>
    have hrest := ih (h.step c)
    rw [List.append_assoc, List.singleton_append] at hrest
    exact hrest

end Position

namespace Segment

theorem raw_ne_nil_of_mem_textOf {value : Text} {s : Segment} (h : s ∈ textOf value) :
    s.raw ≠ [] := by
  unfold textOf at h
  split at h
  · simp at h
  · rename_i hne
    rw [List.mem_singleton] at h
    subst h
    simpa [raw] using hne

theorem raw_ne_nil_of_mem {source : Text} {s : Segment} (h : s ∈ ofSource source) : s.raw ≠ [] := by
  fun_induction ofSource source with
  | case1 source _ => exact raw_ne_nil_of_mem_textOf h
  | case2 source before d after _ ih =>
    rw [List.mem_append, List.mem_cons] at h
    rcases h with h | rfl | h
    · exact raw_ne_nil_of_mem_textOf h
    · simp [raw, Delimited.raw, Delimiter.opener]
    · exact ih h

/-- A segment of text. -/
def isText : Segment → Bool
  | .text _ => true
  | .delimited _ => false

/-- Segments of which no two neighbours are text. -/
def Apart (segments : List Segment) : Prop :=
  segments.IsChain fun a b => ¬ (a.isText = true ∧ b.isText = true)

theorem apart_textOf (value : Text) : Apart (textOf value) := by
  unfold Apart textOf
  split <;> simp

theorem apart_ofSource (source : Text) : Apart (ofSource source) := by
  fun_induction ofSource source with
  | case1 source _ => exact apart_textOf source
  | case2 source before d after _ ih =>
    have hspan : Apart (.delimited d :: ofSource after) := by
      apply List.IsChain.cons ih
      intro b _
      simp [isText]
    apply List.IsChain.append (apart_textOf before) hspan
    intro a _ b hb
    simp only [List.head?_cons, Option.mem_def, Option.some.injEq] at hb
    subst hb
    simp [isText]

end Segment

namespace Token

theorem raw_ofSegment (p : Position) (s : Segment) : (ofSegment p s).raw = s.raw := by
  cases s <;> rfl

theorem flatMap_raw_place (p : Position) (segments : List Segment) :
    (place p segments).flatMap raw = segments.flatMap Segment.raw := by
  induction segments generalizing p with
  | nil => rfl
  | cons s rest ih => rw [place, List.flatMap_cons, List.flatMap_cons, ih, raw_ofSegment]

/-- A placed token is its segment at the place behind what precedes it. -/
theorem exists_of_place {p : Position} {t : Text} (hp : p.Behind t) {segments : List Segment}
    {before after : List Token} {token : Token}
    (h : place p segments = before ++ token :: after) :
    ∃ s ∈ segments, token = ofSegment token.position s ∧
      token.position.Behind (t ++ before.flatMap raw) := by
  induction segments generalizing p t before with
  | nil => simp [place] at h
  | cons s rest ih =>
    rw [place] at h
    cases before with
    | nil =>
      obtain ⟨rfl, -⟩ := List.cons.inj h
      refine ⟨s, List.mem_cons_self .., ?_, ?_⟩
      · cases s <;> rfl
      · rw [List.flatMap_nil, List.append_nil]
        cases s <;> exact hp
    | cons first before =>
      obtain ⟨rfl, htail⟩ := List.cons.inj h
      obtain ⟨s', hs', htoken, hbehind⟩ := ih (hp.advance s.raw) htail
      refine ⟨s', List.mem_cons_of_mem _ hs', htoken, ?_⟩
      rw [List.flatMap_cons, raw_ofSegment, ← List.append_assoc]
      exact hbehind

theorem isText_of_kind {p : Position} {s : Segment} (h : (ofSegment p s).kind = .text) :
    s.isText = true := by
  cases s with
  | text value => rfl
  | delimited d =>
    obtain ⟨delimiter, body⟩ := d
    cases delimiter <;> cases h

theorem isChain_place (p : Position) {segments : List Segment} (h : Segment.Apart segments) :
    (place p segments).IsChain fun a b => ¬ (a.kind = .text ∧ b.kind = .text) := by
  unfold Segment.Apart at h
  induction h generalizing p with
  | nil => exact .nil
  | singleton s => exact .singleton _
  | cons_cons hab _ ih =>
    refine .cons_cons ?_ (ih _)
    rintro ⟨ha, hb⟩
    exact hab ⟨isText_of_kind ha, isText_of_kind hb⟩

/-- Tokens cover the source and carry true places: their raw spans, in order, are the source; none
is empty; offset, line and column of each are those of the text before it; the content of text is
its span; and of two neighbours one is no text. -/
theorem ofSource_covers (source : Text) :
    (ofSource source).flatMap raw = source ∧
      (∀ before token after, ofSource source = before ++ token :: after →
        token.raw ≠ [] ∧
        token.position.offset = (before.flatMap raw).length ∧
        token.position.line = 1 + (source.take token.position.offset).count '\n' ∧
        (∃ i : Int, Text.LastFeed (source.take token.position.offset) i ∧
          (token.position.column : Int) = token.position.offset - i) ∧
        (token.kind = .text → token.content = token.raw)) ∧
      ∀ before token next after, ofSource source = before ++ token :: next :: after →
        ¬ (token.kind = .text ∧ next.kind = .text) := by
  have hcover : (ofSource source).flatMap raw = source := by
    rw [ofSource, flatMap_raw_place, Segment.flatMap_raw_ofSource]
  refine ⟨hcover, ?_, ?_⟩
  · intro before token after h
    obtain ⟨s, hs, htoken, hbehind⟩ := exists_of_place Position.behind_start h
    rw [List.nil_append] at hbehind
    have htake : source.take token.position.offset = before.flatMap raw := by
      rw [h, List.flatMap_append] at hcover
      rw [hbehind.offset, ← hcover]
      exact List.take_left
    rw [htake]
    refine ⟨?_, hbehind.offset, hbehind.line, hbehind.column, ?_⟩
    · rw [htoken, raw_ofSegment]
      exact Segment.raw_ne_nil_of_mem hs
    · intro hkind
      rw [htoken] at hkind ⊢
      cases s with
      | text value => rfl
      | delimited d =>
        have := isText_of_kind hkind
        simp [Segment.isText] at this
  · intro before token next after h
    have hchain := isChain_place .start (Segment.apart_ofSource source)
    rw [← ofSource, h] at hchain
    exact (List.isChain_cons_cons.1 (List.isChain_append.1 hchain).2.1).1

/-- A comment that goes over two lines moves what follows it to the second one. -/
example :
    let comment := Delimited.raw ⟨.comment, " b\nc ".toList⟩
    (ofSource ("a".toList ++ comment ++ " d".toList)).map position =
      [⟨1, 1, 0⟩, ⟨1, 2, 1⟩, ⟨2, 5, 10⟩] := by
  decide +kernel

end Token
end Stencil
