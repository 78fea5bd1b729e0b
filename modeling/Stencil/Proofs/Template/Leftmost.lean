import Stencil.Proofs.Template.Places

/-!
# The leftmost, shortest segmentation

What the segments of a source are, said without the scan that finds them. A span begins a text if
its opener stands there and its closer anywhere after the body, which for expressions and tags is
not empty. The segments take the leftmost place where a span begins, end it at its first closer, and
go on behind it; everything else is text. There is exactly one such segmentation of a source.
-/

set_option autoImplicit false

namespace Stencil

/-! ## Spans at the beginning of a text -/

namespace Delimited

variable {d e : Delimited} {t rest after before : Text}

/-- A span stands at the beginning of a text, before a rest. Its closer need not be the first. -/
structure Begins (d : Delimited) (t rest : Text) : Prop where
  split : t = d.raw ++ rest
  body_ne_nil : d.delimiter ≠ .comment → d.body ≠ []

/-- A span stands at the beginning of a text. -/
def Opens (t : Text) : Prop := ∃ d rest, Begins d t rest

/-- A span stands at the beginning of a text, and ends at the first closer that it can end at. -/
structure Shortest (d : Delimited) (t rest : Text) : Prop extends Begins d t rest where
  length_le : ∀ e after, Begins e t after → d.body.length ≤ e.body.length

theorem not_opens_nil : ¬ Opens [] := by
  rintro ⟨d, rest, hbegins⟩
  have hsplit := hbegins.split
  simp [raw, Delimiter.opener] at hsplit

/-- A pair that stands in a text is cut at, or one before it. -/
theorem exists_cutAtPair (mark : Char) (x y : Text) :
    ∃ cut, Delimiter.cutAtPair mark '}' (x ++ mark :: '}' :: y) = some cut ∧
      cut.1.length ≤ x.length := by
  have hpair : HasPair mark (x ++ mark :: '}' :: y) := ⟨x, y, by simp⟩
  cases hcut : Delimiter.cutAtPair mark '}' (x ++ mark :: '}' :: y) with
  | none => exact absurd hpair (Delimiter.cutAtPair_eq_none.1 hcut)
  | some cut =>
    refine ⟨cut, rfl, Nat.le_of_not_lt fun hlt => ?_⟩
    obtain ⟨hsplit, hnone⟩ := Delimiter.of_cutAtPair hcut
    -- Were the cut behind the pair, the pair would stand in what is cut off.
    have hshort : (x ++ [mark, '}']).length ≤ (cut.1 ++ [mark]).length := by
      simp only [List.length_append, List.length_cons, List.length_nil]
      omega
    have hleft : x ++ [mark, '}'] <+: x ++ mark :: '}' :: y := ⟨y, by simp⟩
    have hright : cut.1 ++ [mark] <+: x ++ mark :: '}' :: y := ⟨'}' :: cut.2, by rw [hsplit]; simp⟩
    have hpre := List.prefix_of_prefix_length_le hleft hright hshort
    exact hnone (HasPair.mono ⟨x, [], by simp⟩ hpre.isInfix)

theorem Complete.body_ne_nil (h : d.Complete) (hd : d.delimiter ≠ .comment) : d.body ≠ [] := by
  intro hnil
  have hcut := h []
  rw [hnil] at hcut
  rw [List.nil_append, List.append_nil, Delimiter.closer, Delimiter.cutBody_of_ne hd] at hcut
  obtain ⟨cut, -, heq⟩ := Option.map_eq_some_iff.1 hcut
  cases heq

theorem begins_of_atHead? (h : atHead? t = some (d, rest)) : Begins d t rest := by
  obtain ⟨hsplit, hcomplete⟩ := of_atHead? h
  exact ⟨hsplit, hcomplete.body_ne_nil⟩

/-- Where a span begins, one is found that is not longer. -/
theorem Begins.exists_atHead? (h : Begins d t rest) :
    ∃ e after, atHead? t = some (e, after) ∧ e.body.length ≤ d.body.length := by
  obtain ⟨rfl, hbody⟩ := h
  have hcut : ∃ cut, d.delimiter.cutBody (d.body ++ d.delimiter.closer ++ rest) = some cut ∧
      cut.1.length ≤ d.body.length := by
    by_cases hd : d.delimiter = .comment
    · rw [hd, Delimiter.cutBody_comment, List.append_assoc]
      exact exists_cutAtPair '#' d.body rest
    · obtain ⟨c, body, hcons⟩ := List.exists_cons_of_ne_nil (hbody hd)
      obtain ⟨cut, hcut, hle⟩ := exists_cutAtPair d.delimiter.closeMark body rest
      refine ⟨(c :: cut.1, cut.2), ?_, ?_⟩
      · rw [hcons, List.append_assoc, List.cons_append, Delimiter.cutBody_of_ne hd]
        exact congrArg (Option.map _) hcut
      · rw [hcons]
        exact Nat.succ_le_succ hle
  obtain ⟨cut, hcut, hle⟩ := hcut
  refine ⟨⟨d.delimiter, cut.1⟩, cut.2, ?_, hle⟩
  rw [raw_append, atHead?]
  simp only [Delimiter.ofMark?_openMark, hcut, Option.map_some]

/-- No span is found at the beginning of a text exactly if none begins there. -/
theorem atHead?_eq_none_iff : atHead? t = none ↔ ¬ Opens t := by
  constructor
  · rintro hnone ⟨d, rest, hbegins⟩
    obtain ⟨e, after, hsome, -⟩ := hbegins.exists_atHead?
    rw [hnone] at hsome
    cases hsome
  · intro hopens
    rw [Option.eq_none_iff_forall_ne_some]
    rintro ⟨d, rest⟩ hsome
    exact hopens ⟨d, rest, begins_of_atHead? hsome⟩

/-- What is found at the beginning of a text is the shortest span that begins there. -/
theorem shortest_of_atHead? (h : atHead? t = some (d, rest)) : Shortest d t rest := by
  refine ⟨begins_of_atHead? h, fun e after hbegins => ?_⟩
  obtain ⟨e', after', hsome, hle⟩ := hbegins.exists_atHead?
  rw [h] at hsome
  cases hsome
  exact hle

/-- Two spans at the beginning of a text have the same delimiters. -/
theorem Begins.delimiter_eq (h : Begins d t rest) (h' : Begins e t after) :
    d.delimiter = e.delimiter := by
  have hsplit := h.split.symm.trans h'.split
  rw [raw_append, raw_append] at hsplit
  have hmark : d.delimiter.openMark = e.delimiter.openMark :=
    (List.cons.inj (List.cons.inj hsplit).2).1
  have hof := congrArg Delimiter.ofMark? hmark
  rw [Delimiter.ofMark?_openMark, Delimiter.ofMark?_openMark] at hof
  exact Option.some.inj hof

/-- The shortest span at the beginning of a text is found. -/
theorem Shortest.atHead? (h : Shortest d t rest) : atHead? t = some (d, rest) := by
  obtain ⟨e, after, hsome, hle⟩ := h.toBegins.exists_atHead?
  have hbegins := begins_of_atHead? hsome
  have hlength : d.body.length = e.body.length :=
    Nat.le_antisymm (h.length_le e after hbegins) hle
  have hdelimiter := h.toBegins.delimiter_eq hbegins
  have hsplit := h.split.symm.trans hbegins.split
  rw [raw_append, raw_append, hdelimiter, List.append_assoc, List.append_assoc] at hsplit
  obtain ⟨hbody, hrest⟩ :=
    List.append_inj (List.cons.inj (List.cons.inj hsplit).2).2 hlength
  have hafter : rest = after := List.append_cancel_left hrest
  cases d
  cases e
  cases hdelimiter
  cases hbody
  rw [hsome, hafter]

theorem Shortest.complete (h : Shortest d t rest) : d.Complete := (of_atHead? h.atHead?).2

theorem Complete.shortest (h : d.Complete) (rest : Text) : Shortest d (d.raw ++ rest) rest :=
  shortest_of_atHead? (atHead?_raw h rest)

theorem Begins.append (h : Begins d t rest) (after : Text) :
    Begins d (t ++ after) (rest ++ after) := by
  refine ⟨?_, h.body_ne_nil⟩
  rw [h.split, List.append_assoc]

/-! ## The first span of a text -/

/-- There is no first span exactly if no span begins anywhere. -/
theorem first?_eq_none_iff : first? t = none ↔ ∀ x y, t = x ++ y → ¬ Opens y := by
  induction t with
  | nil =>
    refine ⟨fun _ x y h => ?_, fun _ => rfl⟩
    obtain ⟨-, rfl⟩ := List.append_eq_nil_iff.1 h.symm
    exact not_opens_nil
  | cons c t ih =>
    constructor
    · intro hnone x y hsplit
      rw [first?] at hnone
      split at hnone
      · cases hnone
      · rename_i hhead
        cases x with
        | nil =>
          rw [List.nil_append] at hsplit
          rw [← hsplit]
          exact atHead?_eq_none_iff.1 hhead
        | cons b x =>
          have hrest := Option.map_eq_none_iff.1 hnone
          exact ih.1 hrest x y (List.cons.inj hsplit).2
    · intro hopens
      rw [first?, atHead?_eq_none_iff.2 (hopens [] (c :: t) rfl)]
      refine Option.map_eq_none_iff.2 (ih.2 fun x y hsplit => ?_)
      exact hopens (c :: x) y (by rw [hsplit, List.cons_append])

/-- The first span of a text is the shortest at the leftmost place where one begins. -/
theorem first?_eq_some_iff : first? t = some (before, d, after) ↔
    t = before ++ (d.raw ++ after) ∧ d.Complete ∧
      ∀ x y, before = x ++ y → y ≠ [] → ¬ Opens (y ++ (d.raw ++ after)) := by
  induction t generalizing before with
  | nil => simp [first?, raw, Delimiter.opener]
  | cons c t ih =>
    rw [first?]
    cases hhead : atHead? (c :: t) with
    | some found =>
      obtain ⟨e, rest⟩ := found
      obtain ⟨hsplit, hcomplete⟩ := of_atHead? hhead
      simp only [Option.some.injEq, Prod.mk.injEq]
      constructor
      · rintro ⟨rfl, rfl, rfl⟩
        refine ⟨hsplit, hcomplete, fun x y hnil hne => ?_⟩
        exact absurd (List.append_eq_nil_iff.1 hnil.symm).2 hne
      · rintro ⟨hother, hd, hleft⟩
        cases before with
        | nil =>
          rw [List.nil_append] at hother
          rw [hother, atHead?_raw hd after] at hhead
          cases hhead
          exact ⟨rfl, rfl, rfl⟩
        | cons b before =>
          have hnone := hleft [] (b :: before) rfl (List.cons_ne_nil _ _)
          rw [← hother] at hnone
          exact absurd ⟨e, rest, begins_of_atHead? hhead⟩ hnone
    | none =>
      have hclosed := atHead?_eq_none_iff.1 hhead
      constructor
      · intro h
        obtain ⟨⟨before', found⟩, hrest, heq⟩ := Option.map_eq_some_iff.1 h
        cases heq
        obtain ⟨hsplit, hcomplete, hleft⟩ := ih.1 hrest
        refine ⟨by rw [hsplit, List.cons_append], hcomplete, fun x y hbefore hne => ?_⟩
        cases x with
        | nil =>
          rw [List.nil_append] at hbefore
          rw [← hbefore, List.cons_append, ← hsplit]
          exact hclosed
        | cons b x => exact hleft x y (List.cons.inj hbefore).2 hne
      · rintro ⟨hsplit, hcomplete, hleft⟩
        cases before with
        | nil =>
          rw [List.nil_append] at hsplit
          rw [hsplit, atHead?_raw hcomplete after] at hhead
          cases hhead
        | cons b before =>
          obtain ⟨rfl, hrest⟩ := List.cons.inj hsplit
          have hfirst : first? t = some (before, d, after) := by
            refine ih.2 ⟨hrest, hcomplete, fun x y hbefore hne => ?_⟩
            exact hleft (c :: x) y (by rw [hbefore, List.cons_append]) hne
          rw [hfirst]
          rfl

end Delimited

/-! ## Segmentations -/

namespace Segment

open Delimited (Opens Shortest first?)

/-- Segments that were taken from the left, each span as the shortest one at its place: in their
text no span begins, whatever of the source follows it. -/
inductive Cut : List Segment → Prop where
  | nil : Cut []
  | text {value : Text} {rest : List Segment} : value ≠ [] →
      (∀ x y, value = x ++ y → y ≠ [] → ¬ Opens (y ++ rest.flatMap raw)) → Cut rest →
      Cut (.text value :: rest)
  | span {d : Delimited} {rest : List Segment} :
      Shortest d (d.raw ++ rest.flatMap raw) (rest.flatMap raw) → Cut rest →
      Cut (.delimited d :: rest)

/-- The leftmost, shortest segmentation of a source: its segments make up the source, no two texts
are neighbours, and they were taken from the left. -/
structure Segmentation (source : Text) (segments : List Segment) : Prop where
  cover : segments.flatMap raw = source
  apart : Apart segments
  cut : Cut segments

theorem cut_textOf {value : Text} {rest : List Segment}
    (h : ∀ x y, value = x ++ y → y ≠ [] → ¬ Opens (y ++ rest.flatMap raw)) (hrest : Cut rest) :
    Cut (textOf value ++ rest) := by
  unfold textOf
  split
  · exact hrest
  · rename_i hne
    exact .text (by simpa using hne) h hrest

theorem cut_ofSource (source : Text) : Cut (ofSource source) := by
  fun_induction ofSource source with
  | case1 source hnone =>
    rw [← List.append_nil (textOf source)]
    refine cut_textOf (fun x y hsplit _ => ?_) .nil
    rw [List.flatMap_nil, List.append_nil]
    exact Delimited.first?_eq_none_iff.1 hnone x y hsplit
  | case2 source before d after hfirst ih =>
    obtain ⟨-, hcomplete, hleft⟩ := Delimited.first?_eq_some_iff.1 hfirst
    refine cut_textOf (fun x y hsplit hne => ?_) (.span (hcomplete.shortest _) ih)
    rw [List.flatMap_cons, flatMap_raw_ofSource]
    exact hleft x y hsplit hne

/-- Segments that were taken from the left are those of the source that they make up. -/
theorem Cut.ofSource_eq {segments : List Segment} (h : Cut segments) (hapart : Apart segments) :
    ofSource (segments.flatMap raw) = segments := by
  induction h with
  | nil => exact ofSource_of_first?_eq_none rfl
  | @span d rest hshortest _ ih =>
    have hfirst : first? (d.raw ++ rest.flatMap raw) = some ([], d, rest.flatMap raw) :=
      Delimited.first?_eq_some_iff.2 ⟨rfl, hshortest.complete, by simp⟩
    rw [List.flatMap_cons]
    show ofSource (d.raw ++ rest.flatMap raw) = _
    rw [ofSource_of_first? hfirst, ih hapart.tail]
    rfl
  | @text value rest hne hleft hrest ih =>
    have htext : textOf value = [.text value] := by
      rw [textOf, if_neg (by simpa using hne)]
    rw [List.flatMap_cons]
    show ofSource (value ++ rest.flatMap raw) = _
    cases hrest with
    | nil =>
      have hnone : first? value = none := by
        refine Delimited.first?_eq_none_iff.2 fun x y hsplit => ?_
        by_cases hy : y = []
        · rw [hy]
          exact Delimited.not_opens_nil
        · have hclosed := hleft x y hsplit hy
          rwa [List.flatMap_nil, List.append_nil] at hclosed
      rw [List.flatMap_nil, List.append_nil, ofSource_of_first?_eq_none hnone, htext]
    | text => exact absurd ⟨rfl, rfl⟩ (List.isChain_cons_cons.1 hapart).1
    | @span d rest hshortest _ =>
      have hfirst : first? (value ++ (d.raw ++ rest.flatMap raw)) =
          some (value, d, rest.flatMap raw) :=
        Delimited.first?_eq_some_iff.2 ⟨rfl, hshortest.complete, hleft⟩
      have hnext : first? (d.raw ++ rest.flatMap raw) = some ([], d, rest.flatMap raw) :=
        Delimited.first?_eq_some_iff.2 ⟨rfl, hshortest.complete, by simp⟩
      have hrest := ih hapart.tail
      rw [List.flatMap_cons] at hrest ⊢
      change ofSource (d.raw ++ rest.flatMap raw) = _ at hrest
      change ofSource (value ++ (d.raw ++ rest.flatMap raw)) = _
      rw [ofSource_of_first? hnext] at hrest
      rw [ofSource_of_first? hfirst, htext, (List.cons.inj hrest).2]
      rfl

/-- A source has one segmentation from the left, and it is the one that is found. -/
theorem segmentation_iff {source : Text} {segments : List Segment} :
    Segmentation source segments ↔ segments = ofSource source := by
  constructor
  · rintro ⟨rfl, hapart, hcut⟩
    exact (hcut.ofSource_eq hapart).symm
  · rintro rfl
    exact ⟨flatMap_raw_ofSource source, apart_ofSource source, cut_ofSource source⟩

theorem Cut.of_append {before after : List Segment} (h : Cut (before ++ after)) : Cut after := by
  induction before with
  | nil => exact h
  | cons g before ih =>
    cases h with
    | text _ _ hrest => exact ih hrest
    | span _ hrest => exact ih hrest

/-- A place in what segments make up is behind the first of them, or inside it. -/
theorem split_raw {g : Segment} {rest : List Segment} {before after : Text}
    (h : (g :: rest).flatMap raw = before ++ after) :
    (∃ more, before = g.raw ++ more ∧ rest.flatMap raw = more ++ after) ∨
      ∃ y, y ≠ [] ∧ g.raw = before ++ y ∧ after = y ++ rest.flatMap raw := by
  rw [List.flatMap_cons] at h
  rcases List.append_eq_append_iff.1 h with ⟨more, hbefore, hrest⟩ | ⟨y, hraw, hafter⟩
  · exact .inl ⟨more, hbefore, hrest⟩
  · by_cases hy : y = []
    · subst hy
      rw [List.append_nil] at hraw
      exact .inl ⟨[], by rw [hraw, List.append_nil], hafter.symm⟩
    · exact .inr ⟨y, hy, hraw, hafter⟩

/-- In a text that was taken from the left no span begins, even if nothing follows it. -/
theorem not_opens_of_text {source value x y : Text} (h : .text value ∈ ofSource source)
    (hsplit : value = x ++ y) : ¬ Opens y := by
  obtain ⟨before, after, hsegments⟩ := List.append_of_mem h
  have hcut := cut_ofSource source
  rw [hsegments] at hcut
  cases hcut.of_append with
  | text _ hleft _ =>
    rintro ⟨d, rest, hbegins⟩
    have hne : y ≠ [] := by
      rintro rfl
      exact Delimited.not_opens_nil ⟨d, rest, hbegins⟩
    exact hleft x y hsplit hne ⟨d, _, hbegins.append _⟩

/-- The text of a segment is a source without spans. -/
theorem ofSource_of_text {source value : Text} (h : .text value ∈ ofSource source) :
    ofSource value = [.text value] := by
  have hne : value ≠ [] := raw_ne_nil_of_mem h
  have hnone : first? value = none :=
    Delimited.first?_eq_none_iff.2 fun x y hsplit => not_opens_of_text h hsplit
  rw [ofSource_of_first?_eq_none hnone, textOf, if_neg (by simpa using hne)]

end Segment

/-! ## Tokens -/

theorem Position.offset_advance (p : Position) (t : Text) :
    (p.advance t).offset = p.offset + t.length := by
  induction t generalizing p with
  | nil => rfl
  | cons c t ih =>
    have hstep : (p.step c).offset = p.offset + 1 := by
      unfold Position.step
      split <;> rfl
    have hrest := ih (p.step c)
    rw [hstep] at hrest
    rw [List.length_cons]
    show ((p.step c).advance t).offset = _
    omega

namespace Token

open Segment (Segmentation Cut)
open Delimited (Opens)

/-- The stretch of a source that a token takes up holds a given offset. -/
def Covers (t : Token) (offset : Nat) : Prop :=
  t.position.offset ≤ offset ∧ offset < t.position.offset + t.raw.length

theorem offset_ofSegment (p : Position) (g : Segment) :
    (ofSegment p g).position.offset = p.offset := by
  cases g <;> rfl

theorem le_offset_of_mem {t : Token} {segments : List Segment} {p : Position}
    (h : t ∈ place p segments) : p.offset ≤ t.position.offset := by
  induction segments generalizing p with
  | nil => cases h
  | cons g rest ih =>
    rcases List.mem_cons.1 h with rfl | h
    · exact (offset_ofSegment p g).ge
    · have hrest := ih h
      rw [Position.offset_advance] at hrest
      omega

/-- Each token ends before the next one begins. -/
theorem pairwise_place (p : Position) (segments : List Segment) :
    (place p segments).Pairwise fun t u =>
      t.position.offset + t.raw.length ≤ u.position.offset := by
  induction segments generalizing p with
  | nil => exact .nil
  | cons g rest ih =>
    refine .cons (fun u hu => ?_) (ih _)
    have hle := le_offset_of_mem hu
    rw [Position.offset_advance] at hle
    rwa [offset_ofSegment, raw_ofSegment]

/-- Wherever a span begins in segments taken from the left, that is in a span of theirs. -/
theorem exists_covers {segments : List Segment} (h : Cut segments) {before after : Text}
    (hsplit : segments.flatMap Segment.raw = before ++ after) (hopens : Opens after)
    (p : Position) :
    ∃ t ∈ place p segments, t.kind ≠ .text ∧ t.Covers (p.offset + before.length) := by
  induction h generalizing before p with
  | nil =>
    obtain ⟨-, rfl⟩ := List.append_eq_nil_iff.1 hsplit.symm
    exact absurd hopens Delimited.not_opens_nil
  | @text value rest hne hleft hrest ih =>
    rcases Segment.split_raw hsplit with ⟨more, rfl, hmore⟩ | ⟨y, hy, hvalue, rfl⟩
    · obtain ⟨t, ht, hkind, hcovers⟩ := ih hmore (p.advance value)
      refine ⟨t, List.mem_cons_of_mem _ ht, hkind, ?_⟩
      rwa [Position.offset_advance, Nat.add_assoc, ← List.length_append] at hcovers
    · exact absurd hopens (hleft before y hvalue hy)
  | @span d rest hshortest hrest ih =>
    rcases Segment.split_raw hsplit with ⟨more, rfl, hmore⟩ | ⟨y, hy, hraw, rfl⟩
    · obtain ⟨t, ht, hkind, hcovers⟩ := ih hmore (p.advance d.raw)
      refine ⟨t, List.mem_cons_of_mem _ ht, hkind, ?_⟩
      rwa [Position.offset_advance, Nat.add_assoc, ← List.length_append] at hcovers
    · refine ⟨ofSegment p (.delimited d), List.mem_cons_self .., ?_, ?_⟩
      · intro hkind
        exact absurd (isText_of_kind hkind) (by simp [Segment.isText])
      · have hlength := congrArg List.length hraw
        have hpos := List.length_pos_of_ne_nil hy
        rw [List.length_append] at hlength
        unfold Covers
        rw [offset_ofSegment, raw_ofSegment]
        omega

/-- The tokens of a source are its leftmost, shortest segmentation, and there is only one. Hence the
content of a text token is a single text token by itself; every place where a complete span begins,
also behind an opener that nothing closes, belongs to a span token; and no token begins inside
another one. -/
theorem ofSource_leftmost_shortest (source : Text) :
    (∃! segments, Segmentation source segments) ∧
      (∀ segments, Segmentation source segments → ofSource source = place .start segments) ∧
      (∀ t ∈ ofSource source, t.kind = .text →
        ofSource t.content = [⟨.text, t.content, .start, t.content⟩]) ∧
      (∀ before after, source = before ++ after → Opens after →
        ∃ t ∈ ofSource source, t.kind ≠ .text ∧ t.Covers before.length) ∧
      (ofSource source).Pairwise fun t u =>
        t.position.offset + t.raw.length ≤ u.position.offset := by
  refine ⟨?_, ?_, ?_, ?_, pairwise_place .start _⟩
  · refine ⟨Segment.ofSource source, Segment.segmentation_iff.2 rfl, fun segments h => ?_⟩
    exact Segment.segmentation_iff.1 h
  · intro segments h
    rw [Segment.segmentation_iff.1 h, ofSource]
  · intro t ht hkind
    obtain ⟨before, after, hsplit⟩ := List.append_of_mem ht
    obtain ⟨g, hg, htoken, -⟩ := exists_of_place Position.behind_start hsplit
    rw [htoken] at hkind ⊢
    cases g with
    | delimited d => exact absurd (isText_of_kind hkind) (by simp [Segment.isText])
    | text value =>
      show place .start (Segment.ofSource value) = _
      rw [Segment.ofSource_of_text hg]
      rfl
  · intro before after hsplit hopens
    have hcover : (Segment.ofSource source).flatMap Segment.raw = before ++ after := by
      rw [Segment.flatMap_raw_ofSource, hsplit]
    have h := exists_covers (Segment.cut_ofSource source) hcover hopens .start
    rwa [show Position.start.offset = 0 from rfl, Nat.zero_add] at h

/-- An opener without a closer leaves the tag behind it alone; three braces open at the first. -/
example : (ofSource (['{', '{', ' '] ++ "{% a %}".toList)).map raw =
      [['{', '{', ' '], "{% a %}".toList] ∧
    (ofSource "{{{}}}".toList).map raw = [['{', '{', '{', '}', '}'], ['}']] := by
  decide +kernel

end Token
end Stencil
