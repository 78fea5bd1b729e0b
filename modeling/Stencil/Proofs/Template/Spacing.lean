import Stencil.Proofs.Template.Places
import Stencil.Proofs.Template.RoundTrip

/-!
# Sources in normalized spacing

Tokens written back with one blank inside each delimiter. The new spans may stand in place of the
old ones, unless a content holds the pair that closes its span, so the source that is written has
the same tokens but for their places and spelling. What is written depends on nothing else of a
token, so writing a second time changes nothing; and it changes nothing the first time if and only
if every delimited span was spaced in this way before.
-/

set_option autoImplicit false

namespace Stencil

open Text (strip)

/-! ## Spans and segments -/

namespace Delimited

variable {d : Delimited}

/-- The span with one blank on either side of its trimmed body. -/
def padded (d : Delimited) : Delimited := ⟨d.delimiter, ' ' :: (strip d.body ++ [' '])⟩

/-- A span that can be told apart in normalized spacing: no comment, and no content that holds the
closer. -/
structure Spaceable (d : Delimited) : Prop where
  ne_comment : d.delimiter ≠ .comment
  closed : ¬ HasPair d.delimiter.closeMark (strip d.body)

theorem Spaceable.replaces (h : d.Spaceable) : d.padded.Replaces d :=
  replaces_of_content h.ne_comment (fun _ _ hpair => hpair.mono (strip_within _)) h.closed

theorem raw_padded (d : Delimited) : d.padded.raw =
    d.delimiter.opener ++ [' '] ++ strip d.body ++ [' '] ++ d.delimiter.closer := by
  simp [raw, padded]

/-- A span is padded already exactly if it is written so. -/
theorem padded_eq_self_iff : d.padded = d ↔ d.padded.raw = d.raw := by
  constructor
  · intro h
    rw [h]
  · intro h
    have hbody : d.padded.body = d.body :=
      List.append_cancel_left (List.append_cancel_right h)
    cases d
    exact congrArg (Delimited.mk _) hbody

end Delimited

namespace Segment

/-- A segment in normalized spacing; text stays as it is. -/
def padded : Segment → Segment
  | .text value => .text value
  | .delimited d => .delimited d.padded

/-- Text, or a span that can be told apart in normalized spacing. -/
def Spaceable : Segment → Prop
  | .text _ => True
  | .delimited d => d.Spaceable

theorem Spaceable.replaces {g : Segment} (h : g.Spaceable) : g.padded.Replaces g := by
  cases g with
  | text value => exact .text value
  | delimited d => exact .delimited (Delimited.Spaceable.replaces h)

/-- A source that is written in normalized spacing is cut where the source was. -/
theorem ofSource_padded {source : Text} (h : ∀ g ∈ ofSource source, g.Spaceable) :
    ofSource (((ofSource source).map padded).flatMap raw) = (ofSource source).map padded := by
  have hreplaced : List.Forall₂ Replaces ((ofSource source).map padded) (ofSource source) := by
    rw [List.forall₂_map_left_iff, List.forall₂_same]
    exact fun g hg => (h g hg).replaces
  exact ofSource_replaced hreplaced

end Segment

/-! ## Tokens -/

namespace Token

/-- The kind and the content of a token, without its place and its spelling. -/
def reading (t : Token) : Kind × Text := (t.kind, t.content)

/-- A token that is text or a comment, or has one blank on either side of its content. -/
def Padded (t : Token) : Prop :=
  ∀ d : Delimiter, d ≠ .comment → t.kind = .ofDelimiter d →
    t.raw = d.opener ++ [' '] ++ t.content ++ [' '] ++ d.closer

theorem Kind.ofDelimiter_injective : Function.Injective Kind.ofDelimiter := by
  intro d e h
  cases d <;> cases e <;> simp [ofDelimiter] at h ⊢

/-- What is written of a token depends on its kind and its content alone. -/
theorem normalized_congr {t u : Token} (h : t.reading = u.reading) :
    t.normalized = u.normalized := by
  obtain ⟨hkind, hcontent⟩ := Prod.mk.inj h
  unfold normalized
  rw [hkind, hcontent]

theorem reconstruct_congr {ts us : List Token} (h : ts.map reading = us.map reading) :
    reconstruct ts = reconstruct us := by
  induction ts generalizing us with
  | nil =>
    rw [List.map_nil, eq_comm, List.map_eq_nil_iff] at h
    rw [h]
  | cons t ts ih =>
    obtain ⟨u, us', rfl, hhead, hrest⟩ := List.map_eq_cons_iff.1 h.symm
    have htail := ih hrest.symm
    unfold reconstruct at htail ⊢
    rw [List.flatMap_cons, List.flatMap_cons, normalized_congr hhead.symm, htail]

section Segments

variable {g : Segment} (p q : Position)

theorem normalized_ofSegment (h : g.Spaceable) : (ofSegment p g).normalized = g.padded.raw := by
  cases g with
  | text value => rfl
  | delimited d =>
    show _ = d.padded.raw
    rw [Delimited.raw_padded]
    cases hd : d.delimiter with
    | comment => exact absurd hd h.ne_comment
    | expression => simp [normalized, ofSegment, hd, Kind.ofDelimiter, Delimiter.opener,
        Delimiter.closer, Delimiter.openMark, Delimiter.closeMark]
    | tag => simp [normalized, ofSegment, hd, Kind.ofDelimiter, Delimiter.opener,
        Delimiter.closer, Delimiter.openMark, Delimiter.closeMark]

theorem reading_ofSegment_padded (g : Segment) :
    (ofSegment q g.padded).reading = (ofSegment p g).reading := by
  cases g with
  | text value => rfl
  | delimited d =>
    exact congrArg (Prod.mk _) (Segment.strip_space (Text.trimmed_strip d.body))

theorem padded_ofSegment_iff (h : g.Spaceable) : (ofSegment p g).Padded ↔ g.padded = g := by
  cases g with
  | text value =>
    refine iff_of_true (fun d _ hkind => ?_) rfl
    cases d <;> cases hkind
  | delimited d =>
    rw [Segment.padded, Segment.delimited.injEq, Delimited.padded_eq_self_iff, Delimited.raw_padded]
    constructor
    · exact fun hpadded => (hpadded d.delimiter h.ne_comment rfl).symm
    · intro hraw e _ hkind
      obtain rfl := Kind.ofDelimiter_injective hkind
      exact hraw.symm

end Segments

/-- What tokens are written as is made up of their segments in normalized spacing. -/
theorem reconstruct_place {gs : List Segment} (h : ∀ g ∈ gs, g.Spaceable) (p : Position) :
    reconstruct (place p gs) = (gs.map Segment.padded).flatMap Segment.raw := by
  induction gs generalizing p with
  | nil => rfl
  | cons g rest ih =>
    have htail := ih (fun g hg => h g (List.mem_cons_of_mem _ hg)) (p.advance g.raw)
    unfold reconstruct at htail ⊢
    rw [place, List.flatMap_cons, htail, normalized_ofSegment p (h g (List.mem_cons_self ..)),
      List.map_cons, List.flatMap_cons]

theorem reading_place_padded (gs : List Segment) (p q : Position) :
    (place q (gs.map Segment.padded)).map reading = (place p gs).map reading := by
  induction gs generalizing p q with
  | nil => rfl
  | cons g rest ih =>
    rw [List.map_cons, place, place, List.map_cons, List.map_cons, reading_ofSegment_padded p q g,
      ih]

/-- Every placed token is one of the segments at some place. -/
theorem exists_segment_of_place {t : Token} {gs : List Segment} {p : Position}
    (h : t ∈ place p gs) : ∃ g ∈ gs, ∃ q, t = ofSegment q g := by
  induction gs generalizing p with
  | nil => cases h
  | cons g rest ih =>
    rcases List.mem_cons.1 h with rfl | h
    · exact ⟨g, List.mem_cons_self .., p, rfl⟩
    · obtain ⟨g', hg', hq⟩ := ih h
      exact ⟨g', List.mem_cons_of_mem _ hg', hq⟩

/-- A segment can be told apart in normalized spacing if its token is no comment and its content
does not hold the closer. -/
theorem spaceable_of_token {g : Segment} {p : Position}
    (hcomment : (ofSegment p g).kind ≠ .comment)
    (hexpression : (ofSegment p g).kind = .expression → ¬ ['}', '}'] <:+: (ofSegment p g).content)
    (htag : (ofSegment p g).kind = .tag → ¬ ['%', '}'] <:+: (ofSegment p g).content) :
    g.Spaceable := by
  cases g with
  | text value => exact trivial
  | delimited d =>
    obtain ⟨delimiter, body⟩ := d
    cases delimiter with
    | expression => exact ⟨nofun, hexpression rfl⟩
    | tag => exact ⟨nofun, htag rfl⟩
    | comment => exact absurd rfl hcomment

/-- Writing tokens back in normalized spacing is stable. For a source without comments, in which no
expression and no tag holds the closer of its own kind, the source that is written has tokens of the
same kinds and contents, in the same order; writing once more changes nothing; and the source itself
is written exactly if every delimited span in it has one blank on either side of its content. -/
theorem reconstruct_stable (source : Text)
    (hcomment : ∀ t ∈ ofSource source, t.kind ≠ .comment)
    (hexpression : ∀ t ∈ ofSource source, t.kind = .expression → ¬ ['}', '}'] <:+: t.content)
    (htag : ∀ t ∈ ofSource source, t.kind = .tag → ¬ ['%', '}'] <:+: t.content) :
    (ofSource (reconstruct (ofSource source))).map reading = (ofSource source).map reading ∧
      reconstruct (ofSource (reconstruct (ofSource source))) = reconstruct (ofSource source) ∧
      (reconstruct (ofSource source) = source ↔ ∀ t ∈ ofSource source, t.Padded) := by
  have hspaceable : ∀ g ∈ Segment.ofSource source, g.Spaceable := by
    intro g hg
    obtain ⟨p, hp⟩ := exists_place hg .start
    exact spaceable_of_token (hcomment _ hp) (hexpression _ hp) (htag _ hp)
  have hsegments : Segment.ofSource (reconstruct (ofSource source)) =
      (Segment.ofSource source).map Segment.padded := by
    rw [ofSource, reconstruct_place hspaceable]
    exact Segment.ofSource_padded hspaceable
  have hreading : (ofSource (reconstruct (ofSource source))).map reading =
      (ofSource source).map reading := by
    rw [ofSource, hsegments]
    exact reading_place_padded _ .start .start
  refine ⟨hreading, reconstruct_congr hreading, ?_⟩
  constructor
  · intro hself t ht
    obtain ⟨g, hg, q, rfl⟩ := exists_segment_of_place ht
    rw [padded_ofSegment_iff q (hspaceable g hg)]
    -- The written source is the source, so that its segments stay as they are.
    rw [hself] at hsegments
    have hsame : (Segment.ofSource source).map id =
        (Segment.ofSource source).map Segment.padded := by
      rw [List.map_id]
      exact hsegments
    exact (List.map_inj_left.1 hsame g hg).symm
  · intro hpadded
    have hspaced : ∀ g ∈ Segment.ofSource source, g.padded = g := by
      intro g hg
      obtain ⟨q, hq⟩ := exists_place hg .start
      exact (padded_ofSegment_iff q (hspaceable g hg)).1 (hpadded _ hq)
    have hmap : (Segment.ofSource source).map Segment.padded = Segment.ofSource source := by
      rw [List.map_congr_left hspaced, List.map_id']
    rw [ofSource, reconstruct_place hspaceable, hmap, Segment.flatMap_raw_ofSource]

/-- An expression that is a brace, before an opener without a closer and a tag that is a percent
sign. -/
theorem reconstruct_stable_brace :
    let source := "{{}}".toList ++ ['}', ' ', '{', '{', ' '] ++ "{%%%}".toList
    let spaced := "{{ } }".toList ++ ['}', ' ', '{', '{', ' '] ++ "{% % %}".toList
    (∀ t ∈ ofSource source, t.kind ≠ .comment) ∧
      (∀ t ∈ ofSource source, t.kind = .expression → ¬ ['}', '}'] <:+: t.content) ∧
      (∀ t ∈ ofSource source, t.kind = .tag → ¬ ['%', '}'] <:+: t.content) ∧
      reconstruct (ofSource source) = spaced ∧ ¬ (∀ t ∈ ofSource source, t.Padded) ∧
      (ofSource spaced).map reading = (ofSource source).map reading ∧
      reconstruct (ofSource spaced) = spaced := by
  intro source spaced
  have hcomment : ∀ t ∈ ofSource source, t.kind ≠ .comment := by decide +kernel
  have hexpression : ∀ t ∈ ofSource source, t.kind = .expression → ¬ ['}', '}'] <:+: t.content := by
    decide +kernel
  have htag : ∀ t ∈ ofSource source, t.kind = .tag → ¬ ['%', '}'] <:+: t.content := by
    decide +kernel
  have hspaced : reconstruct (ofSource source) = spaced := by decide +kernel
  obtain ⟨hreading, htwice, hself⟩ := reconstruct_stable source hcomment hexpression htag
  rw [hspaced] at hreading htwice hself
  have hne : spaced ≠ source := by decide
  exact ⟨hcomment, hexpression, htag, hspaced, fun h => hne (hself.2 h), hreading, htwice⟩

end Token
end Stencil
