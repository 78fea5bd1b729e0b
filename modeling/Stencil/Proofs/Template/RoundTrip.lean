import Stencil.Template.Source
import Stencil.Proofs.Template.Normal

/-!
# Parsing what was printed

Each span of a source is written anew in the printed tree: expressions and known tags in normalized
spacing, unknown tags as they were. The new spans may stand in place of the old ones, so that they
are the spans of the printed source, and they say what the old ones say. Tokens that say the same
form trees that agree.
-/

set_option autoImplicit false

namespace Stencil

open Text (isBlank Blanks Trimmed strip)
open Node (treeLexemes treesAgree branchesAgree agrees)

/-! ## Spans in normalized spacing -/

namespace Delimited

variable {d : Delimited}

/-- A span as it stands in a printed tree. -/
def written (d : Delimited) : Delimited :=
  match d.delimiter with
  | .expression => ⟨.expression, ' ' :: (strip d.body ++ [' '])⟩
  | .tag => match Tag.ofContent (strip d.body) with
    | .unknown => d
    | tag => ⟨.tag, ' ' :: (tag.print ++ [' '])⟩
  | .comment => d

/-- A span whose printed form can be told apart again: no comment, no malformed tag, and no
expression that holds the closer of expressions. -/
inductive Fair (d : Delimited) : Prop where
  | expression : d.delimiter = .expression → ¬ HasPair '}' (strip d.body) → Fair d
  | tag {tag : Tag} : d.delimiter = .tag → Tag.Form (strip d.body) tag → Fair d

theorem strip_within (t : Text) : strip t <:+: t := by
  obtain ⟨a, b, -, -, h⟩ := Text.exists_strip t
  exact ⟨a, b, h.symm⟩

/-- A body between single blanks may replace another one that has all its pairs, unless the closer is
among them. -/
theorem replaces_of_content {t : Text} (hd : d.delimiter ≠ .comment)
    (hpairs : ∀ mark ∈ closeMarks, HasPair mark t → HasPair mark d.body)
    (hnone : ¬ HasPair d.delimiter.closeMark t) :
    Replaces ⟨d.delimiter, ' ' :: (t ++ [' '])⟩ d := by
  have hspace : ∀ mark ∈ closeMarks, some ' ' ≠ some mark := by simp [closeMarks]
  have hmark := d.delimiter.closeMark_mem
  refine ⟨rfl, fun rest => ?_, fun mark hmem hpair => ?_, nofun, ?_⟩
  · refine Delimiter.cutBody_cons hd ' ' (fun hpair => ?_) rest
    rcases hasPair_append.1 hpair with hpair | hpair | ⟨hlast, -⟩
    · exact hnone (hpair.of_append_left (by decide))
    · rcases hasPair_cons.1 hpair with ⟨-, hhead⟩ | hpair
      · cases hhead
      · exact hasPair_nil hpair
    · rw [List.getLast?_append] at hlast
      exact hspace _ hmark hlast
  · have hsplit : ' ' :: (t ++ [' ']) ++ d.delimiter.closer =
        [] ++ [' '] ++ (t ++ ([] ++ [' '] ++ d.delimiter.closer)) := by
      simp only [List.cons_append, List.append_assoc, List.nil_append]
    have hcloser : HasPair mark ([] ++ [' '] ++ d.delimiter.closer) →
        HasPair mark (d.body ++ d.delimiter.closer) := fun hpair =>
      (Tag.pair_behind hmem (by decide) (by decide) hpair).mono (List.suffix_append _ _).isInfix
    rw [hsplit] at hpair
    -- The blank before the closer keeps the new content from making a pair with it.
    rcases hasPair_append.1 (Tag.pair_behind hmem (by decide) (by decide) hpair) with
      hpair | hpair | ⟨-, hhead⟩
    · exact (hpairs mark hmem hpair).mono (List.prefix_append _ _).isInfix
    · exact hcloser hpair
    · cases hhead
  · have hlast : ∀ x, (x ++ d.delimiter.closer).getLast? = some '}' := fun x => by
      rw [List.getLast?_append]
      rfl
    rw [hlast, hlast]

/-- In a complete tag span, a closing pair can only stand at the very beginning. -/
theorem Complete.head_of_pair (h : d.Complete) (hd : d.delimiter = .tag)
    (hpair : HasPair '%' (strip d.body)) : (strip d.body).head? = some '%' := by
  have hcut := h []
  rw [hd] at hcut
  cases hbody : d.body with
  | nil =>
    rw [hbody] at hpair
    exact absurd hpair hasPair_nil
  | cons c b =>
    rw [hbody] at hcut hpair
    obtain ⟨⟨tail, rest⟩, hinner, heq⟩ := Option.map_eq_some_iff.1 hcut
    cases heq
    obtain ⟨-, hnone⟩ := Delimiter.of_cutAtPair hinner
    have hb : ¬ HasPair '%' tail := fun h => hnone (h.mono (List.prefix_append _ _).isInfix)
    obtain ⟨rfl, -⟩ := (hasPair_cons.1 (hpair.mono (strip_within _))).resolve_right hb
    -- A percent sign is no blank, so that trimming leaves it where it is.
    have hleft : Text.stripLeft ('%' :: tail) = '%' :: tail :=
      Text.stripLeft_of_stops (Text.stops_cons.2 (by decide))
    obtain ⟨blanks, -, hright⟩ := Text.exists_stripRight (Text.stripLeft ('%' :: tail))
    rw [hleft] at hright
    rw [strip, hleft] at hpair ⊢
    cases hs : Text.stripRight ('%' :: tail) with
    | nil =>
      rw [hs] at hpair
      exact absurd hpair hasPair_nil
    | cons e rest =>
      rw [hs] at hright
      rw [(List.cons.inj hright).1]
      rfl

theorem written_expression (hd : d.delimiter = .expression) :
    d.written = ⟨d.delimiter, ' ' :: (strip d.body ++ [' '])⟩ := by
  rw [written, hd]

theorem written_unknown (hd : d.delimiter = .tag) (h : Tag.ofContent (strip d.body) = .unknown) :
    d.written = d := by
  rw [written, hd]
  simp only [h]

theorem written_tag {tag : Tag} (hd : d.delimiter = .tag) (h : Tag.ofContent (strip d.body) = tag)
    (hknown : tag ≠ .unknown) : d.written = ⟨d.delimiter, ' ' :: (tag.print ++ [' '])⟩ := by
  rw [written, hd]
  cases tag with
  | unknown => exact absurd rfl hknown
  | _ => simp only [h]

/-- The printed form of a fair span may stand in its place. -/
theorem written_replaces (h : d.Complete) (hfair : d.Fair) : d.written.Replaces d := by
  cases hfair with
  | expression hd hclosed =>
    rw [written_expression hd]
    refine replaces_of_content (by rw [hd]; decide) (fun mark _ hpair => ?_) ?_
    · exact hpair.mono (strip_within _)
    · rw [hd]
      exact hclosed
  | @tag tag hd hform =>
    by_cases hknown : tag = .unknown
    · rw [written_unknown hd (hknown ▸ hform.read)]
      exact ⟨rfl, h, .refl _⟩
    · rw [written_tag hd hform.read hknown]
      refine replaces_of_content (by rw [hd]; decide) (fun mark hmark hpair => ?_) ?_
      · exact (hform.pairs hmark hpair).mono (strip_within _)
      · rw [hd]
        intro hpair
        have hcontent : HasPair '%' (strip d.body) := hform.pairs (by decide) hpair
        exact (hform.solid hknown).2 (h.head_of_pair hd hcontent)

end Delimited

/-! ## What printed spans say -/

namespace Segment

/-- A segment as it stands in a printed tree. -/
def written : Segment → Segment
  | .text value => .text value
  | .delimited d => .delimited d.written

/-- Text, or a fair span. -/
def Fair : Segment → Prop
  | .text _ => True
  | .delimited d => d.Fair

theorem strip_space {t : Text} (h : Trimmed t) : strip (' ' :: (t ++ [' '])) = t :=
  Text.strip_between Tag.gap_space.blanks Tag.gap_space.blanks h

/-- What a fair segment says is printed as its printed form, which says the same. -/
theorem Fair.lexeme {g : Segment} (h : g.Fair) : ∃ l : Lexeme, l.print = g.written.raw ∧
    ∀ p, (Token.ofSegment p g).lexeme? = some l ∧ (Token.ofSegment p g.written).lexeme? = some l := by
  cases g with
  | text value => exact ⟨.text value, rfl, fun p => ⟨rfl, rfl⟩⟩
  | delimited d =>
    cases h with
    | expression hd hclosed =>
      refine ⟨.expression (strip d.body), ?_, fun p => ?_⟩
      · rw [written, Delimited.written_expression hd]
        simp only [Lexeme.print, raw, Delimited.raw, hd]
        simp [Delimiter.opener, Delimiter.closer, Delimiter.openMark, Delimiter.closeMark]
      · rw [written, Delimited.written_expression hd]
        simp only [Token.lexeme?, Token.ofSegment, hd, Token.Kind.ofDelimiter,
          strip_space (Text.trimmed_strip _), and_self]
    | @tag tag hd hform =>
      by_cases hknown : tag = .unknown
      · subst hknown
        refine ⟨.text d.raw, ?_, fun p => ?_⟩
        · rw [written, Delimited.written_unknown hd hform.read]
          rfl
        · rw [written, Delimited.written_unknown hd hform.read]
          simp only [Token.lexeme?, Token.ofSegment, hd, Token.Kind.ofDelimiter, hform.read,
            and_self]
      · refine ⟨.tag tag, ?_, fun p => ?_⟩
        · rw [written, Delimited.written_tag hd hform.read hknown]
          simp only [Lexeme.print, Node.asTag, raw, Delimited.raw, hd]
          simp [Delimiter.opener, Delimiter.closer, Delimiter.openMark, Delimiter.closeMark]
        · have hwritten := hform.written hknown
          have htrim : Trimmed tag.print := (hwritten.solid hknown).1.trimmed
          have hkind : Token.Kind.ofDelimiter d.delimiter = .tag := by
            rw [hd]
            rfl
          rw [written, Delimited.written_tag hd hform.read hknown]
          refine ⟨Token.lexeme?_of_tag hkind hform.read hknown, ?_⟩
          refine Token.lexeme?_of_tag hkind ?_ hknown
          show Tag.ofContent (strip (' ' :: (tag.print ++ [' ']))) = tag
          rw [strip_space htrim, hwritten.read]

end Segment

namespace Token

theorem exists_place {g : Segment} {gs : List Segment} (h : g ∈ gs) (p : Position) :
    ∃ q, ofSegment q g ∈ place p gs := by
  induction gs generalizing p with
  | nil => cases h
  | cons head rest ih =>
    rcases List.mem_cons.1 h with rfl | h
    · exact ⟨p, List.mem_cons_self ..⟩
    · obtain ⟨q, hq⟩ := ih h (p.advance head.raw)
      exact ⟨q, List.mem_cons_of_mem _ hq⟩

theorem trimmed_of_place {t : Token} {gs : List Segment} {p : Position} (h : t ∈ place p gs) :
    t.kind = .tag → Trimmed t.content := by
  induction gs generalizing p with
  | nil => cases h
  | cons g rest ih =>
    rcases List.mem_cons.1 h with rfl | h
    · cases g with
      | text value => exact nofun
      | delimited d => exact fun _ => Text.trimmed_strip _
    · exact ih h

/-- The tokens of printed segments say what those of the segments say, and what they say is printed
as these segments. -/
theorem place_written {gs : List Segment} (h : ∀ g ∈ gs, g.Fair) (p q : Position) :
    (place q (gs.map Segment.written)).map lexeme? = (place p gs).map lexeme? ∧
      ((place p gs).filterMap lexeme?).flatMap Lexeme.print =
        (gs.map Segment.written).flatMap Segment.raw := by
  induction gs generalizing p q with
  | nil => exact ⟨rfl, rfl⟩
  | cons g rest ih =>
    obtain ⟨l, hprint, hlexeme⟩ := (h g (List.mem_cons_self ..)).lexeme
    obtain ⟨hsame, hflat⟩ := ih (fun g hg => h g (List.mem_cons_of_mem _ hg)) (p.advance g.raw)
      (q.advance g.written.raw)
    constructor
    · rw [List.map_cons, place, place, List.map_cons, List.map_cons, (hlexeme p).1,
        (hlexeme q).2, hsame]
    · rw [List.map_cons, place, List.filterMap_cons_some (hlexeme p).1, List.flatMap_cons,
        List.flatMap_cons, hprint, hflat]

end Token

/-! ## Tokens that say the same -/

theorem Token.Says.of_lexeme {t t' : Token} {tag : Tag} (h : t.Says tag) (hknown : tag ≠ .unknown)
    (hsame : t'.lexeme? = t.lexeme?) (htrim : t'.kind = .tag → Trimmed t'.content) :
    t'.Says tag := by
  rw [h.lexeme hknown, Token.lexeme?] at hsame
  split at hsame
  · cases hsame
  · cases hsame
  · rename_i hkind
    split at hsame
    · cases hsame
    · cases hsame
      exact ⟨hkind, .of_read (htrim hkind) rfl h.2.ne_malformed⟩
  · cases hsame

theorem Leaf.of_lexeme {t t' : Token} {n : Node} (h : Leaf t n) (hsame : t'.lexeme? = t.lexeme?)
    (htrim : t'.kind = .tag → Trimmed t'.content) : ∃ n', Leaf t' n' ∧ agrees n n' = true := by
  have htext : ∀ value, t'.lexeme? = some (.text value) →
      ∃ n', Leaf t' n' ∧ agrees (.text value) n' = true := by
    intro value hvalue
    rw [Token.lexeme?] at hvalue
    split at hvalue
    · rename_i hkind
      cases hvalue
      exact ⟨_, .text hkind, by simp [agrees]⟩
    · cases hvalue
    · rename_i hkind
      split at hvalue
      · rename_i htag
        cases hvalue
        exact ⟨_, .unknown ⟨hkind, .of_read (htrim hkind) htag (by simp)⟩, by simp [agrees]⟩
      · cases hvalue
    · cases hvalue
  cases h with
  | text hkind => exact htext _ (hsame.trans (by rw [Token.lexeme?, hkind]))
  | expression hkind =>
    have hvalue : t'.lexeme? = some (.expression t.content) :=
      hsame.trans (by rw [Token.lexeme?, hkind])
    rw [Token.lexeme?] at hvalue
    split at hvalue
    · cases hvalue
    · rename_i hkind'
      have hcontent : t'.content = t.content := by simpa using hvalue
      exact ⟨_, .expression hkind', by simp [agrees, hcontent]⟩
    · split at hvalue <;> cases hvalue
    · cases hvalue
  | unknown hmeans =>
    exact htext _ (hsame.trans (by rw [Token.lexeme?, hmeans.1, hmeans.2.read]))
  | inclusion hmeans =>
    exact ⟨_, .inclusion (hmeans.of_lexeme (by simp) hsame htrim), by simp [agrees]⟩
  | extension hmeans =>
    exact ⟨_, .extension (hmeans.of_lexeme (by simp) hsame htrim), by simp [agrees]⟩

mutual

/-- Tokens that say what derived tokens say derive a tree that agrees. -/
theorem Derives.of_lexemes {ts : List Token} {tree : List Node} (h : Derives ts tree) :
    ∀ {ts' : List Token}, (∀ t ∈ ts', t.kind = .tag → Trimmed t.content) →
      ts'.map Token.lexeme? = ts.map Token.lexeme? →
      ∃ tree', Derives ts' tree' ∧ treesAgree tree tree' = true := by
  intro ts' htrim hsame
  match h with
  | .nil =>
    rw [List.map_nil, List.map_eq_nil_iff] at hsame
    subst hsame
    exact ⟨[], .nil, by simp [treesAgree]⟩
  | .leaf hleaf htree =>
    obtain ⟨t', rest', rfl, ht, hrest⟩ := List.map_eq_cons_iff.1 hsame
    obtain ⟨n', hn', hagree⟩ := hleaf.of_lexeme ht (htrim _ (List.mem_cons_self ..))
    obtain ⟨tree', htree', hagrees⟩ := htree.of_lexemes
      (fun u hu => htrim u (List.mem_cons_of_mem _ hu)) hrest
    exact ⟨n' :: tree', .leaf hn' htree', by simp [treesAgree, hagree, hagrees]⟩
  | .conditional hopen harms htree =>
    rw [List.cons_append, List.map_cons, List.map_append] at hsame
    obtain ⟨t', rest', rfl, ht, hrest⟩ := List.map_eq_cons_iff.1 hsame
    obtain ⟨us', ts', rfl, hus, hts⟩ := List.map_eq_append_iff.1 hrest
    have hopen' := hopen.of_lexeme nofun ht (htrim _ (by simp))
    obtain ⟨branches', harms', hagree⟩ := harms.of_lexemes
      (fun u hu => htrim u (by simp [hu])) hus
    obtain ⟨tree', htree', hagrees⟩ := htree.of_lexemes (fun u hu => htrim u (by simp [hu])) hts
    exact ⟨_, .conditional hopen' harms' htree', by simp [treesAgree, agrees, hagree, hagrees]⟩
  | .loop hopen hbody hclose htree =>
    rw [List.cons_append, List.map_cons, List.map_append] at hsame
    obtain ⟨t', rest', rfl, ht, hrest⟩ := List.map_eq_cons_iff.1 hsame
    obtain ⟨us', more', rfl, hus, hmore⟩ := List.map_eq_append_iff.1 hrest
    obtain ⟨u', ts', rfl, hu, hts⟩ := List.map_eq_cons_iff.1 hmore
    have hopen' := hopen.of_lexeme nofun ht (htrim _ (by simp))
    have hclose' := hclose.of_lexeme nofun hu (htrim _ (by simp))
    obtain ⟨body', hbody', hagree⟩ := hbody.of_lexemes (fun v hv => htrim v (by simp [hv])) hus
    obtain ⟨tree', htree', hagrees⟩ := htree.of_lexemes (fun v hv => htrim v (by simp [hv])) hts
    exact ⟨_, .loop hopen' hbody' hclose' htree', by simp [treesAgree, agrees, hagree, hagrees]⟩
  | .block hopen hbody hclose htree =>
    rw [List.cons_append, List.map_cons, List.map_append] at hsame
    obtain ⟨t', rest', rfl, ht, hrest⟩ := List.map_eq_cons_iff.1 hsame
    obtain ⟨us', more', rfl, hus, hmore⟩ := List.map_eq_append_iff.1 hrest
    obtain ⟨u', ts', rfl, hu, hts⟩ := List.map_eq_cons_iff.1 hmore
    have hopen' := hopen.of_lexeme nofun ht (htrim _ (by simp))
    have hclose' := hclose.of_lexeme nofun hu (htrim _ (by simp))
    obtain ⟨body', hbody', hagree⟩ := hbody.of_lexemes (fun v hv => htrim v (by simp [hv])) hus
    obtain ⟨tree', htree', hagrees⟩ := htree.of_lexemes (fun v hv => htrim v (by simp [hv])) hts
    exact ⟨_, .block hopen' hbody' hclose' htree', by simp [treesAgree, agrees, hagree, hagrees]⟩
termination_by structural h

theorem Arms.of_lexemes {test : Option Text} {us : List Token} {branches : List (Branch Node)}
    (h : Arms test us branches) :
    ∀ {us' : List Token}, (∀ t ∈ us', t.kind = .tag → Trimmed t.content) →
      us'.map Token.lexeme? = us.map Token.lexeme? →
      ∃ branches', Arms test us' branches' ∧ branchesAgree branches branches' = true := by
  intro us' htrim hsame
  match h with
  | .close hbody hclose =>
    rw [List.map_append] at hsame
    obtain ⟨body', close', rfl, hus, hu⟩ := List.map_eq_append_iff.1 hsame
    obtain ⟨u', none', rfl, hlast, hnone⟩ := List.map_eq_cons_iff.1 hu
    rw [List.map_nil, List.map_eq_nil_iff] at hnone
    subst hnone
    have hclose' := hclose.of_lexeme nofun hlast (htrim _ (by simp))
    obtain ⟨tree', htree', hagree⟩ := hbody.of_lexemes (fun v hv => htrim v (by simp [hv])) hus
    exact ⟨_, .close htree' hclose', by simp [branchesAgree, hagree]⟩
  | .next hbody hu harms =>
    rw [List.map_append] at hsame
    obtain ⟨body', more', rfl, hus, hmore⟩ := List.map_eq_append_iff.1 hsame
    obtain ⟨u', vs', rfl, hnext, hvs⟩ := List.map_eq_cons_iff.1 hmore
    have hu' := hu.of_lexeme Token.says_ofBranch_ne hnext (htrim _ (by simp))
    obtain ⟨tree', htree', hagree⟩ := hbody.of_lexemes (fun v hv => htrim v (by simp [hv])) hus
    obtain ⟨rest', hrest', hagrees⟩ := harms.of_lexemes (fun v hv => htrim v (by simp [hv])) hvs
    exact ⟨_, .next htree' hu' hrest', by simp [branchesAgree, hagree, hagrees]⟩
termination_by structural h

end

/-! ## Sources -/

mutual

/-- Every tag among derived tokens has a form. -/
theorem Derives.form_of_mem {ts : List Token} {tree : List Node} (h : Derives ts tree) :
    ∀ t ∈ ts, t.kind = .tag → ∃ tag, Tag.Form t.content tag := by
  intro t ht hkind
  match h with
  | .nil => cases ht
  | .leaf hleaf htree =>
    rcases List.mem_cons.1 ht with rfl | ht
    · cases hleaf with
      | text hkind' => simp [hkind] at hkind'
      | expression hkind' => simp [hkind] at hkind'
      | unknown hmeans => exact ⟨_, hmeans.2⟩
      | inclusion hmeans => exact ⟨_, hmeans.2⟩
      | extension hmeans => exact ⟨_, hmeans.2⟩
    · exact htree.form_of_mem t ht hkind
  | .conditional hopen harms htree =>
    simp only [List.cons_append, List.mem_cons, List.mem_append] at ht
    rcases ht with rfl | ht | ht
    · exact ⟨_, hopen.2⟩
    · exact harms.form_of_mem t ht hkind
    · exact htree.form_of_mem t ht hkind
  | .loop hopen hbody hclose htree =>
    simp only [List.cons_append, List.mem_cons, List.mem_append] at ht
    rcases ht with rfl | ht | rfl | ht
    · exact ⟨_, hopen.2⟩
    · exact hbody.form_of_mem t ht hkind
    · exact ⟨_, hclose.2⟩
    · exact htree.form_of_mem t ht hkind
  | .block hopen hbody hclose htree =>
    simp only [List.cons_append, List.mem_cons, List.mem_append] at ht
    rcases ht with rfl | ht | rfl | ht
    · exact ⟨_, hopen.2⟩
    · exact hbody.form_of_mem t ht hkind
    · exact ⟨_, hclose.2⟩
    · exact htree.form_of_mem t ht hkind
termination_by structural h

theorem Arms.form_of_mem {test : Option Text} {us : List Token} {branches : List (Branch Node)}
    (h : Arms test us branches) : ∀ t ∈ us, t.kind = .tag → ∃ tag, Tag.Form t.content tag := by
  intro t ht hkind
  match h with
  | .close hbody hclose =>
    simp only [List.mem_append, List.mem_singleton] at ht
    rcases ht with ht | rfl
    · exact hbody.form_of_mem t ht hkind
    · exact ⟨_, hclose.2⟩
  | .next hbody hu harms =>
    simp only [List.mem_append, List.mem_cons] at ht
    rcases ht with ht | rfl | ht
    · exact hbody.form_of_mem t ht hkind
    · exact ⟨_, hu.2⟩
    · exact harms.form_of_mem t ht hkind
termination_by structural h

end

theorem Token.lexeme?_eq_none {t : Token} : t.lexeme? = none ↔ t.kind = .comment := by
  rw [lexeme?]
  split
  · simp [*]
  · simp [*]
  · split <;> simp [*]
  · simp [*]

/-- A segment is fair if its token is no comment, no expression that holds the closer of expressions,
and no tag without a form. -/
theorem Segment.fair_of_token {g : Segment} {p : Position}
    (hcomment : (Token.ofSegment p g).kind ≠ .comment)
    (hclosed : (Token.ofSegment p g).kind = .expression →
      ¬ ['}', '}'] <:+: (Token.ofSegment p g).content)
    (hform : (Token.ofSegment p g).kind = .tag →
      ∃ tag, Tag.Form (Token.ofSegment p g).content tag) : g.Fair := by
  cases g with
  | text value => exact trivial
  | delimited d =>
    cases hd : d.delimiter with
    | expression =>
      exact .expression hd (hclosed (by simp [Token.ofSegment, hd, Token.Kind.ofDelimiter]))
    | tag =>
      obtain ⟨tag, hform⟩ := hform (by simp [Token.ofSegment, hd, Token.Kind.ofDelimiter])
      exact .tag hd hform
    | comment =>
      exact absurd (by simp [Token.ofSegment, hd, Token.Kind.ofDelimiter]) hcomment

/-- The segments of a source that is parsed are fair, if there are no comments and no expressions
that hold the closer of expressions. -/
theorem Segment.fair_of_derives {source : Text} {tree : List Node}
    (hcomment : ∀ t ∈ Token.ofSource source, t.kind ≠ .comment)
    (hclosed : ∀ t ∈ Token.ofSource source, t.kind = .expression → ¬ ['}', '}'] <:+: t.content)
    (h : Derives (Token.ofSource source) tree) : ∀ g ∈ Segment.ofSource source, g.Fair := by
  intro g hg
  obtain ⟨p, hp⟩ := Token.exists_place hg .start
  exact fair_of_token (hcomment _ hp) (hclosed _ hp) (h.form_of_mem _ hp)

/-- The fair segments of a source may be written anew. -/
theorem Segment.ofSource_written {source : Text} (hfair : ∀ g ∈ ofSource source, g.Fair) :
    ofSource (((ofSource source).map written).flatMap raw) = (ofSource source).map written := by
  have hreplaced : List.Forall₂ Replaces ((ofSource source).map written) (ofSource source) := by
    rw [List.forall₂_map_left_iff, List.forall₂_same]
    intro g hg
    cases g with
    | text value => exact .text value
    | delimited d => exact .delimited (Delimited.written_replaces (complete_of_mem hg) (hfair _ hg))
  exact ofSource_replaced hreplaced

namespace Node

/-- The printed source is cut where the source was. -/
theorem segments_printTree {source : Text} {tree : List Node}
    (hfair : ∀ g ∈ Segment.ofSource source, g.Fair) (h : Derives (Token.ofSource source) tree) :
    Segment.ofSource (printTree tree) = (Segment.ofSource source).map Segment.written := by
  have hprint : printTree tree =
      ((Segment.ofSource source).map Segment.written).flatMap Segment.raw := by
    rw [printTree_eq, h.lexemes]
    exact (Token.place_written hfair .start .start).2
  rw [hprint]
  exact Segment.ofSource_written hfair

theorem parse_eq_ok {path : Option Text} {source : Text} {tree : List Node} :
    parse path source = .ok tree ↔ ofSource? source = .ok tree := by
  unfold parse
  cases ofSource? source <;> simp

/-- A source is parsed to the trees that its tokens derive, comments apart. -/
theorem parse_eq_ok_iff_derives {path : Option Text} {source : Text} {tree : List Node} :
    parse path source = .ok tree ↔ Derives (Token.significant (Token.ofSource source)) tree :=
  parse_eq_ok.trans (ofTokens?_eq_ok fun _ ht => Token.trimmed_of_place ht)

/-- A source without comments is parsed to the trees that its tokens derive. -/
theorem parse_eq_ok_of_comment_free {path : Option Text} {source : Text} {tree : List Node}
    (hcomment : ∀ t ∈ Token.ofSource source, t.kind ≠ .comment) :
    parse path source = .ok tree ↔ Derives (Token.ofSource source) tree := by
  have hsignificant : Token.significant (Token.ofSource source) = Token.ofSource source := by
    refine List.filter_eq_self.2 fun t ht => ?_
    simpa using hcomment t ht
  rw [parse_eq_ok_iff_derives, hsignificant]

/-- Parsing undoes printing. If a source without comments, and without expressions that hold the
closer of expressions, is parsed, then the printed tree is parsed too, to a tree that agrees with
it. -/
theorem parse_printTree (path : Option Text) (source : Text) (tree : List Node)
    (hcomment : ∀ t ∈ Token.ofSource source, t.kind ≠ .comment)
    (hclosed : ∀ t ∈ Token.ofSource source, t.kind = .expression → ¬ ['}', '}'] <:+: t.content)
    (h : parse path source = .ok tree) :
    ∃ tree', parse path (printTree tree) = .ok tree' ∧ treesAgree tree tree' = true := by
  have hderives : Derives (Token.ofSource source) tree :=
    (parse_eq_ok_of_comment_free hcomment).1 h
  have hfair := Segment.fair_of_derives hcomment hclosed hderives
  have hlexemes : (Token.ofSource (printTree tree)).map Token.lexeme? =
      (Token.ofSource source).map Token.lexeme? := by
    rw [Token.ofSource, segments_printTree hfair hderives]
    exact (Token.place_written hfair .start .start).1
  -- Only comments say nothing, so there are none in what was printed either.
  have hcomment' : ∀ t ∈ Token.ofSource (printTree tree), t.kind ≠ .comment := by
    intro t ht hkind
    have hmem : t.lexeme? ∈ (Token.ofSource source).map Token.lexeme? :=
      hlexemes ▸ List.mem_map_of_mem ht
    obtain ⟨u, hu, hsame⟩ := List.mem_map.1 hmem
    rw [Token.lexeme?_eq_none.2 hkind] at hsame
    exact hcomment u hu (Token.lexeme?_eq_none.1 hsame)
  obtain ⟨tree', hderives', hagree⟩ :=
    hderives.of_lexemes (fun t ht => Token.trimmed_of_place ht) hlexemes
  exact ⟨tree', (parse_eq_ok_of_comment_free hcomment').2 hderives', hagree⟩

/-- An expression without blanks, a tag with too many, and an opener without a closer. -/
theorem parse_printTree_loose :
    let output : Delimited := ⟨.expression, "b".toList⟩
    let tag : Delimited := ⟨.tag, "include  'a' ".toList⟩
    let source := output.raw ++ (tag.raw ++ ['{', '%'])
    let tree : List Node :=
      [.interpolation "b".toList (some .start), .inclusion "a".toList, .text ['{', '%']]
    (∀ t ∈ Token.ofSource source, t.kind ≠ .comment) ∧
      (∀ t ∈ Token.ofSource source, t.kind = .expression → ¬ ['}', '}'] <:+: t.content) ∧
      parse none source = .ok tree ∧
      ∃ tree', parse none (printTree tree) = .ok tree' ∧ treesAgree tree tree' = true := by
  intro output tag source tree
  have hfirst : Delimited.first? source = some ([], output, tag.raw ++ ['{', '%']) := by decide
  have hsecond : Delimited.first? (tag.raw ++ ['{', '%']) = some ([], tag, ['{', '%']) := by decide
  have hsegments : Segment.ofSource source =
      [.delimited output, .delimited tag, .text ['{', '%']] := by
    rw [Segment.ofSource_of_first? hfirst, Segment.ofSource_of_first? hsecond,
      Segment.ofSource_of_first?_eq_none (by decide)]
    rfl
  have hcomment : ∀ t ∈ Token.ofSource source, t.kind ≠ .comment := by
    rw [Token.ofSource, hsegments]
    decide
  have hclosed : ∀ t ∈ Token.ofSource source, t.kind = .expression → ¬ ['}', '}'] <:+: t.content := by
    rw [Token.ofSource, hsegments]
    decide
  have hparse : parse none source = .ok tree := by
    rw [parse_eq_ok, ofSource?, Token.ofSource, hsegments]
    rfl
  exact ⟨hcomment, hclosed, hparse, parse_printTree none source tree hcomment hclosed hparse⟩

end Node
end Stencil
