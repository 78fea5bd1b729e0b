import Stencil.Proofs.Template.RoundTrip
import Stencil.Proofs.Template.Uncommented

/-!
# Enclosed sources

A source between an opening and a closing tag. If no text of it holds the opener of tags, it is cut
as it would be alone: an opener that is left open in it finds no closer of its kind in the closing
tag, whose only brace ends it. The tokens between the tags say what those of the source say, at other
places; and so they form the same body inside the frame of the opening tag as at the top level.
-/

set_option autoImplicit false

namespace Stencil

open Text (isName Solid Trimmed strip)
open Node (treesAgree)

/-! ## Closing tags -/

/-- A tag with no closing brace in its body. -/
structure Delimited.Closing (e : Delimited) : Prop where
  tag : e.delimiter = .tag
  plain : '}' ∉ e.body

namespace Delimited

variable {e : Delimited} {s : Text} {mark : Char} {k : Nat}

theorem Closing.raw_eq (h : e.Closing) : e.raw = '{' :: '%' :: e.body ++ ['%', '}'] := by
  rw [raw, h.tag]
  rfl

/-- The only closing pair of a closing tag is its own. -/
theorem Closing.not_hasPair (h : e.Closing) (hmark : mark ≠ '%') : ¬ HasPair mark e.raw := by
  rw [h.raw_eq, hasPair_append]
  rintro (hpair | hpair | ⟨-, hhead⟩)
  · have hmem := hpair.mem
    simp only [List.mem_cons, Char.reduceEq, false_or] at hmem
    exact h.plain hmem
  · rcases hasPair_cons.1 hpair with ⟨hpercent, -⟩ | hpair
    · exact hmark hpercent.symm
    · rcases hasPair_cons.1 hpair with ⟨-, hnone⟩ | hpair
      · cases hnone
      · exact hasPair_nil hpair
  · cases hhead

theorem Closing.complete (h : e.Closing) (hbody : e.body ≠ []) : e.Complete := by
  intro rest
  obtain ⟨c, body, hcons⟩ := List.exists_cons_of_ne_nil hbody
  have hpair : ¬ HasPair '%' (body ++ ['%']) := fun hpair => by
    have hmem := hpair.mem
    simp only [List.mem_append, List.mem_singleton, Char.reduceEq, or_false] at hmem
    exact h.plain (hcons ▸ List.mem_cons_of_mem _ hmem)
  rw [h.tag, hcons]
  exact Delimiter.cutBody_cons (d := .tag) (by decide) c hpair rest

/-- Where a span begins in front of a closing tag, it begins without the tag, or is a tag itself. -/
theorem opens_of_closing (he : e.Closing) (hk : Opens ((s ++ e.raw).drop k)) :
    Opens (s.drop k) ∨ (s ++ e.raw)[k]? = some '{' ∧ (s ++ e.raw)[k + 1]? = some '%' := by
  obtain ⟨d, hbrace, hopen, hpair⟩ := opens_drop_iff.1 hk
  by_cases hd : d = .tag
  · subst hd
    exact .inr ⟨hbrace, hopen⟩
  left
  have hmark : d.closeMark ≠ '%' := by
    cases d with
    | tag => exact absurd rfl hd
    | _ => decide
  -- The pair that closes the span has no part in the closing tag.
  have hinside : HasPair d.closeMark (s.drop (k + 2 + d.leastBody)) := by
    rw [List.drop_append] at hpair
    rcases hasPair_append.1 hpair with hpair | hpair | ⟨hlast, hhead⟩
    · exact hpair
    · exact absurd (hpair.mono (List.drop_suffix _ _).isInfix) (he.not_hasPair hmark)
    · have hlong := List.length_lt_of_drop_ne_nil (List.ne_nil_of_mem (List.mem_of_getLast? hlast))
      rw [Nat.sub_eq_zero_of_le hlong.le, List.drop_zero, he.raw_eq] at hhead
      cases hhead
  have hlong := List.length_lt_of_drop_ne_nil (List.ne_nil_of_mem hinside.mem)
  rw [List.getElem?_append_left (by omega)] at hbrace hopen
  exact opens_drop_iff.2 ⟨d, hbrace, hopen, hinside⟩

end Delimited

/-! ## Segments of enclosed sources -/

/-- Two neighbouring characters that begin in a text stand in it, unless the second one is the first
character behind it. -/
theorem Text.infix_or_head? {value after : Text} {k : Nat} {a b : Char} (hk : k < value.length)
    (ha : (value ++ after)[k]? = some a) (hb : (value ++ after)[k + 1]? = some b) :
    [a, b] <:+: value ∨ after.head? = some b := by
  rw [List.getElem?_append_left hk] at ha
  by_cases hnext : k + 1 < value.length
  · left
    rw [List.getElem?_append_left hnext] at hb
    refine ⟨value.take k, value.drop (k + 2), ?_⟩
    obtain ⟨_, ha⟩ := List.getElem?_eq_some_iff.1 ha
    obtain ⟨_, hb⟩ := List.getElem?_eq_some_iff.1 hb
    conv => rhs; rw [← List.take_append_drop k value, List.drop_eq_getElem_cons hk,
      List.drop_eq_getElem_cons hnext, ha, hb]
    simp
  · right
    have hlast : k + 1 - value.length = 0 := by omega
    rwa [List.getElem?_append_right (Nat.le_of_not_lt hnext), hlast, ← List.head?_eq_getElem?] at hb

namespace Segment

open Delimited (Opens)

variable {segments rest : List Segment} {value : Text} {o e : Delimited}

/-- No text among the segments holds the opener of tags. -/
def Quiet (segments : List Segment) : Prop :=
  ∀ value, .text value ∈ segments → ¬ ['{', '%'] <:+: value

theorem Apart.concat (h : Apart segments) (e : Delimited) : Apart (segments ++ [.delimited e]) := by
  refine List.isChain_append.2 ⟨h, .singleton _, fun a _ b hb => ?_⟩
  cases hb
  exact fun htext => Bool.false_ne_true htext.2

/-- Behind a text stands a brace, of a span or of the tag at the end. -/
theorem Apart.head?_eq (h : Apart (.text value :: rest)) (e : Delimited) :
    ((rest ++ [Segment.delimited e]).flatMap raw).head? = some '{' := by
  cases rest with
  | nil => rfl
  | cons g rest =>
    cases g with
    | text b => exact absurd ⟨rfl, rfl⟩ (List.isChain_cons_cons.1 h).1
    | delimited d => rfl

/-- With a closing tag behind them, the segments of a quiet source stay what they were. -/
theorem Cut.concat (h : Cut segments) (hapart : Apart segments) (hquiet : Quiet segments)
    (he : e.Closing) (hcomplete : e.Complete) : Cut (segments ++ [.delimited e]) := by
  induction h with
  | nil => exact .span (hcomplete.shortest _) .nil
  | span hshortest _ ih =>
    exact .span (hshortest.complete.shortest _)
      (ih hapart.tail fun value hvalue => hquiet value (List.mem_cons_of_mem _ hvalue))
  | @text value rest hne hleft _ ih =>
    refine .text hne (fun x y hsplit hy hopens => ?_)
      (ih hapart.tail fun value hvalue => hquiet value (List.mem_cons_of_mem _ hvalue))
    have hhead := hapart.head?_eq e
    have hraw : (rest ++ [Segment.delimited e]).flatMap raw = rest.flatMap raw ++ e.raw := by
      rw [List.flatMap_append, List.flatMap_singleton]
      rfl
    obtain ⟨hk, hdrop⟩ := drop_of_split hsplit hy
    change Opens (y ++ (rest ++ [Segment.delimited e]).flatMap raw) at hopens
    rw [hraw] at hhead hopens
    rw [hdrop, ← List.append_assoc] at hopens
    rcases Delimited.opens_of_closing he hopens with hopens | ⟨hbrace, hpercent⟩
    · rw [← hdrop] at hopens
      exact hleft x y hsplit hy hopens
    · rw [List.append_assoc] at hbrace hpercent
      rcases Text.infix_or_head? hk hbrace hpercent with hinfix | hbehind
      · exact hquiet value List.mem_cons_self hinfix
      · rw [hhead] at hbehind
        cases hbehind

theorem ofSource_enclosed {source : Text} (hquiet : Quiet (ofSource source)) (ho : o.Complete)
    (he : e.Closing) (hcomplete : e.Complete) :
    ofSource (o.raw ++ (source ++ e.raw)) =
      .delimited o :: (ofSource source ++ [.delimited e]) := by
  have hcut := (cut_ofSource source).concat (apart_ofSource source) hquiet he hcomplete
  have hapart : Apart (.delimited o :: (ofSource source ++ [.delimited e])) := by
    refine List.IsChain.cons ((apart_ofSource source).concat e) fun g _ htext => ?_
    exact Bool.false_ne_true htext.1
  have hsource := (Cut.span (ho.shortest _) hcut).ofSource_eq hapart
  rw [List.flatMap_cons, List.flatMap_append, flatMap_raw_ofSource, List.flatMap_singleton]
    at hsource
  exact hsource

end Segment

/-! ## Tokens of enclosed sources -/

namespace Token

theorem place_append (p : Position) (gs hs : List Segment) :
    place p (gs ++ hs) = place p gs ++ place (p.advance (gs.flatMap Segment.raw)) hs := by
  induction gs generalizing p with
  | nil => rfl
  | cons g gs ih =>
    rw [List.cons_append, place, place, ih, List.flatMap_cons, List.cons_append]
    congr 3
    exact List.foldl_append.symm

/-- What tokens say does not depend on their places. -/
theorem map_lexeme?_place (p q : Position) (gs : List Segment) :
    (place p gs).map lexeme? = (place q gs).map lexeme? := by
  induction gs generalizing p q with
  | nil => rfl
  | cons g gs ih =>
    have hhead : (ofSegment p g).lexeme? = (ofSegment q g).lexeme? := by cases g <;> rfl
    rw [place, place, List.map_cons, List.map_cons, hhead, ih]

theorem map_lexeme?_significant (ts : List Token) :
    (significant ts).map lexeme? = (ts.map lexeme?).filter Option.isSome := by
  induction ts with
  | nil => rfl
  | cons t ts ih =>
    by_cases hkind : t.kind = .comment
    · have hnone := lexeme?_eq_none.2 hkind
      simpa [significant, hkind, hnone] using ih
    · obtain ⟨l, hsome⟩ := Option.ne_none_iff_exists'.1 (mt lexeme?_eq_none.1 hkind)
      simpa [significant, hkind, hsome] using ih

/-- The tokens that are no comments of an enclosed source: those of the tags, and between them tokens
that say what those of the source say. -/
theorem significant_enclosed {source : Text} {o e : Delimited} (ho : o.delimiter = .tag)
    (he : e.delimiter = .tag) (hsegments : Segment.ofSource (o.raw ++ (source ++ e.raw)) =
      .delimited o :: (Segment.ofSource source ++ [.delimited e])) :
    ∃ t us u, significant (ofSource (o.raw ++ (source ++ e.raw))) = t :: us ++ [u] ∧
      t.kind = .tag ∧ t.content = strip o.body ∧ u.kind = .tag ∧ u.content = strip e.body ∧
      us.map lexeme? = (significant (ofSource source)).map lexeme? ∧
      ∀ v ∈ us, v.kind = .tag → Trimmed v.content := by
  rw [ofSource, hsegments, place, place_append]
  generalize hp : Position.start.advance (Segment.delimited o).raw = p
  generalize p.advance ((Segment.ofSource source).flatMap Segment.raw) = q
  have hopen : (ofSegment .start (.delimited o)).kind = .tag := by
    simp [ofSegment, ho, Kind.ofDelimiter]
  have hclose : (ofSegment q (.delimited e)).kind = .tag := by
    simp [ofSegment, he, Kind.ofDelimiter]
  refine ⟨ofSegment .start (.delimited o), significant (place p (Segment.ofSource source)),
    ofSegment q (.delimited e), ?_, hopen, rfl, hclose, rfl, ?_, fun v hv => ?_⟩
  · simp [significant, place, hopen, hclose]
  · rw [map_lexeme?_significant, map_lexeme?_significant, map_lexeme?_place p .start, ofSource]
  · exact trimmed_of_place (List.mem_filter.1 hv).1

end Token

/-! ## Trees of enclosed sources -/

/-- A tag with single blanks around its content. -/
def Delimited.spaced (content : Text) : Delimited := ⟨.tag, ' ' :: (content ++ [' '])⟩

theorem Delimited.raw_spaced (content : Text) :
    (spaced content).raw = Node.asTag content := by
  show ['{', '%'] ++ ' ' :: (content ++ [' ']) ++ ['%', '}'] = _
  simp only [Node.asTag, List.append_assoc, List.cons_append, List.nil_append]

theorem Delimited.complete_spaced {content : Text} (h : ¬ HasPair '%' content) :
    (spaced content).Complete := by
  intro rest
  refine Delimiter.cutBody_cons (d := .tag) (by decide) ' ' (fun hpair => ?_) rest
  rw [List.append_assoc] at hpair
  rcases hasPair_append.1 hpair with hpair | hpair | ⟨-, hhead⟩
  · exact h hpair
  · exact absurd hpair.mem (by decide)
  · cases hhead

namespace Node

open Delimited (spaced raw_spaced)

variable {path : Option Text} {source : Text} {tree : List Node}

theorem quiet_of_tokens
    (h : ∀ t ∈ Token.ofSource source, t.kind = .text → ¬ ['{', '%'] <:+: t.content) :
    Segment.Quiet (Segment.ofSource source) := by
  intro value hvalue
  obtain ⟨p, hp⟩ := Token.exists_place hvalue .start
  exact h _ hp rfl

/-- A source that is parsed is parsed again between an opening and a closing tag: the tokens between
the tags derive a tree that agrees. -/
theorem exists_derives_enclosed (h : parse path source = .ok tree)
    (hquiet : Segment.Quiet (Segment.ofSource source)) {opening : Text} {tag : Tag}
    (hopening : Tag.Form opening tag) (hknown : tag ≠ .unknown) (hpair : ¬ HasPair '%' opening)
    (c : Construct) :
    ∃ t us u body, Token.significant (Token.ofSource ((spaced opening).raw ++
        (source ++ (spaced c.endKeyword).raw))) = t :: us ++ [u] ∧
      t.Says tag ∧ u.Says (.close c) ∧ Derives us body ∧ treesAgree tree body = true := by
  have hclosing : Tag.Form c.endKeyword (.close c) := by
    have hform := Tag.Form.close c .none
    rwa [List.append_nil] at hform
  have hend : (spaced c.endKeyword).Closing := ⟨rfl, by cases c <;> decide⟩
  have hsegments := Segment.ofSource_enclosed hquiet (Delimited.complete_spaced hpair) hend
    (hend.complete (List.cons_ne_nil _ _))
  obtain ⟨t, us, u, htokens, ht, htcontent, hu, hucontent, hsame, htrims⟩ :=
    Token.significant_enclosed rfl rfl hsegments
  obtain ⟨body, hbody, hagree⟩ := (parse_eq_ok_iff_derives.1 h).of_lexemes htrims hsame
  refine ⟨t, us, u, body, htokens, ⟨ht, ?_⟩, ⟨hu, ?_⟩, hbody, hagree⟩
  · rwa [htcontent, spaced, Segment.strip_space (hopening.solid hknown).1.trimmed]
  · rwa [hucontent, spaced, Segment.strip_space (hclosing.solid nofun).1.trimmed]

theorem exists_parse_conditional (h : parse path source = .ok tree)
    (hquiet : Segment.Quiet (Segment.ofSource source)) {test : Text} (htest : Solid test)
    (hpair : ¬ HasPair '%' test) :
    ∃ body, parse path (asTag ("if ".toList ++ test) ++ source ++ asTag "endif".toList) =
        .ok [.conditional [⟨some test, body⟩]] ∧
      treesAgree tree body = true := by
  have hopening : Tag.Form ("if".toList ++ ([' '] ++ test)) (.openIf test) :=
    .openIf (.some Tag.gap_space htest.ne_nil htest.trimmed)
  have hclosed : ¬ HasPair '%' ("if".toList ++ ([' '] ++ test)) := fun hpair' => by
    rw [← List.append_assoc] at hpair'
    exact hpair (Tag.pair_behind (by decide) (by decide) (by decide) hpair')
  obtain ⟨t, us, u, body, htokens, ht, hu, hbody, hagree⟩ :=
    exists_derives_enclosed h hquiet hopening (by simp) hclosed .conditional
  have hsource : (spaced ("if".toList ++ ([' '] ++ test))).raw ++
      (source ++ (spaced Construct.conditional.endKeyword).raw) =
      asTag ("if ".toList ++ test) ++ source ++ asTag "endif".toList := by
    simp only [raw_spaced, List.append_assoc]
    rfl
  have hderives := Derives.conditional ht (.close hbody hu) .nil
  rw [List.append_nil, ← List.cons_append, ← htokens, hsource] at hderives
  exact ⟨body, parse_eq_ok_iff_derives.2 hderives, hagree⟩

theorem exists_parse_loop (h : parse path source = .ok tree)
    (hquiet : Segment.Quiet (Segment.ofSource source)) {name it : Text}
    (hname : isName name = true) (hit : Solid it) (hpair : ¬ HasPair '%' it) :
    ∃ body, parse path (asTag ("for ".toList ++ name ++ " in ".toList ++ it) ++ source ++
        asTag "endfor".toList) = .ok [.loop [name] it body] ∧
      treesAgree tree body = true := by
  have hheader : Tag.LoopHeader ([' '] ++ name ++ ([' '] ++ ['i', 'n'] ++ [' '] ++ it)) [name] it :=
    .one Tag.gap_space hname (.mk Tag.gap_space Tag.gap_space hit.ne_nil hit.trimmed)
  have hclosed : ¬ HasPair '%' ("for".toList ++
      ([' '] ++ name ++ ([' '] ++ ['i', 'n'] ++ [' '] ++ it))) := fun hpair' => by
    have hbefore : '}' ∉ ("for".toList ++ ([' '] ++ name ++ ([' '] ++ ['i', 'n']))) ++ [' '] := by
      simp [Tag.not_mem_of_isName hname]
    refine hpair (Tag.pair_behind (by decide) (by decide) hbefore ?_)
    simpa only [List.append_assoc] using hpair'
  obtain ⟨t, us, u, body, htokens, ht, hu, hbody, hagree⟩ :=
    exists_derives_enclosed h hquiet (.openFor hheader) (by simp) hclosed .loop
  have hsource : (spaced ("for".toList ++
        ([' '] ++ name ++ ([' '] ++ ['i', 'n'] ++ [' '] ++ it)))).raw ++
      (source ++ (spaced Construct.loop.endKeyword).raw) =
      asTag ("for ".toList ++ name ++ " in ".toList ++ it) ++ source ++
        asTag "endfor".toList := by
    simp only [raw_spaced, List.append_assoc]
    rfl
  have hderives := Derives.loop ht hbody hu .nil
  rw [← htokens, hsource] at hderives
  exact ⟨body, parse_eq_ok_iff_derives.2 hderives, hagree⟩

theorem exists_parse_block (h : parse path source = .ok tree)
    (hquiet : Segment.Quiet (Segment.ofSource source)) {name : Text} (hname : isName name = true) :
    ∃ body, parse path (asTag ("block ".toList ++ name) ++ source ++ asTag "endblock".toList) =
        .ok [.block name body] ∧
      treesAgree tree body = true := by
  have hclosed : ¬ HasPair '%' ("block".toList ++ ([' '] ++ name)) := fun hpair =>
    absurd hpair.mem (by simp [Tag.not_mem_of_isName hname])
  obtain ⟨t, us, u, body, htokens, ht, hu, hbody, hagree⟩ := exists_derives_enclosed h hquiet
    (.openBlock Tag.gap_space hname) (by simp) hclosed .block
  have hsource : (spaced ("block".toList ++ ([' '] ++ name))).raw ++
      (source ++ (spaced Construct.block.endKeyword).raw) =
      asTag ("block ".toList ++ name) ++ source ++ asTag "endblock".toList := by
    simp only [raw_spaced, List.append_assoc]
    rfl
  have hderives := Derives.block ht hbody hu .nil
  rw [← htokens, hsource] at hderives
  exact ⟨body, parse_eq_ok_iff_derives.2 hderives, hagree⟩

/-- A source that is parsed, and holds no opener of tags in its texts, is parsed to the same body
between the tags of a conditional, of a loop and of a block, and nothing else is there. The test and
the iterable are trimmed texts without the closer of tags, the names are words. -/
theorem parse_enclosed (h : parse path source = .ok tree)
    (hquiet : ∀ t ∈ Token.ofSource source, t.kind = .text → ¬ ['{', '%'] <:+: t.content) :
    (∀ test, Solid test → ¬ ['%', '}'] <:+: test →
      ∃ body, parse path (asTag ("if ".toList ++ test) ++ source ++ asTag "endif".toList) =
          .ok [.conditional [⟨some test, body⟩]] ∧
        treesAgree tree body = true) ∧
      (∀ name it, isName name = true → Solid it → ¬ ['%', '}'] <:+: it →
        ∃ body, parse path (asTag ("for ".toList ++ name ++ " in ".toList ++ it) ++ source ++
            asTag "endfor".toList) = .ok [.loop [name] it body] ∧
          treesAgree tree body = true) ∧
      ∀ name, isName name = true →
        ∃ body, parse path (asTag ("block ".toList ++ name) ++ source ++
            asTag "endblock".toList) = .ok [.block name body] ∧
          treesAgree tree body = true := by
  have hquiet := quiet_of_tokens hquiet
  exact ⟨fun _ htest hpair => exists_parse_conditional h hquiet htest hpair,
    fun _ _ hname hit hpair => exists_parse_loop h hquiet hname hit hpair,
    fun _ hname => exists_parse_block h hquiet hname⟩

/-- A comment, an expression that nothing closes, and a brace in front of the closing tag. -/
theorem parse_enclosed_open :
    let unclosed := ['{', '{', ' ', 'x', ' ', '{']
    let source := "{# a #}".toList ++ unclosed
    let tree : List Node := [.text unclosed]
    parse none source = .ok tree ∧
      (∃ body, parse none ("{% if c %}".toList ++ source ++ "{% endif %}".toList) =
          .ok [.conditional [⟨some "c".toList, body⟩]] ∧ treesAgree tree body = true) ∧
      (∃ body, parse none ("{% for c in cs %}".toList ++ source ++ "{% endfor %}".toList) =
          .ok [.loop ["c".toList] "cs".toList body] ∧ treesAgree tree body = true) ∧
      ∃ body, parse none ("{% block outer %}".toList ++ source ++ "{% endblock %}".toList) =
          .ok [.block "outer".toList body] ∧ treesAgree tree body = true := by
  intro unclosed source tree
  have hfirst : Delimited.first? source =
      some ([], ⟨.comment, " a ".toList⟩, unclosed) := by decide
  have hsegments : Segment.ofSource source =
      [.delimited ⟨.comment, " a ".toList⟩, .text unclosed] := by
    rw [Segment.ofSource_of_first? hfirst, Segment.ofSource_of_first?_eq_none (by decide)]
    rfl
  have hparse : parse none source = .ok tree := by
    rw [parse_eq_ok, ofSource?, Token.ofSource, hsegments]
    rfl
  have hquiet : ∀ t ∈ Token.ofSource source, t.kind = .text → ¬ ['{', '%'] <:+: t.content := by
    rw [Token.ofSource, hsegments]
    decide
  obtain ⟨hconditional, hloop, hblock⟩ := parse_enclosed hparse hquiet
  exact ⟨hparse, hconditional "c".toList (.of_word (by decide) (by decide)) (by decide),
    hloop "c".toList "cs".toList (by decide) (.of_word (by decide) (by decide)) (by decide),
    hblock "outer".toList (by decide)⟩

end Node

end Stencil
