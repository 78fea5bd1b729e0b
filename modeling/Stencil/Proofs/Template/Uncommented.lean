import Stencil.Proofs.Template.Leftmost

/-!
# Sources without their comments

Leaving the comments out of a source brings together what stood on both sides of them. No span that
was not there comes about, as long as no two characters that meet there are the halves of a
delimiter: a pair of braces needs no such care, because a comment ends with a brace itself, and
neither does the end of a comment. Then the segments of what is left are those of the source without
the comments, with neighbouring texts joined.
-/

set_option autoImplicit false

namespace Stencil

/-- The last character of a text and the first of another one are the halves of an opener other than
the one of expressions, or of the closer of tags. -/
def Text.Meet (x y : Text) : Prop :=
  (x.getLast? = some '{' ∧ (y.head? = some '%' ∨ y.head? = some '#')) ∨
    (x.getLast? = some '%' ∧ y.head? = some '}')

/-! ## Where spans begin -/

/-- The least number of characters in a body; as many are passed before a closer is looked for. -/
def Delimiter.leastBody : Delimiter → Nat
  | .comment => 0
  | _ => 1

theorem Delimiter.leastBody_of_ne {d : Delimiter} (h : d ≠ .comment) : d.leastBody = 1 := by
  cases d with
  | comment => exact absurd rfl h
  | _ => rfl

namespace Delimited

variable {t : Text} {k : Nat}

/-- A span begins a text if its opener stands there and its closer somewhere after the least
body. -/
theorem opens_iff : Opens t ↔ ∃ (d : Delimiter) (rest : Text),
    t = '{' :: d.openMark :: rest ∧ HasPair d.closeMark (rest.drop d.leastBody) := by
  constructor
  · rintro ⟨⟨d, body⟩, after, hsplit, hbody⟩
    rw [raw_append] at hsplit
    refine ⟨d, _, hsplit, ?_⟩
    have hpair : ∀ b : Text, HasPair d.closeMark (b ++ d.closer ++ after) :=
      fun b => ⟨b, after, rfl⟩
    by_cases hd : d = .comment
    · subst hd
      exact hpair body
    · obtain ⟨c, b, rfl⟩ := List.exists_cons_of_ne_nil (hbody hd)
      rw [Delimiter.leastBody_of_ne hd]
      exact hpair b
  · rintro ⟨d, rest, rfl, x, y, hpair⟩
    have hlength := congrArg List.length hpair
    simp only [List.length_append, List.length_cons, List.length_nil, List.length_drop] at hlength
    have hrest : rest = rest.take d.leastBody ++ x ++ d.closer ++ y := by
      rw [List.append_assoc, List.append_assoc, ← List.append_assoc x, Delimiter.closer, hpair,
        List.take_append_drop]
    refine ⟨⟨d, rest.take d.leastBody ++ x⟩, y, ?_, fun hd hnil => ?_⟩
    · rw [raw_append]
      exact congrArg (fun r => '{' :: d.openMark :: r) hrest
    · have htake := congrArg List.length (List.append_eq_nil_iff.1 hnil).1
      rw [Delimiter.leastBody_of_ne hd] at hlength htake
      simp only [List.length_take, List.length_nil] at htake
      omega

/-- Whether a span begins at an offset is a matter of two characters and one pair behind them. -/
theorem opens_drop_iff : Opens (t.drop k) ↔ ∃ d : Delimiter,
    t[k]? = some '{' ∧ t[k + 1]? = some d.openMark ∧
      HasPair d.closeMark (t.drop (k + 2 + d.leastBody)) := by
  have hdrop : ∀ n, t.drop (k + 2 + n) = ((t.drop k).drop 2).drop n := fun n => by
    rw [List.drop_drop, List.drop_drop, Nat.add_assoc]
  have hfirst : t[k]? = (t.drop k)[0]? := by rw [List.getElem?_drop, Nat.add_zero]
  have hsecond : t[k + 1]? = (t.drop k)[1]? := List.getElem?_drop.symm
  rw [opens_iff]
  simp only [hdrop, hfirst, hsecond]
  generalize t.drop k = u
  refine exists_congr fun d => ⟨?_, ?_⟩
  · rintro ⟨rest, rfl, hpair⟩
    exact ⟨rfl, rfl, hpair⟩
  · rintro ⟨hbrace, hmark, hpair⟩
    rcases u with _ | ⟨a, _ | ⟨b, rest⟩⟩
    · cases hbrace
    · cases hmark
    · cases hbrace
      cases hmark
      exact ⟨rest, rfl, hpair⟩

end Delimited

namespace Segment

open Delimited (Opens Shortest opens_drop_iff)

/-! ## Leaving out the comments -/

variable {gs rest : List Segment} {mark : Char}

/-- A comment. -/
def isComment : Segment → Bool
  | .text _ => false
  | .delimited d => d.delimiter == .comment

/-- Segments without the comments. -/
def uncommented (gs : List Segment) : List Segment := gs.filter fun g => !g.isComment

/-- Of the segments that are no comments, no two neighbours meet in halves of a delimiter. -/
def Unmet (gs : List Segment) : Prop :=
  (uncommented gs).IsChain fun g h => ¬ Text.Meet g.raw h.raw

theorem uncommented_comment {g : Segment} (h : g.isComment = true) :
    uncommented (g :: rest) = uncommented rest := List.filter_cons_of_neg (by simp [h])

theorem uncommented_kept {g : Segment} (h : g.isComment = false) :
    uncommented (g :: rest) = g :: uncommented rest := List.filter_cons_of_pos (by simp [h])

theorem Unmet.tail {g : Segment} (h : Unmet (g :: rest)) : Unmet rest := by
  unfold Unmet at *
  cases hg : g.isComment with
  | true => rwa [uncommented_comment hg] at h
  | false =>
    rw [uncommented_kept hg] at h
    exact h.tail

theorem Cut.raw_ne_nil (h : Cut gs) : ∀ g ∈ gs, g.raw ≠ [] := by
  induction h with
  | nil => exact nofun
  | text hne _ _ ih => exact List.forall_mem_cons.2 ⟨hne, ih⟩
  | span _ _ ih =>
    refine List.forall_mem_cons.2 ⟨?_, ih⟩
    simp [raw, Delimited.raw, Delimiter.opener]

/-- A segment does not meet what stands behind the comments after it. -/
theorem Unmet.not_meet {g : Segment} (h : Unmet (g :: rest)) (hg : g.isComment = false)
    (hraw : ∀ g ∈ rest, g.raw ≠ []) :
    ¬ Text.Meet g.raw ((uncommented rest).flatMap raw) := by
  unfold Unmet at h
  rw [uncommented_kept hg] at h
  cases hrest : uncommented rest with
  | nil =>
    rintro (⟨-, hhead | hhead⟩ | ⟨-, hhead⟩) <;> cases hhead
  | cons next more =>
    rw [hrest] at h
    have hmem : next ∈ rest := List.mem_of_mem_filter (hrest ▸ List.mem_cons_self ..)
    obtain ⟨c, t, ht⟩ := List.exists_cons_of_ne_nil (hraw next hmem)
    have hnext := (List.isChain_cons_cons.1 h).1
    rw [List.flatMap_cons, ht]
    rw [ht] at hnext
    exact hnext

/-- A comment begins with a brace, and ends with a number sign and a brace. -/
theorem raw_of_isComment {g : Segment} (h : g.isComment = true) :
    ∃ inner, g.raw = '{' :: inner ++ ['#', '}'] := by
  cases g with
  | text value => cases h
  | delimited d =>
    obtain ⟨delimiter, body⟩ := d
    cases delimiter with
    | comment =>
      refine ⟨'#' :: body, ?_⟩
      simp [raw, Delimited.raw, Delimiter.opener, Delimiter.closer, Delimiter.openMark,
        Delimiter.closeMark]
    | _ => cases h

/-- Leaving out comments does not change what begins a source that begins with none. -/
theorem head?_uncommented {g : Segment} (hraw : g.raw ≠ []) (hg : g.isComment = false) :
    ((uncommented (g :: rest)).flatMap raw).head? = ((g :: rest).flatMap raw).head? := by
  obtain ⟨c, t, ht⟩ := List.exists_cons_of_ne_nil hraw
  rw [uncommented_kept hg, List.flatMap_cons, List.flatMap_cons, ht]
  rfl

/-- Where comments are followed by a closing brace, they make a pair with it, and end with one. -/
theorem pairs_of_comment {g : Segment} (hg : g.isComment = true) (hraw : ∀ g ∈ rest, g.raw ≠ [])
    (hhead : ((uncommented rest).flatMap raw).head? = some '}') :
    HasPair '#' ((g :: rest).flatMap raw) ∧ HasPair '}' ((g :: rest).flatMap raw) := by
  induction rest generalizing g with
  | nil => cases hhead
  | cons next rest ih =>
    obtain ⟨inner, hinner⟩ := raw_of_isComment hg
    have hsharp : HasPair '#' g.raw := ⟨'{' :: inner, [], by rw [hinner, List.append_nil]⟩
    rw [List.flatMap_cons]
    refine ⟨hsharp.mono (List.prefix_append _ _).isInfix, ?_⟩
    cases hnext : next.isComment with
    | true =>
      rw [uncommented_comment hnext] at hhead
      have hrest := (ih hnext (fun h hh => hraw h (List.mem_cons_of_mem _ hh)) hhead).2
      exact hrest.mono (List.suffix_append _ _).isInfix
    | false =>
      rw [head?_uncommented (hraw next (List.mem_cons_self ..)) hnext] at hhead
      refine hasPair_append.2 (.inr (.inr ⟨?_, hhead⟩))
      rw [hinner, List.getLast?_append]
      rfl

/-- Where leaving out comments lets a brace follow a closing mark, there was a pair already, or the
brace followed before. -/
theorem pair_of_seam {g : Segment} (hg : g.isComment = false) (hraw : ∀ g ∈ rest, g.raw ≠ [])
    (hunmet : Unmet (g :: rest)) (hmark : mark ∈ closeMarks) (hlast : g.raw.getLast? = some mark)
    (hhead : ((uncommented rest).flatMap raw).head? = some '}') :
    HasPair mark (rest.flatMap raw) ∨ (rest.flatMap raw).head? = some '}' := by
  cases rest with
  | nil => cases hhead
  | cons next rest =>
    obtain ⟨hnext, hrest⟩ := List.forall_mem_cons.1 hraw
    cases hcomment : next.isComment with
    | false => exact .inr (head?_uncommented hnext hcomment ▸ hhead)
    | true =>
      have hmeet := hunmet.not_meet hg hraw
      rw [uncommented_comment hcomment] at hhead hmeet
      obtain ⟨hsharp, hbrace⟩ := pairs_of_comment hcomment hrest hhead
      simp only [closeMarks, List.mem_cons, List.not_mem_nil, or_false] at hmark
      rcases hmark with rfl | rfl | rfl
      · exact .inl hbrace
      · exact absurd (.inr ⟨hlast, hhead⟩) hmeet
      · exact .inl hsharp

/-- Leaving out comments brings in no pair, wherever one looks from. -/
theorem pair_of_uncommented (hraw : ∀ g ∈ gs, g.raw ≠ []) (hunmet : Unmet gs)
    (hmark : mark ∈ closeMarks) (k : Nat)
    (hpair : HasPair mark (((uncommented gs).flatMap raw).drop k)) :
    HasPair mark ((gs.flatMap raw).drop k) := by
  induction gs generalizing k with
  | nil => exact hpair
  | cons g rest ih =>
    obtain ⟨-, hrest⟩ := List.forall_mem_cons.1 hraw
    have hbehind := ih hrest hunmet.tail
    rw [List.flatMap_cons, List.drop_append]
    cases hg : g.isComment with
    | true =>
      rw [uncommented_comment hg] at hpair
      have hsuffix : (rest.flatMap raw).drop k <:+ (rest.flatMap raw).drop (k - g.raw.length) := by
        have hdrop : k = k - g.raw.length + (k - (k - g.raw.length)) := by omega
        conv => lhs; rw [hdrop, ← List.drop_drop]
        exact List.drop_suffix _ _
      exact ((hbehind k hpair).mono hsuffix.isInfix).mono (List.suffix_append _ _).isInfix
    | false =>
      rw [uncommented_kept hg, List.flatMap_cons, List.drop_append] at hpair
      rcases hasPair_append.1 hpair with hpair | hpair | ⟨hlast, hhead⟩
      · exact hpair.mono (List.prefix_append _ _).isInfix
      · exact (hbehind _ hpair).mono (List.suffix_append _ _).isInfix
      · have hlt : k < g.raw.length := by
          by_contra hle
          rw [List.drop_eq_nil_of_le (Nat.le_of_not_lt hle)] at hlast
          cases hlast
        have hraw' : g.raw.getLast? = some mark := by
          rwa [List.getLast?_drop, if_neg (Nat.not_le.2 hlt)] at hlast
        rw [Nat.sub_eq_zero_of_le hlt.le, List.drop_zero] at hhead ⊢
        rcases pair_of_seam hg hrest hunmet hmark hraw' hhead with hpair | hhead
        · exact hpair.mono (List.suffix_append _ _).isInfix
        · exact hasPair_append.2 (.inr (.inr ⟨hlast, hhead⟩))

/-- Leaving out comments behind a text changes none of its characters, nor the one behind it if an
opener comes about there. -/
theorem mark_of_uncommented {value : Text} {k : Nat} {d : Delimiter} (hk : k < value.length)
    (hraw : ∀ g ∈ rest, g.raw ≠ []) (hunmet : Unmet (.text value :: rest))
    (hbrace : (value ++ (uncommented rest).flatMap raw)[k]? = some '{')
    (hopen : (value ++ (uncommented rest).flatMap raw)[k + 1]? = some d.openMark) :
    (value ++ rest.flatMap raw)[k]? = some '{' ∧
      (value ++ rest.flatMap raw)[k + 1]? = some d.openMark := by
  rw [List.getElem?_append_left hk] at hbrace ⊢
  refine ⟨hbrace, ?_⟩
  by_cases hnext : k + 1 < value.length
  · rwa [List.getElem?_append_left hnext] at hopen ⊢
  · have hlast : k + 1 = value.length := by omega
    rw [List.getElem?_append_right (by omega), hlast, Nat.sub_self, ← List.head?_eq_getElem?]
      at hopen ⊢
    have hbrace' : value.getLast? = some '{' := by
      rw [List.getLast?_eq_getElem?, ← hbrace]
      congr 1
      omega
    cases rest with
    | nil => cases hopen
    | cons next rest =>
      obtain ⟨hnext, hrest⟩ := List.forall_mem_cons.1 hraw
      cases hcomment : next.isComment with
      | false => exact head?_uncommented hnext hcomment ▸ hopen
      | true =>
        obtain ⟨inner, hinner⟩ := raw_of_isComment hcomment
        have hmeet := hunmet.not_meet rfl hraw
        -- In front of a comment only the opener of expressions can come about.
        cases d with
        | expression =>
          rw [List.flatMap_cons, hinner]
          rfl
        | tag => exact absurd (.inl ⟨hbrace', .inl hopen⟩) hmeet
        | comment => exact absurd (.inl ⟨hbrace', .inr hopen⟩) hmeet

/-- The rest of a text begins at an offset in it, whatever follows the text. -/
theorem drop_of_split {value x y : Text} (h : value = x ++ y) (hy : y ≠ []) :
    x.length < value.length ∧ ∀ after : Text, y ++ after = (value ++ after).drop x.length := by
  subst h
  refine ⟨?_, fun after => by rw [List.append_assoc, List.drop_left]⟩
  rw [List.length_append]
  exact Nat.lt_add_of_pos_right (List.length_pos_of_ne_nil hy)

theorem Cut.uncommented (h : Cut gs) (hunmet : Unmet gs) : Cut (uncommented gs) := by
  induction h with
  | nil => exact .nil
  | @span d rest hshortest hrest ih =>
    cases hd : (Segment.delimited d).isComment with
    | true =>
      rw [uncommented_comment hd]
      exact ih hunmet.tail
    | false =>
      rw [uncommented_kept hd]
      exact .span (hshortest.complete.shortest _) (ih hunmet.tail)
  | @text value rest hne hleft hrest ih =>
    rw [uncommented_kept rfl]
    refine .text hne (fun x y hsplit hy hopens => hleft x y hsplit hy ?_) (ih hunmet.tail)
    have hraw := hrest.raw_ne_nil
    obtain ⟨hk, hdrop⟩ := drop_of_split hsplit hy
    rw [hdrop, opens_drop_iff] at hopens ⊢
    obtain ⟨d, hbrace, hopen, hpair⟩ := hopens
    obtain ⟨hbrace', hopen'⟩ := mark_of_uncommented hk hraw hunmet hbrace hopen
    have hall : ∀ g ∈ Segment.text value :: rest, g.raw ≠ [] :=
      List.forall_mem_cons.2 ⟨hne, hraw⟩
    exact ⟨d, hbrace', hopen', pair_of_uncommented hall hunmet d.closeMark_mem _ hpair⟩

/-! ## Joining neighbouring texts -/

/-- A segment before others; a text is joined with a text. -/
def attach : Segment → List Segment → List Segment
  | .text a, .text b :: rest => .text (a ++ b) :: rest
  | g, rest => g :: rest

/-- Segments with neighbouring texts joined. -/
def joined (gs : List Segment) : List Segment := gs.foldr attach []

theorem joined_cons (g : Segment) (rest : List Segment) :
    joined (g :: rest) = attach g (joined rest) := rfl

/-- What is attached is joined with a text, or stands before the others as it is. -/
theorem attach_cases (g : Segment) (rest : List Segment) :
    (∃ a b more, g = .text a ∧ rest = .text b :: more ∧ attach g rest = .text (a ++ b) :: more) ∨
      (attach g rest = g :: rest ∧ ∀ h ∈ rest.head?, ¬ (g.isText = true ∧ h.isText = true)) := by
  rcases g with a | d
  · rcases rest with _ | ⟨b | d, more⟩
    · exact .inr ⟨rfl, nofun⟩
    · exact .inl ⟨a, b, more, rfl, rfl, rfl⟩
    · refine .inr ⟨rfl, fun h hh => ?_⟩
      cases hh
      simp [isText]
  · exact .inr ⟨by cases rest <;> rfl, by simp [isText]⟩

theorem apart_joined (gs : List Segment) : Apart (joined gs) := by
  induction gs with
  | nil => exact .nil
  | cons g rest ih =>
    rw [joined_cons]
    rcases attach_cases g (joined rest) with ⟨a, b, more, -, hrest, heq⟩ | ⟨heq, hhead⟩
    · rw [hrest] at ih
      rw [heq]
      exact List.isChain_cons.2 (List.isChain_cons.1 ih)
    · rw [heq]
      exact .cons ih hhead

theorem flatMap_raw_joined (gs : List Segment) : (joined gs).flatMap raw = gs.flatMap raw := by
  induction gs with
  | nil => rfl
  | cons g rest ih =>
    rw [joined_cons, List.flatMap_cons, ← ih]
    rcases attach_cases g (joined rest) with ⟨a, b, more, rfl, hrest, heq⟩ | ⟨heq, -⟩
    · rw [heq, hrest, List.flatMap_cons, List.flatMap_cons]
      exact List.append_assoc a b _
    · rw [heq, List.flatMap_cons]

/-- Two neighbouring texts in which no span begins are one such text. -/
theorem Cut.join {a b : Text}
    (ha : ∀ x y, a = x ++ y → y ≠ [] → ¬ Opens (y ++ (b ++ rest.flatMap raw)))
    (h : Cut (.text b :: rest)) : Cut (.text (a ++ b) :: rest) := by
  cases h with
  | text hne hleft hrest =>
    refine .text (List.append_ne_nil_of_right_ne_nil a hne) (fun x y hsplit hy => ?_) hrest
    rcases List.append_eq_append_iff.1 hsplit with ⟨m, rfl, hb⟩ | ⟨m, ha', rfl⟩
    · exact hleft m y hb hy
    · by_cases hm : m = []
      · subst hm
        exact hleft [] b rfl hy
      · rw [List.append_assoc]
        exact ha x m ha' hm

theorem Cut.joined (h : Cut gs) : Cut (joined gs) := by
  induction h with
  | nil => exact .nil
  | @span d rest hshortest _ ih =>
    rw [joined_cons]
    rcases attach_cases (.delimited d) (Segment.joined rest) with ⟨a, b, more, hd, -, -⟩ | ⟨heq, -⟩
    · cases hd
    · rw [heq]
      exact .span (by rwa [flatMap_raw_joined]) ih
  | @text value rest hne hleft _ ih =>
    rw [joined_cons]
    rw [← flatMap_raw_joined] at hleft
    rcases attach_cases (.text value) (Segment.joined rest) with
      ⟨a, b, more, ha, hb, heq⟩ | ⟨heq, -⟩
    · cases ha
      rw [hb] at ih hleft
      rw [heq]
      exact ih.join hleft
    · rw [heq]
      exact .text hne hleft ih

/-- The comments of a source can be left out: what is left is cut into the other segments, with
neighbouring texts joined, so that no span comes about. -/
def Omittable (source : Text) : Prop :=
  ofSource ((uncommented (ofSource source)).flatMap raw) = joined (uncommented (ofSource source))

/-- Where no two neighbours meet in halves of a delimiter, the comments can be left out. -/
theorem omittable_of_unmet {source : Text} (h : Unmet (ofSource source)) : Omittable source := by
  have hcut := ((cut_ofSource source).uncommented h).joined
  unfold Omittable
  rw [← flatMap_raw_joined]
  exact hcut.ofSource_eq (apart_joined _)

end Segment
end Stencil
