import Stencil.Proofs.Template.Fused
import Stencil.Proofs.Template.Uncommented

/-!
# Printing sources with comments

A tree does not know of the comments of its source, so that printing it brings together what stood
on both sides of them. If no span comes about there, the printed source is cut into the segments of
the source without its comments, with neighbouring texts joined and each span written anew; and it
is parsed to the same tree, but for joined texts.
-/

set_option autoImplicit false

namespace Stencil

open Text (Trimmed)
open Segment (uncommented joined attach_cases Omittable)
open Node (treeFused)

/-! ## Tokens without comments -/

namespace Token

variable {p q : Position} {g : Segment} {gs rest : List Segment}

theorem kind_ofSegment_eq_comment : (ofSegment p g).kind = .comment ↔ g.isComment = true := by
  rcases g with value | ⟨delimiter, body⟩
  · simp [ofSegment, Segment.isComment]
  · cases delimiter <;> simp [ofSegment, Segment.isComment, Kind.ofDelimiter]

theorem significant_comment (hg : g.isComment = true) :
    significant (place p (g :: rest)) = significant (place (p.advance g.raw) rest) :=
  List.filter_cons_of_neg (by simp [kind_ofSegment_eq_comment.2 hg])

theorem significant_kept (hg : g.isComment = false) : significant (place p (g :: rest)) =
    ofSegment p g :: significant (place (p.advance g.raw) rest) := by
  refine List.filter_cons_of_pos ?_
  have hkind : (ofSegment p g).kind ≠ .comment := fun h => by
    rw [kind_ofSegment_eq_comment.1 h] at hg
    cases hg
  simpa using hkind

/-- The tokens of the joined segments, written anew, say what the tokens that are no comments say,
but for joined texts. -/
theorem joins_place (hfair : ∀ g ∈ uncommented gs, g.Fair) (p q : Position) :
    Joins (significant (place p gs)) (place q ((joined (uncommented gs)).map Segment.written)) := by
  induction gs generalizing p q with
  | nil => exact .nil
  | cons g rest ih =>
    cases hg : g.isComment with
    | true =>
      rw [Segment.uncommented_comment hg] at hfair ⊢
      rw [significant_comment hg]
      exact ih hfair _ _
    | false =>
      rw [Segment.uncommented_kept hg] at hfair ⊢
      obtain ⟨hhead, hrest⟩ := List.forall_mem_cons.1 hfair
      rw [significant_kept hg, Segment.joined_cons]
      rcases attach_cases g (joined (uncommented rest)) with
        ⟨a, b, more, rfl, hmore, heq⟩ | ⟨heq, -⟩
      · have hadvance : q.advance (a ++ b) = (q.advance a).advance b := List.foldl_append ..
        have hplace : place (q.advance a) ((.text b :: more).map Segment.written) =
            ofSegment (q.advance a) (.text b) :: place (q.advance (a ++ b))
              (more.map Segment.written) := by
          rw [hadvance]
          rfl
        have hjoins := ih hrest (p.advance a) (q.advance a)
        rw [hmore, hplace] at hjoins
        rw [heq]
        exact .text rfl rfl rfl rfl hjoins
      · obtain ⟨l, -, hlexeme⟩ := hhead.lexeme
        rw [heq]
        exact .same ((hlexeme q).2.trans (hlexeme p).1.symm) (ih hrest _ _)

/-- There is no comment among fair segments that are written anew. -/
theorem kind_ne_comment_of_written (hfair : ∀ g ∈ gs, g.Fair) (p : Position) :
    ∀ t ∈ place p (gs.map Segment.written), t.kind ≠ .comment := by
  induction gs generalizing p with
  | nil => exact nofun
  | cons g rest ih =>
    obtain ⟨hg, hrest⟩ := List.forall_mem_cons.1 hfair
    obtain ⟨l, -, hlexeme⟩ := hg.lexeme
    refine List.forall_mem_cons.2 ⟨fun hkind => ?_, ih hrest _⟩
    have hsome := (hlexeme p).2
    rw [lexeme?_eq_none.2 hkind] at hsome
    cases hsome

end Token

/-! ## Segments of printed sources -/

namespace Segment

theorem fair_joined {gs : List Segment} (h : ∀ g ∈ gs, g.Fair) : ∀ g ∈ joined gs, g.Fair := by
  induction gs with
  | nil => exact nofun
  | cons g rest ih =>
    obtain ⟨hg, hrest⟩ := List.forall_mem_cons.1 h
    have hjoined := ih hrest
    rw [joined_cons]
    rcases attach_cases g (joined rest) with ⟨a, b, more, -, hmore, heq⟩ | ⟨heq, -⟩
    · rw [hmore] at hjoined
      rw [heq]
      exact List.forall_mem_cons.2 ⟨trivial, (List.forall_mem_cons.1 hjoined).2⟩
    · rw [heq]
      exact List.forall_mem_cons.2 ⟨hg, hjoined⟩

/-- The segments of a parsed source that are no comments are fair, if no expression holds the closer
of expressions. -/
theorem fair_of_significant {source : Text} {tree : List Node}
    (hclosed : ∀ t ∈ Token.ofSource source, t.kind = .expression → ¬ ['}', '}'] <:+: t.content)
    (h : Derives (Token.significant (Token.ofSource source)) tree) :
    ∀ g ∈ uncommented (ofSource source), g.Fair := by
  intro g hg
  obtain ⟨hmem, hkept⟩ := List.mem_filter.1 hg
  obtain ⟨p, hp⟩ := Token.exists_place hmem .start
  have hcomment : (Token.ofSegment p g).kind ≠ .comment := fun hkind => by
    rw [Token.kind_ofSegment_eq_comment.1 hkind] at hkept
    cases hkept
  have hsignificant : Token.ofSegment p g ∈ Token.significant (Token.ofSource source) :=
    List.mem_filter.2 ⟨hp, by simpa using hcomment⟩
  exact fair_of_token hcomment (hclosed _ hp) (h.form_of_mem _ hsignificant)

end Segment

namespace Node

/-- If a source is parsed, none of its expressions holds the closer of expressions, and its comments
can be left out, then the printed tree is parsed too, to a tree that is the same but for joined
texts. -/
theorem parse_printTree_fused {path : Option Text} {source : Text} {tree : List Node}
    (hclosed : ∀ t ∈ Token.ofSource source, t.kind = .expression → ¬ ['}', '}'] <:+: t.content)
    (homit : Omittable source) (h : parse path source = .ok tree) :
    ∃ tree', parse path (printTree tree) = .ok tree' ∧ treeFused tree' = treeFused tree := by
  have hderives : Derives (Token.significant (Token.ofSource source)) tree :=
    parse_eq_ok_iff_derives.1 h
  have hfair := Segment.fair_of_significant hclosed hderives
  have hjoins := Token.joins_place hfair .start .start
  have hfairJoined := Segment.fair_joined hfair
  obtain ⟨hlexemes, hprint⟩ := Token.place_written hfairJoined .start .start
  have hsource : printTree tree =
      ((joined (uncommented (Segment.ofSource source))).map Segment.written).flatMap
        Segment.raw := by
    have hsame := congrArg (List.filterMap id) hlexemes
    rw [List.filterMap_map, List.filterMap_map, Function.id_comp] at hsame
    rw [printTree_eq, hderives.lexemes, Token.ofSource, ← hjoins.print, hsame, hprint]
  have hsegments : Segment.ofSource (printTree tree) =
      (joined (uncommented (Segment.ofSource source))).map Segment.written := by
    rw [← homit] at hfairJoined hsource ⊢
    rw [hsource, Segment.ofSource_written hfairJoined]
  obtain ⟨tree', hderives', hfused⟩ :=
    hderives.of_joins (fun t ht => Token.trimmed_of_place ht) hjoins
  have hcomment := Token.kind_ne_comment_of_written hfairJoined .start
  rw [← hsegments, ← Token.ofSource] at hderives' hcomment
  exact ⟨tree', (parse_eq_ok_of_comment_free hcomment).2 hderives', hfused⟩

end Node
end Stencil
