import Stencil.Proofs.Fault.Located
import Stencil.Proofs.Template.Places
import Stencil.Proofs.Template.RoundTrip
import Stencil.Proofs.Template.Unclosed

/-!
# Faults of parsing point at the first offending tag

The fault of a source that is no template has the place of a tag of the source. Either that tag is
the first one that cannot be placed, or all tokens are taken in and it is the last opening tag that
is not closed.
-/

set_option autoImplicit false

namespace Stencil

/-! ## Places of tokens -/

theorem Text.LastFeed.ge {t : Text} {i : Int} (h : t.LastFeed i) : -1 ≤ i := by
  cases h with
  | missing _ => exact Int.le_refl _
  | between before after _ => omega

/-- Lines and columns are no greater than what is before them is long. -/
theorem Position.Behind.isWritable {p : Position} {t : Text} (h : p.Behind t)
    (hlength : t.length + 1 < Number.firstUnwritable) : p.IsWritable := by
  obtain ⟨hoffset, hline, i, hfeed, hcolumn⟩ := h
  have hcount := List.count_le_length (a := '\n') (l := t)
  have hfrom := hfeed.ge
  constructor
  · omega
  · omega

namespace Token

/-- A token stands behind the tokens before it. -/
theorem behind_of_ofSource {source : Text} {before after : List Token} {t : Token}
    (h : ofSource source = before ++ t :: after) : t.position.Behind (before.flatMap raw) := by
  obtain ⟨s, -, -, hbehind⟩ := exists_of_place Position.behind_start h
  exact hbehind

theorem length_before_le {source : Text} {before after : List Token} {t : Token}
    (h : ofSource source = before ++ t :: after) :
    (before.flatMap raw).length ≤ source.length := by
  have hcover : (ofSource source).flatMap raw = source := by
    rw [ofSource, flatMap_raw_place, Segment.flatMap_raw_ofSource]
  have hlength := congrArg List.length hcover
  rw [h, List.flatMap_append, List.length_append] at hlength
  omega

/-- The first token that cannot be placed: with the closing tags of what is open, the tokens before
it are a template; with the token, no continuation of them is one. -/
structure IsFirstUnplaced (before : List Token) (t : Token) : Prop where
  viable : ∃ p tree, Progress.start.run before = .ok p ∧
    Node.ofTokens? (before ++ p.closers) = .ok tree
  dead : ∀ rest tree, Node.ofTokens? (before ++ t :: rest) ≠ .ok tree

end Token

namespace SyntaxProblem

/-- What a problem says of the tokens of a source. -/
inductive Shows (tokens : List Token) : SyntaxProblem → Prop where
  | unplaced {before after : List Token} {t : Token} {cause : SyntaxCause} :
      tokens = before ++ t :: after → t.kind = .tag → Token.IsFirstUnplaced before t →
      cause = .unexpected (Text.firstWord t.content) ∨
        (∃ expected, cause = .malformed (Text.firstWord t.content) expected) →
      Shows tokens ⟨cause, t⟩
  | unclosed {before after : List Token} {t : Token} {p : Progress} {tree : List Node} :
      tokens = before ++ t :: after → Progress.start.run tokens = .ok p → p.frames ≠ [] →
      Node.ofTokens? (tokens ++ p.closers) = .ok tree → t.IsLastUnclosed after →
      Shows tokens ⟨.unclosed (Text.firstWord t.content), t⟩

theorem shows_of_ofTokens? {tokens : List Token} {e : SyntaxProblem}
    (htrim : ∀ t ∈ tokens, t.kind = .tag → Text.Trimmed t.content)
    (h : Node.ofTokens? tokens = .error e) : e.Shows tokens := by
  cases hrun : Progress.start.run tokens with
  | error e' =>
    rw [Node.ofTokens?, hrun] at h
    cases h
    obtain ⟨before, t, after, q, htokens, hbefore, hstep⟩ := Progress.exists_of_run_eq_error hrun
    obtain ⟨hkind, htoken, hcause⟩ := Progress.of_step_eq_error hstep
    obtain ⟨tree, htree⟩ := Progress.exists_ofTokens?_closers hbefore
    have hfirst : Token.IsFirstUnplaced before t :=
      ⟨⟨q, tree, hbefore, htree⟩, Progress.ofTokens?_ne_ok hbefore hstep⟩
    rcases e with ⟨cause, t'⟩
    obtain rfl : t' = t := htoken
    exact .unplaced htokens hkind hfirst hcause
  | ok p =>
    rw [Progress.ofTokens?_of_run hrun] at h
    rcases p with ⟨root, _ | ⟨f, frames⟩⟩
    · cases h
    · cases h
      obtain ⟨before, after, htokens, hlast, hword⟩ :=
        Token.exists_isLastUnclosed htrim hrun rfl
      obtain ⟨tree, htree⟩ := Progress.exists_ofTokens?_closers hrun
      rw [← hword]
      exact .unclosed htokens hrun (List.cons_ne_nil _ _) htree hlast

end SyntaxProblem

namespace Node

/-- A failure to parse points at the first offending tag. It is a fault, unless the source is so
long that its lines or columns cannot be written. The fault has the template that was given and the
line and column of a tag of the source, which are those behind the text before it, and its message
ends with them. If the code is that of a tag in the wrong place or with wrong arguments, the tag is
the first token that cannot be placed. If it is that of an open tag, all tokens are taken in, the
closing tags of the open frames complete the template, and the tag is the last opening tag that is
not closed. -/
theorem parse_points_at_offender (path : Option Text) (source : Text) (e : Failure)
    (h : parse path source = .error e) :
    (source.length + 1 < Number.firstUnwritable → ∃ f, e = .fault f) ∧
    ∀ f, e = .fault f → ∃ before t after,
      Token.ofSource source = before ++ t :: after ∧ t.kind = .tag ∧
      t.position.Behind (before.flatMap Token.raw) ∧
      f.template = templateValue path ∧ f.line = .int t.position.line ∧
      f.column = .int t.position.column ∧
      let word := Text.firstWord t.content
      let place := t.position.words path
      (f.code = "TEMPLATE_SYNTAX".toList ∧
          f.message = "Unexpected '".toList ++ word ++ "'".toList ++ place ∧
          Token.IsFirstUnplaced before t) ∨
        (f.code = "TEMPLATE_INVALID_TAG".toList ∧
          f.message = "Invalid '".toList ++ word ++ "' tag".toList ++ place ∧
          Token.IsFirstUnplaced before t) ∨
        (f.code = "TEMPLATE_UNCLOSED_TAG".toList ∧
          f.message = "Unclosed '".toList ++ word ++ "' tag".toList ++ place ∧
          t.IsLastUnclosed after ∧
          ∃ p tree, Progress.start.run (Token.ofSource source) = .ok p ∧ p.frames ≠ [] ∧
            ofTokens? (Token.ofSource source ++ p.closers) = .ok tree) := by
  unfold parse at h
  split at h
  · cases h
  · rename_i problem hproblem
    cases h
    have htrim : ∀ t ∈ Token.ofSource source, t.kind = .tag → Text.Trimmed t.content :=
      fun t ht => Token.trimmed_of_place ht
    have hshows : problem.Shows (Token.ofSource source) :=
      SyntaxProblem.shows_of_ofTokens? htrim hproblem
    constructor
    · intro hlength
      have hwritable : problem.token.position.IsWritable := by
        cases hshows with
        | unplaced htokens _ _ _ =>
          have hbefore := Token.length_before_le htokens
          exact (Token.behind_of_ofSource htokens).isWritable (by omega)
        | unclosed htokens _ _ _ _ =>
          have hbefore := Token.length_before_le htokens
          exact (Token.behind_of_ofSource htokens).isWritable (by omega)
      exact problem.exists_failure path hwritable
    · intro f hf
      obtain ⟨hcode, htemplate, hline, hcolumn, hmessage⟩ := SyntaxProblem.locates_of_failure hf
      cases hshows with
      | @unplaced before after t cause htokens hkind hfirst hcause =>
        refine ⟨before, t, after, htokens, hkind, Token.behind_of_ofSource htokens, htemplate,
          hline, hcolumn, ?_⟩
        rcases hcause with rfl | ⟨expected, rfl⟩
        · exact .inl ⟨hcode, hmessage, hfirst⟩
        · exact .inr (.inl ⟨hcode, hmessage, hfirst⟩)
      | @unclosed before after t p tree htokens hrun hframes htree hlast =>
        refine ⟨before, t, after, htokens, hlast.opens.1, Token.behind_of_ofSource htokens,
          htemplate, hline, hcolumn, .inr (.inr ⟨hcode, hmessage, hlast, p, tree, ?_⟩)⟩
        exact ⟨hrun, hframes, htree⟩

/-- The code and the message of a parse that ends with a fault. -/
def told? : Except Failure (List Node) → Option (Text × Text)
  | .error (.fault f) => some (f.code, f.message)
  | _ => none

theorem eq_error_of_told? {r : Except Failure (List Node)} {code message : Text}
    (h : told? r = some (code, message)) :
    ∃ f, r = .error (.fault f) ∧ f.code = code ∧ f.message = message := by
  unfold told? at h
  split at h
  · rename_i f
    cases h
    exact ⟨f, rfl, rfl, rfl⟩
  · cases h

/-- A loop is closed inside a condition: the closing tag in the second line is where the source stops
being the beginning of a template. -/
theorem parse_points_at_offender_mismatched :
    ∃ f before t after,
      parse (some "a.html".toList) "{% if x %}\n {% endfor %}".toList =
        .error (.fault f) ∧
      Token.ofSource "{% if x %}\n {% endfor %}".toList = before ++ t :: after ∧
      Token.IsFirstUnplaced before t ∧
      f.line = .int t.position.line ∧ f.column = .int t.position.column ∧
      f.message = "Unexpected 'endfor' in \"a.html\" at line 2, column 2".toList := by
  have htold : told? (parse (some "a.html".toList)
      "{% if x %}\n {% endfor %}".toList) = some ("TEMPLATE_SYNTAX".toList,
        "Unexpected 'endfor' in \"a.html\" at line 2, column 2".toList) := by
    decide +kernel
  obtain ⟨f, hf, hcode, hmessage⟩ := eq_error_of_told? htold
  obtain ⟨before, t, after, htokens, -, -, -, hline, hcolumn, hcases⟩ :=
    (parse_points_at_offender _ _ _ hf).2 f rfl
  have hunplaced : Token.IsFirstUnplaced before t := by
    rcases hcases with h | h | h
    · exact h.2.2
    · exact h.2.2
    · exact absurd (hcode.symm.trans h.1) (by decide)
  exact ⟨f, before, t, after, hf, htokens, hunplaced, hline, hcolumn, hmessage⟩

end Node
end Stencil
