import Stencil.Proofs.Template.Grammar

/-!
# The first token that cannot be placed

Parsing stops at a tag that no continuation can make good: what was taken in before it is a template
as soon as the open tags are closed. If all tokens are taken in and tags are still open, the
innermost of them is the last opening tag that is not closed: every opening tag after it forms a node
with tokens that follow it.
-/

set_option autoImplicit false

namespace Stencil

/-! ## Keywords -/

/-- The keyword that a tag of a meaning begins with. -/
def Tag.keyword? : Tag → Option Text
  | .openIf _ => some "if".toList
  | .openFor _ _ => some "for".toList
  | .openBlock _ => some "block".toList
  | .elseIf _ => some "elif".toList
  | .otherwise => some "else".toList
  | .close c => some c.endKeyword
  | .inclusion _ => some "include".toList
  | .extension _ => some "extends".toList
  | .malformed keyword _ => some keyword
  | .unknown => none

theorem Tag.keyword?_ofArguments {α : Type} {make : α → Tag} {keyword k : Text} (expected : Text)
    (read : Option α) (hmake : ∀ a, (make a).keyword? = some keyword)
    (h : (ofArguments make keyword expected read).keyword? = some k) : keyword = k := by
  cases read with
  | none => exact Option.some.inj h
  | some a => exact Option.some.inj ((hmake a).symm.trans h)

/-- A tag that has a meaning begins with the keyword of that meaning. -/
theorem Tag.firstWord_of_keyword? {content k : Text} (h : (ofContent content).keyword? = some k) :
    Text.firstWord content = k := by
  rw [ofContent_eq] at h
  generalize Text.firstWord content = keyword at h
  generalize content.drop _ = rest at h
  by_cases hknown : keyword ∈ keywords
  · simp only [keywords, List.mem_cons, List.not_mem_nil, or_false] at hknown
    rcases hknown with rfl | rfl | rfl | rfl | rfl | rfl | rfl | rfl | rfl | rfl
    · exact Option.some.inj h
    · exact Option.some.inj h
    · exact Option.some.inj h
    · exact Option.some.inj h
    · exact keyword?_ofArguments loopForm _ (fun _ => rfl) h
    · exact Option.some.inj h
    · exact keyword?_ofArguments blockForm _ (fun _ => rfl) h
    · exact Option.some.inj h
    · exact keyword?_ofArguments _ _ (fun _ => rfl) h
    · exact keyword?_ofArguments _ _ (fun _ => rfl) h
  · rw [ofKeyword_of_not_mem hknown] at h
    cases h

/-! ## Runs -/

namespace Progress

variable {p q : Progress} {ts us : List Token}

theorem run_append (h : p.run ts = .ok q) (us : List Token) : p.run (ts ++ us) = q.run us := by
  induction ts generalizing p with
  | nil =>
    cases h
    rfl
  | cons t ts ih =>
    rw [run] at h
    cases hstep : p.step t with
    | error e =>
      rw [hstep] at h
      cases h
    | ok p' =>
      rw [hstep] at h
      rw [List.cons_append, run_cons_of_ok hstep]
      exact ih h

/-- A run that fails does so at a token, in the state that the tokens before it lead to. -/
theorem exists_of_run_eq_error {e : SyntaxProblem} (h : p.run ts = .error e) :
    ∃ before t after q, ts = before ++ t :: after ∧ p.run before = .ok q ∧
      q.step t = .error e := by
  induction ts generalizing p with
  | nil => cases h
  | cons t ts ih =>
    rw [run] at h
    cases hstep : p.step t with
    | error e' =>
      rw [hstep] at h
      cases h
      exact ⟨[], t, ts, p, rfl, rfl, hstep⟩
    | ok p' =>
      rw [hstep] at h
      obtain ⟨before, u, after, q, rfl, hbefore, hu⟩ := ih h
      exact ⟨t :: before, u, after, q, rfl, (run_cons_of_ok hstep before).trans hbefore, hu⟩

theorem ofTokens?_of_run (h : start.run ts = .ok p) : Node.ofTokens? ts = p.finish := by
  rw [Node.ofTokens?, h]

theorem run_of_ofTokens? {tree : List Node} (h : Node.ofTokens? ts = .ok tree) :
    start.run ts = .ok ⟨tree, []⟩ := by
  unfold Node.ofTokens? at h
  cases hrun : start.run ts with
  | error e =>
    rw [hrun] at h
    cases h
  | ok p =>
    rw [hrun] at h
    rcases p with ⟨root, _ | ⟨f, frames⟩⟩
    · cases h
      rfl
    · cases h

/-- No continuation of tokens is a template if the last of them cannot be placed. -/
theorem ofTokens?_ne_ok {before : List Token} {t : Token} {e : SyntaxProblem}
    (hbefore : start.run before = .ok q) (ht : q.step t = .error e) (rest : List Token)
    (tree : List Node) : Node.ofTokens? (before ++ t :: rest) ≠ .ok tree := by
  intro h
  have hrun := run_of_ofTokens? h
  rw [run_append hbefore, run, ht] at hrun
  cases hrun

/-! ## What cannot be placed -/

theorem eq_unexpected_of_continueWith {t : Token} {keyword : Text} {next : Option Text}
    {e : SyntaxProblem} (h : p.continueWith t keyword next = .error e) :
    e = ⟨.unexpected keyword, t⟩ := by
  unfold continueWith at h
  split at h
  · cases h
    rfl
  · split at h
    · cases h
    · cases h
      rfl

theorem eq_unexpected_of_close {t : Token} {c : Construct} {e : SyntaxProblem}
    (h : p.close t c = .error e) : e = ⟨.unexpected c.endKeyword, t⟩ := by
  unfold close at h
  split at h
  · cases h
    rfl
  · split at h
    · cases h
    · cases h
      rfl

/-- The problem with a tag names the tag and its keyword. -/
theorem cases_of_stepTag {t : Token} {e : SyntaxProblem} (h : p.stepTag t = .error e) :
    e = ⟨.unexpected (Text.firstWord t.content), t⟩ ∨
      ∃ expected, e = ⟨.malformed (Text.firstWord t.content) expected, t⟩ := by
  have hkeyword : ∀ {tag k}, Tag.ofContent t.content = tag → tag.keyword? = some k →
      k = Text.firstWord t.content := by
    rintro _ k rfl hk
    exact (Tag.firstWord_of_keyword? hk).symm
  unfold stepTag at h
  split at h
  · cases h
  · cases h
  · cases h
  · rw [← hkeyword ‹_› rfl]
    exact .inl (eq_unexpected_of_continueWith h)
  · rw [← hkeyword ‹_› rfl]
    exact .inl (eq_unexpected_of_continueWith h)
  · rw [← hkeyword ‹_› rfl]
    exact .inl (eq_unexpected_of_close h)
  · cases h
  · cases h
  · rename_i keyword expected htag
    cases h
    exact .inr ⟨expected, by rw [← hkeyword htag rfl]⟩
  · cases h

/-- Only a tag cannot be placed; the problem names it and its keyword. -/
theorem of_step_eq_error {t : Token} {e : SyntaxProblem} (h : p.step t = .error e) :
    t.kind = .tag ∧ e.token = t ∧
      (e.cause = .unexpected (Text.firstWord t.content) ∨
        ∃ expected, e.cause = .malformed (Text.firstWord t.content) expected) := by
  unfold step at h
  split at h
  · cases h
  · cases h
  · refine ⟨‹_›, ?_⟩
    rcases cases_of_stepTag h with rfl | ⟨expected, rfl⟩
    · exact ⟨rfl, .inl rfl⟩
    · exact ⟨rfl, .inr ⟨expected, rfl⟩⟩
  · cases h

end Progress

/-! ## Closing what is open -/

/-- A tag that closes a construct. -/
def Token.closing (c : Construct) : Token :=
  ⟨.tag, c.endKeyword, .start, ['{', '%', ' '] ++ c.endKeyword ++ [' ', '%', '}']⟩

theorem Token.says_closing (c : Construct) : (closing c).Says (.close c) := by
  have hform := Tag.Form.close c .none
  rw [List.append_nil] at hform
  exact ⟨rfl, hform⟩

namespace Progress

/-- The tags that close the open frames, the innermost first. -/
def closers (p : Progress) : List Token := p.frames.map fun f => Token.closing f.construct

theorem closers_insert (p : Progress) (n : Node) : (p.insert n).closers = p.closers := by
  rcases p with ⟨root, _ | ⟨f, frames⟩⟩ <;> rfl

/-- With the closing tags of its open frames, what was taken in is a template. -/
theorem exists_run_closers (p : Progress) : ∃ tree, p.run p.closers = .ok ⟨tree, []⟩ := by
  generalize hlength : p.frames.length = n
  induction n generalizing p with
  | zero =>
    rcases p with ⟨root, _ | ⟨f, frames⟩⟩
    · exact ⟨root, rfl⟩
    · cases hlength
  | succ n ih =>
    rcases p with ⟨root, _ | ⟨f, frames⟩⟩
    · cases hlength
    · have hclose := step_close (Token.says_closing f.construct) rfl
        (rfl : (⟨root, f :: frames⟩ : Progress) = _)
      have hframes : (insert ⟨root, frames⟩ f.close).frames.length = n := by
        cases frames <;> exact Nat.succ.inj hlength
      obtain ⟨tree, htree⟩ := ih _ hframes
      rw [closers_insert] at htree
      exact ⟨tree, (run_cons_of_ok hclose _).trans htree⟩

theorem exists_ofTokens?_closers {ts : List Token} {p : Progress} (h : start.run ts = .ok p) :
    ∃ tree, Node.ofTokens? (ts ++ p.closers) = .ok tree := by
  obtain ⟨tree, htree⟩ := p.exists_run_closers
  exact ⟨tree, ofTokens?_of_run ((run_append h _).trans htree)⟩

end Progress
end Stencil
