import Stencil.Proofs.Template.Offender

/-!
# The last tag that is not closed

An opening tag is closed by what follows it if some of the tokens that follow make, with it, one
node. Every opening tag inside a derivation is closed by the tokens after it. So if tags are still
open when all tokens are taken in, the innermost frame began with the last opening tag that is not
closed.
-/

set_option autoImplicit false

namespace Stencil

/-- Whether a tag opens a construct. -/
def Tag.opens : Tag → Bool
  | .openIf _ | .openFor _ _ | .openBlock _ => true
  | _ => false

namespace Token

variable {t u : Token} {after more us vs ts : List Token}

/-- A tag that opens a construct. -/
def Opens (t : Token) : Prop := t.kind = .tag ∧ (Tag.ofContent t.content).opens = true

/-- An opening tag makes one node with some of the tokens that follow it. -/
def IsClosedBy (t : Token) (after : List Token) : Prop :=
  ∃ us node, us <+: after ∧ Node.ofTokens? (t :: us) = .ok [node]

theorem IsClosedBy.append (h : t.IsClosedBy after) (more : List Token) :
    t.IsClosedBy (after ++ more) := by
  obtain ⟨us, node, hus, hnode⟩ := h
  exact ⟨us, node, hus.trans (List.prefix_append after more), hnode⟩

theorem IsClosedBy.of_derives {node : Node} (h : Derives (t :: us) [node]) (more : List Token) :
    t.IsClosedBy (us ++ more) := by
  refine ⟨us, node, List.prefix_append us more, ?_⟩
  have hrun := Progress.run_derives h .start []
  rw [List.append_nil, Progress.start, Progress.insertAll_root] at hrun
  exact Progress.ofTokens?_of_run hrun

theorem Says.opens {tag : Tag} (h : t.Says tag) (htag : tag.opens = true) : t.Opens :=
  ⟨h.1, by rw [h.2.read, htag]⟩

theorem Says.not_opens {tag : Tag} (h : t.Says tag) (htag : tag.opens = false) : ¬ t.Opens := by
  rintro ⟨-, hopens⟩
  rw [h.2.read, htag] at hopens
  cases hopens

theorem not_opens_of_kind (h : t.kind ≠ .tag) : ¬ t.Opens := fun hopens => h hopens.1

/-- Every opening tag among tokens is closed by those that follow it. -/
def EachClosed : List Token → Prop
  | [] => True
  | t :: rest => (t.Opens → t.IsClosedBy rest) ∧ EachClosed rest

theorem EachClosed.of_not_opens (h : ¬ t.Opens) (hrest : EachClosed after) :
    EachClosed (t :: after) := ⟨fun hopens => absurd hopens h, hrest⟩

theorem EachClosed.append (h : EachClosed us) (h' : EachClosed vs) : EachClosed (us ++ vs) := by
  induction us with
  | nil => exact h'
  | cons u us ih => exact ⟨fun hopens => (h.1 hopens).append vs, ih h.2⟩

theorem EachClosed.of_mem (h : EachClosed ts) {before : List Token}
    (hts : ts = before ++ u :: after) (hu : u.Opens) : u.IsClosedBy after := by
  induction before generalizing ts with
  | nil =>
    subst hts
    exact h.1 hu
  | cons v before ih =>
    subst hts
    exact ih h.2 rfl

end Token

open Token (EachClosed)

/-! ## Derivations -/

theorem Leaf.not_opens {t : Token} {n : Node} (h : Leaf t n) : ¬ t.Opens := by
  cases h with
  | text hkind => exact Token.not_opens_of_kind (by rw [hkind]; exact nofun)
  | expression hkind => exact Token.not_opens_of_kind (by rw [hkind]; exact nofun)
  | unknown hmeans => exact hmeans.not_opens rfl
  | inclusion hmeans => exact hmeans.not_opens rfl
  | extension hmeans => exact hmeans.not_opens rfl

theorem Token.not_opens_ofBranch {u : Token} {next : Option Text}
    (h : u.Says (Tag.ofBranch false next)) : ¬ u.Opens := by
  cases next with
  | none => exact h.not_opens rfl
  | some _ => exact h.not_opens rfl

mutual

theorem Derives.eachClosed {ts : List Token} {tree : List Node} (h : Derives ts tree) :
    EachClosed ts := by
  match h with
  | .nil => trivial
  | .leaf hleaf htree => exact .of_not_opens hleaf.not_opens htree.eachClosed
  | @Derives.conditional t test us ts branches tree hopen harms htree =>
    have hnode := Derives.conditional hopen harms .nil
    rw [List.append_nil] at hnode
    exact ⟨fun _ => .of_derives hnode ts, harms.eachClosed.append htree.eachClosed⟩
  | @Derives.loop t u names it us ts body tree hopen hbody hclose htree =>
    have hnode := Derives.loop hopen hbody hclose .nil
    have hclosed : t.IsClosedBy (us ++ u :: ts) := by
      simpa using Token.IsClosedBy.of_derives hnode ts
    exact ⟨fun _ => hclosed,
      hbody.eachClosed.append (.of_not_opens (hclose.not_opens rfl) htree.eachClosed)⟩
  | @Derives.block t u name us ts body tree hopen hbody hclose htree =>
    have hnode := Derives.block hopen hbody hclose .nil
    have hclosed : t.IsClosedBy (us ++ u :: ts) := by
      simpa using Token.IsClosedBy.of_derives hnode ts
    exact ⟨fun _ => hclosed,
      hbody.eachClosed.append (.of_not_opens (hclose.not_opens rfl) htree.eachClosed)⟩
termination_by structural h

theorem Arms.eachClosed {test : Option Text} {us : List Token} {branches : List (Branch Node)}
    (h : Arms test us branches) : EachClosed us := by
  match h with
  | .close hbody hclose =>
    exact hbody.eachClosed.append (.of_not_opens (hclose.not_opens rfl) trivial)
  | .next hbody hnext harms =>
    exact hbody.eachClosed.append (.of_not_opens (Token.not_opens_ofBranch hnext) harms.eachClosed)
termination_by structural h

end

theorem Begun.eachClosed {first : Text} {us : List Token} {finished : List (Branch Node)}
    {test : Option Text} (h : Begun first us finished test) : EachClosed us := by
  induction h with
  | first => trivial
  | next _ hbody hu ih =>
    exact ih.append (hbody.eachClosed.append (.of_not_opens (Token.not_opens_ofBranch hu) trivial))

/-! ## Frames -/

namespace Progress

/-- The tokens that finish branches of a conditional leave its frame open. -/
theorem run_begun {first : Text} {us : List Token} {finished : List (Branch Node)}
    {test : Option Text} (h : Begun first us finished test) (opened : Token) :
    run ⟨[], [⟨opened, .conditional [] (some first), []⟩]⟩ us =
      .ok ⟨[], [⟨opened, .conditional finished test, []⟩]⟩ := by
  induction h with
  | first => rfl
  | @next us vs u finished test body next _ hbody hu ih =>
    have hstep := step_arm hu [] []
      (show Frame.continueWith ⟨opened, .conditional finished (some test), body⟩ next = _ from rfl)
    rw [run_append ih, run_derives hbody, insertAll_frame]
    exact run_cons_of_ok hstep []

/-- The tokens that a frame stands for open it, and nothing else stays open. -/
theorem run_gathered {us : List Token} {f : Frame} (h : Gathered us f) :
    start.run us = .ok ⟨[], [f]⟩ := by
  have hopened : ∀ {t tag header}, Token.Says t tag →
      (∀ p : Progress, Tag.ofContent t.content = tag → p.stepTag t = .ok (p.push t header)) →
      start.step t = .ok ⟨[], [⟨t, header, []⟩]⟩ := by
    intro t tag header hmeans hpush
    obtain ⟨hstep, htag⟩ := step_of_meaning (p := start) hmeans
    exact hstep.trans (hpush start htag)
  have hbody : ∀ {vs body} (f : Frame), f.body = [] → Derives vs body →
      run ⟨[], [f]⟩ vs = .ok ⟨[], [{ f with body := body }]⟩ := by
    intro vs body f hf hvs
    have hrun := run_derives hvs ⟨[], [f]⟩ []
    rw [List.append_nil, insertAll_frame, hf, List.nil_append] at hrun
    exact hrun
  cases h with
  | conditional hopen hbegun hderives =>
    rw [run_cons_of_ok (hopened hopen fun p htag => by rw [stepTag, htag]),
      run_append (run_begun hbegun _)]
    exact hbody _ rfl hderives
  | loop hopen hderives =>
    rw [run_cons_of_ok (hopened hopen fun p htag => by rw [stepTag, htag])]
    exact hbody _ rfl hderives
  | block hopen hderives =>
    rw [run_cons_of_ok (hopened hopen fun p htag => by rw [stepTag, htag])]
    exact hbody _ rfl hderives

end Progress

/-- The opening tag of a frame, and the tokens after it, which close every opening tag among
them. -/
theorem Gathered.exists_opened {us : List Token} {f : Frame} (h : Gathered us f) :
    ∃ rest, us = f.opened :: rest ∧ f.opened.Opens ∧ EachClosed rest ∧
      Text.firstWord f.opened.content = f.construct.keyword := by
  have hkeyword : ∀ {t tag k}, Token.Says t tag → tag.keyword? = some k →
      Text.firstWord t.content = k :=
    fun hmeans hk => Tag.firstWord_of_keyword? (by rw [hmeans.2.read, hk])
  cases h with
  | conditional hopen hbegun hbody =>
    exact ⟨_, rfl, hopen.opens rfl, hbegun.eachClosed.append hbody.eachClosed, hkeyword hopen rfl⟩
  | loop hopen hbody => exact ⟨_, rfl, hopen.opens rfl, hbody.eachClosed, hkeyword hopen rfl⟩
  | block hopen hbody => exact ⟨_, rfl, hopen.opens rfl, hbody.eachClosed, hkeyword hopen rfl⟩

namespace Progress

/-! ## Nothing is taken back -/

theorem length_root_insert (p : Progress) (n : Node) :
    p.root.length ≤ (p.insert n).root.length := by
  rcases p with ⟨root, _ | ⟨f, frames⟩⟩ <;> simp [insert]

variable {p q : Progress}

theorem length_root_continueWith {t : Token} {keyword : Text} {test : Option Text}
    (h : p.continueWith t keyword test = .ok q) : p.root.length ≤ q.root.length := by
  unfold continueWith at h
  split at h
  · cases h
  · split at h
    · cases h
      exact Nat.le_refl _
    · cases h

theorem length_root_close {t : Token} {c : Construct} (h : p.close t c = .ok q) :
    p.root.length ≤ q.root.length := by
  unfold close at h
  split at h
  · cases h
  · split at h
    · rename_i f rest _ _
      cases h
      exact length_root_insert ⟨p.root, rest⟩ f.close
    · cases h

theorem length_root_step {t : Token} (h : p.step t = .ok q) : p.root.length ≤ q.root.length := by
  unfold step at h
  split at h
  · cases h
    exact length_root_insert p _
  · cases h
    exact length_root_insert p _
  · unfold stepTag at h
    split at h
    · cases h
      exact Nat.le_refl _
    · cases h
      exact Nat.le_refl _
    · cases h
      exact Nat.le_refl _
    · exact length_root_continueWith h
    · exact length_root_continueWith h
    · exact length_root_close h
    · cases h
      exact length_root_insert p _
    · cases h
      exact length_root_insert p _
    · cases h
    · cases h
      exact length_root_insert p _
  · cases h
    exact Nat.le_refl _

theorem length_root_run {ts : List Token} (h : p.run ts = .ok q) :
    p.root.length ≤ q.root.length := by
  induction ts generalizing p with
  | nil =>
    cases h
    exact Nat.le_refl _
  | cons t ts ih =>
    rw [run] at h
    cases hstep : p.step t with
    | error e =>
      rw [hstep] at h
      cases h
    | ok p' =>
      rw [hstep] at h
      exact Nat.le_trans (length_root_step hstep) (ih h)

/-- The tag that opened a frame is not closed by the tokens that the frame stands for. -/
theorem not_isClosedBy {t : Token} {after : List Token} {f : Frame}
    (h : start.run (t :: after) = .ok ⟨[], [f]⟩) : ¬ t.IsClosedBy after := by
  rintro ⟨us, node, ⟨rest, rfl⟩, hnode⟩
  have hrun := run_of_ofTokens? hnode
  rw [← List.cons_append, run_append hrun] at h
  -- The node would have to be taken back from the top level.
  have hlength := length_root_run h
  simp at hlength

end Progress

/-! ## Comments -/

theorem Node.ofTokens?_significant (ts : List Token) :
    Node.ofTokens? (Token.significant ts) = Node.ofTokens? ts := by
  rw [Node.ofTokens?, Node.ofTokens?, Progress.run_significant]

namespace Token

theorem significant_cons {t : Token} (h : t.kind ≠ .comment) (ts : List Token) :
    significant (t :: ts) = t :: significant ts := by
  simp [significant, h]

/-- Comments do not keep an opening tag from being closed. -/
theorem IsClosedBy.of_significant {t : Token} {after : List Token} (ht : t.kind ≠ .comment)
    (h : t.IsClosedBy (significant after)) : t.IsClosedBy after := by
  obtain ⟨us, node, ⟨rest, hus⟩, hnode⟩ := h
  obtain ⟨vs, tail, rfl, rfl, -⟩ := List.filter_eq_append_iff.1 hus.symm
  refine ⟨vs, node, List.prefix_append vs tail, ?_⟩
  rw [← Node.ofTokens?_significant, significant_cons ht]
  exact hnode

theorem EachClosed.of_significant {ts : List Token} (h : EachClosed (significant ts)) :
    EachClosed ts := by
  induction ts with
  | nil => trivial
  | cons t ts ih =>
    by_cases hkind : t.kind = .comment
    · have hskip : significant (t :: ts) = significant ts := by simp [significant, hkind]
      rw [hskip] at h
      exact .of_not_opens (not_opens_of_kind (by simp [hkind])) (ih h)
    · rw [significant_cons hkind] at h
      exact ⟨fun hopens => (h.1 hopens).of_significant hkind, ih h.2⟩

/-- The last opening tag that is not closed by the tokens after it. -/
structure IsLastUnclosed (t : Token) (after : List Token) : Prop where
  opens : t.Opens
  unclosed : ¬ t.IsClosedBy after
  later : ∀ between u rest, after = between ++ u :: rest → u.Opens → u.IsClosedBy rest

/-- If a frame is open when tokens are taken in, it began with the last opening tag among them that
is not closed. -/
theorem exists_isLastUnclosed {ts : List Token} {p : Progress} {f : Frame} {frames : List Frame}
    (htrim : ∀ t ∈ ts, t.kind = .tag → Text.Trimmed t.content) (h : Progress.start.run ts = .ok p)
    (hframes : p.frames = f :: frames) :
    ∃ before after, ts = before ++ f.opened :: after ∧ f.opened.IsLastUnclosed after ∧
      Text.firstWord f.opened.content = f.construct.keyword := by
  have hreached : Reached ([] ++ significant ts) p := (Reached.root .nil).run htrim h
  rw [List.nil_append] at hreached
  generalize hsignificant : significant ts = vs at hreached
  cases hreached with
  | root _ => cases hframes
  | @frame vs us root g frames' hbefore hgathered =>
    cases hframes
    obtain ⟨rest, rfl, hopens, hclosed, hkeyword⟩ := hgathered.exists_opened
    obtain ⟨before, tail, rfl, -, htail⟩ := List.filter_eq_append_iff.1 hsignificant
    obtain ⟨gap, after, rfl, -, hkind, rfl⟩ := List.filter_eq_cons_iff.1 htail
    refine ⟨before ++ gap, after, (List.append_assoc ..).symm, ⟨hopens, ?_, ?_⟩, hkeyword⟩
    · refine Progress.not_isClosedBy (f := f) ?_
      rw [← Progress.run_significant, significant_cons (by simpa using hkind)]
      exact Progress.run_gathered hgathered
    · intro between u rest hafter hu
      exact EachClosed.of_mem (.of_significant hclosed) hafter hu

end Token
end Stencil
