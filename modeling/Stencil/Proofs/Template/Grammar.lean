import Stencil.Proofs.Template.Form
import Stencil.Template.Frame

/-!
# The grammar of templates

Which sequences of tokens form which trees, by nesting alone: leaves, conditionals with their arms,
loops and blocks. Comments are not part of it. Taking tokens in with a stack of frames is complete
for the grammar, because derived tokens go into the innermost body and leave the frames as they
were; and it is sound, because at every moment each frame holds a derived body.
-/

set_option autoImplicit false

namespace Stencil

/-- The tag that begins a branch of a conditional; the first branch has a keyword of its own. -/
def Tag.ofBranch : Bool → Option Text → Tag
  | true, some test => .openIf test
  | false, some test => .elseIf test
  | _, none => .otherwise

/-! ## Derivations -/

/-- A tag token whose content has a form of the given meaning. -/
def Token.Says (t : Token) (tag : Tag) : Prop := t.kind = .tag ∧ Tag.Form t.content tag

/-- Tokens without the comments. -/
def Token.significant (tokens : List Token) : List Token :=
  tokens.filter fun t => t.kind != .comment

theorem Token.significant_append (ts us : List Token) :
    significant (ts ++ us) = significant ts ++ significant us := List.filter_append ..

/-- A token that is a node of its own. -/
inductive Leaf : Token → Node → Prop where
  | text {t : Token} : t.kind = .text → Leaf t (.text t.content)
  | expression {t : Token} : t.kind = .expression →
      Leaf t (.interpolation t.content (some t.position))
  | unknown {t : Token} : t.Says .unknown → Leaf t (.text t.raw)
  | inclusion {t : Token} {path : Text} : t.Says (.inclusion path) → Leaf t (.inclusion path)
  | extension {t : Token} {path : Text} : t.Says (.extension path) → Leaf t (.extension path)

mutual

/-- The tokens of a tree. -/
inductive Derives : List Token → List Node → Prop where
  | nil : Derives [] []
  | leaf {t : Token} {n : Node} {ts : List Token} {tree : List Node} :
      Leaf t n → Derives ts tree → Derives (t :: ts) (n :: tree)
  | conditional {t : Token} {test : Text} {us ts : List Token} {branches : List (Branch Node)}
      {tree : List Node} : t.Says (.openIf test) → Arms (some test) us branches →
      Derives ts tree → Derives (t :: us ++ ts) (.conditional branches :: tree)
  | loop {t u : Token} {names : List Text} {it : Text} {us ts : List Token}
      {body tree : List Node} : t.Says (.openFor names it) → Derives us body →
      u.Says (.close .loop) → Derives ts tree →
      Derives (t :: us ++ u :: ts) (.loop names it body :: tree)
  | block {t u : Token} {name : Text} {us ts : List Token} {body tree : List Node} :
      t.Says (.openBlock name) → Derives us body → u.Says (.close .block) → Derives ts tree →
      Derives (t :: us ++ u :: ts) (.block name body :: tree)

/-- The tokens after the tag that begins a branch, up to the end of the conditional. Only a branch
with a test is followed by another one. -/
inductive Arms : Option Text → List Token → List (Branch Node) → Prop where
  | close {test : Option Text} {us : List Token} {u : Token} {body : List Node} :
      Derives us body → u.Says (.close .conditional) → Arms test (us ++ [u]) [⟨test, body⟩]
  | next {test : Text} {next : Option Text} {us vs : List Token} {u : Token} {body : List Node}
      {rest : List (Branch Node)} : Derives us body → u.Says (Tag.ofBranch false next) →
      Arms next vs rest → Arms (some test) (us ++ u :: vs) (⟨some test, body⟩ :: rest)

end

/-! ## Completeness -/

namespace Progress

/-- Adds the nodes of a tree to the innermost body. -/
def insertAll (p : Progress) (tree : List Node) : Progress := tree.foldl insert p

theorem insertAll_root (root tree : List Node) :
    insertAll ⟨root, []⟩ tree = ⟨root ++ tree, []⟩ := by
  induction tree generalizing root with
  | nil => rw [List.append_nil]; rfl
  | cons n rest ih =>
    have h := ih (root ++ [n])
    rw [List.append_assoc] at h
    exact h

theorem insertAll_frame (root : List Node) (f : Frame) (frames : List Frame) (tree : List Node) :
    insertAll ⟨root, f :: frames⟩ tree = ⟨root, { f with body := f.body ++ tree } :: frames⟩ := by
  induction tree generalizing f with
  | nil => rw [List.append_nil]; rfl
  | cons n rest ih =>
    have h := ih { f with body := f.body ++ [n] }
    simp only [List.append_assoc] at h
    exact h

theorem run_cons_of_ok {p q : Progress} {t : Token} (h : p.step t = .ok q) (ts : List Token) :
    p.run (t :: ts) = q.run ts := by
  rw [run, h]

theorem step_of_meaning {p : Progress} {t : Token} {tag : Tag} (h : t.Says tag) :
    p.step t = p.stepTag t ∧ Tag.ofContent t.content = tag := by
  refine ⟨?_, h.2.read⟩
  rw [step, h.1]

theorem step_leaf {t : Token} {n : Node} (h : Leaf t n) (p : Progress) :
    p.step t = .ok (p.insert n) := by
  cases h with
  | text hkind => rw [step, hkind]
  | expression hkind => rw [step, hkind]
  | unknown hmeans => obtain ⟨hstep, htag⟩ := step_of_meaning hmeans; rw [hstep, stepTag, htag]
  | inclusion hmeans => obtain ⟨hstep, htag⟩ := step_of_meaning hmeans; rw [hstep, stepTag, htag]
  | extension hmeans => obtain ⟨hstep, htag⟩ := step_of_meaning hmeans; rw [hstep, stepTag, htag]

theorem step_close {p : Progress} {u : Token} {c : Construct} (hu : u.Says (.close c)) {f : Frame}
    (hf : f.construct = c) {root : List Node} {frames : List Frame}
    (hp : p = ⟨root, f :: frames⟩) : p.step u = .ok (insert ⟨root, frames⟩ f.close) := by
  obtain ⟨hstep, htag⟩ := step_of_meaning (p := p) hu
  rw [hstep, stepTag, htag, hp]
  exact if_pos hf

theorem step_arm {u : Token} {next : Option Text} (hu : u.Says (Tag.ofBranch false next)) {f g : Frame}
    (root : List Node) (frames : List Frame) (hf : f.continueWith next = some g) :
    step ⟨root, f :: frames⟩ u = .ok ⟨root, g :: frames⟩ := by
  obtain ⟨hstep, htag⟩ := step_of_meaning (p := ⟨root, f :: frames⟩) hu
  rw [hstep, stepTag, htag]
  cases next <;> simp only [Tag.ofBranch, continueWith, hf]

mutual

/-- Derived tokens put their tree into the innermost body. -/
theorem run_derives {ts : List Token} {tree : List Node} (h : Derives ts tree) (p : Progress)
    (rest : List Token) : p.run (ts ++ rest) = (p.insertAll tree).run rest := by
  -- The frames below the innermost body stay as they are, so any state will do.
  match h with
  | .nil => rfl
  | @Derives.leaf t n ts tree hleaf htree =>
    rw [List.cons_append, run_cons_of_ok (step_leaf hleaf p)]
    exact run_derives htree _ rest
  | @Derives.conditional t test us ts branches tree hopen harms htree =>
    obtain ⟨hstep, htag⟩ := step_of_meaning (p := p) hopen
    have hpush : p.step t = .ok (p.push t (.conditional [] (some test))) := by
      rw [hstep, stepTag, htag]
    rw [List.append_assoc, List.cons_append, run_cons_of_ok hpush, push, run_arms harms]
    exact run_derives htree _ rest
  | @Derives.loop t u names it us ts body tree hopen hbody hclose htree =>
    obtain ⟨hstep, htag⟩ := step_of_meaning (p := p) hopen
    have hpush : p.step t = .ok (p.push t (.loop names it)) := by
      rw [hstep, stepTag, htag]
    rw [List.append_assoc, List.cons_append, List.cons_append, run_cons_of_ok hpush,
      run_derives hbody, push, insertAll_frame, run_cons_of_ok (step_close hclose rfl rfl)]
    exact run_derives htree _ rest
  | @Derives.block t u name us ts body tree hopen hbody hclose htree =>
    obtain ⟨hstep, htag⟩ := step_of_meaning (p := p) hopen
    have hpush : p.step t = .ok (p.push t (.block name)) := by
      rw [hstep, stepTag, htag]
    rw [List.append_assoc, List.cons_append, List.cons_append, run_cons_of_ok hpush,
      run_derives hbody, push, insertAll_frame, run_cons_of_ok (step_close hclose rfl rfl)]
    exact run_derives htree _ rest
termination_by structural h

/-- The tokens of the arms of a conditional end its frame, and put the conditional with the branches
that were finished before and with the arms into the body around it. -/
theorem run_arms {test : Option Text} {us : List Token} {branches : List (Branch Node)}
    (h : Arms test us branches) (root : List Node) (frames : List Frame) (opened : Token)
    (finished : List (Branch Node)) (rest : List Token) :
    run ⟨root, ⟨opened, .conditional finished test, []⟩ :: frames⟩ (us ++ rest) =
      (insert ⟨root, frames⟩ (.conditional (finished ++ branches))).run rest := by
  match h with
  | @Arms.close _ us u body hbody hclose =>
    rw [List.append_assoc, run_derives hbody, insertAll_frame, List.singleton_append,
      run_cons_of_ok (step_close hclose rfl rfl)]
    rfl
  | @Arms.next test next us vs u body others hbody hnext harms =>
    have hcontinue := step_arm hnext root frames
      (show Frame.continueWith ⟨opened, .conditional finished (some test), body⟩ next = _ from rfl)
    rw [List.append_assoc, run_derives hbody, insertAll_frame, List.cons_append, List.nil_append,
      run_cons_of_ok hcontinue, run_arms harms, List.append_assoc]
    rfl
termination_by structural h

end

end Progress

/-! ## Soundness -/

/-- The tokens between the opening tag of a conditional and the last tag that began a branch, with
the branches that they finish and the test of the branch that they begin. -/
inductive Begun (first : Text) : List Token → List (Branch Node) → Option Text → Prop where
  | first : Begun first [] [] (some first)
  | next {us vs : List Token} {u : Token} {finished : List (Branch Node)} {test : Text}
      {body : List Node} {next : Option Text} : Begun first us finished (some test) →
      Derives vs body → u.Says (Tag.ofBranch false next) →
      Begun first (us ++ (vs ++ [u])) (finished ++ [⟨some test, body⟩]) next

/-- The tokens that a frame stands for, from its opening tag on. -/
inductive Gathered : List Token → Frame → Prop where
  | conditional {opened : Token} {first : Text} {us vs : List Token}
      {finished : List (Branch Node)} {test : Option Text} {body : List Node} :
      opened.Says (.openIf first) → Begun first us finished test → Derives vs body →
      Gathered (opened :: (us ++ vs)) ⟨opened, .conditional finished test, body⟩
  | loop {opened : Token} {names : List Text} {it : Text} {us : List Token} {body : List Node} :
      opened.Says (.openFor names it) → Derives us body →
      Gathered (opened :: us) ⟨opened, .loop names it, body⟩
  | block {opened : Token} {name : Text} {us : List Token} {body : List Node} :
      opened.Says (.openBlock name) → Derives us body →
      Gathered (opened :: us) ⟨opened, .block name, body⟩

/-- The tokens that have led to a state: derived ones at the top level, then those of the frames. -/
inductive Reached : List Token → Progress → Prop where
  | root {ts : List Token} {tree : List Node} : Derives ts tree → Reached ts ⟨tree, []⟩
  | frame {ts us : List Token} {root : List Node} {f : Frame} {frames : List Frame} :
      Reached ts ⟨root, frames⟩ → Gathered us f → Reached (ts ++ us) ⟨root, f :: frames⟩

theorem Derives.append {us vs : List Token} {a b : List Node} (h : Derives us a)
    (h' : Derives vs b) : Derives (us ++ vs) (a ++ b) := by
  cases h with
  | nil => exact h'
  | leaf hleaf htree => exact .leaf hleaf (htree.append h')
  | @conditional t test us ts _ _ hopen harms htree =>
    have hwhole := Derives.conditional hopen harms (htree.append h')
    rwa [← List.append_assoc] at hwhole
  | loop hopen hbody hclose htree =>
    have hwhole := Derives.loop hopen hbody hclose (htree.append h')
    rwa [← List.cons_append, ← List.append_assoc] at hwhole
  | block hopen hbody hclose htree =>
    have hwhole := Derives.block hopen hbody hclose (htree.append h')
    rwa [← List.cons_append, ← List.append_assoc] at hwhole

theorem Leaf.derives {t : Token} {n : Node} (h : Leaf t n) : Derives [t] [n] := .leaf h .nil

theorem Begun.close {first : Text} {us vs : List Token} {finished rest : List (Branch Node)}
    {test : Option Text} (h : Begun first us finished test) (harms : Arms test vs rest) :
    Arms (some first) (us ++ vs) (finished ++ rest) := by
  -- The last branch that was begun is the first one to be put in front of the arms.
  induction h generalizing vs rest with
  | first => exact harms
  | next _ hbody hu ih =>
    have hwhole := ih (.next hbody hu harms)
    simpa only [List.append_assoc, List.singleton_append] using hwhole

namespace Gathered

variable {us vs : List Token} {u : Token} {f g : Frame}

theorem insert {n : Node} (h : Gathered us f) (hn : Derives vs [n]) :
    Gathered (us ++ vs) { f with body := f.body ++ [n] } := by
  cases h with
  | conditional hopen hbegun hbody =>
    have hwhole := Gathered.conditional hopen hbegun (hbody.append hn)
    rwa [← List.append_assoc, ← List.cons_append] at hwhole
  | loop hopen hbody => exact .loop hopen (hbody.append hn)
  | block hopen hbody => exact .block hopen (hbody.append hn)

theorem close (h : Gathered us f) (hu : u.Says (.close f.construct)) :
    Derives (us ++ [u]) [f.close] := by
  cases h with
  | conditional hopen hbegun hbody =>
    have harms := hbegun.close (.close hbody hu)
    have hwhole := Derives.conditional hopen harms .nil
    rwa [List.append_nil, ← List.append_assoc, ← List.cons_append] at hwhole
  | loop hopen hbody => exact .loop hopen hbody hu .nil
  | block hopen hbody => exact .block hopen hbody hu .nil

theorem continueWith {next : Option Text} (h : Gathered us f) (hu : u.Says (Tag.ofBranch false next))
    (hg : f.continueWith next = some g) : Gathered (us ++ [u]) g := by
  cases h with
  | @conditional opened first us vs finished test body hopen hbegun hbody =>
    cases test with
    | none => cases hg
    | some test =>
      cases hg
      have hwhole := Gathered.conditional hopen (hbegun.next hbody hu) .nil
      rwa [List.append_nil, ← List.append_assoc, ← List.cons_append] at hwhole
  | loop _ _ => cases hg
  | block _ _ => cases hg

end Gathered

namespace Reached

variable {ts vs : List Token} {t : Token} {p q : Progress}

theorem insert {n : Node} (h : Reached ts p) (hn : Derives vs [n]) :
    Reached (ts ++ vs) (p.insert n) := by
  cases h with
  | root hroot => exact .root (hroot.append hn)
  | frame h hf =>
    rw [List.append_assoc]
    exact .frame h (hf.insert hn)

theorem close {c : Construct} (h : Reached ts p) (ht : t.Says (.close c))
    (hq : p.close t c = .ok q) : Reached (ts ++ [t]) q := by
  cases h with
  | root _ => cases hq
  | @frame ts us root f frames h hf =>
    unfold Progress.close at hq
    dsimp only at hq
    by_cases hc : f.construct = c
    · rw [if_pos hc] at hq
      cases hq
      rw [List.append_assoc]
      exact h.insert (hf.close (hc ▸ ht))
    · rw [if_neg hc] at hq
      cases hq

theorem continueWith {keyword : Text} {next : Option Text} (h : Reached ts p)
    (ht : t.Says (Tag.ofBranch false next)) (hq : p.continueWith t keyword next = .ok q) :
    Reached (ts ++ [t]) q := by
  cases h with
  | root _ => cases hq
  | @frame ts us root f frames h hf =>
    unfold Progress.continueWith at hq
    dsimp only at hq
    cases hg : f.continueWith next with
    | none =>
      rw [hg] at hq
      cases hq
    | some g =>
      rw [hg] at hq
      cases hq
      rw [List.append_assoc]
      exact .frame h (hf.continueWith ht hg)

/-- A tag that is taken in leads on from the tokens before it. -/
theorem stepTag (h : Reached ts p) (hkind : t.kind = .tag) (htrim : Text.Trimmed t.content)
    (hq : p.stepTag t = .ok q) : Reached (ts ++ [t]) q := by
  have hmeans : ∀ tag, Tag.ofContent t.content = tag →
      (∀ keyword expected, tag ≠ .malformed keyword expected) → t.Says tag :=
    fun tag htag hgood => ⟨hkind, .of_read htrim htag hgood⟩
  unfold Progress.stepTag at hq
  split at hq
  · rename_i test htag
    cases hq
    exact .frame h (.conditional (hmeans _ htag nofun) .first .nil)
  · rename_i names it htag
    cases hq
    exact .frame h (.loop (hmeans _ htag nofun) .nil)
  · rename_i name htag
    cases hq
    exact .frame h (.block (hmeans _ htag nofun) .nil)
  · rename_i test htag
    have harm : t.Says (Tag.ofBranch false (some test)) := hmeans _ htag nofun
    exact h.continueWith harm hq
  · rename_i htag
    have harm : t.Says (Tag.ofBranch false none) := hmeans _ htag nofun
    exact h.continueWith harm hq
  · rename_i c htag
    exact h.close (hmeans _ htag nofun) hq
  · rename_i path htag
    cases hq
    exact h.insert (Leaf.inclusion (hmeans _ htag nofun)).derives
  · rename_i path htag
    cases hq
    exact h.insert (Leaf.extension (hmeans _ htag nofun)).derives
  · cases hq
  · rename_i htag
    cases hq
    exact h.insert (Leaf.unknown (hmeans _ htag nofun)).derives

theorem step (h : Reached ts p) (htrim : t.kind = .tag → Text.Trimmed t.content)
    (hq : p.step t = .ok q) : Reached (ts ++ Token.significant [t]) q := by
  unfold Progress.step at hq
  cases hkind : t.kind with
  | text =>
    rw [hkind] at hq
    cases hq
    simpa [Token.significant, hkind] using h.insert (Leaf.text hkind).derives
  | expression =>
    rw [hkind] at hq
    cases hq
    simpa [Token.significant, hkind] using h.insert (Leaf.expression hkind).derives
  | tag =>
    rw [hkind] at hq
    simpa [Token.significant, hkind] using h.stepTag hkind (htrim hkind) hq
  | comment =>
    rw [hkind] at hq
    cases hq
    simpa [Token.significant, hkind] using h

/-- Tokens that are taken in lead on from the tokens before them. -/
theorem run {us : List Token} (h : Reached ts p)
    (htrim : ∀ t ∈ us, t.kind = .tag → Text.Trimmed t.content) (hq : p.run us = .ok q) :
    Reached (ts ++ Token.significant us) q := by
  induction us generalizing ts p with
  | nil =>
    cases hq
    simpa [Token.significant] using h
  | cons t rest ih =>
    unfold Progress.run at hq
    cases hstep : p.step t with
    | error e =>
      rw [hstep] at hq
      cases hq
    | ok p' =>
      rw [hstep] at hq
      have hnext := h.step (htrim t (List.mem_cons_self ..)) hstep
      have hrest := ih hnext (fun u hu => htrim u (List.mem_cons_of_mem _ hu)) hq
      rw [List.append_assoc, ← Token.significant_append] at hrest
      exact hrest

end Reached

/-- Comments lead nowhere. -/
theorem Progress.run_significant (p : Progress) (ts : List Token) :
    p.run (Token.significant ts) = p.run ts := by
  induction ts generalizing p with
  | nil => rfl
  | cons t rest ih =>
    by_cases hkind : t.kind = .comment
    · have hskip : p.run (t :: rest) = p.run rest := by
        refine run_cons_of_ok ?_ rest
        rw [step, hkind]
      rw [hskip, ← ih p]
      simp [Token.significant, hkind]
    · have hkeep : Token.significant (t :: rest) = t :: Token.significant rest := by
        simp [Token.significant, hkind]
      rw [hkeep, run, run]
      cases p.step t with
      | ok q => exact ih q
      | error e => rfl

/-- Tokens whose tags are trimmed form a tree exactly if the tokens that are no comments derive it. -/
theorem Node.ofTokens?_eq_ok {tokens : List Token}
    (htrim : ∀ t ∈ tokens, t.kind = .tag → Text.Trimmed t.content) {tree : List Node} :
    Node.ofTokens? tokens = .ok tree ↔ Derives (Token.significant tokens) tree := by
  unfold Node.ofTokens?
  constructor
  · intro h
    cases hrun : Progress.start.run tokens with
    | error e =>
      rw [hrun] at h
      cases h
    | ok p =>
      rw [hrun] at h
      have hreached : Reached ([] ++ Token.significant tokens) p :=
        (Reached.root .nil).run htrim hrun
      rw [List.nil_append] at hreached
      generalize Token.significant tokens = us at hreached ⊢
      -- A state with frames left is refused, and one without them was reached by derived tokens.
      cases hreached with
      | root hroot =>
        cases h
        exact hroot
      | frame _ _ => cases h
  · intro h
    have hrun := Progress.run_derives h .start []
    rw [List.append_nil, Progress.run_significant, Progress.start, Progress.insertAll_root] at hrun
    rw [Progress.start, hrun]
    rfl

end Stencil
