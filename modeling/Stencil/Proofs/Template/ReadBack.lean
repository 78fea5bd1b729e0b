import Stencil.Proofs.Template.Grammar

/-!
# Reading trees back

A tree read back in order gives the lexemes of the tokens that form it: what each tag says, each
expression, and all text as it was, unknown tags included. Nothing is lost, moved or said twice.
Every conditional has branches, only the last of which may be without a test, and not if it is the
only one.
-/

set_option autoImplicit false

namespace Stencil

/-- What a token says. -/
inductive Lexeme where
  | text (value : Text)
  | expression (content : Text)
  | tag (meaning : Tag)

/-- What a token says; a comment says nothing, and an unknown tag is text. -/
def Token.lexeme? (t : Token) : Option Lexeme :=
  match t.kind with
  | .text => some (.text t.content)
  | .expression => some (.expression t.content)
  | .tag => match Tag.ofContent t.content with
    | .unknown => some (.text t.raw)
    | tag => some (.tag tag)
  | .comment => none

namespace Node

mutual

/-- What a node says, in source order. -/
def lexemes : Node → List Lexeme
  | .text value => [.text value]
  | .interpolation expression _ => [.expression expression]
  | .conditional branches => branchLexemes true branches ++ [.tag (.close .conditional)]
  | .loop names iterable body =>
    .tag (.openFor names iterable) :: treeLexemes body ++ [.tag (.close .loop)]
  | .block name body => .tag (.openBlock name) :: treeLexemes body ++ [.tag (.close .block)]
  | .inclusion path => [.tag (.inclusion path)]
  | .extension path => [.tag (.extension path)]

/-- What a tree says, in source order. -/
def treeLexemes : List Node → List Lexeme
  | [] => []
  | n :: rest => lexemes n ++ treeLexemes rest

/-- What branches say, in source order, each with the tag that begins it. -/
def branchLexemes (first : Bool) : List (Branch Node) → List Lexeme
  | [] => []
  | ⟨test, body⟩ :: rest =>
    .tag (Tag.ofBranch first test) :: treeLexemes body ++ branchLexemes false rest

end

/-- The branches of a conditional: at least one, the first one with a test, and none without a test
but the last. -/
structure Ordered (branches : List (Branch Node)) : Prop where
  ne_nil : branches ≠ []
  first : ∀ b ∈ branches.head?, b.test ≠ none
  last : ∀ b ∈ branches.dropLast, b.test ≠ none

mutual

/-- The branches of every conditional in a node are in order. -/
def Orderly : Node → Prop
  | .conditional branches => Ordered branches ∧ BranchesOrderly branches
  | .loop _ _ body => TreeOrderly body
  | .block _ body => TreeOrderly body
  | _ => True

/-- The branches of every conditional in a tree are in order. -/
def TreeOrderly : List Node → Prop
  | [] => True
  | n :: rest => Orderly n ∧ TreeOrderly rest

/-- The branches of every conditional in the bodies of branches are in order. -/
def BranchesOrderly : List (Branch Node) → Prop
  | [] => True
  | ⟨_, body⟩ :: rest => TreeOrderly body ∧ BranchesOrderly rest

end

end Node

open Node (lexemes treeLexemes branchLexemes Orderly TreeOrderly BranchesOrderly Ordered)

/-! ## What derived tokens say -/

theorem Token.lexeme?_of_tag {t : Token} {tag : Tag} (hkind : t.kind = .tag)
    (htag : Tag.ofContent t.content = tag) (hknown : tag ≠ .unknown) :
    t.lexeme? = some (.tag tag) := by
  rw [Token.lexeme?, hkind, htag]
  cases tag with
  | unknown => exact absurd rfl hknown
  | _ => rfl

theorem Token.Says.lexeme {t : Token} {tag : Tag} (h : t.Says tag) (hknown : tag ≠ .unknown) :
    t.lexeme? = some (.tag tag) :=
  Token.lexeme?_of_tag h.1 h.2.read hknown

theorem Leaf.lexeme {t : Token} {n : Node} (h : Leaf t n) :
    ∃ l, t.lexeme? = some l ∧ lexemes n = [l] := by
  cases h with
  | text hkind => exact ⟨_, by rw [Token.lexeme?, hkind], rfl⟩
  | expression hkind => exact ⟨_, by rw [Token.lexeme?, hkind], rfl⟩
  | unknown hmeans => exact ⟨_, by rw [Token.lexeme?, hmeans.1, hmeans.2.read], rfl⟩
  | inclusion hmeans => exact ⟨_, hmeans.lexeme nofun, rfl⟩
  | extension hmeans => exact ⟨_, hmeans.lexeme nofun, rfl⟩

theorem Token.says_ofBranch_ne {first : Bool} {test : Option Text} :
    Tag.ofBranch first test ≠ .unknown := by
  cases first <;> cases test <;> nofun

mutual

/-- A tree says what the tokens that derive it say. -/
theorem Derives.lexemes {ts : List Token} {tree : List Node} (h : Derives ts tree) :
    treeLexemes tree = ts.filterMap Token.lexeme? := by
  match h with
  | .nil => rfl
  | .leaf hleaf htree =>
    obtain ⟨l, hl, hn⟩ := hleaf.lexeme
    rw [List.filterMap_cons_some hl, treeLexemes, hn, htree.lexemes]
    rfl
  | .conditional hopen harms htree =>
    rw [List.cons_append, List.filterMap_cons_some (hopen.lexeme nofun), List.filterMap_append,
      treeLexemes, Node.lexemes, harms.lexemes true, htree.lexemes]
    rfl
  | .loop hopen hbody hclose htree =>
    rw [List.cons_append, List.filterMap_cons_some (hopen.lexeme nofun), List.filterMap_append,
      List.filterMap_cons_some (hclose.lexeme nofun), treeLexemes, Node.lexemes, hbody.lexemes,
      htree.lexemes, List.append_assoc]
    rfl
  | .block hopen hbody hclose htree =>
    rw [List.cons_append, List.filterMap_cons_some (hopen.lexeme nofun), List.filterMap_append,
      List.filterMap_cons_some (hclose.lexeme nofun), treeLexemes, Node.lexemes, hbody.lexemes,
      htree.lexemes, List.append_assoc]
    rfl
termination_by structural h

theorem Arms.lexemes {test : Option Text} {us : List Token} {branches : List (Branch Node)}
    (h : Arms test us branches) (first : Bool) :
    branchLexemes first branches ++ [.tag (.close .conditional)] =
      .tag (Tag.ofBranch first test) :: us.filterMap Token.lexeme? := by
  match h with
  | .close hbody hclose =>
    rw [List.filterMap_append, List.filterMap_cons_some (hclose.lexeme nofun), branchLexemes,
      hbody.lexemes, branchLexemes, List.append_nil]
    rfl
  | .next hbody hu harms =>
    rw [List.filterMap_append, List.filterMap_cons_some (hu.lexeme Token.says_ofBranch_ne),
      branchLexemes, hbody.lexemes, List.append_assoc, harms.lexemes false]
    rfl
termination_by structural h

end

/-! ## Conditionals in derived trees -/

theorem Leaf.orderly {t : Token} {n : Node} (h : Leaf t n) : Orderly n := by
  cases h <;> exact trivial

/-- Arms begin with a branch of the given test, and only their last branch may be without one. -/
theorem Arms.ordered {test : Option Text} {us : List Token} {branches : List (Branch Node)}
    (h : Arms test us branches) :
    (∃ body rest, branches = ⟨test, body⟩ :: rest) ∧ ∀ b ∈ branches.dropLast, b.test ≠ none := by
  cases h with
  | close _ _ => exact ⟨⟨_, _, rfl⟩, nofun⟩
  | next _ _ harms =>
    obtain ⟨⟨body, rest, rfl⟩, hlast⟩ := harms.ordered
    refine ⟨⟨_, _, rfl⟩, fun b hb => ?_⟩
    rw [List.dropLast_cons_cons] at hb
    rcases List.mem_cons.1 hb with rfl | hb
    · exact nofun
    · exact hlast b hb

mutual

theorem Derives.orderly {ts : List Token} {tree : List Node} (h : Derives ts tree) :
    TreeOrderly tree := by
  match h with
  | .nil => exact trivial
  | .leaf hleaf htree => exact ⟨hleaf.orderly, htree.orderly⟩
  | @Derives.conditional _ test _ _ _ _ _ harms htree =>
    have hbranches := harms.orderly
    have hrest := htree.orderly
    obtain ⟨⟨body, rest, rfl⟩, hlast⟩ := harms.ordered
    have hordered : Ordered (⟨some test, body⟩ :: rest) := by
      refine ⟨List.cons_ne_nil _ _, fun b hb => ?_, hlast⟩
      cases hb
      exact nofun
    exact ⟨⟨hordered, hbranches⟩, hrest⟩
  | .loop _ hbody _ htree => exact ⟨hbody.orderly, htree.orderly⟩
  | .block _ hbody _ htree => exact ⟨hbody.orderly, htree.orderly⟩
termination_by structural h

theorem Arms.orderly {test : Option Text} {us : List Token} {branches : List (Branch Node)}
    (h : Arms test us branches) : BranchesOrderly branches := by
  match h with
  | .close hbody _ => exact ⟨hbody.orderly, trivial⟩
  | .next hbody _ harms => exact ⟨hbody.orderly, harms.orderly⟩
termination_by structural h

end

/-! ## Tokens and trees -/

namespace Node

/-- Parsing accepts exactly the grammar. Tokens whose tags are trimmed form a tree exactly if the
tokens that are no comments derive it; the tree read back says what the tokens say, in order, and
the branches of its conditionals are in order. -/
theorem ofTokens?_iff_derives (tokens : List Token)
    (htrim : ∀ t ∈ tokens, t.kind = .tag → Text.strip t.content = t.content) :
    (∀ tree, ofTokens? tokens = .ok tree ↔ Derives (Token.significant tokens) tree) ∧
      ∀ tree, ofTokens? tokens = .ok tree →
        treeLexemes tree = tokens.filterMap Token.lexeme? ∧ TreeOrderly tree := by
  refine ⟨fun tree => ofTokens?_eq_ok htrim, fun tree h => ?_⟩
  have hderives := (ofTokens?_eq_ok htrim).1 h
  refine ⟨?_, hderives.orderly⟩
  have hcomment : (fun t : Token => if t.kind != .comment then t.lexeme? else none) =
      Token.lexeme? := by
    funext t
    cases hkind : t.kind <;> simp [Token.lexeme?, hkind]
  rw [hderives.lexemes, Token.significant, List.filterMap_filter, hcomment]

/-- A conditional with two branches, and a comment that leaves no trace. -/
theorem ofTokens?_iff_derives_else :
    let token (kind : Token.Kind) (content : String) : Token :=
      ⟨kind, content.toList, .start, content.toList⟩
    let tokens := [token .tag "if a", token .text "1", token .comment "c", token .tag "else",
      token .text "2", token .tag "endif"]
    (∀ t ∈ tokens, t.kind = .tag → Text.strip t.content = t.content) ∧
      ofTokens? tokens = .ok [.conditional [⟨some "a".toList, [.text "1".toList]⟩,
        ⟨none, [.text "2".toList]⟩]] := by
  intro token tokens
  have htrim : ∀ t ∈ tokens, t.kind = .tag → Text.strip t.content = t.content := by decide
  refine ⟨htrim, ((ofTokens?_iff_derives tokens htrim).1 _).2 ?_⟩
  have htext (value : String) : Leaf (token .text value) (.text value.toList) := .text rfl
  have hopen : (token .tag "if a").Says (.openIf "a".toList) :=
    ⟨rfl, .of_read (htrim _ (by simp [tokens]) rfl) (by decide) nofun⟩
  have helse : (token .tag "else").Says (Tag.ofBranch false none) :=
    ⟨rfl, .of_read (htrim _ (by simp [tokens]) rfl) (by decide) nofun⟩
  have hclose : (token .tag "endif").Says (.close .conditional) :=
    ⟨rfl, .of_read (htrim _ (by simp [tokens]) rfl) (by decide) nofun⟩
  have hlast : Arms none [token .text "2", token .tag "endif"] [⟨none, [.text "2".toList]⟩] :=
    .close (htext "2").derives hclose
  exact .conditional hopen (.next (htext "1").derives helse hlast) .nil

end Node
end Stencil
