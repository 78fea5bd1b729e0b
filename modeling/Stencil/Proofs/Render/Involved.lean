import Stencil.Proofs.Expr.Risk
import Stencil.Proofs.Render.Rounds
import Stencil.Proofs.Render.Substitution

/-!
# Involved templates

A tree refers to paths, and the templates at those paths refer to further ones. A node is involved
in a rendering if it stands in the tree that is rendered or in a template that this tree leads to,
at whatever depth. The scopes of a rendering are the contexts that its loops can make of the one
that it starts in.
-/

set_option autoImplicit false

namespace Stencil

open Work (Answers)

namespace Node

/-- The expressions that a node evaluates itself. -/
def expressions : Node → List Expr
  | .interpolation expression _ => [.ofText expression]
  | .conditional branches => branches.flatMap fun b =>
    match b.test with
    | some test => (Test.ofText test).operands
    | none => []
  | .loop _ iterable _ => [.ofText iterable]
  | _ => []

/-- A node stands in a body of another one. -/
inductive Child : Node → Node → Prop where
  | branch {branches : List (Branch Node)} {b : Branch Node} {n : Node} :
      b ∈ branches → n ∈ b.body → Child (.conditional branches) n
  | loop {names : List Text} {iterable : Text} {body : List Node} {n : Node} :
      n ∈ body → Child (.loop names iterable body) n
  | block {name : Text} {body : List Node} {n : Node} : n ∈ body → Child (.block name body) n

/-- A node stands in a tree, at any depth. -/
inductive Within (tree : List Node) : Node → Prop where
  | here {n : Node} : n ∈ tree → Within tree n
  | inside {parent n : Node} : Within tree parent → parent.Child n → Within tree n

/-- A tree refers to a path, directly or through templates that can be loaded. -/
inductive Leads (answers : Answers) : List Node → Text → Prop where
  | direct {tree : List Node} {path : Text} : path ∈ treeReferences tree → Leads answers tree path
  | through {tree : List Node} {middle path : Text} {template : Template} :
      middle ∈ treeReferences tree → answers middle = .ok template →
      Leads answers template.tree path → Leads answers tree path

/-- A node stands in a tree or in a template that the tree leads to. -/
inductive Involves (answers : Answers) (tree : List Node) : Node → Prop where
  | own {n : Node} : Within tree n → Involves answers tree n
  | reached {path : Text} {template : Template} {n : Node} :
      Leads answers tree path → answers path = .ok template → Within template.tree n →
      Involves answers tree n

/-- The contexts in which the nodes of a rendering are rendered: the one that it starts in, and
those that bind the names of an involved loop to what a round gives to them. -/
inductive Scope (answers : Answers) (filters : Filters) (tree : List Node) (start : Context) :
    Context → Prop where
  | start : Scope answers filters tree start start
  | round {names : List Text} {iterable : Text} {body : List Node} {c : Context} {v : Value}
      {values : List Value} :
      Involves answers tree (.loop names iterable body) → Scope answers filters tree start c →
      ((Expr.ofText iterable).eval filters c).Gives v → Loop.Binds names v values →
      Scope answers filters tree start (Loop.bindAll c (names.zip values))

/-! ## References -/

theorem mem_treeReferences {tree : List Node} {path : Text} :
    path ∈ treeReferences tree ↔ ∃ n ∈ tree, path ∈ references n := by
  induction tree with
  | nil => simp [treeReferences]
  | cons n rest ih => simp [treeReferences, ih]

theorem mem_branchReferences {branches : List (Branch Node)} {path : Text} :
    path ∈ branchReferences branches ↔ ∃ b ∈ branches, path ∈ treeReferences b.body := by
  induction branches with
  | nil => simp [branchReferences]
  | cons b rest ih => simp [branchReferences, ih]

theorem Child.references_subset {parent n : Node} (h : parent.Child n) :
    references n ⊆ references parent := by
  intro path hpath
  cases h with
  | branch hb hn =>
    rw [references, mem_branchReferences]
    exact ⟨_, hb, mem_treeReferences.2 ⟨n, hn, hpath⟩⟩
  | loop hn =>
    rw [references]
    exact mem_treeReferences.2 ⟨n, hn, hpath⟩
  | block hn =>
    rw [references]
    exact mem_treeReferences.2 ⟨n, hn, hpath⟩

theorem Within.references_subset {tree : List Node} {n : Node} (h : Within tree n) :
    references n ⊆ treeReferences tree := by
  induction h with
  | here hn => exact fun path hpath => mem_treeReferences.2 ⟨_, hn, hpath⟩
  | inside _ hchild ih => exact List.Subset.trans hchild.references_subset ih

variable {answers : Answers} {tree : List Node}

/-- What a template that a tree leads to leads to, the tree leads to as well. -/
theorem Leads.trans {middle path : Text} {template : Template} (h : Leads answers tree middle)
    (hanswer : answers middle = .ok template) (hnext : Leads answers template.tree path) :
    Leads answers tree path := by
  induction h with
  | direct hmem => exact .through hmem hanswer hnext
  | through hmem hfirst _ ih => exact .through hmem hfirst (ih hanswer)

/-! ## Involved nodes -/

theorem Involves.child {parent n : Node} (h : Involves answers tree parent)
    (hchild : parent.Child n) : Involves answers tree n := by
  cases h with
  | own hwithin => exact .own (.inside hwithin hchild)
  | reached hleads hanswer hwithin => exact .reached hleads hanswer (.inside hwithin hchild)

theorem Involves.leads {n : Node} (h : Involves answers tree n) {path : Text}
    (hpath : path ∈ references n) : Leads answers tree path := by
  cases h with
  | own hwithin => exact .direct (hwithin.references_subset hpath)
  | reached hleads hanswer hwithin =>
    exact hleads.trans hanswer (.direct (hwithin.references_subset hpath))

/-- The nodes of a template that an involved node refers to are involved. -/
theorem Involves.of_reference {n : Node} (h : Involves answers tree n) {path : Text}
    (hpath : path ∈ references n) {template : Template} (hanswer : answers path = .ok template)
    {m : Node} (hm : m ∈ template.tree) : Involves answers tree m :=
  .reached (h.leads hpath) hanswer (.here hm)

/-! ## Nodes without bodies -/

theorem Within.eq_of_leaf {n m : Node} (hbodies : ∀ child, ¬n.Child child) (h : Within [n] m) :
    m = n := by
  induction h with
  | here hmem => exact List.mem_singleton.1 hmem
  | inside _ hchild ih =>
    rw [ih] at hchild
    exact (hbodies _ hchild).elim

theorem not_leads_of_no_references {path : Text} (h : treeReferences tree = []) :
    ¬Leads answers tree path := by
  intro hleads
  cases hleads with
  | direct hmem => simp [h] at hmem
  | through hmem _ _ => simp [h] at hmem

theorem Involves.eq_of_leaf {n m : Node} (hbodies : ∀ child, ¬n.Child child)
    (hreferences : treeReferences [n] = []) (h : Involves answers [n] m) : m = n := by
  cases h with
  | own hwithin => exact hwithin.eq_of_leaf hbodies
  | reached hleads _ _ => exact absurd hleads (not_leads_of_no_references hreferences)

/-! ## Evaluated expressions -/

theorem mem_expressions_of_test {branches : List (Branch Node)} {b : Branch Node} {test : Text}
    {e : Expr} (hb : b ∈ branches) (htest : b.test = some test)
    (he : e ∈ (Test.ofText test).operands) : e ∈ expressions (.conditional branches) := by
  rw [expressions, List.mem_flatMap]
  exact ⟨b, hb, by rw [htest]; exact he⟩

section Sizes

variable {filters : Filters} {c : Context} {v : Value}

/-- Writing a value as output changes no size. -/
theorem resizes_of_renderExpression {expression : Text}
    (h : (renderExpression filters c expression).Resizes v) :
    ((Expr.ofText expression).eval filters c).Resizes v := by
  rcases h.of_bind with he | ⟨w, houtput⟩
  · exact he
  · unfold outputOf at houtput
    split at houtput
    · exact absurd houtput (Eval.not_resizes_pure _)
    · rcases houtput.of_bind with htext | ⟨t, hpure⟩
      · exact absurd htext (Eval.not_resizes_textOf w)
      · exact absurd hpure (Eval.not_resizes_pure _)

/-- The test of a branch changes no size but those that its expressions change. -/
theorem resizes_of_renderTest {branches : List (Branch Node)} {b : Branch Node} (hb : b ∈ branches)
    (h : (renderTest filters c b.test).Resizes v) :
    ∃ e ∈ expressions (.conditional branches), (e.eval filters c).Resizes v := by
  cases htest : b.test with
  | none =>
    rw [htest] at h
    exact absurd h (Eval.not_resizes_pure true)
  | some test =>
    rw [htest] at h
    obtain ⟨e, he, hresizes⟩ := Test.resizes_of_eval h
    exact ⟨e, mem_expressions_of_test hb htest he, hresizes⟩

end Sizes

/-! ## Outlines -/

theorem extension_mem_of_parent {path : Text} (h : (Outline.ofTree tree).parent = some path) :
    .extension path ∈ tree := by
  rw [Outline.parent_ofTree, parentPath] at h
  obtain ⟨n, hn, hextends⟩ := List.mem_filterMap.1 (List.mem_of_getLast? h)
  cases n with
  | extension other =>
    cases hextends
    exact hn
  | _ => cases hextends

theorem block_mem_of_lookup {name : Text} {body : List Node}
    (h : (Outline.ofTree tree).blocks.lookup name = some body) : .block name body ∈ tree := by
  rw [Outline.lookup_blocks, definitions] at h
  have hmem := List.mem_reverse.1 (Table.mem_of_lookup h)
  obtain ⟨n, hn, hdefines⟩ := List.mem_filterMap.1 hmem
  cases n with
  | block other content =>
    cases hdefines
    exact hn
  | _ => cases hdefines

theorem eq_some_of_mem_chainFrom {path : Option Text} {q : Text} (h : q ∈ chainFrom path) :
    path = some q := by
  unfold chainFrom at h
  split at h
  · rw [List.mem_singleton.1 h]
  · cases h

end Node
end Stencil
