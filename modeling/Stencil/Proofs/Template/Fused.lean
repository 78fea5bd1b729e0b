import Stencil.Proofs.Template.RoundTrip

/-!
# Trees with neighbouring texts joined

A tree without the places of its interpolations, and with neighbouring texts joined, is what is left
of it in a source that was printed and parsed again. Tokens of which some neighbouring texts were
joined, and that say the same otherwise, form a tree that is the same in this sense: no text stands
beside a tag of another body, so that texts are joined within one body only.
-/

set_option autoImplicit false

namespace Stencil

open Text (Trimmed)

/-! ## Joining texts in trees -/

namespace Node

/-- A node before others; a text is joined with a text. -/
def attach : Node → List Node → List Node
  | .text a, .text b :: rest => .text (a ++ b) :: rest
  | n, rest => n :: rest

mutual

/-- A node without places, and with neighbouring texts in its bodies joined. -/
def fused : Node → Node
  | .text value => .text value
  | .interpolation expression _ => .interpolation expression none
  | .conditional branches => .conditional (branchesFused branches)
  | .loop names iterable body => .loop names iterable (treeFused body)
  | .block name body => .block name (treeFused body)
  | .inclusion path => .inclusion path
  | .extension path => .extension path

/-- A tree without places, and with neighbouring texts joined. -/
def treeFused : List Node → List Node
  | [] => []
  | n :: rest => attach (fused n) (treeFused rest)

/-- Branches without places, and with neighbouring texts in their bodies joined. -/
def branchesFused : List (Branch Node) → List (Branch Node)
  | [] => []
  | ⟨test, body⟩ :: rest => ⟨test, treeFused body⟩ :: branchesFused rest

end

/-- Joining two texts first and then with what follows, or one after the other, is the same. -/
theorem attach_text_append (a b : Text) (rest : List Node) :
    attach (.text (a ++ b)) rest = attach (.text a) (attach (.text b) rest) := by
  rcases rest with _ | ⟨n, rest⟩
  · rfl
  · cases n with
    | text c => simp [attach]
    | _ => rfl

/-- A node of one token is, but for its place, what any node is that agrees with it. -/
theorem fused_of_leaf {t : Token} {n n' : Node} (h : Leaf t n) (hagree : agrees n n' = true) :
    fused n' = fused n := by
  cases h <;> cases n' <;> simp_all [agrees, fused]

end Node

/-! ## Tokens of which texts were joined -/

namespace Token

/-- Tokens say what others say, but that neighbouring texts may be joined. -/
inductive Joins : List Token → List Token → Prop where
  | nil : Joins [] []
  | same {t t' : Token} {ts ts' : List Token} : t'.lexeme? = t.lexeme? → Joins ts ts' →
      Joins (t :: ts) (t' :: ts')
  | text {t u u' : Token} {ts ts' : List Token} : t.kind = .text → u.kind = .text →
      u'.kind = .text → u'.content = t.content ++ u.content → Joins ts (u :: ts') →
      Joins (t :: ts) (u' :: ts')

theorem Says.kind_ne {t : Token} {tag : Tag} (h : t.Says tag) : t.kind ≠ .text := by
  rw [h.1]
  nofun

/-- Joined tokens are printed as before. -/
theorem Joins.print {ts ts' : List Token} (h : Joins ts ts') :
    (ts'.filterMap lexeme?).flatMap Lexeme.print = (ts.filterMap lexeme?).flatMap Lexeme.print := by
  have htext : ∀ {t : Token}, t.kind = .text → t.lexeme? = some (.text t.content) := fun ht => by
    rw [lexeme?, ht]
  induction h with
  | nil => rfl
  | same hsame _ ih =>
    rw [List.filterMap_cons, List.filterMap_cons, hsame]
    split
    · exact ih
    · rw [List.flatMap_cons, List.flatMap_cons, ih]
  | text ht hu hu' hcontent _ ih =>
    rw [List.filterMap_cons_some (htext ht), List.flatMap_cons, ← ih,
      List.filterMap_cons_some (htext hu), List.filterMap_cons_some (htext hu'),
      List.flatMap_cons, List.flatMap_cons, hcontent]
    exact List.append_assoc _ _ _

/-- Texts are joined on either side of a known tag only. -/
theorem Joins.split {us ts vs : List Token} {w : Token} {tag : Tag} (h : Joins (us ++ w :: ts) vs)
    (hw : w.Says tag) (hknown : tag ≠ .unknown)
    (htrim : ∀ t ∈ vs, t.kind = .tag → Trimmed t.content) :
    ∃ us' w' ts', vs = us' ++ w' :: ts' ∧ Joins us us' ∧ w'.Says tag ∧ Joins ts ts' := by
  induction us generalizing vs with
  | nil =>
    cases h with
    | @same _ w' _ ts' hsame hts =>
      have hsays := hw.of_lexeme hknown hsame (htrim w' (List.mem_cons_self ..))
      exact ⟨[], w', ts', rfl, .nil, hsays, hts⟩
    | text hkind => exact absurd hkind hw.kind_ne
  | cons a us ih =>
    cases h with
    | @same _ a' _ vs' hsame hrest =>
      obtain ⟨us', w', ts', rfl, hus, hw', hts⟩ :=
        ih hrest fun t ht => htrim t (List.mem_cons_of_mem _ ht)
      exact ⟨a' :: us', w', ts', rfl, .same hsame hus, hw', hts⟩
    | @text _ u u' _ vs' ha hu hu' hcontent hrest =>
      have htext : ∀ t ∈ u :: vs', t.kind = .tag → Trimmed t.content := by
        refine List.forall_mem_cons.2 ⟨?_, fun t ht => htrim t (List.mem_cons_of_mem _ ht)⟩
        rw [hu]
        exact nofun
      obtain ⟨us', w', ts', hsplit, hus, hw', hts⟩ := ih hrest htext
      cases us' with
      | nil =>
        obtain ⟨rfl, -⟩ := List.cons.inj hsplit
        exact absurd hu hw'.kind_ne
      | cons v us' =>
        obtain ⟨rfl, rfl⟩ := List.cons.inj hsplit
        exact ⟨u' :: us', w', ts', rfl, .text ha hu hu' hcontent hus, hw', hts⟩

/-- A known tag is said by what stands for it among joined tokens. -/
theorem Joins.cons_says {t : Token} {tag : Tag} {ts vs : List Token} (h : Joins (t :: ts) vs)
    (ht : t.Says tag) (hknown : tag ≠ .unknown)
    (htrim : ∀ t ∈ vs, t.kind = .tag → Trimmed t.content) :
    ∃ t' ts', vs = t' :: ts' ∧ t'.Says tag ∧ Joins ts ts' := by
  rw [← List.nil_append (t :: ts)] at h
  obtain ⟨us', t', ts', rfl, hus, hsays, hts⟩ := h.split ht hknown htrim
  cases hus
  exact ⟨t', ts', rfl, hsays, hts⟩

end Token

open Node (treeFused branchesFused fused)

theorem Leaf.eq_of_text {t : Token} {n : Node} (h : Leaf t n) (ht : t.kind = .text) :
    n = .text t.content := by
  cases h with
  | text _ => rfl
  | expression hkind => cases ht.symm.trans hkind
  | unknown hsays => exact absurd ht hsays.kind_ne
  | inclusion hsays => exact absurd ht hsays.kind_ne
  | extension hsays => exact absurd ht hsays.kind_ne

/-- A text is a node of its own. -/
theorem Derives.exists_of_text {t : Token} {ts : List Token} {tree : List Node}
    (h : Derives (t :: ts) tree) (ht : t.kind = .text) :
    ∃ rest, tree = .text t.content :: rest ∧ Derives ts rest := by
  generalize hall : t :: ts = all at h
  cases h with
  | nil => cases hall
  | leaf hleaf hrest =>
    cases hall
    exact ⟨_, by rw [hleaf.eq_of_text ht], hrest⟩
  | conditional hopen _ _ =>
    cases hall
    exact absurd ht hopen.kind_ne
  | loop hopen _ _ _ =>
    cases hall
    exact absurd ht hopen.kind_ne
  | block hopen _ _ _ =>
    cases hall
    exact absurd ht hopen.kind_ne

mutual

/-- Joined tokens derive a tree that is the same but for joined texts. -/
theorem Derives.of_joins {ts : List Token} {tree : List Node} (h : Derives ts tree) :
    ∀ {ts' : List Token}, (∀ t ∈ ts', t.kind = .tag → Trimmed t.content) → Token.Joins ts ts' →
      ∃ tree', Derives ts' tree' ∧ treeFused tree' = treeFused tree := by
  intro ts' htrim hjoins
  match h with
  | .nil =>
    cases hjoins
    exact ⟨[], .nil, rfl⟩
  | .leaf hleaf htree =>
    cases hjoins with
    | @same _ t' _ rest' hsame hrest =>
      obtain ⟨htrim', htrimRest⟩ := List.forall_mem_cons.1 htrim
      obtain ⟨n', hn', hagree⟩ := hleaf.of_lexeme hsame htrim'
      obtain ⟨tree', htree', hfused⟩ := htree.of_joins htrimRest hrest
      refine ⟨n' :: tree', .leaf hn' htree', ?_⟩
      rw [treeFused, treeFused, hfused, Node.fused_of_leaf hleaf hagree]
    | @text _ u u' _ rest' ht hu hu' hcontent hrest =>
      obtain ⟨-, htrimRest⟩ := List.forall_mem_cons.1 htrim
      have htext : u.kind = .tag → Trimmed u.content := by
        rw [hu]
        exact nofun
      obtain ⟨tree', htree', hfused⟩ :=
        htree.of_joins (List.forall_mem_cons.2 ⟨htext, htrimRest⟩) hrest
      obtain ⟨more, rfl, hmore⟩ := htree'.exists_of_text hu
      refine ⟨.text u'.content :: more, .leaf (.text hu') hmore, ?_⟩
      rw [treeFused, treeFused, ← hfused, hleaf.eq_of_text ht, treeFused, fused, fused, fused,
        hcontent, Node.attach_text_append]
  | .conditional hopen harms htree =>
    rw [List.cons_append] at hjoins
    obtain ⟨t', vs, rfl, hopen', hvs⟩ := hjoins.cons_says hopen nofun htrim
    obtain ⟨-, htrim⟩ := List.forall_mem_cons.1 htrim
    obtain ⟨us', ts', branches', rfl, harms', hts, hbranches⟩ := harms.of_joins htrim hvs
    obtain ⟨tree', htree', hfused⟩ := htree.of_joins (List.forall_mem_append.1 htrim).2 hts
    refine ⟨_, .conditional hopen' harms' htree', ?_⟩
    rw [treeFused, treeFused, hfused, fused, fused, hbranches]
  | .loop hopen hbody hclose htree =>
    rw [List.cons_append] at hjoins
    obtain ⟨t', vs, rfl, hopen', hvs⟩ := hjoins.cons_says hopen nofun htrim
    obtain ⟨-, htrim⟩ := List.forall_mem_cons.1 htrim
    obtain ⟨us', u', ts', rfl, hus, hclose', hts⟩ := hvs.split hclose nofun htrim
    obtain ⟨htrimBody, htrim⟩ := List.forall_mem_append.1 htrim
    obtain ⟨-, htrim⟩ := List.forall_mem_cons.1 htrim
    obtain ⟨body', hbody', hfusedBody⟩ := hbody.of_joins htrimBody hus
    obtain ⟨tree', htree', hfused⟩ := htree.of_joins htrim hts
    refine ⟨_, .loop hopen' hbody' hclose' htree', ?_⟩
    rw [treeFused, treeFused, hfused, fused, fused, hfusedBody]
  | .block hopen hbody hclose htree =>
    rw [List.cons_append] at hjoins
    obtain ⟨t', vs, rfl, hopen', hvs⟩ := hjoins.cons_says hopen nofun htrim
    obtain ⟨-, htrim⟩ := List.forall_mem_cons.1 htrim
    obtain ⟨us', u', ts', rfl, hus, hclose', hts⟩ := hvs.split hclose nofun htrim
    obtain ⟨htrimBody, htrim⟩ := List.forall_mem_append.1 htrim
    obtain ⟨-, htrim⟩ := List.forall_mem_cons.1 htrim
    obtain ⟨body', hbody', hfusedBody⟩ := hbody.of_joins htrimBody hus
    obtain ⟨tree', htree', hfused⟩ := htree.of_joins htrim hts
    refine ⟨_, .block hopen' hbody' hclose' htree', ?_⟩
    rw [treeFused, treeFused, hfused, fused, fused, hfusedBody]
termination_by structural h

/-- Joined tokens derive arms that are the same but for joined texts, up to where the arms end. -/
theorem Arms.of_joins {test : Option Text} {us : List Token} {branches : List (Branch Node)}
    (h : Arms test us branches) :
    ∀ {ts vs : List Token}, (∀ t ∈ vs, t.kind = .tag → Trimmed t.content) →
      Token.Joins (us ++ ts) vs → ∃ us' ts' branches', vs = us' ++ ts' ∧ Arms test us' branches' ∧
        Token.Joins ts ts' ∧ branchesFused branches' = branchesFused branches := by
  intro ts vs htrim hjoins
  match h with
  | .close hbody hclose =>
    rw [List.append_assoc, List.singleton_append] at hjoins
    obtain ⟨us', u', ts', rfl, hus, hclose', hts⟩ := hjoins.split hclose nofun htrim
    obtain ⟨htrimBody, -⟩ := List.forall_mem_append.1 htrim
    obtain ⟨body', hbody', hfused⟩ := hbody.of_joins htrimBody hus
    refine ⟨us' ++ [u'], ts', _, by simp, .close hbody' hclose', hts, ?_⟩
    simp only [branchesFused, hfused]
  | .next hbody hu harms =>
    rw [List.append_assoc, List.cons_append] at hjoins
    obtain ⟨us', u', vs', rfl, hus, hu', hvs⟩ := hjoins.split hu Token.says_ofBranch_ne htrim
    obtain ⟨htrimBody, htrim⟩ := List.forall_mem_append.1 htrim
    obtain ⟨-, htrim⟩ := List.forall_mem_cons.1 htrim
    obtain ⟨body', hbody', hfused⟩ := hbody.of_joins htrimBody hus
    obtain ⟨ws', ts', rest', rfl, harms', hts, hfusedRest⟩ := harms.of_joins htrim hvs
    refine ⟨us' ++ u' :: ws', ts', _, by simp,
      .next hbody' hu' harms', hts, ?_⟩
    rw [branchesFused, branchesFused, hfused, hfusedRest]
termination_by structural h

end

end Stencil
