import Stencil.Template.Source
import Stencil.Proofs.Template.RoundTrip

/-!
# The references of a source

The paths that a parsed tree names for inclusion or extension are those of its tag tokens, one after
the other as they stand in the source, however deep the tags are nested. A tree is read back in the
order of its tokens, and of what it says only the tags of these two kinds name paths; comments,
expressions, text and unknown tags name none, whatever they hold.
-/

set_option autoImplicit false

namespace Stencil

open Node (lexemes treeLexemes branchLexemes references treeReferences branchReferences)

/-! ## Paths that are named -/

/-- The path that a tag names. -/
def Tag.path? : Tag → Option Text
  | .inclusion path => some path
  | .extension path => some path
  | _ => none

/-- The path that a lexeme names. -/
def Lexeme.path? : Lexeme → Option Text
  | .tag meaning => meaning.path?
  | _ => none

namespace Token

/-- The path that a token names, which only tags do. -/
def path? (t : Token) : Option Text :=
  if t.kind = .tag then (Tag.ofContent t.content).path? else none

/-- A tag token that names a path: one of the two keywords, blanks, and the path between two equal
quotes. -/
inductive Names (t : Token) (path : Text) : Prop where
  | inclusion : t.Says (.inclusion path) → Names t path
  | extension : t.Says (.extension path) → Names t path

variable {t : Token} {path : Text}

theorem path?_of_says {tag : Tag} (h : t.Says tag) : t.path? = tag.path? := by
  rw [path?, if_pos h.1, h.2.read]

/-- A token names the paths that it is read to name, and no others. -/
theorem path?_eq_some_iff (htrim : t.kind = .tag → Text.Trimmed t.content) :
    t.path? = some path ↔ t.Names path := by
  constructor
  · intro h
    unfold path? at h
    split at h
    · rename_i hkind
      cases htag : Tag.ofContent t.content with
      | inclusion found =>
        rw [htag] at h
        cases h
        exact .inclusion ⟨hkind, .of_read (htrim hkind) htag nofun⟩
      | extension found =>
        rw [htag] at h
        cases h
        exact .extension ⟨hkind, .of_read (htrim hkind) htag nofun⟩
      | _ =>
        rw [htag] at h
        cases h
    · cases h
  · rintro (h | h)
    · exact path?_of_says h
    · exact path?_of_says h

/-- A token names what its lexeme names. -/
theorem path?_eq_bind (t : Token) : t.path? = t.lexeme?.bind Lexeme.path? := by
  unfold path? lexeme?
  cases t.kind with
  | tag => cases Tag.ofContent t.content <;> rfl
  | _ => rfl

/-- Comments name nothing, so that leaving them out makes no difference. -/
theorem filterMap_path?_significant (tokens : List Token) :
    (significant tokens).filterMap path? = tokens.filterMap path? := by
  have hcomment : (fun t : Token => if t.kind != .comment then t.path? else none) = path? := by
    funext t
    cases hkind : t.kind <;> simp [path?, hkind]
  rw [significant, List.filterMap_filter, hcomment]

end Token

/-! ## References of trees -/

namespace Node

mutual

/-- The references of a node are the paths that it says. -/
theorem references_eq : ∀ n : Node, references n = (lexemes n).filterMap Lexeme.path?
  | .text _ => rfl
  | .interpolation _ _ => rfl
  | .conditional branches => by
    rw [references, lexemes, List.filterMap_append, branchReferences_eq true branches]
    exact (List.append_nil _).symm
  | .loop _ _ body => by
    rw [references, lexemes, List.filterMap_append, treeReferences_eq body]
    exact (List.append_nil _).symm
  | .block _ body => by
    rw [references, lexemes, List.filterMap_append, treeReferences_eq body]
    exact (List.append_nil _).symm
  | .inclusion _ => rfl
  | .extension _ => rfl

/-- The references of a tree are the paths that it says. -/
theorem treeReferences_eq : ∀ tree : List Node,
    treeReferences tree = (treeLexemes tree).filterMap Lexeme.path?
  | [] => rfl
  | n :: rest => by
    rw [treeReferences, treeLexemes, List.filterMap_append, references_eq n, treeReferences_eq rest]

/-- The references of branches are the paths that they say; the tags between them say none. -/
theorem branchReferences_eq (first : Bool) : ∀ branches : List (Branch Node),
    branchReferences branches = (branchLexemes first branches).filterMap Lexeme.path?
  | [] => rfl
  | ⟨test, body⟩ :: rest => by
    have htag : Lexeme.path? (.tag (Tag.ofBranch first test)) = none := by
      cases first <;> cases test <;> rfl
    rw [branchReferences, branchLexemes, List.cons_append, List.filterMap_cons_none htag,
      List.filterMap_append, treeReferences_eq body, branchReferences_eq false rest]

end

end Node

/-- A tree that tokens derive has the references that the tokens name. -/
theorem Derives.references {ts : List Token} {tree : List Node} (h : Derives ts tree) :
    treeReferences tree = ts.filterMap Token.path? := by
  have hbind : (fun t : Token => t.lexeme?.bind Lexeme.path?) = Token.path? :=
    funext fun t => t.path?_eq_bind.symm
  rw [Node.treeReferences_eq, h.lexemes, List.filterMap_filterMap, hbind]

/-! ## Sources -/

namespace Token

/-- The keywords of the tags that name paths. -/
def pathKeywords : List Text := ["include".toList, "extends".toList]

/-- A tag that begins with such a keyword and has a form names a path. -/
theorem exists_names {t : Token} {tag : Tag} (h : t.Says tag)
    (hkeyword : Text.firstWord t.content ∈ pathKeywords) : ∃ path, t.Names path := by
  have hread := h.2.read
  rw [Tag.ofContent_eq] at hread
  simp only [pathKeywords, List.mem_cons, List.not_mem_nil, or_false] at hkeyword
  rcases hkeyword with hk | hk
  · rw [hk] at hread
    obtain ⟨path, -, rfl⟩ := Tag.exists_of_ofArguments hread h.2.ne_malformed
    exact ⟨path, .inclusion h⟩
  · rw [hk] at hread
    obtain ⟨path, -, rfl⟩ := Tag.exists_of_ofArguments hread h.2.ne_malformed
    exact ⟨path, .extension h⟩

end Token

namespace Node

/-- The references of a parsed source are the paths of its tag tokens, in their order and each as
often as it is named. A token names a path exactly if it is a tag of the form that inclusions or
extensions have, and in a source that is parsed every tag with one of their keywords has it. -/
theorem treeReferences_of_parse (path : Option Text) (source : Text) (tree : List Node)
    (h : parse path source = .ok tree) :
    treeReferences tree = (Token.ofSource source).filterMap Token.path? ∧
      ∀ t ∈ Token.ofSource source,
        (∀ named, t.path? = some named ↔ t.Names named) ∧
        (t.kind = .tag → Text.firstWord t.content ∈ Token.pathKeywords →
          ∃ named, t.path? = some named) := by
  have hderives := parse_eq_ok_iff_derives.1 h
  have htrim : ∀ t ∈ Token.ofSource source, t.kind = .tag → Text.Trimmed t.content :=
    fun t ht => Token.trimmed_of_place ht
  refine ⟨hderives.references.trans (Token.filterMap_path?_significant _), fun t ht => ?_⟩
  refine ⟨fun named => Token.path?_eq_some_iff (htrim t ht), fun hkind hkeyword => ?_⟩
  have hsignificant : t ∈ Token.significant (Token.ofSource source) :=
    List.mem_filter.2 ⟨ht, by simp [hkind]⟩
  obtain ⟨tag, hform⟩ := hderives.form_of_mem t hsignificant hkind
  obtain ⟨named, hnamed⟩ := Token.exists_names ⟨hkind, hform⟩ hkeyword
  exact ⟨named, (Token.path?_eq_some_iff (htrim t ht)).2 hnamed⟩

/-- A path that is named twice, once inside a branch, and another one in the other branch. A comment
and an unknown tag hold the tag that is left out. -/
theorem treeReferences_of_parse_nested :
    let tag (content : String) : Segment := .delimited ⟨.tag, content.toList⟩
    let comment : Segment := .delimited ⟨.comment, asTag "include 'y'".toList⟩
    let segments := [tag " if a ", tag " include 'x' ", comment, tag " else ", tag " extends 'z' ",
      tag " endif ", tag " no include 'y' ", tag "include 'x'"]
    let source := segments.flatMap Segment.raw
    ∃ tree, parse none source = .ok tree ∧
      treeReferences tree = ["x".toList, "z".toList, "x".toList] := by
  intro tag comment segments source
  let tree : List Node :=
    [.conditional [⟨some "a".toList, [.inclusion "x".toList]⟩, ⟨none, [.extension "z".toList]⟩],
      .text (asTag "no include 'y'".toList), .inclusion "x".toList]
  have hsegments : Segment.ofSource source = segments := by decide +kernel
  have hparse : parse none source = .ok tree := by
    rw [parse_eq_ok, ofSource?, Token.ofSource, hsegments]
    rfl
  refine ⟨tree, hparse, ?_⟩
  rw [(treeReferences_of_parse none source tree hparse).1]
  decide +kernel

end Node
end Stencil
