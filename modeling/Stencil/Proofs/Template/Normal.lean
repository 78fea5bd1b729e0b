import Stencil.Proofs.Template.ReadBack
import Stencil.Proofs.Template.Respan
import Stencil.Template.Printer

/-!
# Tags in normalized spacing

What a tag means can be written as a content again, with single blanks and with quotes that the path
allows. The written content has a form of the same meaning, and it brings in no pair that closes a
span: every brace in it stands where it stood in the content that was read, next to the same
character or to a blank or a quote.
-/

set_option autoImplicit false

namespace Stencil

open Text (isBlank isWord isName Blanks Trimmed Gap strip)
open Node (treeLexemes branchLexemes asTag printTag printPath printTree printTest)

/-! ## Contents in normalized spacing -/

/-- The content of a tag in normalized spacing. Malformed and unknown tags have none. -/
def Tag.print : Tag → Text
  | .openIf test => Text.join [' '] (["if".toList, test].filter fun w => !w.isEmpty)
  | .elseIf test => Text.join [' '] (["elif".toList, test].filter fun w => !w.isEmpty)
  | .otherwise => "else".toList
  | .close c => c.endKeyword
  | .openFor names iterable =>
    "for".toList ++ ([' '] ++ Text.join [',', ' '] names ++ ([' '] ++ ['i', 'n'] ++ [' '] ++ iterable))
  | .openBlock name => "block".toList ++ ([' '] ++ name)
  | .inclusion path => "include".toList ++ ([' '] ++ printPath path)
  | .extension path => "extends".toList ++ ([' '] ++ printPath path)
  | .malformed _ _ => []
  | .unknown => []

/-- A lexeme as source. -/
def Lexeme.print : Lexeme → Text
  | .text value => value
  | .expression content => ['{', '{', ' '] ++ content ++ [' ', '}', '}']
  | .tag meaning => asTag meaning.print

theorem printTag_eq {words : List Text} {content : Text}
    (h : Text.join [' '] (words.filter fun w => !w.isEmpty) = content) :
    printTag words = asTag content := by
  rw [printTag, h]

theorem print_ofBranch (first : Bool) (test : Option Text) :
    printTest first test = (Lexeme.tag (Tag.ofBranch first test)).print := by
  cases test with
  | none => cases first <;> exact printTag_eq rfl
  | some test => cases first <;> exact printTag_eq rfl

theorem print_close (c : Construct) :
    printTag [c.endKeyword] = (Lexeme.tag (.close c)).print := by
  cases c <;> exact printTag_eq rfl

theorem print_openFor (names : List Text) (iterable : Text) :
    asTag ("for ".toList ++ Text.join ", ".toList names ++ " in ".toList ++ iterable) =
      (Lexeme.tag (.openFor names iterable)).print := by
  show _ = asTag ("for".toList ++ ([' '] ++ Text.join [',', ' '] names ++
    ([' '] ++ ['i', 'n'] ++ [' '] ++ iterable)))
  simp only [List.append_assoc]
  rfl

theorem print_openBlock (name : Text) :
    asTag ("block ".toList ++ name) = (Lexeme.tag (.openBlock name)).print := rfl

theorem print_inclusion (path : Text) :
    asTag ("include ".toList ++ printPath path) = (Lexeme.tag (.inclusion path)).print := rfl

theorem print_extension (path : Text) :
    asTag ("extends ".toList ++ printPath path) = (Lexeme.tag (.extension path)).print := rfl

namespace Node

mutual

/-- A node is printed by its lexemes. -/
theorem print_eq : ∀ n : Node, print n = (lexemes n).flatMap Lexeme.print
  | .text value => by
    unfold print
    exact (List.append_nil value).symm
  | .interpolation expression _ => by
    unfold print
    exact (List.append_nil _).symm
  | .conditional branches => by
    unfold print
    rw [lexemes, List.flatMap_append, ← printBranches_eq true branches, List.flatMap_singleton]
    exact congrArg _ (print_close .conditional)
  | .loop names iterable body => by
    unfold print
    rw [lexemes, List.cons_append, List.flatMap_cons, List.flatMap_append, ← printTree_eq body,
      List.flatMap_singleton, ← print_openFor, ← print_close]
    simp only [List.append_assoc]
    rfl
  | .block name body => by
    unfold print
    rw [lexemes, List.cons_append, List.flatMap_cons, List.flatMap_append, ← printTree_eq body,
      List.flatMap_singleton, ← print_openBlock, ← print_close]
    simp only [List.append_assoc]
    rfl
  | .inclusion path => by
    unfold print
    rw [lexemes, List.flatMap_singleton, ← print_inclusion]
  | .extension path => by
    unfold print
    rw [lexemes, List.flatMap_singleton, ← print_extension]

/-- A tree is printed by its lexemes. -/
theorem printTree_eq : ∀ tree : List Node, printTree tree = (treeLexemes tree).flatMap Lexeme.print
  | [] => rfl
  | n :: rest => by
    rw [printTree, treeLexemes, List.flatMap_append, print_eq n, printTree_eq rest]

theorem printBranches_eq (first : Bool) : ∀ branches : List (Branch Node),
    printBranches first branches = (branchLexemes first branches).flatMap Lexeme.print
  | [] => rfl
  | ⟨test, body⟩ :: rest => by
    rw [printBranches, branchLexemes, List.cons_append, List.flatMap_cons, List.flatMap_append,
      ← printTree_eq body, ← printBranches_eq false rest, print_ofBranch, List.append_assoc]

end

end Node

/-! ## Forms of what is written -/

namespace Tag

variable {content test path : Text} {tag : Tag} {mark : Char}

theorem join_words {keyword : Text} (hk : keyword ≠ []) (ht : test ≠ []) :
    Text.join [' '] ([keyword, test].filter fun w => !w.isEmpty) = keyword ++ ([' '] ++ test) := by
  simp [hk, ht, Text.join]

theorem gap_space : Gap [' '] := ⟨by simp [Blanks]; decide, List.cons_ne_nil _ _⟩

/-- The argument of a tag after a keyword, written with one blank. -/
theorem Argument.written {rest : Text} (h : Argument rest test) (keyword : Text) (hk : keyword ≠ []) :
    ∃ rest', Argument rest' test ∧
      Text.join [' '] ([keyword, test].filter fun w => !w.isEmpty) = keyword ++ rest' := by
  cases h with
  | none => exact ⟨[], .none, by simp [hk, Text.join]⟩
  | some _ hne htrim => exact ⟨[' '] ++ test, .some gap_space hne htrim, join_words hk hne⟩

theorem Quoted.written {rest : Text} (h : Quoted rest path) : Quoted (printPath path) path := by
  rcases h with ⟨-, hne, hline⟩
  unfold printPath
  split
  · exact .mk (.inr rfl) hne hline
  · exact .mk (.inl rfl) hne hline

theorem Iterable.written {rest it : Text} (h : Iterable rest it) :
    Iterable ([' '] ++ ['i', 'n'] ++ [' '] ++ it) it := by
  rcases h with ⟨-, -, hne, htrim⟩
  exact .mk gap_space gap_space hne htrim

theorem LoopHeader.written {rest it : Text} {names : List Text} (h : LoopHeader rest names it) :
    LoopHeader ([' '] ++ Text.join [',', ' '] names ++ ([' '] ++ ['i', 'n'] ++ [' '] ++ it))
      names it := by
  cases h with
  | one _ hname hit => exact .one gap_space hname hit.written
  | two _ hkey _ _ hvalue hit =>
    have hheader := LoopHeader.two gap_space hkey Text.blanks_nil gap_space.blanks hvalue
      hit.written
    simp only [List.append_assoc] at hheader
    simp only [Text.join, List.append_assoc]
    exact hheader

/-- A tag in normalized spacing has a form of the same meaning. -/
theorem Form.written (h : Form content tag) (hknown : tag ≠ .unknown) : Form tag.print tag := by
  cases h with
  | @openIf _ test h =>
    obtain ⟨rest, harg, hprint⟩ := h.written "if".toList (by decide)
    have hform := Form.openIf harg
    rwa [← hprint] at hform
  | @elseIf _ test h =>
    obtain ⟨rest, harg, hprint⟩ := h.written "elif".toList (by decide)
    have hform := Form.elseIf harg
    rwa [← hprint] at hform
  | otherwise _ => exact .otherwise .none
  | close c _ =>
    have hform := Form.close c .none
    rwa [List.append_nil] at hform
  | openFor h => exact .openFor h.written
  | openBlock _ hname => exact .openBlock gap_space hname
  | inclusion _ h => exact .inclusion gap_space h.written
  | extension _ h => exact .extension gap_space h.written
  | unknown _ => exact absurd rfl hknown

/-! ## Pairs in what is written -/

theorem not_mem_of_isName {name : Text} (h : isName name = true) : '}' ∉ name := by
  intro hmem
  have hword := List.all_eq_true.1 (Bool.and_eq_true_iff.1 h).2 _ hmem
  revert hword
  decide

/-- A pair stands behind a part that ends with a character other than a mark. -/
theorem pair_behind {x y : Text} {c : Char} (hmark : mark ∈ closeMarks) (hc : c ∉ closeMarks)
    (hx : '}' ∉ x ++ [c]) (h : HasPair mark (x ++ [c] ++ y)) : HasPair mark y := by
  refine h.of_append hx fun hlast => ?_
  rw [List.getLast?_append, List.getLast?_singleton] at hlast
  obtain rfl := Option.some.inj hlast
  exact hc hmark

theorem Argument.pairs {rest keyword : Text} (h : Argument rest test) (hk : keyword ≠ [])
    (hbrace : '}' ∉ keyword) (hmark : mark ∈ closeMarks)
    (hpair : HasPair mark (Text.join [' '] ([keyword, test].filter fun w => !w.isEmpty))) :
    HasPair mark (keyword ++ rest) := by
  cases h with
  | none =>
    have hjoin : Text.join [' '] ([keyword, []].filter fun w => !w.isEmpty) = keyword := by
      simp [hk, Text.join]
    rw [hjoin] at hpair
    exact absurd hpair.mem hbrace
  | @some gap test hgap hne htrim =>
    rw [join_words hk hne, ← List.append_assoc] at hpair
    have htest : HasPair mark test :=
      pair_behind hmark (by decide) (by simpa using hbrace) hpair
    rw [← List.append_assoc]
    exact htest.mono (List.suffix_append _ _).isInfix

theorem LoopHeader.suffix {rest it : Text} {names : List Text} (h : LoopHeader rest names it) :
    ∃ before, rest = before ++ it ∧ Text.Solid it := by
  cases h with
  | @one gap name _ _ _ _ hit =>
    rcases hit with @⟨gap', gap'', _, -, -, hne, htrim⟩
    exact ⟨gap ++ name ++ (gap' ++ ['i', 'n'] ++ gap''), by simp only [List.append_assoc],
      .of_trimmed hne htrim⟩
  | @two gap key before after value _ _ _ _ _ _ _ hit =>
    rcases hit with @⟨gap', gap'', _, -, -, hne, htrim⟩
    exact ⟨gap ++ key ++ before ++ [','] ++ after ++ value ++ (gap' ++ ['i', 'n'] ++ gap''),
      by simp only [List.append_assoc], .of_trimmed hne htrim⟩

theorem LoopHeader.pairs {rest it : Text} {names : List Text} (h : LoopHeader rest names it)
    (hmark : mark ∈ closeMarks) (hpair : HasPair mark (Tag.openFor names it).print) :
    HasPair mark rest := by
  have hnames : '}' ∉ Text.join [',', ' '] names := by
    cases h with
    | one _ hname _ => exact not_mem_of_isName hname
    | two _ hkey _ _ hvalue _ =>
      simp [Text.join, not_mem_of_isName hkey, not_mem_of_isName hvalue]
  have hsplit : (Tag.openFor names it).print =
      ("for".toList ++ ([' '] ++ Text.join [',', ' '] names ++ [' ', 'i', 'n'])) ++ [' '] ++ it := by
    show "for".toList ++ ([' '] ++ Text.join [',', ' '] names ++ ([' '] ++ ['i', 'n'] ++ [' '] ++ it)) = _
    simp only [List.append_assoc]
    rfl
  rw [hsplit] at hpair
  have hit : HasPair mark it := pair_behind hmark (by decide) (by simp [hnames]) hpair
  obtain ⟨before, rfl, -⟩ := h.suffix
  exact hit.mono (List.suffix_append _ _).isInfix

theorem Quoted.pairs {rest keyword : Text} (h : Quoted rest path) (hbrace : '}' ∉ keyword)
    (hmark : mark ∈ closeMarks) (hpair : HasPair mark (keyword ++ ([' '] ++ printPath path))) :
    HasPair mark rest := by
  have hquote : ∃ c, (c = '"' ∨ c = '\'') ∧ printPath path = [c] ++ (path ++ [c]) := by
    unfold printPath
    split
    · exact ⟨'\'', .inr rfl, rfl⟩
    · exact ⟨'"', .inl rfl, rfl⟩
  obtain ⟨c, hc, hprint⟩ := hquote
  have hclass : c ∉ closeMarks ∧ c ≠ '}' := by rcases hc with rfl | rfl <;> decide
  have hsplit : keyword ++ ([' '] ++ printPath path) = (keyword ++ [' ']) ++ [c] ++ (path ++ [c]) := by
    rw [hprint]
    simp only [List.append_assoc]
  rw [hsplit] at hpair
  have hbefore : '}' ∉ keyword ++ [' '] ++ [c] := by
    simp [hbrace, hclass.2.symm]
  have hpath : HasPair mark path :=
    (pair_behind hmark hclass.1 hbefore hpair).of_append_left (by simp [hclass.2.symm])
  rcases h with @⟨quote, _, -, -, -⟩
  exact hpath.mono ⟨[quote], [quote], rfl⟩

/-- A pair that would close a span stands in what is written only if it stands in what was read. -/
theorem Form.pairs (h : Form content tag) (hmark : mark ∈ closeMarks)
    (hpair : HasPair mark tag.print) : HasPair mark content := by
  cases h with
  | openIf h => exact h.pairs (by decide) (by decide) hmark hpair
  | elseIf h => exact h.pairs (by decide) (by decide) hmark hpair
  | otherwise _ => exact absurd hpair.mem (by decide)
  | close c _ =>
    refine absurd hpair.mem ?_
    cases c <;> decide
  | openFor h => exact (h.pairs hmark hpair).mono (List.suffix_append _ _).isInfix
  | @openBlock gap name _ hname =>
    have hbrace : '}' ∉ "block".toList ++ ([' '] ++ name) := by
      simp [not_mem_of_isName hname]
    exact absurd hpair.mem hbrace
  | inclusion _ h =>
    have hrest := h.pairs (by decide) hmark hpair
    rw [← List.append_assoc]
    exact hrest.mono (List.suffix_append _ _).isInfix
  | extension _ h =>
    have hrest := h.pairs (by decide) hmark hpair
    rw [← List.append_assoc]
    exact hrest.mono (List.suffix_append _ _).isInfix
  | unknown _ => exact absurd hpair hasPair_nil

/-! ## The ends of what has a form -/

open Text (Solid)

theorem solid_of_isName {name : Text} (h : isName name = true) : Solid name := by
  obtain ⟨hne, hall⟩ := Bool.and_eq_true_iff.1 h
  refine .of_all (by simpa using hne) fun c hc => ?_
  cases hblank : isBlank c with
  | false => rfl
  | true =>
    have hword := List.all_eq_true.1 hall c hc
    rw [Text.isWord_of_isBlank hblank] at hword
    cases hword

theorem Argument.solid {rest keyword : Text} (h : Argument rest test) (hk : Solid keyword) :
    Solid (keyword ++ rest) := by
  cases h with
  | none => rwa [List.append_nil]
  | @some gap _ _ hne htrim => exact hk.around (.of_trimmed hne htrim) gap

theorem Quoted.solid {rest : Text} (h : Quoted rest path) : Solid rest := by
  rcases h with @⟨quote, _, hquote, -, -⟩
  have hblank : isBlank quote = false := by rcases hquote with rfl | rfl <;> decide
  exact (Solid.singleton hblank).around (.singleton hblank) path

/-- A content that has a form neither begins nor ends with a blank, and no percent sign begins it. -/
theorem Form.solid (h : Form content tag) (hknown : tag ≠ .unknown) :
    Solid content ∧ content.head? ≠ some '%' := by
  cases h with
  | openIf h => exact ⟨h.solid (.of_word (by decide) (by decide)), nofun⟩
  | elseIf h => exact ⟨h.solid (.of_word (by decide) (by decide)), nofun⟩
  | otherwise h => exact ⟨h.solid (.of_word (by decide) (by decide)), nofun⟩
  | close c h =>
    have hk : Solid c.endKeyword := .of_word (by cases c <;> decide) (by cases c <;> decide)
    exact ⟨h.solid hk, nofun⟩
  | openFor h =>
    obtain ⟨before, rfl, hit⟩ := h.suffix
    have hk : Solid "for".toList := .of_word (by decide) (by decide)
    exact ⟨hk.around hit before, nofun⟩
  | @openBlock gap name _ hname =>
    have hk : Solid "block".toList := .of_word (by decide) (by decide)
    exact ⟨hk.around (solid_of_isName hname) gap, nofun⟩
  | @inclusion gap rest _ _ h =>
    have hk : Solid "include".toList := .of_word (by decide) (by decide)
    exact ⟨hk.around h.solid gap, nofun⟩
  | @extension gap rest _ _ h =>
    have hk : Solid "extends".toList := .of_word (by decide) (by decide)
    exact ⟨hk.around h.solid gap, nofun⟩
  | unknown _ => exact absurd rfl hknown

end Tag

end Stencil
