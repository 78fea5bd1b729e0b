import Stencil.Proofs.Expr.Balanced
import Stencil.Proofs.Expr.Printed

/-!
# The form of paths

Which texts are paths, said without the reader: a name, and members, elements and calls behind it,
with blanks in front of the name, behind each part and inside the brackets of a call. The reader
accepts exactly these texts and gives their names and steps. So a path that is printed without
blanks is read as it was, and what is read, printed again, is the text without its blanks outside of
square brackets.
-/

set_option autoImplicit false

namespace Stencil

open Text (isBlank Stops Blanks)
open Stencil.Path (isNameChar beginsRoot Balanced)

/-! ## Printing -/

namespace PathStep

/-- A step as text. -/
def print : PathStep → Text
  | .member name => '.' :: name
  | .element key => '[' :: (key ++ [']'])
  | .call => ['(', ')']

/-- A step that can be written: the name of a member is a name, and the key of an element is
balanced. -/
def WellFormed : PathStep → Prop
  | .member name => name ≠ [] ∧ ∀ c ∈ name, isNameChar c = true
  | .element key => Balanced key
  | .call => True

end PathStep

namespace Path

/-- A path as text, without blanks. -/
def print (root : Text) (steps : List PathStep) : Text := root ++ steps.flatMap PathStep.print

/-- A path that can be written. -/
structure WellFormed (root : Text) (steps : List PathStep) : Prop where
  root : ∃ n : RootName, n.text = root
  steps : ∀ s ∈ steps, s.WellFormed

/-! ## Forms -/

/-- A text as steps, with blanks between them. -/
inductive StepsForm : Text → List PathStep → Prop where
  | nil : StepsForm [] []
  | blank {c : Char} {t : Text} {steps : List PathStep} : isBlank c = true →
      StepsForm t steps → StepsForm (c :: t) steps
  | member {name t : Text} {steps : List PathStep} :
      name ≠ [] → (∀ c ∈ name, isNameChar c = true) → StepsForm t steps →
      StepsForm ('.' :: (name ++ t)) (.member name :: steps)
  | element {key t : Text} {steps : List PathStep} : Balanced key → StepsForm t steps →
      StepsForm ('[' :: (key ++ ']' :: t)) (.element key :: steps)
  | call {gap t : Text} {steps : List PathStep} : Blanks gap → StepsForm t steps →
      StepsForm ('(' :: (gap ++ ')' :: t)) (.call :: steps)

/-- A text as a path: blanks, a name, and steps. -/
inductive PathForm : Text → Text → List PathStep → Prop where
  | mk {lead tail : Text} {steps : List PathStep} (n : RootName) : Blanks lead →
      StepsForm tail steps → PathForm (lead ++ (n.text ++ tail)) n.text steps

variable {t root : Text} {steps : List PathStep}

theorem StepsForm.stops (h : StepsForm t steps) : Stops isNameChar t := by
  cases h with
  | nil => exact Text.stops_nil
  | @blank c t _ hc _ =>
    refine Text.stops_cons.2 (Bool.eq_false_iff.2 fun hname => ?_)
    rw [isBlank_of_isNameChar hname] at hc
    cases hc
  | member _ _ _ => exact Text.stops_cons.2 (by decide)
  | element _ _ => exact Text.stops_cons.2 (by decide)
  | call _ _ => exact Text.stops_cons.2 (by decide)

/-! ## Reading one part -/

theorem steps?_blank {c : Char} (h : isBlank c = true) (t : Text) :
    steps? (c :: t) = steps? t := by
  rw [steps?, if_pos h]

theorem steps?_member {name : Text} (hne : name ≠ []) (hname : ∀ c ∈ name, isNameChar c = true)
    (ht : Stops isNameChar t) :
    steps? ('.' :: (name ++ t)) = (steps? t).map (.member name :: ·) := by
  have hempty : name.isEmpty = false := by simpa using hne
  rw [steps?, if_neg (by decide), if_pos rfl]
  simp only [Text.takeWhile_append_of_stops hname ht, Text.dropWhile_append_of_stops hname ht,
    hempty, Bool.false_eq_true, if_false]

theorem steps?_element {key : Text} (h : Balanced key) (t : Text) :
    steps? ('[' :: (key ++ ']' :: t)) = (steps? t).map (.element key :: ·) := by
  have hclosing := toClosing_eq_some_iff.2 ⟨h, rfl (a := key ++ ']' :: t)⟩
  rw [steps?, if_neg (by decide), if_neg (by decide), if_pos rfl]
  split
  · rename_i hnone
    rw [hclosing] at hnone
    cases hnone
  · rename_i expression rest hsome
    rw [hclosing] at hsome
    cases hsome
    rfl

theorem steps?_call {gap : Text} (h : Blanks gap) (t : Text) :
    steps? ('(' :: (gap ++ ')' :: t)) = (steps? t).map (.call :: ·) := by
  have hdrop : (gap ++ ')' :: t).dropWhile isBlank = ')' :: t :=
    Text.dropWhile_append_of_stops h (Text.stops_cons.2 (by decide))
  rw [steps?, if_neg (by decide), if_neg (by decide), if_neg (by decide), if_pos rfl]
  split
  · rename_i rest hrest
    rw [hdrop] at hrest
    cases hrest
    rfl
  · rename_i hnone
    exact absurd hdrop (hnone t)

/-- A name, blanks before it and what follows it are read as a path if that is read as its steps. -/
theorem parse?_root (n : RootName) {lead tail : Text} (hlead : Blanks lead)
    (htail : Stops isNameChar tail) :
    parse? (lead ++ (n.text ++ tail)) = (steps? tail).map fun steps => (n.text, steps) := by
  have hblank : isBlank n.first = false :=
    isBlank_of_isNameChar (isNameChar_of_beginsRoot n.begins)
  have hstrip : Text.stripLeft (lead ++ (n.text ++ tail)) = n.first :: (n.rest ++ tail) := by
    rw [Text.stripLeft_append hlead]
    exact Text.stripLeft_of_stops (Text.stops_cons.2 hblank)
  unfold parse?
  rw [hstrip]
  simp only
  rw [if_pos n.begins, Text.dropWhile_append_of_stops n.all htail,
    Text.takeWhile_append_of_stops n.all htail]
  rfl

/-! ## Reading whole paths -/

theorem StepsForm.of_read (h : steps? t = some steps) : StepsForm t steps := by
  fun_induction steps? t generalizing steps with
  | case1 =>
    cases h
    exact .nil
  | case2 c rest hblank ih => exact .blank hblank (ih h)
  | case3 => cases h
  | case4 rest name hname _ =>
    rename_i ih
    obtain ⟨others, hothers, rfl⟩ := Option.map_eq_some_iff.1 h
    have hne : name ≠ [] := by simpa using hname
    have hform := StepsForm.member hne (fun c => Text.mem_takeWhile) (ih hothers)
    rwa [List.takeWhile_append_dropWhile] at hform
  | case5 => cases h
  | case6 rest key after hclosing hblank hdot ih =>
    obtain ⟨others, hothers, rfl⟩ := Option.map_eq_some_iff.1 h
    obtain ⟨hkey, rfl⟩ := toClosing_eq_some_iff.1 hclosing
    exact .element hkey (ih hothers)
  | case7 rest after hafter hblank hdot hopen ih =>
    obtain ⟨others, hothers, rfl⟩ := Option.map_eq_some_iff.1 h
    have hgap : Blanks (rest.takeWhile isBlank) := fun c => Text.mem_takeWhile
    have hform := StepsForm.call hgap (ih hothers)
    rwa [← hafter, List.takeWhile_append_dropWhile] at hform
  | case8 => cases h
  | case9 => cases h

theorem StepsForm.read (h : StepsForm t steps) : steps? t = some steps := by
  induction h with
  | nil => rw [steps?]
  | blank hc _ ih => rw [steps?_blank hc, ih]
  | member hne hname ht ih => rw [steps?_member hne hname ht.stops, ih, Option.map_some]
  | element hkey _ ih => rw [steps?_element hkey, ih, Option.map_some]
  | call hgap _ ih => rw [steps?_call hgap, ih, Option.map_some]

/-- The texts that are read as paths are those of their form. -/
theorem parse?_eq_some_iff : parse? t = some (root, steps) ↔ PathForm t root steps := by
  constructor
  · intro h
    have hlead : Blanks (t.takeWhile isBlank) := fun c => Text.mem_takeWhile
    have hsplit : t = t.takeWhile isBlank ++ Text.stripLeft t :=
      List.takeWhile_append_dropWhile.symm
    unfold parse? at h
    split at h
    · cases h
    · rename_i c rest hstrip
      split at h
      · rename_i hbegins
        obtain ⟨steps', hsteps, heq⟩ := Option.map_eq_some_iff.1 h
        cases heq
        let n : RootName := ⟨c, rest.takeWhile isNameChar, hbegins, fun d => Text.mem_takeWhile⟩
        have hform := PathForm.mk n hlead (.of_read hsteps)
        have htext : n.text ++ rest.dropWhile isNameChar = c :: rest := by
          rw [RootName.text, List.cons_append, List.takeWhile_append_dropWhile]
        rwa [htext, ← hstrip, ← hsplit] at hform
      · cases h
  · rintro ⟨n, hlead, htail⟩
    rw [parse?_root n hlead htail.stops, htail.read, Option.map_some]

/-- Steps that can be written are printed in their form. -/
theorem stepsForm_print (h : ∀ s ∈ steps, s.WellFormed) :
    StepsForm (steps.flatMap PathStep.print) steps := by
  induction steps with
  | nil => exact .nil
  | cons s steps ih =>
    obtain ⟨hs, hrest⟩ := List.forall_mem_cons.1 h
    rw [List.flatMap_cons]
    cases s with
    | member name => exact .member hs.1 hs.2 (ih hrest)
    | element key =>
      rw [PathStep.print, List.cons_append, List.append_assoc]
      exact .element hs (ih hrest)
    | call => exact .call Text.blanks_nil (ih hrest)

/-! ## Printing what was read -/

/-- A text without its blanks outside of square brackets, given the quote that is open and the number
of brackets that are. Outside of brackets quotes do not count, and in quotes brackets do not. -/
def closeUp (quote : Option Char) (depth : Nat) : Text → Text
  | [] => []
  | c :: rest =>
    match depth, quote with
    | 0, _ =>
      if isBlank c then closeUp none 0 rest else c :: closeUp none (if c = '[' then 1 else 0) rest
    | depth + 1, some q => c :: closeUp (if c = q then none else some q) (depth + 1) rest
    | depth + 1, none =>
      if Scan.isQuote c then c :: closeUp (some c) (depth + 1) rest
      else if c = '[' then c :: closeUp none (depth + 2) rest
      else if c = ']' then c :: closeUp none depth rest
      else c :: closeUp none (depth + 1) rest

/-- A text without its blanks outside of square brackets. -/
def withoutBlanks (t : Text) : Text := closeUp none 0 t

theorem closeUp_quoted {q : Char} {body : Text} (hq : q ∉ body) (n : Nat) (rest : Text) :
    closeUp (some q) (n + 1) (body ++ q :: rest) = body ++ q :: closeUp none (n + 1) rest := by
  induction body with
  | nil => simp [closeUp]
  | cons c body ih =>
    obtain ⟨hc, hbody⟩ := not_or.1 (mt List.mem_cons.2 hq)
    rw [List.cons_append, closeUp, if_neg fun heq => hc heq.symm, ih hbody, List.cons_append]

/-- Nothing changes between brackets. -/
theorem closeUp_balanced {key : Text} (h : Balanced key) (n : Nat) (rest : Text) :
    closeUp none (n + 1) (key ++ rest) = key ++ closeUp none (n + 1) rest := by
  induction h generalizing n rest with
  | nil => rfl
  | plain hquote hopen hclose _ ih =>
    rw [List.cons_append, closeUp, hquote, if_neg Bool.false_ne_true, if_neg hopen, if_neg hclose,
      ih, List.cons_append]
  | quoted hq hbody _ ih =>
    rw [List.cons_append, closeUp, if_pos hq, List.append_assoc, List.cons_append,
      closeUp_quoted hbody, ih]
    simp only [List.cons_append, List.append_assoc]
  | element _ _ ihBody ih =>
    rw [List.cons_append, closeUp, if_neg (by decide), if_pos rfl, List.append_assoc,
      List.cons_append, ihBody, closeUp, if_neg (by decide), if_neg (by decide), if_pos rfl, ih]
    simp only [List.cons_append, List.append_assoc]

theorem closeUp_cons {c : Char} (hblank : isBlank c = false) (hopen : c ≠ '[') (rest : Text) :
    closeUp none 0 (c :: rest) = c :: closeUp none 0 rest := by
  rw [closeUp, hblank, if_neg Bool.false_ne_true, if_neg hopen]

theorem closeUp_blanks {b : Text} (h : Blanks b) (rest : Text) :
    closeUp none 0 (b ++ rest) = closeUp none 0 rest := by
  induction b with
  | nil => rfl
  | cons c b ih =>
    rw [List.cons_append, closeUp, if_pos (h c List.mem_cons_self)]
    exact ih fun d hd => h d (List.mem_cons_of_mem _ hd)

theorem closeUp_name {name : Text} (h : ∀ c ∈ name, isNameChar c = true) (rest : Text) :
    closeUp none 0 (name ++ rest) = name ++ closeUp none 0 rest := by
  induction name with
  | nil => rfl
  | cons c name ih =>
    obtain ⟨hc, hname⟩ := List.forall_mem_cons.1 h
    have hopen : c ≠ '[' := by
      rintro rfl
      revert hc
      decide
    rw [List.cons_append, closeUp_cons (isBlank_of_isNameChar hc) hopen, ih hname, List.cons_append]

/-- The steps of a text can be written, and are printed as the text without blanks. -/
theorem StepsForm.print_eq (h : StepsForm t steps) :
    (∀ s ∈ steps, s.WellFormed) ∧ steps.flatMap PathStep.print = withoutBlanks t := by
  unfold withoutBlanks
  induction h with
  | nil => exact ⟨nofun, rfl⟩
  | @blank c t _ hc _ ih =>
    refine ⟨ih.1, ?_⟩
    rw [closeUp, if_pos hc]
    exact ih.2
  | @member name t _ hne hname _ ih =>
    refine ⟨List.forall_mem_cons.2 ⟨⟨hne, hname⟩, ih.1⟩, ?_⟩
    have hdot : closeUp none 0 ('.' :: (name ++ t)) = '.' :: closeUp none 0 (name ++ t) :=
      closeUp_cons (by decide) (by decide) _
    rw [List.flatMap_cons, PathStep.print, hdot, closeUp_name hname, ih.2]
    rfl
  | @element key t _ hkey _ ih =>
    refine ⟨List.forall_mem_cons.2 ⟨hkey, ih.1⟩, ?_⟩
    have hopen : closeUp none 0 ('[' :: (key ++ ']' :: t)) =
        '[' :: closeUp none (0 + 1) (key ++ ']' :: t) := rfl
    have hclose : closeUp none (0 + 1) (']' :: t) = ']' :: closeUp none 0 t := rfl
    rw [List.flatMap_cons, PathStep.print, hopen, closeUp_balanced hkey, hclose, ih.2]
    simp only [List.cons_append, List.append_assoc, List.nil_append]
  | @call gap t _ hgap _ ih =>
    refine ⟨List.forall_mem_cons.2 ⟨trivial, ih.1⟩, ?_⟩
    have hopen : closeUp none 0 ('(' :: (gap ++ ')' :: t)) =
        '(' :: closeUp none 0 (gap ++ ')' :: t) := closeUp_cons (by decide) (by decide) _
    have hclose : closeUp none 0 (')' :: t) = ')' :: closeUp none 0 t :=
      closeUp_cons (by decide) (by decide) _
    rw [List.flatMap_cons, PathStep.print, hopen, closeUp_blanks hgap, hclose, ih.2]
    rfl

/-- Reading accepts exactly the form of paths and undoes printing: a path that can be written is read
back from its text, and what is read from any text can be written, as that text without its blanks
outside of square brackets. -/
theorem parse?_inverts_print (root : Text) (steps : List PathStep) :
    (WellFormed root steps → parse? (print root steps) = some (root, steps)) ∧
      ∀ t, (parse? t = some (root, steps) ↔ PathForm t root steps) ∧
        (parse? t = some (root, steps) →
          WellFormed root steps ∧ print root steps = withoutBlanks t) := by
  refine ⟨?_, fun t => ⟨parse?_eq_some_iff, fun h => ?_⟩⟩
  · rintro ⟨⟨n, rfl⟩, hsteps⟩
    exact parse?_eq_some_iff.2 (.mk n Text.blanks_nil (stepsForm_print hsteps))
  · obtain ⟨n, hlead, htail⟩ := parse?_eq_some_iff.1 h
    obtain ⟨hsteps, hprint⟩ := htail.print_eq
    refine ⟨⟨⟨n, rfl⟩, hsteps⟩, ?_⟩
    unfold withoutBlanks
    rw [closeUp_blanks hlead, closeUp_name n.all_text]
    exact congrArg (n.text ++ ·) hprint

/-- A key that holds a bracket in quotes, an element inside it, and blanks everywhere. -/
theorem parse?_inverts_print_nested :
    let key : Text := "a[0] | f:']'".toList
    let steps : List PathStep := [.element key, .call, .member ['$', 'b']]
    WellFormed "r".toList steps ∧
      parse? (print "r".toList steps) = some ("r".toList, steps) ∧
      withoutBlanks " r [a[0] | f:']']( ) .$b ".toList = print "r".toList steps := by
  intro key steps
  have hplain {t : Text} (c : Char) (ht : Balanced t)
      (hc : (!Scan.isQuote c && c != '[' && c != ']') = true) : Balanced (c :: t) := by
    simp only [Bool.and_eq_true, Bool.not_eq_true', bne_iff_ne] at hc
    exact .plain hc.1.1 hc.1.2 hc.2 ht
  have hkey : Balanced key := by
    refine hplain 'a' (.element (hplain '0' .nil rfl) ?_) rfl
    refine hplain ' ' (hplain '|' (hplain ' ' (hplain 'f' (hplain ':' ?_ rfl) rfl) rfl) rfl) rfl
    have hquoted : Balanced ('\'' :: ([']'] ++ '\'' :: [])) := .quoted rfl (by decide) .nil
    exact hquoted
  have hformed : WellFormed "r".toList steps := by
    refine ⟨⟨⟨'r', [], rfl, nofun⟩, rfl⟩, ?_⟩
    simp only [steps, List.mem_cons, List.not_mem_nil, or_false, forall_eq_or_imp, forall_eq]
    have hname : ['$', 'b'].all isNameChar = true := rfl
    exact ⟨hkey, trivial, List.cons_ne_nil _ _, List.all_eq_true.1 hname⟩
  have hread := (parse?_inverts_print "r".toList steps).1 hformed
  exact ⟨hformed, hread, rfl⟩

end Path
end Stencil
