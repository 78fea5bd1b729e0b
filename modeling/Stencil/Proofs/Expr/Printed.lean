import Stencil.Proofs.Expr.Phrase
import Stencil.Proofs.Expr.Scan

/-!
# Printed phrases

The text of a phrase is sealed, so that scans pass over what is inside it, and neither begins nor
ends with a blank. Operands hold no mark outside of quotes and brackets.
-/

set_option autoImplicit false

namespace Stencil

open Text (isBlank isWord isDecimal Stops Blanks Trimmed Solid)
open Stencil.Path (isNameChar beginsRoot)
open Scan (isPlain Sealed)

/-! ## Characters -/

/-- A character that may stand in an operand outside of quotes and brackets. -/
def isOperandChar (c : Char) : Bool := c != '|' && c != ':'

/-- The characters that scans look at. -/
def scannedChars : List Char := ['"', '\'', '[', '(', ']', ')', '|', ':']

theorem plain_of_not_mem {c : Char} (h : c ∉ scannedChars) :
    isPlain c = true ∧ isOperandChar c = true := by
  simp only [scannedChars, List.mem_cons, List.not_mem_nil, or_false, not_or] at h
  simp [isPlain, isOperandChar, Scan.isQuote, Scan.isOpening, Scan.isClosing, h]

/-- Characters of a class are plain if scanned characters are not in it. -/
theorem plain_of_class {p : Char → Bool} (hp : (scannedChars.all fun x => !p x) = true) {c : Char}
    (h : p c = true) : isPlain c = true ∧ isOperandChar c = true := by
  refine plain_of_not_mem fun hc => ?_
  have hnone := List.all_eq_true.1 hp c hc
  simp [h] at hnone

theorem isNameChar_of_isWord {c : Char} (h : isWord c = true) : isNameChar c = true := by
  simp [isNameChar, h]

theorem toNat_of_isAsciiLetter {c : Char} (h : Text.isAsciiLetter c = true) :
    65 ≤ c.toNat ∧ c.toNat ≤ 122 := by
  simp only [Text.isAsciiLetter, Bool.or_eq_true, Bool.and_eq_true, decide_eq_true_eq, Char.le_def,
    UInt32.le_iff_toNat_le] at h
  have hsmall : ('a' : Char).val.toNat = 97 ∧ ('z' : Char).val.toNat = 122 := ⟨rfl, rfl⟩
  have hcapital : ('A' : Char).val.toNat = 65 ∧ ('Z' : Char).val.toNat = 90 := ⟨rfl, rfl⟩
  show 65 ≤ c.val.toNat ∧ c.val.toNat ≤ 122
  omega

theorem isNameChar_of_beginsRoot {c : Char} (h : beginsRoot c = true) : isNameChar c = true := by
  simp only [beginsRoot, Bool.or_eq_true, beq_iff_eq] at h
  rcases h with (hletter | rfl) | rfl
  · have hascii : c.toNat < 128 := by
      have := toNat_of_isAsciiLetter hletter
      omega
    simp [isNameChar, isWord, Text.isAlphanumeric, hascii, hletter]
  · decide
  · decide

theorem isDecimal_of_beginsRoot {c : Char} (h : beginsRoot c = true) : isDecimal c = false := by
  simp only [beginsRoot, Bool.or_eq_true, beq_iff_eq] at h
  rcases h with (hletter | rfl) | rfl
  · have hbounds := toNat_of_isAsciiLetter hletter
    have hdigit : Text.isAsciiDigit c = false := by
      have hnine : ('9' : Char).val.toNat = 57 := rfl
      have hgreater : ¬ c ≤ '9' := by
        rw [Char.le_def, UInt32.le_iff_toNat_le, hnine]
        have hval : c.val.toNat = c.toNat := rfl
        omega
      simp [Text.isAsciiDigit, hgreater]
    have hascii : c.toNat < 128 := by omega
    simp [isDecimal, Text.digitValue?, hascii, hdigit]
  · decide
  · decide

theorem isBlank_of_isNameChar {c : Char} (h : isNameChar c = true) : isBlank c = false := by
  cases hblank : isBlank c with
  | false => rfl
  | true =>
    have hdollar : c ≠ '$' := by
      rintro rfl
      revert hblank
      decide
    simp [isNameChar, Text.isWord_of_isBlank hblank, hdollar] at h

theorem isBlank_of_isDecimal {c : Char} (h : isDecimal c = true) : isBlank c = false := by
  cases hblank : isBlank c with
  | false => rfl
  | true =>
    by_cases hwide : c.toNat < 128
    · have hdigit : Text.isAsciiDigit c = true := by
        simp only [isDecimal, Text.digitValue?, hwide, if_true] at h
        by_cases hdigit : Text.isAsciiDigit c = true
        · exact hdigit
        · rw [if_neg hdigit] at h
          cases h
      have hword : isWord c = true := by simp [isWord, Text.isAlphanumeric, hwide, hdigit]
      rw [Text.isWord_of_isBlank hblank] at hword
      cases hword
    · have hnone : ∀ n ∈ Text.wideBlanks,
          (Text.decimalBlocks.find? fun b => b.1 ≤ n && n ≤ b.2) = none := by decide +kernel
      simp [isDecimal, Text.digitValue?, hwide, hnone _ (Text.mem_wideBlanks hblank hwide)] at h

theorem plain_of_isNameChar {c : Char} (h : isNameChar c = true) :
    isPlain c = true ∧ isOperandChar c = true := plain_of_class (by decide) h

theorem plain_of_isDecimal {c : Char} (h : isDecimal c = true) :
    isPlain c = true ∧ isOperandChar c = true := plain_of_class (by decide) h

theorem plain_of_isBlank {c : Char} (h : isBlank c = true) :
    isPlain c = true ∧ isOperandChar c = true := plain_of_class (by decide) h

/-! ## The parts of phrases -/

theorem Pad.sealed (b : Pad) : Sealed isOperandChar b.text :=
  .of_all fun c hc => plain_of_isBlank (b.blanks c hc)

theorem Word.ne_nil (w : Word) : w.text ≠ [] := by
  have h := (Bool.and_eq_true_iff.1 w.isName).1
  simpa using h

theorem Word.all (w : Word) : ∀ c ∈ w.text, isNameChar c = true := fun c hc =>
  isNameChar_of_isWord (List.all_eq_true.1 (Bool.and_eq_true_iff.1 w.isName).2 c hc)

theorem isNameChar_of_literalWord (w : LiteralWord) : ∀ c ∈ w.text, isNameChar c = true := by
  have hall : w.text.all isNameChar = true := by cases w <;> decide
  exact List.all_eq_true.1 hall

theorem sealed_of_name {t : Text} (h : ∀ c ∈ t, isNameChar c = true) : Sealed isOperandChar t :=
  .of_all fun c hc => plain_of_isNameChar (h c hc)

theorem solid_of_name {t : Text} (hne : t ≠ []) (h : ∀ c ∈ t, isNameChar c = true) : Solid t :=
  .of_all hne fun c hc => isBlank_of_isNameChar (h c hc)

theorem RootName.all_text (n : RootName) : ∀ c ∈ n.text, isNameChar c = true := by
  intro c hc
  rcases List.mem_cons.1 hc with rfl | hc
  · exact isNameChar_of_beginsRoot n.begins
  · exact n.all c hc

theorem Digits.sealed (d : Digits) : Sealed isOperandChar d.text :=
  .of_all fun c hc => plain_of_isDecimal (d.all c hc)

theorem Digits.solid (d : Digits) : Solid d.text :=
  .of_all d.ne_nil fun c hc => isBlank_of_isDecimal (d.all c hc)

theorem Quotation.solid (q : Quotation) : Solid (q.quote :: (q.body ++ [q.quote])) := by
  have hquote : isBlank q.quote = false := by
    have h := q.isQuote
    simp only [Scan.isQuote, Bool.or_eq_true, beq_iff_eq] at h
    rcases h with h | h <;> rw [h] <;> decide
  exact (Solid.singleton hquote).around (.singleton hquote) q.body

theorem sealed_signText (negative : Bool) : Sealed isOperandChar (signText negative) := by
  cases negative with
  | false => exact .nil
  | true => exact .plain (by decide) (by decide) .nil

theorem solid_signText_append {t : Text} (negative : Bool) (h : Solid t) :
    Solid (signText negative ++ t) := by
  cases negative with
  | false => exact h
  | true => exact (Solid.singleton (by decide)).append h

/-! ## Printed phrases are sealed -/

mutual

theorem Phrase.sealed : ∀ e : Phrase, Sealed (fun _ => true) e.print
  | .operand o => o.sealed.mono fun _ _ => rfl
  | .filtered value before after filter => by
    have hafter : Sealed (fun _ => true) (after.text ++ filter.print) :=
      (after.sealed.mono fun _ _ => rfl).append (filter.sealed.mono fun _ _ => rfl)
    have hbar : Sealed (fun _ => true) ('|' :: (after.text ++ filter.print)) :=
      .plain (by decide) rfl hafter
    exact (value.sealed.append (before.sealed.mono fun _ _ => rfl)).append hbar

/-- A filter holds no bar outside of quotes and brackets. -/
theorem FilterPhrase.sealed : ∀ f : FilterPhrase, Sealed (fun c => c != '|') f.print
  | .bare name => (sealed_of_name name.all).mono fun c hc => (Bool.and_eq_true_iff.1 hc).1
  | .given name before after argument => by
    have hmono : ∀ c, isOperandChar c = true → (c != '|') = true :=
      fun c hc => (Bool.and_eq_true_iff.1 hc).1
    have hafter : Sealed (fun c => c != '|') (after.text ++ argument.print) :=
      (after.sealed.append argument.sealed).mono hmono
    have hcolon : Sealed (fun c => c != '|') (':' :: (after.text ++ argument.print)) :=
      .plain (by decide) (by decide) hafter
    exact (((sealed_of_name name.all).append before.sealed).mono hmono).append hcolon

theorem OperandPhrase.sealed : ∀ o : OperandPhrase, Sealed isOperandChar o.print
  | .literalWord w => sealed_of_name (isNameChar_of_literalWord w)
  | .integer negative whole => (sealed_signText negative).append whole.sealed
  | .decimal negative whole fraction => by
    have hpoint : Sealed isOperandChar ('.' :: fraction.text) :=
      .plain (by decide) (by decide) fraction.sealed
    exact (sealed_signText negative).append (whole.sealed.append hpoint)
  | .quotation q => .quoted q.isQuote q.not_mem .nil
  | .name n _ => sealed_of_name n.all_text
  | .trail t => t.sealed

theorem TrailPhrase.sealed : ∀ t : TrailPhrase, Sealed isOperandChar t.print
  | .start root step => (sealed_of_name root.all_text).append step.sealed
  | .next trail step => trail.sealed.append step.sealed

theorem StepPhrase.sealed : ∀ step : StepPhrase, Sealed isOperandChar step.print
  | .member name => .plain (by decide) (by decide) (sealed_of_name name.all)
  | .element before key after => by
    have hkey : Sealed (fun _ => true) (before.text ++ key.print ++ after.text) :=
      ((before.sealed.mono fun _ _ => rfl).append key.sealed).append
        (after.sealed.mono fun _ _ => rfl)
    exact .element hkey .nil
  | .call => .call .nil

end

/-! ## Printed phrases are solid -/

theorem StepPhrase.solid (step : StepPhrase) : Solid step.print := by
  cases step with
  | member name =>
    exact (Solid.singleton (by decide)).append (solid_of_name name.ne_nil name.all)
  | element before key after =>
    exact (Solid.singleton (by decide)).around (.singleton (by decide)) _
  | call => exact (Solid.singleton (by decide)).append (.singleton (by decide))

theorem RootName.solid (n : RootName) : Solid n.text :=
  solid_of_name (List.cons_ne_nil _ _) n.all_text

theorem TrailPhrase.solid : ∀ t : TrailPhrase, Solid t.print
  | .start root step => root.solid.append step.solid
  | .next trail step => trail.solid.append step.solid

theorem OperandPhrase.solid (o : OperandPhrase) : Solid o.print := by
  cases o with
  | literalWord w => exact solid_of_name (by cases w <;> decide) (isNameChar_of_literalWord w)
  | integer negative whole => exact solid_signText_append negative whole.solid
  | decimal negative whole fraction =>
    exact solid_signText_append negative (whole.solid.around fraction.solid ['.'])
  | quotation q => exact q.solid
  | name n _ => exact n.solid
  | trail t => exact t.solid

theorem FilterPhrase.solid (f : FilterPhrase) : Solid f.print := by
  cases f with
  | bare name => exact solid_of_name name.ne_nil name.all
  | given name before after argument =>
    have hname : Solid name.text := solid_of_name name.ne_nil name.all
    have h := hname.around argument.solid (before.text ++ ':' :: after.text)
    simpa only [FilterPhrase.print, List.append_assoc, List.cons_append] using h

theorem Phrase.solid : ∀ e : Phrase, Solid e.print
  | .operand o => o.solid
  | .filtered value before after filter => by
    have h := value.solid.around filter.solid (before.text ++ '|' :: after.text)
    simpa only [Phrase.print, List.append_assoc, List.cons_append] using h

end Stencil
