import Stencil.Proofs.Expr.Meaning
import Stencil.Proofs.Expr.PathForm

/-!
# Reading printed phrases

The text of a phrase is read as the expression of the phrase. Bars cut it into the operand and the
filters, the first colon of a filter cuts off the argument, and closing brackets cut out the keys of
elements; each piece is a phrase again and shorter than the whole, so that the depth to which texts
are read suffices for it. Evaluating a printed phrase then gives what the phrase means.
-/

set_option autoImplicit false

namespace Stencil

open Text (isBlank isDecimal Stops Blanks Trimmed strip Solid)
open Stencil.Path (isNameChar beginsRoot steps?)
open Scan (isPlain isQuote Sealed cutAll cutFirst outside)

/-! ## Literals -/

namespace Literal

theorem keyword?_text (w : LiteralWord) : keyword? w.text = some w.literal := by
  cases w <;> decide

theorem keyword?_of_ne {t : Text} (h : ∀ w : LiteralWord, t ≠ w.text) : keyword? t = none := by
  have htrue : t ≠ "true".toList := h .true
  have hfalse : t ≠ "false".toList := h .false
  have hnull : t ≠ "null".toList := h .null
  have hundefined : t ≠ "undefined".toList := h .undefined
  simp only [keyword?, htrue, hfalse, hnull, hundefined, or_self, if_false]

/-- The characters that literal words begin with. -/
def wordInitials : List Char := ['t', 'f', 'n', 'u']

theorem ne_word_of_head {c : Char} (hc : c ∉ wordInitials) (t : Text) (w : LiteralWord) :
    c :: t ≠ w.text := by
  intro h
  have hhead : some c = w.text.head? := congrArg List.head? h
  have hmem : w.text.head?.all (fun x => decide (x ∈ wordInitials)) = true := by
    cases w <;> decide
  rw [← hhead] at hmem
  exact hc (of_decide_eq_true hmem)

theorem number?_of_ne {c : Char} (hc : c ≠ '-') (t : Text) :
    number? (c :: t) = unsigned? false (c :: t) := by
  unfold number?
  split
  · rename_i heq
    exact absurd (List.cons.inj heq).1 hc
  · rfl

theorem unsigned?_none {c : Char} (hc : isDecimal c = false) (negative : Bool) (t : Text) :
    unsigned? negative (c :: t) = none := by
  simp [unsigned?, hc]

theorem unsigned?_integer (negative : Bool) (d : Digits) :
    unsigned? negative d.text = some (.integer negative d.text) := by
  have htake : d.text.takeWhile isDecimal = d.text := by
    simpa using Text.takeWhile_append_of_stops d.all Text.stops_nil
  have hdrop : d.text.dropWhile isDecimal = [] := by
    simpa using Text.dropWhile_append_of_stops d.all Text.stops_nil
  have hne : d.text.isEmpty = false := by simpa using d.ne_nil
  simp [unsigned?, htake, hdrop, hne]

theorem unsigned?_decimal (negative : Bool) (whole fraction : Digits) :
    unsigned? negative (whole.text ++ '.' :: fraction.text) =
      some (.float (.ofDecimal negative (Text.digitsValue (whole.text ++ fraction.text))
        (-fraction.text.length))) := by
  have hstops : Stops isDecimal ('.' :: fraction.text) := Text.stops_cons.2 (by decide)
  have hwhole : whole.text.isEmpty = false := by simpa using whole.ne_nil
  have hfraction : (!fraction.text.isEmpty && fraction.text.all isDecimal) = true := by
    simp [fraction.ne_nil, List.all_eq_true.2 fraction.all]
  rw [unsigned?]
  simp only [Text.takeWhile_append_of_stops whole.all hstops,
    Text.dropWhile_append_of_stops whole.all hstops, hwhole, hfraction, Bool.false_eq_true,
    if_false, if_true]

theorem isDecimal_head (d : Digits) : ∃ c t, d.text = c :: t ∧ isDecimal c = true := by
  cases h : d.text with
  | nil => exact absurd h d.ne_nil
  | cons c t => exact ⟨c, t, rfl, d.all c (by rw [h]; exact List.mem_cons_self ..)⟩

theorem not_initial_of_isDecimal {c : Char} (h : isDecimal c = true) :
    c ∉ wordInitials ∧ c ≠ '-' := by
  have hnone : ∀ x ∈ '-' :: wordInitials, (!isDecimal x) = true := List.all_eq_true.1 (by decide)
  constructor
  · intro hc
    have hother := hnone c (List.mem_cons_of_mem _ hc)
    simp [h] at hother
  · rintro rfl
    have hother := hnone '-' (List.mem_cons_self ..)
    simp [h] at hother

/-- A number is read as its digits after the sign are. -/
theorem ofText?_signed (negative : Bool) (d : Digits) {tail : Text} {l : Literal}
    (h : unsigned? negative (d.text ++ tail) = some l) :
    ofText? (signText negative ++ (d.text ++ tail)) = some l := by
  obtain ⟨c, t, hd, hc⟩ := isDecimal_head d
  obtain ⟨hinitial, hminus⟩ := not_initial_of_isDecimal hc
  rw [hd, List.cons_append] at h ⊢
  cases negative with
  | false =>
    show ofText? (c :: (t ++ tail)) = some l
    rw [ofText?, keyword?_of_ne (ne_word_of_head hinitial _), number?_of_ne hminus, h]
    rfl
  | true =>
    show ofText? ('-' :: (c :: (t ++ tail))) = some l
    rw [ofText?, keyword?_of_ne (ne_word_of_head (by decide) _), number?, h]
    rfl

theorem ofText?_quotation (q : Quotation) :
    ofText? (q.quote :: (q.body ++ [q.quote])) = some (.text q.body) := by
  have hclass : q.quote ∉ wordInitials ∧ q.quote ≠ '-' ∧ isDecimal q.quote = false := by
    have h := q.isQuote
    simp only [isQuote, Bool.or_eq_true, beq_iff_eq] at h
    rcases h with h | h <;> rw [h] <;> decide
  obtain ⟨hinitial, hminus, hdecimal⟩ := hclass
  have hquoted : quoted? (q.quote :: (q.body ++ [q.quote])) = some (.text q.body) := by
    simp [quoted?, q.isQuote, q.not_mem]
  rw [ofText?, keyword?_of_ne (ne_word_of_head hinitial _), number?_of_ne hminus,
    unsigned?_none hdecimal, hquoted]
  rfl

/-- A text that begins like a name and is no literal word is no literal. -/
theorem ofText?_root (n : RootName) (tail : Text) (h : ∀ w : LiteralWord, n.text ++ tail ≠ w.text) :
    ofText? (n.text ++ tail) = none := by
  have hname := isNameChar_of_beginsRoot n.begins
  have hclass : n.first ≠ '-' ∧ isDecimal n.first = false ∧ isQuote n.first = false := by
    refine ⟨?_, isDecimal_of_beginsRoot n.begins, ?_⟩
    · intro heq
      rw [heq] at hname
      revert hname
      decide
    · have hplain := (plain_of_isNameChar hname).1
      simp only [isPlain, Bool.and_eq_true, Bool.not_eq_true'] at hplain
      exact hplain.1.1
  obtain ⟨hminus, hdecimal, hquote⟩ := hclass
  have hquoted : quoted? (n.first :: (n.rest ++ tail)) = none := by
    simp [quoted?, hquote]
  rw [ofText?, keyword?_of_ne h]
  rw [RootName.text, List.cons_append, number?_of_ne hminus, unsigned?_none hdecimal, hquoted]
  rfl

end Literal

/-! ## Steps of trails -/

/-- The steps of a trail as text. -/
def TrailPhrase.stepsText : TrailPhrase → Text
  | .start _ step => step.print
  | .next trail step => trail.stepsText ++ step.print

/-- A step as a path has it. -/
def StepPhrase.toPathStep : StepPhrase → PathStep
  | .member name => .member name.text
  | .element before key after => .element (before.text ++ key.print ++ after.text)
  | .call => .call

/-- The steps of a trail as a path has them. -/
def TrailPhrase.pathSteps : TrailPhrase → List PathStep
  | .start _ step => [step.toPathStep]
  | .next trail step => trail.pathSteps ++ [step.toPathStep]

theorem TrailPhrase.print_eq (t : TrailPhrase) : t.print = t.root.text ++ t.stepsText := by
  cases t with
  | start _ _ => rfl
  | next trail step =>
    rw [TrailPhrase.print, trail.print_eq, List.append_assoc]
    rfl

theorem StepPhrase.stops (step : StepPhrase) (t : Text) : Stops isNameChar (step.print ++ t) := by
  cases step <;> exact Text.stops_cons.2 (by decide)

theorem StepPhrase.head (step : StepPhrase) : ∃ x ∈ step.print, isNameChar x = false := by
  cases step with
  | member name => exact ⟨'.', List.mem_cons_self .., by decide⟩
  | element before key after => exact ⟨'[', List.mem_cons_self .., by decide⟩
  | call => exact ⟨'(', List.mem_cons_self .., by decide⟩

theorem TrailPhrase.stops : ∀ (t : TrailPhrase) (rest : Text), Stops isNameChar (t.stepsText ++ rest)
  | .start _ step, rest => step.stops rest
  | .next trail step, rest => by
    rw [TrailPhrase.stepsText, List.append_assoc]
    exact trail.stops _

theorem TrailPhrase.ne_word : ∀ (t : TrailPhrase) (w : LiteralWord), t.print ≠ w.text := by
  intro t w h
  have hstep : ∃ x ∈ t.print, isNameChar x = false := by
    cases t with
    | start root step =>
      obtain ⟨x, hx, hclass⟩ := step.head
      exact ⟨x, List.mem_append_right _ hx, hclass⟩
    | next trail step =>
      obtain ⟨x, hx, hclass⟩ := step.head
      exact ⟨x, List.mem_append_right _ hx, hclass⟩
  obtain ⟨x, hx, hclass⟩ := hstep
  rw [h] at hx
  rw [isNameChar_of_literalWord w x hx] at hclass
  cases hclass

namespace Path

theorem steps?_step (step : StepPhrase) {t : Text} (ht : Stops isNameChar t) :
    steps? (step.print ++ t) = (steps? t).map (step.toPathStep :: ·) := by
  cases step with
  | member name => exact steps?_member name.ne_nil name.all ht
  | element before key after =>
    have hkey : Sealed (fun _ => true) (before.text ++ key.print ++ after.text) :=
      ((before.sealed.mono fun _ _ => rfl).append key.sealed).append
        (after.sealed.mono fun _ _ => rfl)
    have hprint : (StepPhrase.element before key after).print ++ t =
        '[' :: (before.text ++ key.print ++ after.text ++ ']' :: t) := by
      simp only [StepPhrase.print, List.append_assoc, List.cons_append, List.nil_append]
    rw [hprint]
    exact steps?_element (balanced_of_sealed hkey) t
  | call => exact steps?_call Text.blanks_nil t

theorem steps?_trail : ∀ (t : TrailPhrase) {rest : Text}, Stops isNameChar rest →
    steps? (t.stepsText ++ rest) = (steps? rest).map (t.pathSteps ++ ·)
  | .start _ step, _, h => steps?_step step h
  | .next trail step, rest, h => by
    rw [TrailPhrase.stepsText, List.append_assoc, steps?_trail trail (step.stops rest),
      steps?_step step h, Option.map_map, TrailPhrase.pathSteps]
    simp [Function.comp_def]

end Path

/-! ## Operands and filters -/

/-- The operand of a phrase and its filters as text. -/
def Phrase.parts : Phrase → List Text
  | .operand o => [o.print]
  | .filtered value _ _ filter => value.parts ++ [filter.print]

theorem Phrase.parts_ne_nil (e : Phrase) : e.parts ≠ [] := by
  cases e <;> simp [Phrase.parts]

/-- Bars cut a printed phrase, blanks and more filters after it, into its parts. -/
theorem Phrase.cutAll : ∀ (e : Phrase) {b : Text}, Blanks b →
    (cutAll '|' outside (e.print ++ b)).map strip = e.parts ∧
      ∀ tail, (cutAll '|' outside (e.print ++ b ++ '|' :: tail)).map strip =
        e.parts ++ (cutAll '|' outside tail).map strip
  | .operand o, b, hb => by
    have hsealed : Sealed isOperandChar (o.print ++ b) :=
      o.sealed.append (Pad.mk b hb).sealed
    have hstrip : strip (o.print ++ b) = o.print :=
      Text.strip_between Text.blanks_nil hb o.solid.trimmed
    constructor
    · rw [Phrase.print, hsealed.cutAll_self (by decide), List.map_singleton, hstrip]
      rfl
    · intro tail
      rw [Phrase.print, hsealed.cutAll_mark (by decide) (by decide), List.map_cons, hstrip]
      rfl
  | .filtered value before after filter, b, hb => by
    let piece := after.text ++ filter.print ++ b
    have hmono : ∀ c, isOperandChar c = true → (c != '|') = true :=
      fun c hc => (Bool.and_eq_true_iff.1 hc).1
    have hsealed : Sealed (fun c => c != '|') piece :=
      ((after.sealed.mono hmono).append filter.sealed).append ((Pad.mk b hb).sealed.mono hmono)
    have hstrip : strip piece = filter.print :=
      Text.strip_between after.blanks hb filter.solid.trimmed
    have hprint : (Phrase.filtered value before after filter).print ++ b =
        value.print ++ before.text ++ '|' :: piece := by
      simp only [Phrase.print, piece, List.append_assoc, List.cons_append]
    -- What stands before the last bar is cut by itself, with the blanks before that bar.
    obtain ⟨-, hvalue⟩ := value.cutAll before.blanks
    constructor
    · rw [hprint, hvalue, hsealed.cutAll_self (by decide), List.map_singleton, hstrip]
      rfl
    · intro tail
      have hcut : Scan.cutAll '|' outside (piece ++ '|' :: tail) =
          piece :: Scan.cutAll '|' outside tail := hsealed.cutAll_mark (by decide) (by decide) tail
      rw [hprint, List.append_assoc, List.cons_append, hvalue, hcut, List.map_cons, hstrip,
        Phrase.parts, List.append_assoc]
      rfl

namespace Expr

/-- The expression that an operand and filters write. -/
def ofParts (read : Text → Expr) : List Text → Expr
  | [] => .absent
  | operand :: filters => filters.foldl (applyWritten read) (readOperand read operand)

theorem ofParts_append (read : Text → Expr) {parts : List Text} (h : parts ≠ []) (filter : Text) :
    ofParts read (parts ++ [filter]) = applyWritten read (ofParts read parts) filter := by
  cases parts with
  | nil => exact absurd rfl h
  | cons operand filters => simp [ofParts]

/-- A text is read by the pieces of its pipeline, to one level less. -/
theorem ofTextWithin_eq_ofParts (n : Nat) (t : Text) :
    ofTextWithin (n + 1) t = ofParts (ofTextWithin n) (pipeline (strip t)) := by
  rw [ofTextWithin]
  cases pipeline (strip t) <;> rfl

/-- A printed phrase between blanks is read by its parts, to one level less. -/
theorem ofTextWithin_succ (n : Nat) (e : Phrase) {a b : Text} (ha : Blanks a) (hb : Blanks b) :
    ofTextWithin (n + 1) (a ++ e.print ++ b) = ofParts (ofTextWithin n) e.parts := by
  have hstrip : strip (a ++ e.print ++ b) = e.print := Text.strip_between ha hb e.solid.trimmed
  have hpipeline : pipeline e.print = e.parts := by
    have hcut := (e.cutAll Text.blanks_nil).1
    rwa [List.append_nil] at hcut
  rw [ofTextWithin, hstrip, hpipeline]
  cases e.parts <;> rfl

theorem readOperand_literal {read : Text → Expr} {t : Text} {l : Literal} (hne : t ≠ [])
    (h : Literal.ofText? t = some l) : readOperand read t = .literal l := by
  rw [readOperand, if_neg (by simpa using hne), h]

theorem readOperand_path {read : Text → Expr} {t root : Text} {steps : List PathStep} (hne : t ≠ [])
    (h : Literal.ofText? t = none) (hpath : Path.parse? t = some (root, steps)) :
    readOperand read t = .path t root (steps.map (readStep read)) := by
  rw [readOperand, if_neg (by simpa using hne), h]
  simp only [hpath]

/-- A text that is one part, and a path, is read as that path. -/
theorem ofTextWithin_path {t root : Text} {steps : List PathStep}
    (hparts : pipeline (strip t) = [t]) (hne : t ≠ []) (h : Literal.ofText? t = none)
    (hpath : Path.parse? t = some (root, steps)) (depth : Nat) :
    ofTextWithin (depth + 1) t = .path t root (steps.map (readStep (ofTextWithin depth))) := by
  rw [ofTextWithin, hparts]
  exact readOperand_path hne h hpath

theorem ofText_path {t root : Text} {steps : List PathStep} (hparts : pipeline (strip t) = [t])
    (hne : t ≠ []) (h : Literal.ofText? t = none) (hpath : Path.parse? t = some (root, steps)) :
    ofText t = .path t root (steps.map (readStep (ofTextWithin t.length))) :=
  ofTextWithin_path hparts hne h hpath t.length

/-- A text of two parts is a filter applied to an operand. -/
theorem ofText_filtered {t operand filter : Text}
    (hparts : pipeline (strip t) = [operand, filter]) :
    ofText t = applyWritten (ofTextWithin t.length)
      (readOperand (ofTextWithin t.length) operand) filter := by
  rw [ofText, ofTextWithin, hparts]
  rfl

theorem filterParts_bare (name : Word) : filterParts name.text = (name.text, none) := by
  have hsealed : Sealed isOperandChar name.text := sealed_of_name name.all
  have hstrip : strip name.text = name.text := (solid_of_name name.ne_nil name.all).trimmed
  rw [filterParts, hsealed.cutFirst_self (by decide), hstrip]

theorem filterParts_given (name : Word) (before after : Pad) (argument : OperandPhrase) :
    filterParts (FilterPhrase.given name before after argument).print =
      (name.text, some argument.print) := by
  have hsealed : Sealed isOperandChar (name.text ++ before.text) :=
    (sealed_of_name name.all).append before.sealed
  have hname : strip (name.text ++ before.text) = name.text :=
    Text.strip_between Text.blanks_nil before.blanks
      (solid_of_name name.ne_nil name.all).trimmed
  have hargument : strip (after.text ++ argument.print) = argument.print := by
    have h := Text.strip_between after.blanks Text.blanks_nil argument.solid.trimmed
    rwa [List.append_nil] at h
  rw [filterParts, FilterPhrase.print, hsealed.cutFirst_mark (by decide) (by decide)]
  simp only [hname, hargument]

end Expr

/-! ## Whole phrases -/

open Stencil.Expr (ofTextWithin ofParts readOperand readStep applyWritten)

mutual

/-- The parts of a phrase are read as its expression, to any depth that is no less than the length of
its text. -/
theorem Phrase.read : ∀ (e : Phrase) {n : Nat}, e.print.length ≤ n →
    ofParts (ofTextWithin n) e.parts = e.toExpr
  -- Keys and arguments are shorter than the text that holds them, so one level less is enough.
  | .operand o, n, h => o.read h
  | .filtered value before after filter, n, h => by
    simp only [Phrase.print, List.length_append, List.length_cons] at h
    rw [Phrase.parts, Expr.ofParts_append _ value.parts_ne_nil, value.read (by omega),
      filter.read (by omega)]
    rfl

theorem FilterPhrase.read : ∀ (f : FilterPhrase) {n : Nat} {value : Expr}, f.print.length ≤ n →
    applyWritten (ofTextWithin n) value f.print = f.toExpr value
  | .bare name, n, value, h => by
    rw [applyWritten, FilterPhrase.print, Expr.filterParts_bare]
    rfl
  | .given name before after argument, n, value, h => by
    simp only [FilterPhrase.print, List.length_append, List.length_cons] at h
    obtain ⟨m, rfl⟩ := Nat.exists_eq_add_one_of_ne_zero (by omega : n ≠ 0)
    have hargument : ofTextWithin (m + 1) argument.print = argument.toExpr := by
      have hsucc := Expr.ofTextWithin_succ m (.operand argument) Text.blanks_nil Text.blanks_nil
      rw [List.append_nil] at hsucc
      exact hsucc.trans (argument.read (by omega))
    rw [applyWritten, Expr.filterParts_given]
    simp only [Option.map_some, hargument]
    rfl

theorem OperandPhrase.read : ∀ (o : OperandPhrase) {n : Nat}, o.print.length ≤ n →
    readOperand (ofTextWithin n) o.print = o.toExpr
  | .literalWord w, n, _ => by
    have hliteral : Literal.ofText? w.text = some w.literal := by
      rw [Literal.ofText?, Literal.keyword?_text]
      rfl
    exact Expr.readOperand_literal (OperandPhrase.literalWord w).solid.ne_nil hliteral
  | .integer negative whole, n, _ => by
    have hunsigned : Literal.unsigned? negative (whole.text ++ []) = _ :=
      (List.append_nil whole.text).symm ▸ Literal.unsigned?_integer negative whole
    have hliteral := Literal.ofText?_signed negative whole hunsigned
    rw [List.append_nil] at hliteral
    exact Expr.readOperand_literal (OperandPhrase.integer negative whole).solid.ne_nil hliteral
  | .decimal negative whole fraction, n, _ => by
    have hliteral := Literal.ofText?_signed negative whole
      (Literal.unsigned?_decimal negative whole fraction)
    exact Expr.readOperand_literal (OperandPhrase.decimal negative whole fraction).solid.ne_nil
      hliteral
  | .quotation q, n, _ =>
    Expr.readOperand_literal q.solid.ne_nil (Literal.ofText?_quotation q)
  | .name root plain, n, _ => by
    have hliteral := Literal.ofText?_root root [] (by simpa using plain)
    have hpath := Path.parse?_root root Text.blanks_nil Text.stops_nil
    rw [List.append_nil] at hliteral
    rw [List.nil_append, List.append_nil, Path.steps?] at hpath
    exact Expr.readOperand_path root.solid.ne_nil hliteral hpath
  | .trail t, n, h => by
    have hstops : Stops isNameChar t.stepsText := by
      have hstops := t.stops []
      rwa [List.append_nil] at hstops
    have hsteps : steps? t.stepsText = some t.pathSteps := by
      have hsteps := Path.steps?_trail t Text.stops_nil
      rw [List.append_nil, Path.steps?] at hsteps
      rw [hsteps, Option.map_some, List.append_nil]
    have hliteral := Literal.ofText?_root t.root t.stepsText (t.print_eq ▸ t.ne_word)
    have hpath := Path.parse?_root t.root Text.blanks_nil hstops
    rw [List.nil_append, hsteps, ← t.print_eq] at hpath
    rw [← t.print_eq] at hliteral
    have hlength : t.stepsText.length ≤ n := by
      simp only [OperandPhrase.print, t.print_eq, List.length_append] at h
      omega
    have hread : readOperand (ofTextWithin n) t.print = _ :=
      Expr.readOperand_path t.solid.ne_nil hliteral hpath
    rw [t.read hlength] at hread
    exact hread

theorem TrailPhrase.read : ∀ (t : TrailPhrase) {n : Nat}, t.stepsText.length ≤ n →
    t.pathSteps.map (readStep (ofTextWithin n)) = t.toSteps
  | .start _ step, n, h => by
    rw [TrailPhrase.pathSteps, List.map_singleton, step.read h]
    rfl
  | .next trail step, n, h => by
    simp only [TrailPhrase.stepsText, List.length_append] at h
    rw [TrailPhrase.pathSteps, List.map_append, trail.read (by omega), List.map_singleton,
      step.read (by omega)]
    rfl

theorem StepPhrase.read : ∀ (step : StepPhrase) {n : Nat}, step.print.length ≤ n →
    readStep (ofTextWithin n) step.toPathStep = step.toStep
  | .member name, n, _ => rfl
  | .element before key after, n, h => by
    simp only [StepPhrase.print, List.length_append, List.length_cons] at h
    obtain ⟨m, rfl⟩ := Nat.exists_eq_add_one_of_ne_zero (by omega : n ≠ 0)
    have hkey := Expr.ofTextWithin_succ m key before.blanks after.blanks
    rw [StepPhrase.toPathStep, readStep, hkey, key.read (by omega)]
    rfl
  | .call, n, _ => rfl

end

/-- Evaluating a printed phrase gives what the phrase means, whatever blanks it is printed with and
stand around it, in every context and with all filters. -/
theorem Expr.eval_ofText_print (e : Phrase) (before after : Pad) (filters : Filters) (c : Context) :
    (Expr.ofText (before.text ++ e.print ++ after.text)).eval filters c = e.meaning filters c := by
  have hlength : e.print.length ≤ (before.text ++ e.print ++ after.text).length := by
    simp only [List.length_append]
    omega
  rw [Expr.ofText, Expr.ofTextWithin_succ _ e before.blanks after.blanks, e.read hlength,
    e.eval_toExpr]

end Stencil
