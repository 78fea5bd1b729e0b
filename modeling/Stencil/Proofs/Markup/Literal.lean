import Stencil.Proofs.Json.Strings
import Stencil.Proofs.Markup.Script
import Stencil.Proofs.Session.Outcome
import Stencil.Filter.Builtin

/-!
# String literals of a script

A reader of the double-quoted string literals of ECMAScript in strict mode, where no line terminator
stands as it is. What a literal stands for are UTF-16 code units. The literal that is written for a
text is broken up by the line feeds and carriage returns of the text, which have no escapes; any
other text is read back from its literal.
-/

set_option autoImplicit false

namespace Stencil.Markup

/-! ## Code units -/

/-- The code units of a code point. -/
def codeUnits (n : Nat) : List Nat :=
  if n < 0x10000 then [n] else [0xD800 + (n - 0x10000) / 0x400, 0xDC00 + (n - 0x10000) % 0x400]

/-- The code units of a text. -/
def units (t : Text) : List Nat := t.flatMap fun c => codeUnits c.toNat

theorem units_cons (c : Char) (t : Text) : units (c :: t) = codeUnits c.toNat ++ units t :=
  List.flatMap_cons ..

/-- No character has code units that begin as those of another one. -/
theorem eq_of_codeUnits_append {c d : Char} {us vs : List Nat}
    (h : codeUnits c.toNat ++ us = codeUnits d.toNat ++ vs) : c = d ∧ us = vs := by
  have hc := Json.toNat_cases c
  have hd := Json.toNat_cases d
  unfold codeUnits at h
  split at h <;> split at h
  · obtain ⟨hunit, hrest⟩ := List.cons.inj h
    exact ⟨Char.toNat_inj.1 hunit, hrest⟩
  · obtain ⟨hunit, -⟩ := List.cons.inj h
    omega
  · obtain ⟨hunit, -⟩ := List.cons.inj h
    omega
  · obtain ⟨hfirst, hmore⟩ := List.cons.inj h
    obtain ⟨hsecond, hrest⟩ := List.cons.inj hmore
    exact ⟨Char.toNat_inj.1 (by omega), hrest⟩

/-- Different texts have different code units. -/
theorem units_injective : Function.Injective units := by
  intro t u h
  induction t generalizing u with
  | nil =>
    cases u with
    | nil => rfl
    | cons d u =>
      rw [units_cons, codeUnits] at h
      split at h <;> cases h
  | cons c t ih =>
    cases u with
    | nil =>
      rw [units_cons, codeUnits] at h
      split at h <;> cases h
    | cons d u =>
      rw [units_cons, units_cons] at h
      obtain ⟨rfl, hrest⟩ := eq_of_codeUnits_append h
      rw [ih hrest]

/-! ## The reader -/

/-- The characters that end a line. -/
def isLineTerminator (c : Char) : Bool := c = '\n' || c = '\r' || c = '\u2028' || c = '\u2029'

/-- The unit that is written with one letter or mark after a backslash. -/
def singleEscape? : Char → Option Nat
  | '\'' => some 0x27
  | '"' => some 0x22
  | '\\' => some 0x5C
  | 'b' => some 0x08
  | 't' => some 0x09
  | 'n' => some 0x0A
  | 'v' => some 0x0B
  | 'f' => some 0x0C
  | 'r' => some 0x0D
  | _ => none

/-- A code point in hexadecimal digits, up to a closing brace. -/
def readCodePoint : Json.Reader (List Nat) := fun t =>
  let digits := t.takeWhile fun c => (Json.hexValue? c).isSome
  match t.drop digits.length with
  | '}' :: rest =>
    if digits ≠ [] ∧ Json.hexFrom 0 digits < 0x110000 then
      some (codeUnits (Json.hexFrom 0 digits), rest)
    else none
  | _ => none

/-- What the characters after a backslash stand for. The end of a line stands for nothing; a digit
stands for nothing but the null character, and only if no other digit follows. -/
def readLiteralEscape : Json.Reader (List Nat)
  | [] => none
  | '\r' :: '\n' :: t => some ([], t)
  | 'x' :: t => do
    let (unit, t) ← Json.readHex 2 0 t
    some ([unit], t)
  | 'u' :: '{' :: t => readCodePoint t
  | 'u' :: t => do
    let (unit, t) ← Json.readHex 4 0 t
    some ([unit], t)
  | '0' :: t => if t.head?.any Char.isDigit then none else some ([0], t)
  | c :: t =>
    if isLineTerminator c then some ([], t)
    else match singleEscape? c with
      | some unit => some ([unit], t)
      | none => if c.isDigit then none else some (codeUnits c.toNat, t)

/-- The units of a literal behind its opening quote; nothing may follow the closing quote. The limit
is for the number of characters and escapes. -/
def readUnits : Nat → Text → Option (List Nat)
  | 0, _ => none
  | _ + 1, [] => none
  | _ + 1, '"' :: t => if t = [] then some [] else none
  | limit + 1, '\\' :: t => do
    let (us, t) ← readLiteralEscape t
    some (us ++ (← readUnits limit t))
  | limit + 1, c :: t =>
    if isLineTerminator c then none
    else do some (codeUnits c.toNat ++ (← readUnits limit t))

/-- The code units that a text stands for as a string literal, if it is one. -/
def readLiteral? : Text → Option (List Nat)
  | '"' :: t => readUnits t.length t
  | _ => none

theorem readUnits_plain {c : Char} (hquote : c ≠ '"') (hbackslash : c ≠ '\\') (limit : Nat)
    (rest : Text) :
    readUnits (limit + 1) (c :: rest) =
      if isLineTerminator c then none
      else (readUnits limit rest).map (codeUnits c.toNat ++ ·) := by
  rw [readUnits]
  · cases readUnits limit rest <;> rfl
  · exact hquote
  · exact hbackslash

theorem readUnits_escape {t rest : Text} {us : List Nat}
    (h : readLiteralEscape t = some (us, rest)) (limit : Nat) :
    readUnits (limit + 1) ('\\' :: t) = (readUnits limit rest).map (us ++ ·) := by
  cases hrest : readUnits limit rest <;> simp [readUnits, h, hrest]

/-! ## Written literals -/

/-- The characters that end a line and have no escape in a written literal. -/
def isRawBreak (c : Char) : Bool := c = '\n' || c = '\r'

theorem any_isRawBreak_eq_false {t : Text} :
    t.any isRawBreak = false ↔ '\n' ∉ t ∧ '\r' ∉ t := by
  simp only [List.any_eq_false, isRawBreak, Bool.or_eq_true, decide_eq_true_eq, not_or]
  constructor
  · exact fun h => ⟨fun hmem => (h _ hmem).1 rfl, fun hmem => (h _ hmem).2 rfl⟩
  · rintro ⟨hfeed, hreturn⟩ c hc
    exact ⟨fun heq => hfeed (heq ▸ hc), fun heq => hreturn (heq ▸ hc)⟩

/-- A character is written as an escape or as it stands. -/
theorem literalChar_cases (c : Char) :
    (∃ mark, literalChar c = '\\' :: mark ∧ isRawBreak c = false ∧
      (∀ rest, readLiteralEscape (mark ++ rest) = some (codeUnits c.toNat, rest)) ∧
      mark.all (fun d => isLineTerminator d == isRawBreak d) = true) ∨
      (literalChar c = [c] ∧ c ≠ '"' ∧ c ≠ '\\' ∧ isLineTerminator c = isRawBreak c) := by
  unfold literalChar
  split_ifs with hbackslash hquote hsingle hline hparagraph
  · subst hbackslash
    exact .inl ⟨['\\'], rfl, rfl, fun _ => rfl, rfl⟩
  · subst hquote
    exact .inl ⟨['"'], rfl, rfl, fun _ => rfl, rfl⟩
  · subst hsingle
    exact .inl ⟨['\''], rfl, rfl, fun _ => rfl, rfl⟩
  · subst hline
    exact .inl ⟨"u2028".toList, rfl, rfl, fun _ => rfl, rfl⟩
  · subst hparagraph
    exact .inl ⟨"u2029".toList, rfl, rfl, fun _ => rfl, rfl⟩
  · refine .inr ⟨rfl, hquote, hbackslash, ?_⟩
    simp [isLineTerminator, isRawBreak, hline, hparagraph]

/-- The ways to write a text between quotes: each slash may have a backslash in front. -/
inductive Spells : Text → Text → Prop
  | nil : Spells [] []
  | char (c : Char) {t u : Text} : Spells t u → Spells (c :: t) (literalChar c ++ u)
  | slash {t u : Text} : Spells t u → Spells ('/' :: t) ('\\' :: '/' :: u)

theorem spells_flatMap (t : Text) : Spells t (t.flatMap literalChar) := by
  induction t with
  | nil => exact .nil
  | cons c t ih =>
    rw [List.flatMap_cons]
    exact .char c ih

theorem literalChar_ne_nil (c : Char) : literalChar c ≠ [] := by
  rcases literalChar_cases c with ⟨mark, hmark, -⟩ | ⟨hself, -⟩
  · rw [hmark]
    exact List.cons_ne_nil _ _
  · rw [hself]
    exact List.cons_ne_nil _ _

theorem Spells.length_le {t u : Text} (h : Spells t u) : t.length ≤ u.length := by
  induction h with
  | nil => exact Nat.le_refl _
  | char c _ ih =>
    have hpos := List.length_pos_of_ne_nil (literalChar_ne_nil c)
    simp only [List.length_cons, List.length_append]
    omega
  | slash _ ih =>
    simp only [List.length_cons]
    omega

/-- A text is read back from each of its spellings, unless it breaks lines. -/
theorem Spells.readUnits_eq {t u : Text} (h : Spells t u) {limit : Nat} (hlimit : t.length < limit) :
    readUnits limit (u ++ ['"']) = if t.any isRawBreak then none else some (units t) := by
  induction h generalizing limit with
  | nil =>
    obtain ⟨limit, rfl⟩ := Nat.exists_eq_succ_of_ne_zero (Nat.ne_of_gt hlimit)
    rfl
  | @char c t u _ ih =>
    obtain ⟨limit, rfl⟩ := Nat.exists_eq_succ_of_ne_zero (Nat.ne_of_gt (Nat.zero_lt_of_lt hlimit))
    have hrest := ih (Nat.lt_of_succ_lt_succ hlimit)
    rw [List.any_cons, units_cons]
    rcases literalChar_cases c with ⟨mark, hmark, hbreak, hread, -⟩ | ⟨hself, hquote, hbackslash, hline⟩
    · rw [hmark, hbreak, List.append_assoc, List.cons_append,
        readUnits_escape (hread (u ++ ['"'])), hrest, Bool.false_or]
      split <;> rfl
    · rw [hself, List.append_assoc, List.singleton_append,
        readUnits_plain hquote hbackslash, hline, hrest]
      cases isRawBreak c
      · rw [Bool.false_or, if_neg Bool.false_ne_true]
        split <;> rfl
      · rfl
  | @slash t u _ ih =>
    obtain ⟨limit, rfl⟩ := Nat.exists_eq_succ_of_ne_zero (Nat.ne_of_gt (Nat.zero_lt_of_lt hlimit))
    have hrest := ih (Nat.lt_of_succ_lt_succ hlimit)
    have hslash : readLiteralEscape ('/' :: (u ++ ['"'])) = some (codeUnits '/'.toNat, u ++ ['"']) :=
      rfl
    rw [List.cons_append, List.cons_append, readUnits_escape hslash, hrest, List.any_cons, units_cons]
    cases t.any isRawBreak <;> rfl

theorem Spells.of_slash_cons {t u : Text} (h : Spells t ('/' :: u)) :
    ∃ t', t = '/' :: t' ∧ Spells t' u := by
  generalize hwritten : '/' :: u = w at h
  cases h with
  | nil => cases hwritten
  | char c hrest =>
    rcases literalChar_cases c with ⟨mark, hmark, -⟩ | ⟨hself, -⟩
    · rw [hmark] at hwritten
      cases hwritten
    · rw [hself] at hwritten
      cases hwritten
      exact ⟨_, rfl, hrest⟩
  | slash hrest => cases hwritten

theorem not_mem_literalChar {c : Char} (h : c ≠ '<') : '<' ∉ literalChar c := by
  unfold literalChar
  split_ifs
  · decide
  · decide
  · decide
  · decide
  · decide
  · exact fun hmem => h (List.mem_singleton.1 hmem).symm

/-- The slashes that get backslashes are slashes of the text, for no escape has one. -/
theorem Spells.defuse {t u : Text} (h : Spells t u) : Spells t (defuseScript u) := by
  induction h with
  | nil => exact .nil
  | @char c t u _ ih =>
    by_cases hmark : c = '<'
    · subst hmark
      rcases defuseScript_cons_cases '<' u with hkept | ⟨rest, -, rfl, hbroken⟩
      · rw [show literalChar '<' ++ u = '<' :: u from rfl, hkept]
        exact .char '<' ih
      · rw [show literalChar '<' ++ '/' :: rest = '<' :: '/' :: rest from rfl, hbroken]
        rw [defuseScript_cons (by decide)] at ih
        obtain ⟨t, rfl, hrest⟩ := ih.of_slash_cons
        exact .char '<' (.slash hrest)
    · rw [defuseScript_append (not_mem_literalChar hmark)]
      exact .char c ih
  | slash _ ih =>
    rw [defuseScript_cons (by decide), defuseScript_cons (by decide)]
    exact .slash ih

/-- Line separators and paragraph separators are always escaped. -/
theorem Spells.isLineTerminator_eq {t u : Text} (h : Spells t u) :
    ∀ d ∈ u, isLineTerminator d = isRawBreak d := by
  induction h with
  | nil => exact fun d hd => absurd hd List.not_mem_nil
  | char c _ ih =>
    intro d hd
    rcases List.mem_append.1 hd with hd | hd
    · rcases literalChar_cases c with ⟨mark, hmark, -, -, hplain⟩ | ⟨hself, -, -, hplain⟩
      · rw [hmark] at hd
        rcases List.mem_cons.1 hd with rfl | hd
        · rfl
        · exact beq_iff_eq.1 (List.all_eq_true.1 hplain d hd)
      · rw [hself] at hd
        rw [List.mem_singleton.1 hd]
        exact hplain
    · exact ih d hd
  | slash _ ih =>
    intro d hd
    rcases List.mem_cons.1 hd with rfl | hd
    · rfl
    rcases List.mem_cons.1 hd with rfl | hd
    · rfl
    · exact ih d hd

theorem spells_defuseScript (t : Text) : Spells t (defuseScript (t.flatMap literalChar)) :=
  (spells_flatMap t).defuse

/-- The literal of a text is read as the text if no line of it ends in a line feed or a carriage
return; otherwise it is no literal. -/
theorem readLiteral?_scriptLiteral (t : Text) :
    readLiteral? (scriptLiteral t) = if t.any isRawBreak then none else some (units t) := by
  have hspells := spells_defuseScript t
  have hlimit : t.length < (defuseScript (t.flatMap literalChar) ++ ['"']).length := by
    rw [List.length_append, List.length_singleton]
    exact Nat.lt_succ_of_le hspells.length_le
  exact hspells.readUnits_eq hlimit

/-- A line feed stays as it is, and ends the line inside the quotes. -/
example : scriptLiteral "a\nb".toList = "\"a\nb\"".toList ∧
    readLiteral? (scriptLiteral "a\nb".toList) = none := ⟨rfl, rfl⟩

theorem not_mem_scriptLiteral (t : Text) {c : Char} (hquote : c ≠ '"')
    (hc : isLineTerminator c ≠ isRawBreak c) : c ∉ scriptLiteral t := by
  intro hmem
  simp only [scriptLiteral, List.mem_append, List.mem_singleton, hquote, false_or, or_false] at hmem
  exact hc ((spells_defuseScript t).isLineTerminator_eq c hmem)

/-- The quotes are no part of a closing tag. -/
theorem not_closesScript_scriptLiteral (t : Text) : ¬ ClosesScript (scriptLiteral t) := by
  intro h
  have hopened := ClosesScript.of_concat (by decide) h
  exact not_closesScript_defuseScript _ (ClosesScript.of_cons (by decide) hopened)

end Stencil.Markup

namespace Stencil.Filter

theorem outcome_scriptLiteral {v : Value} {t : Text} {m : Machine}
    (h : (v.now m.cells).output? = some t) :
    (scriptLiteral v).outcome m = (.ok (.safe (Markup.scriptLiteral t)), m) := by
  by_cases hv : v = .undefined
  · subst hv
    cases h
    rfl
  · rw [scriptLiteral, Eval.outcome_bind, Eval.outcome_textOf h]
    · rfl
    · exact hv

/-- A value with a text is written between quotes, without a closing tag, a line separator or a
paragraph separator. If the text has neither line feeds nor carriage returns, what is written is a
string literal and stands for exactly this text; otherwise it is not a string literal. -/
theorem scriptLiteral_reads {v : Value} {t : Text} {m : Machine}
    (h : (v.now m.cells).output? = some t) :
    ∃ out, (scriptLiteral v).outcome m = (.ok (.safe out), m) ∧
      ¬ Markup.ClosesScript out ∧ '\u2028' ∉ out ∧ '\u2029' ∉ out ∧
      ('\n' ∉ t ∧ '\r' ∉ t → Markup.readLiteral? out = some (Markup.units t) ∧
        ∀ u, Markup.readLiteral? out = some (Markup.units u) → u = t) ∧
      ('\n' ∈ t ∨ '\r' ∈ t → Markup.readLiteral? out = none) := by
  have hread := Markup.readLiteral?_scriptLiteral t
  refine ⟨Markup.scriptLiteral t, outcome_scriptLiteral h,
    Markup.not_closesScript_scriptLiteral t, Markup.not_mem_scriptLiteral t (by decide) (by decide),
    Markup.not_mem_scriptLiteral t (by decide) (by decide), ?_, ?_⟩
  · intro ⟨hfeed, hreturn⟩
    have hnone : t.any Markup.isRawBreak = false := Markup.any_isRawBreak_eq_false.2 ⟨hfeed, hreturn⟩
    rw [hnone, if_neg Bool.false_ne_true] at hread
    refine ⟨hread, fun u hu => ?_⟩
    rw [hread] at hu
    exact Markup.units_injective (Option.some.inj hu).symm
  · intro hbreak
    have hsome : t.any Markup.isRawBreak = true := by
      by_contra hnone
      obtain ⟨hfeed, hreturn⟩ := Markup.any_isRawBreak_eq_false.1 (Bool.eq_false_iff.2 hnone)
      exact hbreak.elim hfeed hreturn
    rw [hread, hsome, if_pos rfl]

/-- Quotes, backslashes, a closing tag and a line separator come back from the literal. -/
theorem scriptLiteral_reads_quoted :
    let m : Machine := ⟨.startingAt 0, []⟩
    ∃ out, (scriptLiteral (.text "\\\"</Script>\u2028😀".toList)).outcome m =
        (.ok (.safe out), m) ∧
      Markup.readLiteral? out = some (Markup.units "\\\"</Script>\u2028😀".toList) := by
  intro m
  have houtput : ((Value.text "\\\"</Script>\u2028😀".toList).now m.cells).output? =
      some "\\\"</Script>\u2028😀".toList := rfl
  obtain ⟨out, hout, -, -, -, hread, -⟩ := scriptLiteral_reads houtput
  exact ⟨out, hout, (hread (by decide)).1⟩

end Stencil.Filter
