import Stencil.Expr.Eval
import Stencil.Filter.Builtin
import Stencil.Proofs.Expr.Nesting

/-!
# Where tests are cut

A test is cut at the first comparison that stands outside of quotes and brackets. What stands in
front of a blank is scanned as if the text ended there, since no comparison is written with a blank
in it: so nothing that is written to the left of a comparison runs into it, and what is written to
its right is not scanned at all. Blanks around a test do not move the cut.
-/

set_option autoImplicit false

namespace Stencil

open Text (strip Blanks Stops isBlank)

/-! ## Comparisons at the beginning of a text -/

namespace Scan

variable {s : Scan} {t a b : Text} {c : Char} {sign : Value.Comparison}

/-- A text that is empty or begins with a blank. -/
def Aside (b : Text) : Prop := Stops (fun c => !isBlank c) b

theorem aside_blank (rest : Text) : Aside (' ' :: rest) := Text.stops_cons.2 rfl

theorem aside_of_blanks (hb : Blanks b) : Aside b := fun c hc => by
  simp [hb c (List.mem_of_mem_head? hc)]

theorem Aside.isBlank {rest : Text} (hb : Aside (c :: rest)) : isBlank c = true := by
  simpa using Text.stops_cons.1 hb

/-- The characters of comparisons are no blanks, and neither quotes nor brackets. -/
theorem isPlain_of_mem_symbol (h : c ∈ sign.symbol) : isPlain c = true ∧ isBlank c = false := by
  have hall : (sign.symbol.all fun d => isPlain d && !isBlank d) = true := by
    cases sign <;> decide
  simpa using List.all_eq_true.1 hall c h

theorem symbol_ne_nil (sign : Value.Comparison) : sign.symbol ≠ [] := by
  cases sign <;> exact List.cons_ne_nil _ _

/-- A text that no equals sign begins. -/
def Parted (t : Text) : Prop := t.head? ≠ some '='

theorem Parted.ne {after : Text} (h : Parted t) : t ≠ '=' :: after := by
  rintro rfl
  exact h rfl

theorem exists_of_not_parted (h : ¬ Parted t) : ∃ rest, t = '=' :: rest := by
  cases t with
  | nil => exact absurd nofun h
  | cons c rest => exact ⟨rest, by simpa [Parted] using h⟩

theorem Parted.append (ht : Parted t) (hb : Aside b) : Parted (t ++ b) := by
  cases t with
  | nil =>
    intro heq
    have hblank := hb _ heq
    revert hblank
    decide
  | cons c t => exact ht

/-- A comparison is found at the beginning of a text, unless an equals sign makes it another. -/
theorem comparisonAtHead?_symbol {after : Text} (sign : Value.Comparison) (h : Parted after) :
    comparisonAtHead? (sign.symbol ++ after) = some (sign, after) := by
  cases sign with
  | greater =>
    show comparisonAtHead? ('>' :: after) = _
    unfold comparisonAtHead?
    split <;> simp_all [h.ne]
  | less =>
    show comparisonAtHead? ('<' :: after) = _
    unfold comparisonAtHead?
    split <;> simp_all [h.ne]
  | _ => rfl

theorem comparisonAtHead?_eq_some {cut : Value.Comparison × Text}
    (h : comparisonAtHead? t = some cut) : t = cut.1.symbol ++ cut.2 := by
  unfold comparisonAtHead? at h
  split at h <;> cases h <;> rfl

/-- A text begins with no comparison if none is found there. -/
theorem comparisonAtHead?_eq_none_iff :
    comparisonAtHead? t = none ↔ ∀ (sign : Value.Comparison) (after : Text),
      t ≠ sign.symbol ++ after := by
  constructor
  · rintro h sign after rfl
    by_cases hparted : Parted after
    · rw [comparisonAtHead?_symbol sign hparted] at h
      cases h
    · obtain ⟨rest, rfl⟩ := exists_of_not_parted hparted
      cases sign <;> cases h
  · intro h
    cases hcut : comparisonAtHead? t with
    | none => rfl
    | some cut => exact absurd (comparisonAtHead?_eq_some hcut) (h cut.1 cut.2)

/-- What stands aside changes no comparison at the beginning of a text. -/
theorem comparisonAtHead?_append (hb : Aside b) (t : Text) :
    comparisonAtHead? (t ++ b) = (comparisonAtHead? t).map fun cut => (cut.1, cut.2 ++ b) := by
  cases hcut : comparisonAtHead? t with
  | none =>
    have ht := comparisonAtHead?_eq_none_iff.1 hcut
    refine comparisonAtHead?_eq_none_iff.2 fun sign after heq => ?_
    rcases List.append_eq_append_iff.1 heq with ⟨m, hsymbol, hm⟩ | ⟨m, hm, -⟩
    · cases m with
      | nil => exact ht sign [] (by rw [hsymbol, List.append_nil, List.append_nil])
      | cons c m =>
        subst hm
        have hmem : c ∈ sign.symbol := hsymbol ▸ List.mem_append_right _ (List.mem_cons_self ..)
        have hblank := (isPlain_of_mem_symbol hmem).2
        rw [hb.isBlank] at hblank
        cases hblank
    · exact ht sign m hm
  | some cut =>
    obtain ⟨sign, after⟩ := cut
    have ht := comparisonAtHead?_eq_some hcut
    simp only at ht
    subst ht
    rw [List.append_assoc]
    by_cases hparted : Parted after
    · exact comparisonAtHead?_symbol sign (hparted.append hb)
    · obtain ⟨rest, rfl⟩ := exists_of_not_parted hparted
      cases sign with
      | greater => cases hcut
      | less => cases hcut
      | _ => rfl

theorem comparisonAtHead?_aside (hb : Aside b) : comparisonAtHead? b = none :=
  comparisonAtHead?_append hb []

/-! ## The first comparison at top level -/

/-- From some state, a text holds a comparison that stands outside of quotes and brackets. -/
def Compares (s : Scan) (t : Text) : Prop :=
  ∃ (before : Text) (sign : Value.Comparison) (after : Text),
    t = before ++ (sign.symbol ++ after) ∧ s.run before = outside

theorem sees_iff (h : isPlain c = true) : s.sees c = true ↔ s = outside := by
  simp only [isPlain, Bool.and_eq_true, Bool.not_eq_true'] at h
  obtain ⟨quote, depth⟩ := s
  simp [sees, outside, h]

theorem compares_cons {rest : Text} : s.Compares (c :: rest) ↔
    (s = outside ∧ comparisonAtHead? (c :: rest) ≠ none) ∨ (s.step c).Compares rest := by
  constructor
  · rintro ⟨before, sign, after, ht, hrun⟩
    cases before with
    | nil => exact .inl ⟨hrun, fun hnone => comparisonAtHead?_eq_none_iff.1 hnone sign after ht⟩
    | cons d before =>
      obtain ⟨rfl, hrest⟩ := List.cons.inj ht
      exact .inr ⟨before, sign, after, hrest, hrun⟩
  · rintro (⟨hs, hhead⟩ | ⟨before, sign, after, rfl, hrun⟩)
    · obtain ⟨cut, hcut⟩ := Option.ne_none_iff_exists'.1 hhead
      exact ⟨[], cut.1, cut.2, comparisonAtHead?_eq_some hcut, hs⟩
    · exact ⟨c :: before, sign, after, rfl, hrun⟩

/-- A comparison at the beginning counts if the scan stands outside of quotes and brackets. -/
theorem seen_eq {rest : Text} : (if s.sees c then comparisonAtHead? (c :: rest) else none) =
    if s = outside then comparisonAtHead? (c :: rest) else none := by
  cases hcut : comparisonAtHead? (c :: rest) with
  | none => simp
  | some cut =>
    have hmem : c ∈ cut.1.symbol := by
      have hhead := congrArg List.head? (comparisonAtHead?_eq_some hcut)
      revert hhead
      cases cut.1 <;> simp +contextual [Value.Comparison.symbol]
    simp only [sees_iff (isPlain_of_mem_symbol hmem).1]

theorem cutComparison_here {rest after : Text} (hs : s = outside)
    (h : comparisonAtHead? (c :: rest) = some (sign, after)) :
    cutComparison s (c :: rest) = some ([], sign, after) := by
  unfold cutComparison
  rw [seen_eq, if_pos hs, h]

theorem cutComparison_past {rest : Text} (h : s = outside → comparisonAtHead? (c :: rest) = none) :
    cutComparison s (c :: rest) =
      (cutComparison (s.step c) rest).map fun cut => (c :: cut.1, cut.2) := by
  have hnone : (if s = outside then comparisonAtHead? (c :: rest) else none) = none := by
    split
    · exact h ‹_›
    · rfl
  conv => lhs; unfold cutComparison
  rw [seen_eq, hnone]

/-- No cut is made exactly if no comparison stands outside of quotes and brackets. -/
theorem cutComparison_eq_none_iff : cutComparison s t = none ↔ ¬ s.Compares t := by
  induction t generalizing s with
  | nil =>
    refine ⟨fun _ => ?_, fun _ => rfl⟩
    rintro ⟨before, sign, after, ht, -⟩
    obtain ⟨-, hsymbol⟩ := List.append_eq_nil_iff.1 ht.symm
    cases sign <;> cases hsymbol
  | cons c rest ih =>
    rw [compares_cons, not_or, ← ih]
    by_cases hhere : s = outside ∧ comparisonAtHead? (c :: rest) ≠ none
    · obtain ⟨cut, hcut⟩ := Option.ne_none_iff_exists'.1 hhere.2
      rw [cutComparison_here hhere.1 hcut]
      exact ⟨nofun, fun h => absurd hhere h.1⟩
    · rw [cutComparison_past fun hs => not_not.1 fun hne => hhere ⟨hs, hne⟩, Option.map_eq_none_iff]
      exact ⟨fun h => ⟨hhere, h⟩, fun h => h.2⟩

instance (s : Scan) (t : Text) : Decidable (s.Compares t) :=
  decidable_of_iff (cutComparison s t ≠ none) (not_congr cutComparison_eq_none_iff |>.trans not_not)

/-- Where a comparison is found does not depend on what stands aside, and the scan goes on there if
none is found. -/
theorem cutComparison_append (hb : Aside b) (t : Text) : cutComparison s (t ++ b) =
    ((cutComparison s t).map fun cut => (cut.1, cut.2.1, cut.2.2 ++ b)).or
      ((cutComparison (s.run t) b).map fun cut => (t ++ cut.1, cut.2)) := by
  induction t generalizing s with
  | nil =>
    show cutComparison s b = (none : Option (Text × Value.Comparison × Text)).or
      ((cutComparison s b).map fun cut => (cut.1, cut.2))
    simp
  | cons c t ih =>
    have happend := comparisonAtHead?_append hb (c :: t)
    by_cases hhere : s = outside ∧ comparisonAtHead? (c :: t) ≠ none
    · obtain ⟨⟨sign, after⟩, hcut⟩ := Option.ne_none_iff_exists'.1 hhere.2
      rw [hcut] at happend
      rw [List.cons_append] at happend ⊢
      rw [cutComparison_here hhere.1 hcut, cutComparison_here hhere.1 happend]
      rfl
    · have hnone : s = outside → comparisonAtHead? (c :: t) = none :=
        fun hs => not_not.1 fun hne => hhere ⟨hs, hne⟩
      have hnone' : s = outside → comparisonAtHead? (c :: (t ++ b)) = none := fun hs => by
        rw [← List.cons_append, happend, hnone hs]
        rfl
      have hrun : s.run (c :: t) = (s.step c).run t := rfl
      rw [List.cons_append, cutComparison_past hnone, cutComparison_past hnone', ih, hrun]
      cases cutComparison (s.step c) t <;> simp [Function.comp_def]

/-- Blanks are passed over. -/
theorem cutComparison_blanks (ha : Blanks a) (t : Text) : cutComparison s (a ++ t) =
    (cutComparison (s.run a) t).map fun cut => (a ++ cut.1, cut.2) := by
  induction a generalizing s with
  | nil =>
    show cutComparison s t = (cutComparison s t).map fun cut => (cut.1, cut.2)
    simp
  | cons c a ih =>
    have hblank : isBlank c = true := ha c (List.mem_cons_self ..)
    have haside : Aside (c :: (a ++ t)) := Text.stops_cons.2 (by simp [hblank])
    have hrest : Blanks a := fun d hd => ha d (List.mem_cons_of_mem _ hd)
    rw [List.cons_append, cutComparison_past fun _ => comparisonAtHead?_aside haside, ih hrest,
      Option.map_map]
    rfl

theorem cutComparison_of_blanks (hb : Blanks b) : cutComparison s b = none := by
  have hcut := cutComparison_blanks (s := s) hb []
  rw [List.append_nil] at hcut
  rw [hcut]
  rfl

theorem isPlain_of_isBlank (h : isBlank c = true) : isPlain c = true := by
  have hne : ∀ d ∈ ['"', '\'', '[', '(', ']', ')'], c ≠ d := by
    rintro d hd rfl
    have hall : (['"', '\'', '[', '(', ']', ')'].all fun d => !isBlank d) = true := by decide
    simpa [h] using List.all_eq_true.1 hall c hd
  simp only [List.forall_mem_cons, ne_eq] at hne
  simp [isPlain, isQuote, isOpening, isClosing, hne]

/-- Only quotes are waited for. -/
def Quoting (s : Scan) : Prop := ∀ q, s.quote = some q → isQuote q = true

theorem Quoting.step (h : Quoting s) (c : Char) : Quoting (s.step c) := by
  obtain ⟨quote, depth⟩ := s
  intro q hq
  unfold Scan.step at hq
  cases quote with
  | some quote =>
    simp only at hq
    split at hq
    · cases hq
    · exact h q hq
  | none =>
    simp only at hq
    split at hq
    · rename_i hquote
      cases hq
      exact hquote
    · split at hq
      · cases hq
      · split at hq <;> cases hq

theorem Quoting.run (h : Quoting s) (t : Text) : Quoting (s.run t) := by
  induction t generalizing s with
  | nil => exact h
  | cons c t ih => exact ih (h.step c)

theorem quoting_outside : Quoting outside := nofun

/-- Blanks do not change the state of a scan. -/
theorem Quoting.run_blanks (h : Quoting s) (hb : Blanks b) : s.run b = s := by
  induction b with
  | nil => rfl
  | cons c b ih =>
    obtain ⟨hc, hrest⟩ := List.forall_mem_cons.1 hb
    have hstep : s.step c = s := by
      obtain ⟨quote, depth⟩ := s
      cases quote with
      | none => exact step_plain (isPlain_of_isBlank hc) depth
      | some q =>
        refine if_neg fun heq => ?_
        have hquote := h q rfl
        have hplain := isPlain_of_isBlank hc
        rw [heq, isPlain, hquote] at hplain
        cases hplain
    rw [Scan.run, List.foldl_cons, hstep]
    exact ih hrest

/-- A scan that begins outside of quotes and brackets is there after blanks. -/
theorem run_blanks (hb : Blanks b) : outside.run b = outside := quoting_outside.run_blanks hb

/-- A comparison between blanks is the cut of a text in front of which there is none. -/
theorem cutComparison_between {l r : Text} (hrun : outside.run l = outside)
    (hl : ¬ outside.Compares l) (sign : Value.Comparison) :
    cutComparison outside (l ++ ' ' :: (sign.symbol ++ ' ' :: r)) =
      some (l ++ [' '], sign, ' ' :: r) := by
  have hhead : comparisonAtHead? (sign.symbol ++ ' ' :: r) = some (sign, ' ' :: r) :=
    comparisonAtHead?_symbol sign nofun
  have hcut : cutComparison outside (sign.symbol ++ ' ' :: r) = some ([], sign, ' ' :: r) := by
    obtain ⟨c, rest, hsymbol⟩ := List.exists_cons_of_ne_nil (symbol_ne_nil sign)
    rw [hsymbol] at hhead ⊢
    exact cutComparison_here rfl hhead
  have hspace : Blanks [' '] := by simp [Blanks, isBlank]
  have hblank : cutComparison outside (' ' :: (sign.symbol ++ ' ' :: r)) =
      some ([' '], sign, ' ' :: r) := by
    have hpast := cutComparison_blanks (s := outside) hspace (sign.symbol ++ ' ' :: r)
    rw [run_blanks hspace, hcut] at hpast
    exact hpast
  rw [cutComparison_append (aside_blank _), cutComparison_eq_none_iff.2 hl, hrun, hblank]
  rfl

end Scan

/-! ## Tests -/

namespace Expr

variable {t : Text}

/-- Blanks around a test change neither its sides nor its comparison. -/
theorem comparisonParts?_strip (t : Text) : comparisonParts? (strip t) = comparisonParts? t := by
  obtain ⟨a, b, ha, hb, ht⟩ := Text.exists_strip t
  have hcut : Scan.cutComparison .outside t = (Scan.cutComparison .outside (strip t)).map
      fun cut => (a ++ cut.1, cut.2.1, cut.2.2 ++ b) := by
    conv => lhs; rw [ht]
    rw [List.append_assoc, Scan.cutComparison_blanks ha, Scan.run_blanks ha,
      Scan.cutComparison_append (Scan.aside_of_blanks hb), Scan.cutComparison_of_blanks hb]
    simp [Function.comp_def]
  unfold comparisonParts?
  rw [hcut, Option.map_map]
  refine congrArg (Option.map · _) (funext fun cut => ?_)
  have hleft : strip (a ++ cut.1) = strip cut.1 := by
    simpa using Text.strip_around ha Text.blanks_nil cut.1
  have hright : strip (cut.2.2 ++ b) = strip cut.2.2 := Text.strip_around Text.blanks_nil hb cut.2.2
  simp only [Function.comp_apply, hleft, hright]

/-- A comparison between blanks parts a test if there is none in front of it. -/
theorem comparisonParts?_between {l r : Text} (hrun : Scan.outside.run l = .outside)
    (hl : ¬ Scan.outside.Compares l) (sign : Value.Comparison) :
    comparisonParts? (l ++ ' ' :: (sign.symbol ++ ' ' :: r)) = some (strip l, sign, strip r) := by
  have hspace : Blanks [' '] := by simp [Blanks, isBlank]
  have hleft : strip (l ++ [' ']) = strip l := Text.strip_around Text.blanks_nil hspace l
  have hright : strip (' ' :: r) = strip r := by
    simpa using Text.strip_around hspace Text.blanks_nil r
  unfold comparisonParts?
  rw [Scan.cutComparison_between hrun hl, Option.map_some, hleft, hright]

theorem comparisonParts?_eq_none_iff :
    comparisonParts? t = none ↔ ¬ Scan.outside.Compares t :=
  Option.map_eq_none_iff.trans Scan.cutComparison_eq_none_iff

end Expr

namespace Test

variable {t : Text}

/-- A test is read off its text as it stands, blanks around it included. -/
theorem ofText_of_parts {l r : Text} {sign : Value.Comparison}
    (h : Expr.comparisonParts? t = some (l, sign, r)) :
    ofText t = .comparison (.ofText l) sign (.ofText r) := by
  have hstrip : Expr.comparisonParts? (strip t) = some (l, sign, r) := by
    rw [Expr.comparisonParts?_strip, h]
  have hne : strip t ≠ [] := by
    intro hnil
    rw [hnil] at hstrip
    cases hstrip
  unfold ofText
  simp only [List.isEmpty_iff, if_neg hne, hstrip]

theorem ofText_of_no_parts (h : Expr.comparisonParts? t = none) (hne : strip t ≠ []) :
    ofText t = .truth (.ofText t) := by
  have hstrip : Expr.comparisonParts? (strip t) = none := by
    rw [Expr.comparisonParts?_strip, h]
  unfold ofText
  simp only [List.isEmpty_iff, if_neg hne, hstrip, Expr.ofText_strip]

/-- A comparison between blanks is where a test is cut, if the text to its left ends outside of
quotes and brackets and holds no comparison there; the text to its right may hold anything. Such a
test compares the values of the two sides as they are then. A text is not cut exactly if it holds no
comparison outside of quotes and brackets, and then it tests the truth of its value, unless it is
blank. -/
theorem eval_by_parts (filters : Filters) (c : Context) :
    (∀ (l r : Text) (sign : Value.Comparison),
      Scan.outside.run l = .outside → ¬ Scan.outside.Compares l →
      Expr.comparisonParts? (l ++ ' ' :: (sign.symbol ++ ' ' :: r)) =
          some (strip l, sign, strip r) ∧
        (ofText (l ++ ' ' :: (sign.symbol ++ ' ' :: r))).eval filters c = (do
          let a ← (Expr.ofText l).eval filters c
          let b ← (Expr.ofText r).eval filters c
          let (x, y) ← Eval.asking fun cells => (a.now cells, b.now cells)
          Eval.required (x.compare? sign y))) ∧
    ∀ t : Text,
      (Expr.comparisonParts? t = none ↔ ¬ Scan.outside.Compares t) ∧
        (¬ Scan.outside.Compares t → strip t ≠ [] → (ofText t).eval filters c = (do
          let v ← (Expr.ofText t).eval filters c
          pure v.isTrue)) := by
  refine ⟨fun l r sign hrun hl => ?_, fun t => ⟨Expr.comparisonParts?_eq_none_iff, ?_⟩⟩
  · have hparts := Expr.comparisonParts?_between (r := r) hrun hl sign
    refine ⟨hparts, ?_⟩
    rw [ofText_of_parts hparts, eval, Expr.ofText_strip, Expr.ofText_strip]
  · intro hcompares hne
    rw [ofText_of_no_parts (Expr.comparisonParts?_eq_none_iff.2 hcompares) hne, eval]

/-- A comparison inside an element is not where a test is cut, and to the right of the cut there may
be others, and brackets that are never closed. -/
theorem eval_by_parts_element :
    let l : Text := "a[\"==\"]".toList
    let r : Text := "b < (c".toList
    Scan.outside.run l = .outside ∧ ¬ Scan.outside.Compares l ∧
      Expr.comparisonParts? "a[\"==\"] >= b < (c".toList = some (l, .atLeast, r) :=
  ⟨by decide, by decide,
    ((eval_by_parts Filter.builtin ⟨[]⟩).1 "a[\"==\"]".toList "b < (c".toList .atLeast
      (by decide) (by decide)).1⟩

end Test
end Stencil
