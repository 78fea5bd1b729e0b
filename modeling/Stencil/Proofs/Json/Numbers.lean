import Stencil.Proofs.Json.Reader
import Mathlib.Data.List.DropRight

/-!
# JSON numbers read back

An integer is read as itself. The shortest decimal of a finite binary64 number always has a point or
an exponent, digits where the grammar wants them and no zero in front of others, so it is read as a
binary64 number.
-/

set_option autoImplicit false

namespace Stencil.Json

/-! ## Parts of numbers -/

/-- Digits that can stand before a point. -/
structure IsWhole (digits : Text) : Prop where
  nonempty : digits ≠ []
  digit : ∀ c ∈ digits, c.isDigit
  first : digits = ['0'] ∨ digits.head? ≠ some '0'

/-- A text that does not go on with a number. -/
def EndsNumber (rest : Text) : Prop :=
  ∀ c ∈ rest.head?, c.isDigit = false ∧ c ≠ '.' ∧ c ≠ 'e' ∧ c ≠ 'E'

variable {digits rest : Text}

theorem EndsNumber.notDigit (h : EndsNumber rest) : ∀ c ∈ rest.head?, c.isDigit = false :=
  fun c hc => (h c hc).1

theorem readDigits_append (hne : digits ≠ []) (hdigit : ∀ c ∈ digits, c.isDigit)
    (hrest : ∀ c ∈ rest.head?, c.isDigit = false) :
    readDigits (digits ++ rest) = some (digits, rest) := by
  have hstop : rest.takeWhile Char.isDigit = [] ∧ rest.dropWhile Char.isDigit = rest := by
    cases rest with
    | nil => exact ⟨rfl, rfl⟩
    | cons c rest =>
      have hc : c.isDigit = false := hrest c rfl
      simp [hc]
  obtain ⟨htake, hdrop⟩ := hstop
  unfold readDigits
  rw [List.takeWhile_append_of_pos hdigit, List.dropWhile_append_of_pos hdigit, htake, hdrop,
    List.append_nil]
  split
  · exact absurd rfl hne
  · rfl

theorem readWhole_append (h : IsWhole digits) (hrest : ∀ c ∈ rest.head?, c.isDigit = false) :
    readWhole (digits ++ rest) = some (digits, rest) := by
  rcases h.first with rfl | hfirst
  · rfl
  · rw [readWhole]
    · exact readDigits_append h.nonempty h.digit hrest
    · intro t ht
      cases digits with
      | nil => exact h.nonempty rfl
      | cons c digits =>
        obtain ⟨rfl, -⟩ := List.cons.inj ht
        exact hfirst rfl

theorem readFraction_none (h : ∀ c ∈ rest.head?, c ≠ '.') :
    readFraction rest = some ([], rest) := by
  rw [readFraction]
  rintro t rfl
  exact h '.' rfl rfl

theorem readExponent_none (h : ∀ c ∈ rest.head?, c ≠ 'e' ∧ c ≠ 'E') :
    readExponent rest = some (none, rest) := by
  cases rest with
  | nil => rfl
  | cons c rest =>
    obtain ⟨hlower, hupper⟩ := h c rfl
    rw [readExponent, if_neg (by simp [hlower, hupper])]

theorem readExponent_append (small : Bool) (hne : digits ≠ [])
    (hdigit : ∀ c ∈ digits, c.isDigit) (hrest : ∀ c ∈ rest.head?, c.isDigit = false) :
    readExponent ('e' :: (if small then '-' else '+') :: (digits ++ rest)) =
      some (some (Number.signed small (Nat.ofDigitChars 10 digits 0)), rest) := by
  have hread := readDigits_append hne hdigit hrest
  cases small with
  | false => simp [readExponent, readSign, hread]
  | true => simp [readExponent, readSign, hread]

/-! ## Integers -/

theorem head?_toDigits {n : Nat} (h : n ≠ 0) : (Nat.toDigits 10 n).head? ≠ some '0' := by
  induction n using Nat.strongRecOn with
  | ind n ih =>
    rw [Nat.toDigits_eq_if (by decide)]
    split
    · simpa using h
    · have hfirst := ih (n / 10) (by omega) (by omega)
      rwa [List.head?_append_of_ne_nil _ Nat.toDigits_ne_nil]

theorem isWhole_ofNat (n : Nat) : IsWhole (Text.ofNat n) where
  nonempty := Nat.toDigits_ne_nil
  digit _ hc := Nat.isDigit_of_mem_toDigits (by decide) (by decide) hc
  first := by
    by_cases hn : n = 0
    · subst hn
      exact .inl rfl
    · exact .inr (head?_toDigits hn)

theorem isWhole_zero : IsWhole ['0'] := isWhole_ofNat 0

/-- The digits of an integer are read as that integer. -/
theorem readNumber_ofNat (negative : Bool) (n : Nat) (h : EndsNumber rest) :
    readNumber negative (Text.ofNat n ++ rest) =
      some (.int (Number.signed negative n), rest) := by
  have hwhole := readWhole_append (isWhole_ofNat n) h.notDigit
  have hfraction := readFraction_none fun c hc => (h c hc).2.1
  have hexponent := readExponent_none fun c hc => (h c hc).2.2
  have hvalue : Nat.ofDigitChars 10 (Text.ofNat n) 0 = n :=
    Nat.ofDigitChars_toDigits (by decide) (by decide)
  simp [readNumber, hwhole, hfraction, hexponent, hvalue]

/-! ## Decimals -/

/-- A text that is read, after a sign, as a binary64 number. -/
def IsDecimal (negative : Bool) (t : Text) : Prop :=
  ∃ x, ∀ rest, EndsNumber rest → readNumber negative (t ++ rest) = some (.float x, rest)

theorem isDecimal_pointed (negative : Bool) {whole fraction : Text} (hwhole : IsWhole whole)
    (hne : fraction ≠ []) (hdigit : ∀ c ∈ fraction, c.isDigit) :
    IsDecimal negative (whole ++ '.' :: fraction) := by
  let n := Nat.ofDigitChars 10 (whole ++ fraction) 0
  refine ⟨Binary64.ofDecimal negative n (0 - fraction.length), fun rest h => ?_⟩
  have hreadWhole : readWhole (whole ++ '.' :: (fraction ++ rest)) =
      some (whole, '.' :: (fraction ++ rest)) :=
    readWhole_append hwhole (by simp)
  have hreadFraction : readFraction ('.' :: (fraction ++ rest)) = some (fraction, rest) :=
    readDigits_append hne hdigit h.notDigit
  have hexponent := readExponent_none fun c hc => (h c hc).2.2
  simp [readNumber, hreadWhole, hreadFraction, hexponent, hne, n]

theorem isDecimal_scientific (negative small : Bool) {whole fraction : Text}
    (hwhole : IsWhole whole) (hfraction : ∀ c ∈ fraction, c.isDigit) (hne : digits ≠ [])
    (hdigit : ∀ c ∈ digits, c.isDigit) :
    IsDecimal negative (whole ++ (if fraction.isEmpty then [] else '.' :: fraction) ++
      ['e', if small then '-' else '+'] ++ digits) := by
  let n := Nat.ofDigitChars 10 (whole ++ fraction) 0
  let exponent := Number.signed small (Nat.ofDigitChars 10 digits 0)
  refine ⟨Binary64.ofDecimal negative n (exponent - fraction.length), fun rest h => ?_⟩
  have hexponent := readExponent_append small hne hdigit h.notDigit
  have htext : whole ++ (if fraction.isEmpty then [] else '.' :: fraction) ++
      ['e', if small then '-' else '+'] ++ digits ++ rest =
      whole ++ ((if fraction.isEmpty then [] else '.' :: fraction) ++
        'e' :: (if small then '-' else '+') :: (digits ++ rest)) := by simp
  rw [htext]
  generalize htail : 'e' :: (if small then '-' else '+') :: (digits ++ rest) = tail at hexponent ⊢
  have hhead : tail.head? = some 'e' := by rw [← htail]; rfl
  cases fraction with
  | nil =>
    have hreadWhole : readWhole (whole ++ tail) = some (whole, tail) :=
      readWhole_append hwhole (by simp [hhead])
    have hreadFraction : readFraction tail = some ([], tail) :=
      readFraction_none (by simp [hhead])
    simp [readNumber, hreadWhole, hreadFraction, hexponent, n, exponent]
  | cons d fraction =>
    have hreadWhole : readWhole (whole ++ '.' :: d :: (fraction ++ tail)) =
        some (whole, '.' :: d :: (fraction ++ tail)) :=
      readWhole_append hwhole (by simp)
    have hreadFraction : readFraction ('.' :: d :: (fraction ++ tail)) =
        some (d :: fraction, tail) :=
      readDigits_append (List.cons_ne_nil d fraction) hfraction (by simp [hhead])
    simp [readNumber, hreadWhole, hreadFraction, hexponent, n, exponent]

/-! ## Shortest decimals -/

/-- Digits that a decimal is written with: no zero in front. -/
structure IsSignificant (digits : Text) : Prop where
  nonempty : digits ≠ []
  digit : ∀ c ∈ digits, c.isDigit
  first : digits.head? ≠ some '0'

theorem isDigit_of_mem_zeros (n : Nat) : ∀ c ∈ List.replicate n '0', c.isDigit := by
  intro c hc
  rw [(List.mem_replicate.1 hc).2]
  rfl

theorem IsSignificant.head?_take (h : IsSignificant digits) (n : Nat) :
    (digits.take (n + 1)).head? ≠ some '0' := by
  simpa [List.head?_take] using h.first

theorem IsSignificant.isWhole_take (h : IsSignificant digits) (n : Nat) :
    IsWhole (digits.take (n + 1)) where
  nonempty := by simp [h.nonempty]
  digit c hc := h.digit c (List.mem_of_mem_take hc)
  first := .inr (h.head?_take n)

theorem IsWhole.append_zeros (h : IsWhole digits) (hfirst : digits.head? ≠ some '0') (n : Nat) :
    IsWhole (digits ++ List.replicate n '0') where
  nonempty := by simp [h.nonempty]
  digit := List.forall_mem_append.2 ⟨h.digit, isDigit_of_mem_zeros n⟩
  first := .inr (by rwa [List.head?_append_of_ne_nil _ h.nonempty])

theorem isDigit_of_mem_padded (width n : Nat) : ∀ c ∈ Text.padded 10 width n, c.isDigit :=
  List.forall_mem_append.2 ⟨isDigit_of_mem_zeros _, (isWhole_ofNat n).digit⟩

theorem padded_ne_nil {width n : Nat} : Text.padded 10 width n ≠ [] := by
  simp [Text.padded, Nat.toDigits_ne_nil]

/-- However significant digits are laid out, they make a decimal. -/
theorem isDecimal_write (negative : Bool) (l : Binary64.Layout) (exponent : Int)
    (hdigits : IsSignificant digits) : IsDecimal negative (l.write digits exponent) := by
  unfold Binary64.Layout.write
  split
  · split
    · -- zeros stand between the point and the digits
      have hfraction : ∀ c ∈ List.replicate (-exponent - 1).toNat '0' ++ digits, c.isDigit :=
        List.forall_mem_append.2 ⟨isDigit_of_mem_zeros _, hdigits.digit⟩
      have hdecimal :=
        isDecimal_pointed negative isWhole_zero (by simp [hdigits.nonempty]) hfraction
      simpa using hdecimal
    · -- zeros may stand between the digits and the point
      have hwhole := (hdigits.isWhole_take exponent.toNat).append_zeros
        (hdigits.head?_take exponent.toNat)
        (exponent.toNat + 1 - (digits.take (exponent.toNat + 1)).length)
      generalize hfraction : (if (digits.drop (exponent.toNat + 1)).isEmpty then ['0']
        else digits.drop (exponent.toNat + 1)) = fraction
      have hne : fraction ≠ [] := by
        rw [← hfraction]
        split
        · exact List.cons_ne_nil _ _
        · rename_i hsome
          exact fun hnil => hsome (List.isEmpty_iff.2 hnil)
      have hdigit : ∀ c ∈ fraction, c.isDigit := by
        intro c hc
        rw [← hfraction] at hc
        split at hc
        · rw [List.mem_singleton.1 hc]
          rfl
        · exact hdigits.digit c (List.mem_of_mem_drop hc)
      have hdecimal := isDecimal_pointed negative hwhole hne hdigit
      simpa only [hfraction, List.append_assoc, List.cons_append, List.nil_append] using hdecimal
  · have hfraction : ∀ c ∈ digits.drop 1, c.isDigit :=
      fun c hc => hdigits.digit c (List.mem_of_mem_drop hc)
    have hdecimal := isDecimal_scientific negative (exponent < 0) (hdigits.isWhole_take 0) hfraction
      padded_ne_nil (isDigit_of_mem_padded l.exponentDigits exponent.natAbs)
    simpa using hdecimal

theorem ne_zero_of_onGrid? {low mid high den : Nat} {closed : Bool} {grid : Int} {k : Nat}
    (h : Binary64.onGrid? low mid high den closed grid = some k) : k ≠ 0 := by
  unfold Binary64.onGrid? at h
  grind

/-- Only a decimal that is zero has no digits. -/
theorem firstGrid_cases (low mid high den : Nat) (closed : Bool) (lead : Int) (digits tries : Nat) :
    Binary64.firstGrid low mid high den closed lead digits tries = (0, 0) ∨
      (Binary64.firstGrid low mid high den closed lead digits tries).1 ≠ 0 := by
  induction tries generalizing digits with
  | zero => exact .inl rfl
  | succ tries ih =>
    rw [Binary64.firstGrid]
    split
    · exact .inr (ne_zero_of_onGrid? ‹_›)
    · exact ih (digits + 1)

theorem isSignificant_significantDigits {k : Nat} (hk : k ≠ 0) :
    IsSignificant (Binary64.significantDigits k) := by
  have hwhole := isWhole_ofNat k
  have hcut : Binary64.significantDigits k <+: Text.ofNat k := List.rdropWhile_prefix ..
  have hne : Binary64.significantDigits k ≠ [] := by
    intro hnil
    have hzeros : ∀ c ∈ Text.ofNat k, c = '0' := by
      have hdropped := List.reverse_eq_nil_iff.1 hnil
      simpa using hdropped
    obtain ⟨c, digits, hdigits⟩ := List.exists_cons_of_ne_nil hwhole.nonempty
    have hc := hzeros c (hdigits ▸ List.mem_cons_self)
    have hfirst := head?_toDigits hk
    rw [← Text.ofNat, hdigits, hc] at hfirst
    exact hfirst rfl
  refine ⟨hne, fun c hc => hwhole.digit c (hcut.subset hc), ?_⟩
  obtain ⟨zeros, hzeros⟩ := hcut
  have hfirst := head?_toDigits hk
  rwa [← Text.ofNat, ← hzeros, List.head?_append_of_ne_nil _ hne] at hfirst

theorem shortestDecimal_cases (m : Nat) (e : Int) :
    Binary64.shortestDecimal m e = (0, 0) ∨ (Binary64.shortestDecimal m e).1 ≠ 0 :=
  firstGrid_cases ..

theorem isDecimal_zero (negative : Bool) : IsDecimal negative "0.0".toList := by
  have hdecimal : IsDecimal negative (['0'] ++ '.' :: ['0']) :=
    isDecimal_pointed negative isWhole_zero (by simp) (by simp)
  exact hdecimal

/-- The text of a finite number without its sign is a decimal. -/
theorem isDecimal_toText (negative : Bool) (m : Nat) (e : Int) :
    IsDecimal negative (Binary64.finite false m e).toText := by
  simp only [Binary64.toText, Bool.false_eq_true, if_false, List.nil_append]
  split
  · exact isDecimal_zero negative
  · rcases shortestDecimal_cases m e with hnone | hsome
    · rw [hnone]
      exact isDecimal_zero negative
    · exact isDecimal_write negative _ _ (isSignificant_significantDigits hsome)

/-! ## Numbers as values -/

theorem readNumber_head {negative : Bool} {t : Text} {p : Value × Text}
    (h : readNumber negative t = some p) : ∃ c u, t = c :: u ∧ c.isDigit := by
  obtain ⟨⟨whole, u⟩, hwhole, -⟩ := Option.bind_eq_some_iff.1 h
  unfold readWhole at hwhole
  split at hwhole
  · exact ⟨'0', _, rfl, rfl⟩
  · cases t with
    | nil => cases hwhole
    | cons c t =>
      refine ⟨c, t, rfl, ?_⟩
      by_contra hc
      simp [readDigits, hc] at hwhole

/-- A number is read as a value, with its sign. -/
theorem readValue_number {negative : Bool} {t : Text} {p : Value × Text}
    (h : readNumber negative t = some p) (limit : Nat) :
    readValue (limit + 1) ((if negative then ['-'] else []) ++ t) = some p := by
  cases negative with
  | true => exact h
  | false =>
    obtain ⟨c, u, rfl, hc⟩ := readNumber_head h
    have hspace : isSpace c = false := by
      by_contra hspace
      simp only [isSpace, Bool.not_eq_false, Bool.or_eq_true, decide_eq_true_eq] at hspace
      rcases hspace with ((rfl | rfl) | rfl) | rfl <;> cases hc
    have hskip : skipSpaces (c :: u) = c :: u := by simp [skipSpaces, hspace]
    simp only [Bool.false_eq_true, if_false, List.nil_append]
    rw [readValue, hskip, readUnspaced]
    · exact h
    all_goals
      intro v hv
      obtain ⟨rfl, -⟩ := List.cons.inj hv
      cases hc

theorem readValue_ofInt (n : Int) (h : EndsNumber rest) (limit : Nat) :
    readValue (limit + 1) (Text.ofInt n ++ rest) = some (.int n, rest) := by
  cases n with
  | ofNat n => exact readValue_number (readNumber_ofNat false n h) limit
  | negSucc n => exact readValue_number (readNumber_ofNat true (n + 1) h) limit

theorem exists_readValue_toText {x : Binary64} (hx : x.isFinite) :
    ∃ y, ∀ limit rest, EndsNumber rest →
      readValue (limit + 1) (x.toText ++ rest) = some (.float y, rest) := by
  cases x with
  | nan => cases hx
  | infinite negative => cases hx
  | finite negative m e =>
    obtain ⟨y, hy⟩ := isDecimal_toText negative m e
    refine ⟨y, fun limit rest hrest => ?_⟩
    have hsigned : (Binary64.finite negative m e).toText =
        (if negative then ['-'] else []) ++ (Binary64.finite false m e).toText := rfl
    rw [hsigned, List.append_assoc]
    exact readValue_number (hy rest hrest) limit

end Stencil.Json
