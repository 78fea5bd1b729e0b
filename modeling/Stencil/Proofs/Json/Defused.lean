import Stencil.Proofs.Json.Reader
import Stencil.Proofs.Markup.Script
import Stencil.Proofs.Text.Blank

/-!
# Defused JSON

The mark that begins `</script` stands in a JSON text only inside a string, and as itself: no escape
and nothing between strings has it. So the backslash that defusing puts in forms an escape of its
own, for the slash that follows it, and a defused text stands for the same value.
-/

set_option autoImplicit false

namespace Stencil.Json

open Markup (defuseScript defuseScript_cons defuseScript_append defuseScript_cons_cases
  exists_defuseScript_cons)

/-- The second reader takes from a defused text what the first takes from the text, and leaves the
rest defused. -/
def Reader.Defuses {α : Type} (p q : Reader α) : Prop :=
  ∀ t x rest, p t = some (x, rest) → q (defuseScript t) = some (x, defuseScript rest)

theorem takeWhile_defuseScript {p : Char → Bool} (hp : p '<' = false) (t : Text) :
    (defuseScript t).takeWhile p = t.takeWhile p := by
  induction t with
  | nil => rfl
  | cons c t ih =>
    by_cases hless : c = '<'
    · subst hless
      obtain ⟨u, hu⟩ := exists_defuseScript_cons '<' t
      simp [hu, hp]
    · rw [defuseScript_cons hless, List.takeWhile_cons, List.takeWhile_cons, ih]

theorem dropWhile_defuseScript {p : Char → Bool} (hp : p '<' = false) (t : Text) :
    (defuseScript t).dropWhile p = defuseScript (t.dropWhile p) := by
  induction t with
  | nil => rfl
  | cons c t ih =>
    by_cases hless : c = '<'
    · subst hless
      obtain ⟨u, hu⟩ := exists_defuseScript_cons '<' t
      simp [hu, hp]
    · rw [defuseScript_cons hless, List.dropWhile_cons, List.dropWhile_cons, ih]
      split
      · rfl
      · rw [defuseScript_cons hless]

theorem skipSpaces_defuseScript (t : Text) :
    skipSpaces (defuseScript t) = defuseScript (skipSpaces t) :=
  dropWhile_defuseScript rfl t

/-! ## Strings -/

theorem defuses_readHex (count n : Nat) : (readHex count n).Defuses (readHex count n) := by
  induction count generalizing n with
  | zero =>
    intro t x rest h
    cases h
    rfl
  | succ count ih =>
    intro t x rest h
    cases t with
    | nil => cases h
    | cons c t =>
      obtain ⟨d, hd, h⟩ := Option.bind_eq_some_iff.1 h
      have hless : c ≠ '<' := by
        rintro rfl
        cases hd
      simp only [defuseScript_cons hless, readHex, hd]
      exact ih _ t x rest h

theorem defuses_readSecondUnit (first : Nat) :
    (readSecondUnit first).Defuses (readSecondUnit first) := by
  intro t x rest h
  unfold readSecondUnit at h
  split at h
  · obtain ⟨⟨second, u⟩, hsecond, h⟩ := Option.bind_eq_some_iff.1 h
    have hread := defuses_readHex 4 0 _ _ _ hsecond
    rw [defuseScript_cons (by decide), defuseScript_cons (by decide)]
    simp only [readSecondUnit, hread, Option.bind_eq_bind, Option.bind_some]
    dsimp only at h
    split at h
    · obtain ⟨rfl, rfl⟩ := Prod.mk.inj (Option.some.inj h)
      rw [if_pos ‹_›]
    · cases h
  · cases h

theorem defuses_readEscape : readEscape.Defuses readEscape := by
  intro t x rest h
  unfold readEscape at h
  split at h
  · obtain ⟨⟨unit, u⟩, hunit, h⟩ := Option.bind_eq_some_iff.1 h
    have hread := defuses_readHex 4 0 _ _ _ hunit
    rw [defuseScript_cons (by decide)]
    simp only [readEscape, hread, Option.bind_eq_bind, Option.bind_some]
    dsimp only at h
    split at h
    · cases h
      rw [if_pos ‹_›]
    split at h
    · rw [if_neg ‹_›, if_pos ‹_›]
      exact defuses_readSecondUnit unit _ _ _ h
    · cases h
  · rename_i c u hu
    obtain ⟨d, hd, h⟩ := Option.bind_eq_some_iff.1 h
    cases h
    have hless : c ≠ '<' := by
      rintro rfl
      cases hd
    rw [defuseScript_cons hless, readEscape]
    · rw [hd]
      rfl
    · exact hu
  · cases h

/-- The escape that defusing puts in stands for the slash. -/
theorem readChars_slash (limit : Nat) (t : Text) :
    readChars limit ('\\' :: '/' :: t) = readChars limit ('/' :: t) := by
  cases limit with
  | zero => rfl
  | succ limit => rfl

theorem defuses_readChars {limit limit' : Nat} (hle : limit ≤ limit') :
    (readChars limit).Defuses (readChars limit') := by
  induction limit generalizing limit' with
  | zero =>
    intro t x rest h
    cases h
  | succ limit ih =>
    intro t x rest h
    obtain ⟨limit', rfl⟩ : ∃ k, limit' = k + 1 := ⟨limit' - 1, by omega⟩
    have ih' := ih (Nat.le_of_succ_le_succ hle)
    unfold readChars at h
    split at h
    · cases h
    · cases h
    · -- the closing quote
      cases h
      rw [defuseScript_cons (by decide)]
      rfl
    · -- an escape
      rename_i k u hk
      cases hk
      obtain ⟨⟨c, u⟩, hescape, h⟩ := Option.bind_eq_some_iff.1 h
      obtain ⟨⟨cs, v⟩, hchars, h⟩ := Option.bind_eq_some_iff.1 h
      cases h
      rw [defuseScript_cons (by decide)]
      simp [readChars, defuses_readEscape _ _ _ hescape, ih' _ _ _ hchars]
    · -- a character that stands for itself
      rename_i k c u hquote hbackslash hk
      cases hk
      split at h
      · cases h
      · rename_i hcontrol
        obtain ⟨⟨cs, v⟩, hchars, h⟩ := Option.bind_eq_some_iff.1 h
        cases h
        have hread := ih' _ _ _ hchars
        rcases defuseScript_cons_cases c u with hsame | ⟨w, rfl, rfl, hdefused⟩
        · rw [hsame, readChars_plain hquote hbackslash hcontrol, hread]
          rfl
        · rw [defuseScript_cons (by decide)] at hread
          rw [hdefused, readChars_plain hquote hbackslash hcontrol, readChars_slash, hread]
          rfl

/-! ## Numbers -/

theorem defuses_readDigits : readDigits.Defuses readDigits := by
  intro t x rest h
  unfold readDigits at h ⊢
  rw [takeWhile_defuseScript rfl, dropWhile_defuseScript rfl]
  split at h
  · cases h
  · cases h
    rfl

theorem defuses_readWhole : readWhole.Defuses readWhole := by
  intro t x rest h
  unfold readWhole at h
  split at h
  · cases h
    rw [defuseScript_cons (by decide)]
    rfl
  · rename_i hzero
    have hread := defuses_readDigits _ _ _ h
    cases t with
    | nil => exact hread
    | cons c t =>
      obtain ⟨u, hu⟩ := exists_defuseScript_cons c t
      rw [hu] at hread ⊢
      rw [readWhole]
      · exact hread
      · intro v hv
        obtain ⟨rfl, -⟩ := List.cons.inj hv
        exact hzero t rfl

theorem defuses_readFraction : readFraction.Defuses readFraction := by
  intro t x rest h
  unfold readFraction at h
  split at h
  · rw [defuseScript_cons (by decide)]
    exact defuses_readDigits _ _ _ h
  · rename_i hpoint
    cases h
    cases t with
    | nil => rfl
    | cons c t =>
      obtain ⟨u, hu⟩ := exists_defuseScript_cons c t
      rw [hu, readFraction]
      intro v hv
      obtain ⟨rfl, -⟩ := List.cons.inj hv
      exact hpoint t rfl

theorem readSign_defuseScript (t : Text) :
    readSign (defuseScript t) = ((readSign t).1, defuseScript (readSign t).2) := by
  cases t with
  | nil => rfl
  | cons c t =>
    by_cases hminus : c = '-'
    · subst c
      rw [defuseScript_cons (by decide)]
      rfl
    by_cases hplus : c = '+'
    · subst c
      rw [defuseScript_cons (by decide)]
      rfl
    · have hunsigned : ∀ u, readSign (c :: u) = (false, c :: u) := by
        intro u
        rw [readSign]
        · intro v hv
          exact hminus (List.cons.inj hv).1
        · intro v hv
          exact hplus (List.cons.inj hv).1
      obtain ⟨u, hu⟩ := exists_defuseScript_cons c t
      rw [hunsigned t, hu, hunsigned u]

theorem defuses_readExponent : readExponent.Defuses readExponent := by
  intro t x rest h
  cases t with
  | nil =>
    cases h
    rfl
  | cons c t =>
    rw [readExponent] at h
    split at h
    · rename_i hletter
      obtain ⟨⟨digits, u⟩, hdigits, h⟩ := Option.bind_eq_some_iff.1 h
      cases h
      have hless : c ≠ '<' := by
        rintro rfl
        exact absurd hletter (by decide)
      have hread := defuses_readDigits _ _ _ hdigits
      rw [defuseScript_cons hless, readExponent, if_pos hletter, readSign_defuseScript, hread]
      rfl
    · rename_i hletter
      cases h
      obtain ⟨u, hu⟩ := exists_defuseScript_cons c t
      rw [hu, readExponent, if_neg hletter]

theorem defuses_readNumber (negative : Bool) :
    (readNumber negative).Defuses (readNumber negative) := by
  intro t x rest h
  obtain ⟨⟨whole, u⟩, hwhole, h⟩ := Option.bind_eq_some_iff.1 h
  obtain ⟨⟨fraction, v⟩, hfraction, h⟩ := Option.bind_eq_some_iff.1 h
  obtain ⟨⟨exponent?, w⟩, hexponent, h⟩ := Option.bind_eq_some_iff.1 h
  simp only [readNumber, defuses_readWhole _ _ _ hwhole, defuses_readFraction _ _ _ hfraction,
    defuses_readExponent _ _ _ hexponent, Option.bind_eq_bind, Option.bind_some]
  dsimp only at h
  split at h
  · cases h
    rw [if_pos ‹_›]
  · cases h
    rw [if_neg ‹_›]

/-! ## Values -/

theorem defuses_readItems {α : Type} {closing : Char} {p q : Reader α} (hpq : p.Defuses q)
    (hclosing : closing ≠ '<') {limit limit' : Nat} (hle : limit ≤ limit') :
    (readItems closing p limit).Defuses (readItems closing q limit') := by
  induction limit generalizing limit' with
  | zero =>
    intro t x rest h
    cases h
  | succ limit ih =>
    intro t x rest h
    obtain ⟨limit', rfl⟩ : ∃ k, limit' = k + 1 := ⟨limit' - 1, by omega⟩
    obtain ⟨⟨y, u⟩, hitem, h⟩ := Option.bind_eq_some_iff.1 h
    dsimp only at h
    simp only [readItems, hpq _ _ _ hitem, Option.bind_eq_bind, Option.bind_some,
      skipSpaces_defuseScript]
    cases hspaces : skipSpaces u with
    | nil => simp [hspaces] at h
    | cons c v =>
      simp only [hspaces] at h
      split at h
      · subst c
        obtain ⟨⟨ys, w⟩, hitems, h⟩ := Option.bind_eq_some_iff.1 h
        cases h
        rw [defuseScript_cons (by decide)]
        simp [ih (Nat.le_of_succ_le_succ hle) _ _ _ hitems]
      split at h
      · subst c
        cases h
        simp [defuseScript_cons hclosing, *]
      · cases h

theorem defuses_readGroup {α : Type} {closing : Char} {p q : Reader α} (hpq : p.Defuses q)
    (hclosing : closing ≠ '<') {limit limit' : Nat} (hle : limit ≤ limit') :
    (readGroup closing p limit).Defuses (readGroup closing q limit') := by
  intro t x rest h
  unfold readGroup at h ⊢
  rw [skipSpaces_defuseScript]
  cases hspaces : skipSpaces t with
  | nil => simp [hspaces] at h
  | cons c u =>
    obtain ⟨v, hv⟩ := exists_defuseScript_cons c u
    simp only [hspaces] at h
    split at h
    · subst c
      cases h
      simp [defuseScript_cons hclosing]
    · rw [hv]
      simp only [if_neg ‹_›]
      exact defuses_readItems hpq hclosing hle _ _ _ h

theorem defuses_readMember {limit limit' : Nat} (hle : limit ≤ limit') {p q : Reader Value}
    (hpq : p.Defuses q) : (readMember limit p).Defuses (readMember limit' q) := by
  intro t x rest h
  unfold readMember at h ⊢
  rw [skipSpaces_defuseScript]
  split at h
  · rename_i u hspaces
    obtain ⟨⟨name, v⟩, hname, h⟩ := Option.bind_eq_some_iff.1 h
    rw [hspaces, defuseScript_cons (by decide)]
    simp only [defuses_readChars hle _ _ _ hname, Option.bind_eq_bind, Option.bind_some,
      skipSpaces_defuseScript]
    dsimp only at h
    split at h
    · rename_i w hcolon
      obtain ⟨⟨y, z⟩, hvalue, h⟩ := Option.bind_eq_some_iff.1 h
      cases h
      rw [hcolon, defuseScript_cons (by decide)]
      simp [hpq _ _ _ hvalue]
    · cases h
  · cases h

theorem defuses_readWord {word : Text} (hword : '<' ∉ word) (v : Value) :
    (readWord word v).Defuses (readWord word v) := by
  intro t x rest h
  obtain ⟨u, hu, h⟩ := Option.map_eq_some_iff.1 h
  cases h
  rw [Text.dropLead_eq_some.1 hu, defuseScript_append hword, readWord, Text.dropLead_eq_some.2 rfl]
  rfl

theorem defuses_readUnspaced {limit limit' : Nat} (hle : limit ≤ limit') {p q : Reader Value}
    (hpq : p.Defuses q) : (readUnspaced limit p).Defuses (readUnspaced limit' q) := by
  intro t x rest h
  unfold readUnspaced at h
  split at h
  · obtain ⟨⟨items, u⟩, hitems, h⟩ := Option.bind_eq_some_iff.1 h
    cases h
    rw [defuseScript_cons (by decide)]
    simp [readUnspaced, defuses_readGroup hpq (by decide) hle _ _ _ hitems]
  · obtain ⟨⟨members, u⟩, hmembers, h⟩ := Option.bind_eq_some_iff.1 h
    cases h
    have hmember := defuses_readMember hle hpq
    rw [defuseScript_cons (by decide)]
    simp [readUnspaced, defuses_readGroup hmember (by decide) hle _ _ _ hmembers]
  · obtain ⟨⟨cs, u⟩, hchars, h⟩ := Option.bind_eq_some_iff.1 h
    cases h
    rw [defuseScript_cons (by decide)]
    simp [readUnspaced, defuses_readChars hle _ _ _ hchars]
  · rw [defuseScript_cons (by decide)]
    exact defuses_readWord (by decide) _ _ _ _ h
  · rw [defuseScript_cons (by decide)]
    exact defuses_readWord (by decide) _ _ _ _ h
  · rw [defuseScript_cons (by decide)]
    exact defuses_readWord (by decide) _ _ _ _ h
  · rw [defuseScript_cons (by decide)]
    exact defuses_readNumber true _ _ _ h
  · have hread := defuses_readNumber false _ _ _ h
    cases t with
    | nil => exact hread
    | cons c t =>
      obtain ⟨u, hu⟩ := exists_defuseScript_cons c t
      rw [hu] at hread ⊢
      rw [readUnspaced]
      · exact hread
      all_goals
        intro v hv
        obtain ⟨rfl, -⟩ := List.cons.inj hv
        simp_all

/-- What is read from a text is read from the defused text too, with a limit at least as great. -/
theorem defuses_readValue {limit limit' : Nat} (hle : limit ≤ limit') :
    (readValue limit).Defuses (readValue limit') := by
  induction limit generalizing limit' with
  | zero =>
    intro t x rest h
    cases h
  | succ limit ih =>
    intro t x rest h
    obtain ⟨limit', rfl⟩ : ∃ k, limit' = k + 1 := ⟨limit' - 1, by omega⟩
    have hle' := Nat.le_of_succ_le_succ hle
    rw [readValue, skipSpaces_defuseScript]
    exact defuses_readUnspaced hle' (ih hle') _ _ _ h

theorem length_le_defuseScript (t : Text) : t.length ≤ (defuseScript t).length := by
  fun_induction defuseScript t with
  | case1 rest hword ih => simp only [List.length_cons]; omega
  | case2 rest hword ih => simp only [List.length_cons]; omega
  | case3 c rest hmark ih => simp only [List.length_cons]; omega
  | case4 => exact Nat.le_refl _

/-- A defused JSON text stands for the value that the text stands for. -/
theorem decode?_defuseScript {t : Text} {v : Value} (h : decode? t = some v) :
    decode? (defuseScript t) = some v := by
  unfold decode? at h ⊢
  split at h
  · rename_i w rest hread
    split at h
    · rename_i hend
      cases h
      have hle := length_le_defuseScript t
      rw [defuses_readValue (Nat.add_le_add_right hle 1) _ _ _ hread]
      have hnil : skipSpaces rest = [] := List.isEmpty_iff.1 hend
      simp only [skipSpaces_defuseScript, hnil, defuseScript, List.isEmpty_nil, if_true]
    · cases h
  · cases h

end Stencil.Json
