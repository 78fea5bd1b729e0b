import Stencil.Proofs.Json.Reader
import Mathlib.Data.Nat.Digits.Defs

/-!
# JSON strings read back

Each character of a written string is read as itself, however it was written: as it stands, with one
letter, or by number in one unit or two.
-/

set_option autoImplicit false

namespace Stencil.Json

/-! ## Characters by number -/

/-- The number of hexadecimal digits that follow those of another number. -/
def hexFrom (n : Nat) (digits : Text) : Nat :=
  digits.foldl (fun n c => 16 * n + (hexValue? c).getD 0) n

theorem hexValue?_digitChar : ∀ d < 16, hexValue? d.digitChar = some d := by decide

theorem readHex_append {digits : Text} (h : ∀ c ∈ digits, (hexValue? c).isSome) (n : Nat)
    (rest : Text) :
    readHex digits.length n (digits ++ rest) = some (hexFrom n digits, rest) := by
  induction digits generalizing n with
  | nil => rfl
  | cons c digits ih =>
    obtain ⟨d, hd⟩ := Option.isSome_iff_exists.1 (h c List.mem_cons_self)
    have htail := ih (fun c' hc' => h c' (List.mem_cons_of_mem _ hc')) (16 * n + d)
    simpa [readHex, hexFrom, hd] using htail

theorem hexFrom_toDigits (n : Nat) :
    hexFrom 0 (Nat.toDigits 16 n) = n ∧ ∀ c ∈ Nat.toDigits 16 n, (hexValue? c).isSome := by
  induction n using Nat.strongRecOn with
  | ind n ih =>
    rw [Nat.toDigits_eq_if (by decide)]
    split
    · rename_i hsmall
      simp [hexFrom, hexValue?_digitChar n hsmall]
    · have hlast := hexValue?_digitChar (n % 16) (Nat.mod_lt _ (by decide))
      obtain ⟨hvalue, hhex⟩ := ih (n / 16) (by omega)
      rw [hexFrom] at hvalue
      constructor
      · rw [hexFrom, List.foldl_append, hvalue]
        simp only [List.foldl_cons, List.foldl_nil, hlast, Option.getD_some]
        omega
      · intro c hc
        rcases List.mem_append.1 hc with hc | hc
        · exact hhex c hc
        · rw [List.mem_singleton.1 hc, hlast]
          rfl

theorem readHex_padded {n : Nat} (h : n < 0x10000) (rest : Text) :
    readHex 4 0 (Text.padded 16 4 n ++ rest) = some (n, rest) := by
  obtain ⟨hvalue, hhex⟩ := hexFrom_toDigits n
  have hlength : (Text.padded 16 4 n).length = 4 := by
    have hle := Nat.toDigits_length 16 n 4 (by decide) h
    simp only [Text.padded, List.length_append, List.length_replicate]
    omega
  have hall : ∀ c ∈ Text.padded 16 4 n, (hexValue? c).isSome := by
    intro c hc
    rcases List.mem_append.1 hc with hc | hc
    · rw [(List.mem_replicate.1 hc).2]
      rfl
    · exact hhex c hc
  have hzeros : ∀ k, hexFrom 0 (List.replicate k '0') = 0 := by
    intro k
    induction k with
    | zero => rfl
    | succ k ih => exact ih
  have hpadded : hexFrom 0 (Text.padded 16 4 n) = n := by
    have hk := hzeros (4 - (Nat.toDigits 16 n).length)
    rw [hexFrom] at hk hvalue
    rw [hexFrom, Text.padded, List.foldl_append, hk, hvalue]
  have hread := readHex_append hall 0 rest
  rwa [hlength, hpadded] at hread

/-- The numbers of characters leave out those of the units that only make characters in pairs. -/
theorem toNat_cases (c : Char) :
    c.toNat < 0xD800 ∨ (0xE000 ≤ c.toNat ∧ c.toNat < 0x110000) := by
  have hvalid : c.toNat < 0xD800 ∨ (0xDFFF < c.toNat ∧ c.toNat < 0x110000) := c.valid
  omega

theorem readChars_unicodeEscape {n : Nat} (h : n < 0xD800 ∨ 0xE000 ≤ n) (hn : n < 0x10000)
    (limit : Nat) (rest : Text) :
    readChars (limit + 1) (unicodeEscape n ++ rest) =
      (readChars limit rest).map fun p => (Char.ofNat n :: p.1, p.2) := by
  simp only [unicodeEscape, List.cons_append, readChars, readEscape, readHex_padded hn, if_pos h,
    Option.bind_eq_bind, Option.bind_some]
  cases readChars limit rest <;> rfl

/-- Two units that are written one after the other are read as one character. -/
theorem readChars_unicodeEscape_pair {m : Nat} (hm : m < 0x100000) (limit : Nat) (rest : Text) :
    readChars (limit + 1)
        (unicodeEscape (0xD800 + m / 0x400) ++ unicodeEscape (0xDC00 + m % 0x400) ++ rest) =
      (readChars limit rest).map fun p => (Char.ofNat (0x10000 + m) :: p.1, p.2) := by
  have hfirst : ¬ (0xD800 + m / 0x400 < 0xD800 ∨ 0xE000 ≤ 0xD800 + m / 0x400) := by omega
  have hpair : 0xD800 + m / 0x400 < 0xDC00 := by omega
  have hsecond : 0xDC00 ≤ 0xDC00 + m % 0x400 ∧ 0xDC00 + m % 0x400 < 0xE000 := by omega
  have hwhole : 0x10000 + (0xD800 + m / 0x400 - 0xD800) * 0x400 + (0xDC00 + m % 0x400 - 0xDC00) =
      0x10000 + m := by omega
  simp only [unicodeEscape, List.append_assoc, List.cons_append, readChars, readEscape,
    readHex_padded (show 0xD800 + m / 0x400 < 0x10000 by omega), if_neg hfirst, if_pos hpair,
    readSecondUnit, readHex_padded (show 0xDC00 + m % 0x400 < 0x10000 by omega), if_pos hsecond,
    hwhole, Option.bind_eq_bind, Option.bind_some]
  cases readChars limit rest <;> rfl

theorem readChars_numericEscape (c : Char) (limit : Nat) (rest : Text) :
    readChars (limit + 1) (numericEscape c ++ rest) =
      (readChars limit rest).map fun p => (c :: p.1, p.2) := by
  have hcases := toNat_cases c
  by_cases hsmall : c.toNat < 0x10000
  · have hread := readChars_unicodeEscape (by omega) hsmall limit rest
    rw [Char.ofNat_toNat] at hread
    rw [numericEscape]
    simp only [if_pos hsmall]
    exact hread
  · have hread := readChars_unicodeEscape_pair (m := c.toNat - 0x10000) (by omega) limit rest
    rw [show 0x10000 + (c.toNat - 0x10000) = c.toNat by omega, Char.ofNat_toNat] at hread
    rw [numericEscape]
    simp only [if_neg hsmall]
    exact hread

/-! ## Whole strings -/

theorem readChars_short {c d : Char} (h : shortEscape? d = some c) (hd : d ≠ 'u') (limit : Nat)
    (rest : Text) :
    readChars (limit + 1) ('\\' :: d :: rest) =
      (readChars limit rest).map fun p => (c :: p.1, p.2) := by
  have hescape : readEscape (d :: rest) = some (c, rest) := by
    rw [readEscape]
    · simp [h]
    · exact hd
  simp only [readChars, hescape, Option.bind_eq_bind, Option.bind_some]
  cases readChars limit rest <;> rfl

/-- A character of a written string is read as itself, in every style. -/
theorem readChars_stringChar (asciiOnly : Bool) (c : Char) (limit : Nat) (rest : Text) :
    readChars (limit + 1) (stringChar asciiOnly c ++ rest) =
      (readChars limit rest).map fun p => (c :: p.1, p.2) := by
  unfold stringChar
  split
  · subst c; exact readChars_short rfl (by decide) limit rest
  split
  · subst c; exact readChars_short rfl (by decide) limit rest
  split
  · subst c; exact readChars_short rfl (by decide) limit rest
  split
  · subst c; exact readChars_short rfl (by decide) limit rest
  split
  · subst c; exact readChars_short rfl (by decide) limit rest
  split
  · subst c; exact readChars_short rfl (by decide) limit rest
  split
  · subst c; exact readChars_short rfl (by decide) limit rest
  split
  · exact readChars_numericEscape c limit rest
  split
  · exact readChars_numericEscape c limit rest
  · exact readChars_plain ‹_› ‹_› ‹_› limit rest

/-- A written string is read as its text. -/
theorem readChars_string (asciiOnly : Bool) (t : Text) {limit : Nat} (h : t.length < limit)
    (rest : Text) :
    readChars limit (t.flatMap (stringChar asciiOnly) ++ '"' :: rest) = some (t, rest) := by
  induction t generalizing limit with
  | nil =>
    cases limit with
    | zero => simp at h
    | succ limit => rfl
  | cons c t ih =>
    cases limit with
    | zero => simp at h
    | succ limit =>
      rw [List.flatMap_cons, List.append_assoc, readChars_stringChar,
        ih (Nat.lt_of_succ_lt_succ h)]
      rfl

theorem stringChar_ne_nil (asciiOnly : Bool) (c : Char) : stringChar asciiOnly c ≠ [] := by
  intro h
  -- nothing written would be nothing read
  have hread := readChars_stringChar asciiOnly c 0 ['"']
  rw [h] at hread
  cases hread

/-- A written string is at least as long as its text. -/
theorem length_le_string (asciiOnly : Bool) (t : Text) :
    t.length ≤ (t.flatMap (stringChar asciiOnly)).length := by
  induction t with
  | nil => rfl
  | cons c t ih =>
    have hpos := List.length_pos_iff.2 (stringChar_ne_nil asciiOnly c)
    simp only [List.flatMap_cons, List.length_append, List.length_cons]
    omega

end Stencil.Json
