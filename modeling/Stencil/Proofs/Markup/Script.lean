import Stencil.Markup.Script
import Mathlib.Data.List.Infix

/-!
# Defused text

Defusing puts backslashes before slashes and changes nothing else. No script element ends in the
result, whatever the text was.
-/

set_option autoImplicit false

namespace Stencil.Markup

/-- A text that would end the script element it stands in. -/
def ClosesScript (t : Text) : Prop :=
  ∃ before word after, t = before ++ '<' :: '/' :: (word ++ after) ∧
    word.map Char.toLower = "script".toList

theorem ClosesScript.cons {t : Text} (h : ClosesScript t) (c : Char) : ClosesScript (c :: t) := by
  obtain ⟨before, word, after, rfl, hword⟩ := h
  exact ⟨c :: before, word, after, rfl, hword⟩

theorem ClosesScript.of_cons {c : Char} {t : Text} (hc : c ≠ '<') (h : ClosesScript (c :: t)) :
    ClosesScript t := by
  obtain ⟨before, word, after, htext, hword⟩ := h
  cases before with
  | nil => exact absurd (List.cons.inj htext).1 hc
  | cons b before => exact ⟨before, word, after, (List.cons.inj htext).2, hword⟩

theorem ClosesScript.of_concat {c : Char} {t : Text} (hc : c.toLower ≠ 't')
    (h : ClosesScript (t ++ [c])) : ClosesScript t := by
  obtain ⟨before, word, after, htext, hword⟩ := h
  rcases List.eq_nil_or_concat after with rfl | ⟨after, last, rfl⟩
  · -- the word would end in the character behind the text
    have hlast : (t ++ [c]).getLast? = word.getLast? := by
      rw [htext, List.append_nil]
      cases word with
      | nil => cases hword
      | cons d word => simp [List.getLast?_cons]
    have hlower : word.getLast?.map Char.toLower = some 't' := by
      rw [← List.getLast?_map, hword]
      rfl
    rw [← hlast, List.getLast?_concat] at hlower
    exact absurd (Option.some.inj hlower) hc
  · refine ⟨before, word, after, ?_, hword⟩
    have hsplit : t ++ [c] = (before ++ '<' :: '/' :: (word ++ after)) ++ [last] := by
      rw [htext, List.concat_eq_append]
      simp only [List.append_assoc, List.cons_append]
    exact List.append_inj_left' hsplit rfl

theorem defuseScript_cons {c : Char} (h : c ≠ '<') (t : Text) :
    defuseScript (c :: t) = c :: defuseScript t := by
  rw [defuseScript]
  intro rest hless
  exact absurd hless h

theorem defuseScript_append {w : Text} (h : '<' ∉ w) (t : Text) :
    defuseScript (w ++ t) = w ++ defuseScript t := by
  induction w with
  | nil => rfl
  | cons c w ih =>
    obtain ⟨hc, hw⟩ := not_or.1 (mt List.mem_cons.2 h)
    rw [List.cons_append, defuseScript_cons (fun heq => hc heq.symm), ih hw, List.cons_append]

/-- A character is kept, but a mark with a slash behind it may get a backslash between them. -/
theorem defuseScript_cons_cases (c : Char) (t : Text) :
    defuseScript (c :: t) = c :: defuseScript t ∨
      ∃ rest, c = '<' ∧ t = '/' :: rest ∧
        defuseScript (c :: t) = '<' :: '\\' :: '/' :: defuseScript rest := by
  by_cases hmark : ∃ rest, c = '<' ∧ t = '/' :: rest
  · obtain ⟨rest, rfl, rfl⟩ := hmark
    rw [defuseScript, defuseScript_cons (by decide)]
    split
    · exact .inr ⟨rest, rfl, rfl, rfl⟩
    · exact .inl rfl
  · left
    rw [defuseScript]
    intro rest hc ht
    exact hmark ⟨rest, hc, ht⟩

theorem exists_defuseScript_cons (c : Char) (t : Text) : ∃ u, defuseScript (c :: t) = c :: u := by
  rcases defuseScript_cons_cases c t with h | ⟨rest, rfl, -, h⟩
  · exact ⟨_, h⟩
  · exact ⟨_, h⟩

/-- What is put in does not hide a word. -/
theorem beginsWithWord_defuseScript {letters : List (List Char)}
    (h : ∀ spellings ∈ letters, '<' ∉ spellings) (t : Text) :
    beginsWithWord letters (defuseScript t) = beginsWithWord letters t := by
  induction letters generalizing t with
  | nil => simp [beginsWithWord]
  | cons spellings letters ih =>
    cases t with
    | nil => rfl
    | cons c t =>
      by_cases hless : c = '<'
      · subst hless
        obtain ⟨u, hu⟩ := exists_defuseScript_cons '<' t
        have hmem := h spellings List.mem_cons_self
        simp [hu, beginsWithWord, hmem]
      · rw [defuseScript_cons hless, beginsWithWord, beginsWithWord,
          ih (fun s hs => h s (List.mem_cons_of_mem _ hs))]

/-- After each `</` of a defused text stands something else than the word. -/
theorem not_beginsWithWord_of_suffix {t u : Text} (h : '<' :: '/' :: u <:+ defuseScript t) :
    beginsWithWord scriptLetters u = false := by
  have hletters : ∀ spellings ∈ scriptLetters, '<' ∉ spellings := by decide
  fun_induction defuseScript t with
  | case1 rest hword ih =>
    simp only [List.suffix_cons_iff, List.cons.injEq, Char.reduceEq, true_and, false_and,
      false_or] at h
    exact ih h
  | case2 rest hword ih =>
    simp only [List.suffix_cons_iff, List.cons.injEq, Char.reduceEq, true_and, false_and,
      false_or] at h
    rcases h with rfl | h
    · rw [beginsWithWord_defuseScript hletters]
      exact Bool.eq_false_iff.2 hword
    · exact ih h
  | case3 c rest hmark ih =>
    rcases List.suffix_cons_iff.1 h with heq | h
    · -- the slash behind this mark was there before
      obtain ⟨rfl, hrest⟩ := List.cons.inj heq
      cases rest with
      | nil => cases hrest
      | cons d rest =>
        obtain ⟨v, hv⟩ := exists_defuseScript_cons d rest
        rw [hv] at hrest
        obtain ⟨rfl, -⟩ := List.cons.inj hrest
        exact absurd rfl (hmark rest rfl)
    · exact ih h
  | case4 => simp at h

/-- Only capital letters have another lower case, a small letter. -/
theorem toLower_cases (c : Char) :
    c.toLower = c ∨ (65 ≤ c.toNat ∧ c.toNat ≤ 90 ∧ c.toLower.toNat = c.toNat + 32) := by
  unfold Char.toLower
  split
  · rename_i hc
    have hrange : 65 ≤ c.toNat ∧ c.toNat ≤ 90 := hc
    refine .inr ⟨hrange.1, hrange.2, ?_⟩
    change (c.toNat + 32) % 4294967296 = _
    omega
  · exact .inl rfl

/-- A letter is one of two characters if its lower case is known. -/
theorem mem_of_toLower {lower : Char} (upper : Char) {spellings : List Char}
    (hcase : upper.toNat + 32 = lower.toNat) (hmem : lower ∈ spellings ∧ upper ∈ spellings)
    (c : Char) (h : c.toLower = lower) : c ∈ spellings := by
  rcases toLower_cases c with hsame | ⟨-, -, hnat⟩
  · rw [← hsame, h]
    exact hmem.1
  · rw [h, ← hcase] at hnat
    rw [Char.toNat_inj.1 (Nat.add_right_cancel hnat.symm)]
    exact hmem.2

theorem beginsWithWord_of_toLower {lower : Text} {letters : List (List Char)}
    (h : List.Forall₂ (fun l spellings => ∀ c : Char, c.toLower = l → c ∈ spellings) lower letters)
    (word after : Text) (hword : word.map Char.toLower = lower) :
    beginsWithWord letters (word ++ after) = true := by
  induction h generalizing word with
  | nil => simp [beginsWithWord]
  | cons hletter hrest ih =>
    obtain ⟨c, word, rfl, hc, hword⟩ := List.map_eq_cons_iff.1 hword
    simp [beginsWithWord, hletter c hc, ih word hword]

/-- No script element ends in a defused text. -/
theorem not_closesScript_defuseScript (t : Text) : ¬ ClosesScript (defuseScript t) := by
  rintro ⟨before, word, after, htext, hword⟩
  have hletters : List.Forall₂ (fun l spellings => ∀ c : Char, c.toLower = l → c ∈ spellings)
      "script".toList scriptLetters :=
    .cons (mem_of_toLower 'S' rfl (by decide))
      (.cons (mem_of_toLower 'C' rfl (by decide))
        (.cons (mem_of_toLower 'R' rfl (by decide))
          (.cons (mem_of_toLower 'I' rfl (by decide))
            (.cons (mem_of_toLower 'P' rfl (by decide))
              (.cons (mem_of_toLower 'T' rfl (by decide)) .nil)))))
  have hbegins := beginsWithWord_of_toLower hletters word after hword
  have hsuffix : '<' :: '/' :: (word ++ after) <:+ defuseScript t := ⟨before, htext.symm⟩
  rw [not_beginsWithWord_of_suffix hsuffix] at hbegins
  cases hbegins

end Stencil.Markup
