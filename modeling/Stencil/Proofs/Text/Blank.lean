import Stencil.Text.Blank
import Stencil.Text.Word

/-!
# Leading parts, runs of characters, blanks and trimmed texts

A leading part is taken off exactly the texts that begin with it. Scanning stops where a run of
characters of one class stops. A trimmed text neither begins nor ends with a blank, and trimming
finds it again between any blanks. No character is both blank and a character of names.
-/

set_option autoImplicit false

namespace Stencil.Text

/-! ## Leading parts -/

theorem dropLead_eq_some {lead t rest : Text} :
    dropLead lead t = some rest ↔ t = lead ++ rest := by
  induction lead generalizing t with
  | nil => simp [dropLead]
  | cons a lead ih =>
    cases t with
    | nil => simp [dropLead]
    | cons c t =>
      unfold dropLead
      by_cases h : a = c
      · rw [if_pos h, ih, h, List.cons_append]
        simp
      · rw [if_neg h]
        refine ⟨nofun, fun heq => absurd (List.cons.inj heq).1.symm h⟩

/-! ## Runs -/

section Runs

variable {p : Char → Bool} {w t : Text}

/-- A run of characters of a class does not go on into a text. -/
def Stops (p : Char → Bool) (t : Text) : Prop := ∀ c ∈ t.head?, p c = false

theorem stops_nil : Stops p [] := nofun

theorem stops_cons {c : Char} : Stops p (c :: t) ↔ p c = false := by
  simp [Stops]

theorem stops_append (hw : w ≠ []) : Stops p (w ++ t) ↔ Stops p w := by
  cases w with
  | nil => exact absurd rfl hw
  | cons c rest => rw [List.cons_append, stops_cons, stops_cons]

theorem stops_of_append (h : Stops p (w ++ t)) : Stops p w := by
  cases w with
  | nil => exact stops_nil
  | cons c rest => exact stops_cons.2 (stops_cons.1 h)

theorem stops_of_all (hw : w ≠ []) (h : ∀ c ∈ w, p c = false) : Stops p (w ++ t) := by
  cases w with
  | nil => exact absurd rfl hw
  | cons c rest => exact stops_cons.2 (h c (List.mem_cons_self ..))

theorem takeWhile_of_stops (h : Stops p t) : t.takeWhile p = [] := by
  cases t with
  | nil => rfl
  | cons c rest => exact List.takeWhile_cons_of_neg (by simp [stops_cons.1 h])

theorem dropWhile_of_stops (h : Stops p t) : t.dropWhile p = t := by
  cases t with
  | nil => rfl
  | cons c rest => exact List.dropWhile_cons_of_neg (by simp [stops_cons.1 h])

theorem takeWhile_append_of_stops (hw : ∀ c ∈ w, p c = true) (ht : Stops p t) :
    (w ++ t).takeWhile p = w := by
  rw [List.takeWhile_append_of_pos hw, takeWhile_of_stops ht, List.append_nil]

theorem dropWhile_append_of_stops (hw : ∀ c ∈ w, p c = true) (ht : Stops p t) :
    (w ++ t).dropWhile p = t := by
  rw [List.dropWhile_append_of_pos hw, dropWhile_of_stops ht]

theorem stops_dropWhile (p : Char → Bool) (t : Text) : Stops p (t.dropWhile p) := by
  induction t with
  | nil => exact stops_nil
  | cons c rest ih =>
    by_cases hc : p c = true
    · rw [List.dropWhile_cons_of_pos hc]
      exact ih
    · rw [List.dropWhile_cons_of_neg hc]
      exact stops_cons.2 (by simpa using hc)

theorem mem_takeWhile {c : Char} (h : c ∈ t.takeWhile p) : p c = true :=
  List.all_eq_true.1 List.all_takeWhile c h

end Runs

/-! ## Trimming -/

/-- A text of blanks only. -/
def Blanks (b : Text) : Prop := ∀ c ∈ b, isBlank c = true

/-- A text that trimming does not change. -/
def Trimmed (t : Text) : Prop := strip t = t

variable {a b t : Text}

theorem blanks_nil : Blanks [] := nofun

theorem Blanks.reverse (h : Blanks b) : Blanks b.reverse := fun c hc => h c (List.mem_reverse.1 hc)

theorem stripLeft_append (hb : Blanks b) (t : Text) : stripLeft (b ++ t) = stripLeft t :=
  List.dropWhile_append_of_pos hb

theorem stripLeft_of_stops (h : Stops isBlank t) : stripLeft t = t := dropWhile_of_stops h

theorem stripRight_append (t : Text) (hb : Blanks b) : stripRight (t ++ b) = stripRight t := by
  unfold stripRight
  rw [List.reverse_append, List.dropWhile_append_of_pos hb.reverse]

theorem stripRight_of_stops (h : Stops isBlank t.reverse) : stripRight t = t := by
  unfold stripRight
  rw [dropWhile_of_stops h, List.reverse_reverse]

theorem exists_stripRight (t : Text) : ∃ b, Blanks b ∧ t = stripRight t ++ b := by
  refine ⟨(t.reverse.takeWhile isBlank).reverse, ?_, ?_⟩
  · exact fun c hc => mem_takeWhile (List.mem_reverse.1 hc)
  · have h := congrArg List.reverse
      (List.takeWhile_append_dropWhile (p := isBlank) (l := t.reverse))
    rw [List.reverse_append, List.reverse_reverse] at h
    exact h.symm

/-- A text is its trimmed form between blanks. -/
theorem exists_strip (t : Text) : ∃ a b, Blanks a ∧ Blanks b ∧ t = a ++ strip t ++ b := by
  obtain ⟨b, hb, hright⟩ := exists_stripRight (stripLeft t)
  refine ⟨t.takeWhile isBlank, b, fun c hc => mem_takeWhile hc, hb, ?_⟩
  rw [List.append_assoc, strip, ← hright]
  exact List.takeWhile_append_dropWhile.symm

theorem stops_strip (t : Text) : Stops isBlank (strip t) := by
  obtain ⟨b, -, h⟩ := exists_stripRight (stripLeft t)
  have hleft : Stops isBlank (stripLeft t) := stops_dropWhile _ t
  rw [h] at hleft
  exact stops_of_append hleft

theorem stops_reverse_strip (t : Text) : Stops isBlank (strip t).reverse := by
  unfold strip stripRight
  rw [List.reverse_reverse]
  exact stops_dropWhile _ _

theorem trimmed_of_stops (hl : Stops isBlank t) (hr : Stops isBlank t.reverse) : Trimmed t := by
  unfold Trimmed strip
  rw [stripLeft_of_stops hl, stripRight_of_stops hr]

theorem trimmed_strip (t : Text) : Trimmed (strip t) :=
  trimmed_of_stops (stops_strip t) (stops_reverse_strip t)

theorem Trimmed.stops (h : Trimmed t) : Stops isBlank t := h ▸ stops_strip t

theorem Trimmed.stops_reverse (h : Trimmed t) : Stops isBlank t.reverse :=
  h ▸ stops_reverse_strip t

/-- Trimming finds a trimmed text between blanks. -/
theorem strip_between (ha : Blanks a) (hb : Blanks b) (h : Trimmed t) : strip (a ++ t ++ b) = t := by
  unfold strip
  rw [List.append_assoc, stripLeft_append ha]
  by_cases ht : t = []
  · subst ht
    have hb' := stripLeft_append hb []
    rw [List.append_nil] at hb'
    rw [List.nil_append, hb']
    rfl
  · have hstops : Stops isBlank (t ++ b) := (stops_append ht).2 h.stops
    rw [stripLeft_of_stops hstops, stripRight_append t hb, stripRight_of_stops h.stops_reverse]

/-- Blanks around a text make no difference to its trimmed form. -/
theorem strip_around (ha : Blanks a) (hb : Blanks b) (t : Text) :
    strip (a ++ t ++ b) = strip t := by
  obtain ⟨a', b', ha', hb', hsplit⟩ := exists_strip t
  have hleft : Blanks (a ++ a') := List.forall_mem_append.2 ⟨ha, ha'⟩
  have hright : Blanks (b' ++ b) := List.forall_mem_append.2 ⟨hb', hb⟩
  have hbetween := strip_between hleft hright (trimmed_strip t)
  have hsame : a ++ t ++ b = a ++ a' ++ strip t ++ (b' ++ b) := by
    conv => lhs; rw [hsplit]
    simp only [List.append_assoc]
  rw [hsame, hbetween]

theorem length_strip_le (t : Text) : (strip t).length ≤ t.length := by
  obtain ⟨a, b, -, -, h⟩ := exists_strip t
  have hlength := congrArg List.length h
  simp only [List.length_append] at hlength
  omega

/-! ## Solid texts -/

/-- A text that is not empty and has no blanks at its ends. -/
structure Solid (t : Text) : Prop where
  ne_nil : t ≠ []
  left : Stops isBlank t
  right : Stops isBlank t.reverse

namespace Solid

variable {a b t : Text}

theorem trimmed (h : Solid t) : Trimmed t := trimmed_of_stops h.left h.right

theorem of_trimmed (hne : t ≠ []) (h : Trimmed t) : Solid t := ⟨hne, h.stops, h.stops_reverse⟩

theorem of_all (hne : t ≠ []) (h : ∀ c ∈ t, isBlank c = false) : Solid t := by
  refine ⟨hne, ?_, ?_⟩
  · simpa using stops_of_all (t := []) hne h
  · have hreverse : t.reverse ≠ [] := fun heq => hne (List.reverse_eq_nil_iff.1 heq)
    simpa using stops_of_all (t := []) hreverse fun c hc => h c (List.mem_reverse.1 hc)

theorem of_word (hne : t ≠ []) (h : (t.all fun c => !isBlank c) = true) : Solid t :=
  .of_all hne fun c hc => by simpa using List.all_eq_true.1 h c hc

/-- What stands between two solid texts does not matter. -/
theorem around (ha : Solid a) (hb : Solid b) (m : Text) : Solid (a ++ (m ++ b)) := by
  refine ⟨List.append_ne_nil_of_left_ne_nil ha.ne_nil _, ?_, ?_⟩
  · exact (stops_append ha.ne_nil).2 ha.left
  · rw [List.reverse_append, List.reverse_append, List.append_assoc]
    exact (stops_append fun heq => hb.ne_nil (List.reverse_eq_nil_iff.1 heq)).2 hb.right

theorem append (ha : Solid a) (hb : Solid b) : Solid (a ++ b) := ha.around hb []

theorem singleton {c : Char} (h : isBlank c = false) : Solid [c] := by
  refine .of_all (List.cons_ne_nil _ _) fun d hd => ?_
  obtain rfl := List.mem_singleton.1 hd
  exact h

end Solid

/-! ## Blanks and characters of names -/

/-- The code points of blanks beyond ASCII. -/
def wideBlanks : List Nat :=
  [0x85, 0xA0, 0x1680, 0x2000, 0x2001, 0x2002, 0x2003, 0x2004, 0x2005, 0x2006, 0x2007, 0x2008,
    0x2009, 0x200A, 0x2028, 0x2029, 0x202F, 0x205F, 0x3000]

theorem mem_wideBlanks {c : Char} (h : isBlank c = true) (hwide : ¬ c.toNat < 128) :
    c.toNat ∈ wideBlanks := by
  simp only [isBlank, Bool.or_eq_true, Bool.and_eq_true, decide_eq_true_eq, beq_iff_eq] at h
  simp only [wideBlanks, List.mem_cons, List.not_mem_nil, or_false]
  omega

theorem isWord_of_isBlank {c : Char} (h : isBlank c = true) : isWord c = false := by
  by_cases hwide : c.toNat < 128
  · simp only [isBlank, Bool.or_eq_true, Bool.and_eq_true, decide_eq_true_eq, beq_iff_eq] at h
    have hunder : c ≠ '_' := by
      rintro rfl
      revert h
      decide
    have hletter : isAsciiLetter c = false ∧ isAsciiDigit c = false := by
      simp only [isAsciiLetter, isAsciiDigit, Char.le_def, UInt32.le_iff_toNat_le]
      have hval : c.val.toNat = c.toNat := rfl
      rw [hval]
      simp
      omega
    simp [isWord, isAlphanumeric, hwide, hletter, hunder]
  · have hnone : ∀ n ∈ wideBlanks, inRanges alphanumericRanges n = false := by decide +kernel
    have hunder : c ≠ '_' := by
      rintro rfl
      exact hwide (by decide)
    simp [isWord, isAlphanumeric, hwide, hnone _ (mem_wideBlanks h hwide), hunder]

end Stencil.Text
