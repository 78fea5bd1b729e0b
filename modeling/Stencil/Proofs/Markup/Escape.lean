import Stencil.Markup.Entity
import Mathlib.Data.List.Infix

/-!
# Escaped text

Escaped text holds none of the characters that could begin a tag or end an attribute, every ampersand
in it begins an entity, and decoding the entities gives the text back.
-/

set_option autoImplicit false

namespace Stencil.Markup

/-- The entities that escaping writes. -/
def entities : List Text :=
  ["&amp;".toList, "&lt;".toList, "&gt;".toList, "&quot;".toList, "&#39;".toList]

/-- A text with the characters that its entities stand for, from left to right. -/
def decode : Text → Text
  | '&' :: 'a' :: 'm' :: 'p' :: ';' :: rest => '&' :: decode rest
  | '&' :: 'l' :: 't' :: ';' :: rest => '<' :: decode rest
  | '&' :: 'g' :: 't' :: ';' :: rest => '>' :: decode rest
  | '&' :: 'q' :: 'u' :: 'o' :: 't' :: ';' :: rest => '"' :: decode rest
  | '&' :: '#' :: '3' :: '9' :: ';' :: rest => '\'' :: decode rest
  | c :: rest => c :: decode rest
  | [] => []

/-- A text that can stand in HTML text and between quotes: none of the other special characters
occurs in it, and every ampersand begins an entity. -/
structure Inert (t : Text) : Prop where
  plain : ∀ c ∈ ['<', '>', '"', '\''], c ∉ t
  ampersand : ∀ before after, t = before ++ '&' :: after → ∃ e ∈ entities, e <+: '&' :: after

/-- What stands for a character is an entity, with its ampersand in front, or the character itself,
which then is not special. -/
theorem entity_cases (c : Char) :
    (∃ rest, entity c = '&' :: rest ∧ entity c ∈ entities ∧
      ∀ d ∈ ['&', '<', '>', '"', '\''], d ∉ rest) ∨
      (entity c = [c] ∧ c ∉ ['&', '<', '>', '"', '\'']) := by
  unfold entity
  by_cases hamp : c = '&'
  · rw [if_pos hamp]
    exact .inl ⟨['a', 'm', 'p', ';'], rfl, by simp [entities], by simp⟩
  by_cases hless : c = '<'
  · rw [if_neg hamp, if_pos hless]
    exact .inl ⟨['l', 't', ';'], rfl, by simp [entities], by simp⟩
  by_cases hgreater : c = '>'
  · rw [if_neg hamp, if_neg hless, if_pos hgreater]
    exact .inl ⟨['g', 't', ';'], rfl, by simp [entities], by simp⟩
  by_cases hdouble : c = '"'
  · rw [if_neg hamp, if_neg hless, if_neg hgreater, if_pos hdouble]
    exact .inl ⟨['q', 'u', 'o', 't', ';'], rfl, by simp [entities], by simp⟩
  by_cases hsingle : c = '\''
  · rw [if_neg hamp, if_neg hless, if_neg hgreater, if_neg hdouble, if_pos hsingle]
    exact .inl ⟨['#', '3', '9', ';'], rfl, by simp [entities], by simp⟩
  · rw [if_neg hamp, if_neg hless, if_neg hgreater, if_neg hdouble, if_neg hsingle]
    exact .inr ⟨rfl, by simp [hamp, hless, hgreater, hdouble, hsingle]⟩

theorem escape_cons (c : Char) (t : Text) : escape (c :: t) = entity c ++ escape t :=
  List.flatMap_cons ..

theorem inert_nil : Inert [] := by
  refine ⟨by simp, ?_⟩
  intro before after h
  simp at h

theorem Inert.cons {c : Char} {t : Text} (h : Inert t) (hc : c ∉ ['<', '>', '"', '\''])
    (hentity : c = '&' → ∃ e ∈ entities, e <+: c :: t) : Inert (c :: t) := by
  refine ⟨?_, ?_⟩
  · intro d hd hmem
    rcases List.mem_cons.1 hmem with rfl | hmem
    · exact hc hd
    · exact h.plain d hd hmem
  · intro before after heq
    cases before with
    | nil =>
      obtain ⟨rfl, rfl⟩ := List.cons.inj heq
      exact hentity rfl
    | cons b before => exact h.ampersand before after (List.cons.inj heq).2

/-- Characters that are not special can be put in front. -/
theorem Inert.append_plain {lead t : Text} (h : Inert t)
    (hlead : ∀ d ∈ ['&', '<', '>', '"', '\''], d ∉ lead) : Inert (lead ++ t) := by
  induction lead with
  | nil => exact h
  | cons c lead ih =>
    have hc : c ∉ ['&', '<', '>', '"', '\''] := fun hmem => hlead c hmem (List.mem_cons_self ..)
    have hrest : Inert (lead ++ t) := ih fun d hd hmem => hlead d hd (List.mem_cons_of_mem _ hmem)
    apply hrest.cons
    · exact fun hmem => hc (List.mem_cons_of_mem _ hmem)
    · rintro rfl
      exact absurd (List.mem_cons_self ..) hc

theorem inert_entity_append (c : Char) {t : Text} (h : Inert t) : Inert (entity c ++ t) := by
  rcases entity_cases c with ⟨rest, hentity, hmem, hrest⟩ | ⟨hentity, hc⟩
  · rw [hentity] at hmem ⊢
    apply (h.append_plain hrest).cons (by decide)
    intro _
    exact ⟨'&' :: rest, hmem, List.prefix_append ..⟩
  · rw [hentity]
    apply h.append_plain
    intro d hd hmem
    rw [List.mem_singleton.1 hmem] at hd
    exact hc hd

theorem inert_escape (t : Text) : Inert (escape t) := by
  induction t with
  | nil => exact inert_nil
  | cons c t ih =>
    rw [escape_cons]
    exact inert_entity_append c ih

theorem decode_cons {c : Char} (h : c ≠ '&') (t : Text) : decode (c :: t) = c :: decode t := by
  rw [decode.eq_def]
  split <;> simp_all

theorem decode_entity_append (c : Char) (t : Text) :
    decode (entity c ++ t) = c :: decode t := by
  unfold entity
  repeat' split
  all_goals first
    | subst_vars; rfl
    | exact decode_cons ‹¬c = '&'› t

/-- Decoding undoes escaping. -/
theorem decode_escape (t : Text) : decode (escape t) = t := by
  induction t with
  | nil => rfl
  | cons c t ih => rw [escape_cons, decode_entity_append, ih]

end Stencil.Markup
