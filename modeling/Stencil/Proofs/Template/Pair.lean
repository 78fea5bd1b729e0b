import Stencil.Template.Segment

/-!
# Pairs of neighbouring characters

A span ends at the first occurrence of a mark and a brace next to each other. Such a pair stands in
a joined text if it stands in one of its parts, or across the seam. A text may stand in place of
another one if it brings in no closing pair and does not change what may happen at the seams; texts
with this property can be joined.
-/

set_option autoImplicit false

namespace Stencil

/-- A mark and a closing brace stand next to each other in a text. -/
def HasPair (mark : Char) (t : Text) : Prop := [mark, '}'] <:+: t

section Pairs

variable {mark : Char} {x y t : Text}

theorem hasPair_nil : ¬ HasPair mark [] := by
  simp [HasPair]

theorem hasPair_cons {c : Char} :
    HasPair mark (c :: t) ↔ (c = mark ∧ t.head? = some '}') ∨ HasPair mark t := by
  unfold HasPair
  rw [List.infix_cons_iff]
  refine or_congr_left ?_
  cases t with
  | nil => simp
  | cons d rest => simp [List.cons_prefix_cons, eq_comm]

theorem hasPair_append : HasPair mark (x ++ y) ↔
    HasPair mark x ∨ HasPair mark y ∨ (x.getLast? = some mark ∧ y.head? = some '}') := by
  induction x with
  | nil => simp [hasPair_nil]
  | cons c x ih =>
    rw [List.cons_append, hasPair_cons, ih, hasPair_cons]
    cases x with
    | nil => simp [hasPair_nil, or_comm]
    | cons d rest =>
      simp only [List.cons_append, List.head?_cons, List.getLast?_cons_cons]
      constructor
      · rintro (h | h | h)
        · exact .inl (.inl h)
        · exact .inl (.inr h)
        · exact .inr h
      · rintro ((h | h) | h)
        · exact .inl h
        · exact .inr (.inl h)
        · exact .inr (.inr h)

theorem HasPair.mono (h : HasPair mark x) (hxy : x <:+: y) : HasPair mark y := h.trans hxy

theorem HasPair.mem (h : HasPair mark t) : '}' ∈ t := h.subset (by simp)

/-- A pair does not begin before a part that holds no brace and does not end with the mark. -/
theorem HasPair.of_append (h : HasPair mark (x ++ y)) (hx : '}' ∉ x)
    (hlast : x.getLast? ≠ some mark) : HasPair mark y := by
  rcases hasPair_append.1 h with h | h | h
  · exact absurd h.mem hx
  · exact h
  · exact absurd h.1 hlast

/-- A pair does not end behind a part that is followed by no brace. -/
theorem HasPair.of_append_left (h : HasPair mark (x ++ y)) (hy : '}' ∉ y) : HasPair mark x := by
  rcases hasPair_append.1 h with h | h | h
  · exact h
  · exact absurd h.mem hy
  · exact absurd (List.mem_of_mem_head? h.2) hy

end Pairs

/-- The marks of closing pairs. -/
def closeMarks : List Char := ['}', '%', '#']

theorem Delimiter.closeMark_mem (d : Delimiter) : d.closeMark ∈ closeMarks := by
  cases d <;> decide

/-- A text may stand in place of another one: no pair that closes a span comes in, and the ends
differ in no way that matters. -/
structure Mends (new old : Text) : Prop where
  pairs : ∀ mark ∈ closeMarks, HasPair mark new → HasPair mark old
  head : new.head? = some '}' → old.head? = some '}'
  last : new.getLast? = old.getLast?

namespace Mends

variable {new old new' old' : Text}

theorem refl (t : Text) : Mends t t := ⟨fun _ _ h => h, fun h => h, rfl⟩

theorem nil_iff (h : Mends new old) : new = [] ↔ old = [] := by
  rw [← List.getLast?_eq_none_iff, ← List.getLast?_eq_none_iff, h.last]

theorem append (h : Mends new old) (h' : Mends new' old') : Mends (new ++ new') (old ++ old') := by
  refine ⟨fun mark hmark hpair => ?_, fun hhead => ?_, ?_⟩
  · rcases hasPair_append.1 hpair with hpair | hpair | ⟨hlast, hhead⟩
    · exact hasPair_append.2 (.inl (h.pairs mark hmark hpair))
    · exact hasPair_append.2 (.inr (.inl (h'.pairs mark hmark hpair)))
    · exact hasPair_append.2 (.inr (.inr ⟨h.last ▸ hlast, h'.head hhead⟩))
  · cases hold : old with
    | nil =>
      rw [h.nil_iff.2 hold] at hhead
      exact h'.head hhead
    | cons d rest =>
      cases hnew : new with
      | nil =>
        rw [h.nil_iff.1 hnew] at hold
        cases hold
      | cons c rest' =>
        rw [hnew] at hhead
        have hd := h.head (hnew ▸ hhead)
        rwa [hold] at hd
  · rw [List.getLast?_append, List.getLast?_append, h.last, h'.last]

end Mends
end Stencil
