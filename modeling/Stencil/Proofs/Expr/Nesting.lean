import Stencil.Expr.Basic
import Stencil.Proofs.Expr.Reading
import Mathlib.Data.List.Basic
import Mathlib.Data.List.TakeWhile

/-!
# The depth to which texts are read

Texts inside an expression, the keys of elements and the arguments of filters, are shorter than the
expression. So two ways of reading that agree on shorter texts make the same of a longer one, any
depth beyond the length of a text reads all of it, and blanks around a text do not matter.
-/

set_option autoImplicit false

namespace Stencil

open Text (strip)

/-! ## Texts inside a text -/

namespace Scan

variable {mark : Char} {s : Scan} {t piece : Text}

theorem length_of_mem_cutAll (h : piece ∈ cutAll mark s t) : piece.length ≤ t.length := by
  induction t generalizing s piece with
  | nil =>
    obtain rfl := List.mem_singleton.1 h
    exact Nat.le_refl _
  | cons c t ih =>
    rw [List.length_cons]
    unfold cutAll at h
    split at h
    · rcases List.mem_cons.1 h with rfl | h
      · exact Nat.zero_le _
      · exact Nat.le_succ_of_le (ih h)
    · split at h
      · obtain rfl := List.mem_singleton.1 h
        exact Nat.succ_le_succ (Nat.zero_le _)
      · rename_i first others hcut
        rcases List.mem_cons.1 h with rfl | h
        · exact Nat.succ_le_succ (ih (hcut ▸ List.mem_cons_self ..))
        · exact Nat.le_succ_of_le (ih (hcut ▸ List.mem_cons_of_mem _ h))

theorem length_of_cutFirst {cut : Text × Text} (h : cutFirst mark s t = some cut) :
    cut.1.length + cut.2.length < t.length := by
  induction t generalizing s cut with
  | nil => cases h
  | cons c t ih =>
    unfold cutFirst at h
    split at h
    · cases h
      simp
    · obtain ⟨inner, hinner, rfl⟩ := Option.map_eq_some_iff.1 h
      have hlt := ih hinner
      simp only [List.length_cons]
      omega

end Scan

namespace Path

variable {t root key : Text} {steps : List PathStep}

theorem StepsForm.length_of_mem (h : StepsForm t steps) (hkey : .element key ∈ steps) :
    key.length < t.length := by
  induction h with
  | nil => cases hkey
  | blank _ _ ih => exact Nat.lt_succ_of_lt (ih hkey)
  | member _ _ _ ih =>
    have hlt := ih ((List.mem_cons.1 hkey).resolve_left nofun)
    simp only [List.length_cons, List.length_append]
    omega
  | element _ _ ih =>
    rw [List.length_cons, List.length_append, List.length_cons]
    rcases List.mem_cons.1 hkey with heq | hkey
    · cases heq
      omega
    · have hlt := ih hkey
      omega
  | call _ _ ih =>
    have hlt := ih ((List.mem_cons.1 hkey).resolve_left nofun)
    simp only [List.length_cons, List.length_append]
    omega

theorem length_of_mem_parse? (h : parse? t = some (root, steps)) (hkey : .element key ∈ steps) :
    key.length < t.length := by
  obtain ⟨n, -, htail⟩ := parse?_eq_some_iff.1 h
  have hlt := htail.length_of_mem hkey
  simp only [List.length_append]
  omega

end Path

/-! ## Readers that agree on shorter texts -/

namespace Expr

variable {read read' : Text → Expr} {t : Text}

theorem length_of_mem_pipeline {piece : Text} (h : piece ∈ pipeline t) :
    piece.length ≤ t.length := by
  obtain ⟨cut, hcut, rfl⟩ := List.mem_map.1 h
  exact Nat.le_trans (Text.length_strip_le cut) (Scan.length_of_mem_cutAll hcut)

theorem length_of_filterParts {argument : Text} (h : (filterParts t).2 = some argument) :
    argument.length < t.length := by
  unfold filterParts at h
  split at h
  · rename_i name written hcut
    cases h
    have hlt := Scan.length_of_cutFirst hcut
    have hle := Text.length_strip_le written
    simp only at hlt
    omega
  · cases h

/-- Two readers agree on the texts that are shorter than a given one. -/
def AgreeBelow (read read' : Text → Expr) (t : Text) : Prop :=
  ∀ u : Text, u.length < t.length → read u = read' u

theorem AgreeBelow.mono {u : Text} (h : AgreeBelow read read' t) (hle : u.length ≤ t.length) :
    AgreeBelow read read' u := fun v hv => h v (Nat.lt_of_lt_of_le hv hle)

theorem readOperand_congr (h : AgreeBelow read read' t) :
    readOperand read t = readOperand read' t := by
  unfold readOperand
  split
  · rfl
  · cases Literal.ofText? t with
    | some l => rfl
    | none =>
      cases hparse : Path.parse? t with
      | none => rfl
      | some found =>
        obtain ⟨root, steps⟩ := found
        have hsteps : steps.map (readStep read) = steps.map (readStep read') := by
          refine List.map_congr_left fun step hstep => ?_
          cases step with
          | member name => rfl
          | element key =>
            exact congrArg Step.element (h key (Path.length_of_mem_parse? hparse hstep))
          | call => rfl
        simp only [hsteps]

theorem applyWritten_congr (h : AgreeBelow read read' t) (value : Expr) :
    applyWritten read value t = applyWritten read' value t := by
  have hargument : (filterParts t).2.map read = (filterParts t).2.map read' :=
    Option.map_congr fun argument hargument => h argument (length_of_filterParts hargument)
  unfold applyWritten
  simp only [hargument]

theorem ofParts_congr {read read' : Text → Expr} {parts : List Text}
    (h : ∀ part ∈ parts, AgreeBelow read read' part) : ofParts read parts = ofParts read' parts := by
  cases parts with
  | nil => rfl
  | cons operand filters =>
    obtain ⟨hoperand, hfilters⟩ := List.forall_mem_cons.1 h
    show filters.foldl (applyWritten read) (readOperand read operand) =
      filters.foldl (applyWritten read') (readOperand read' operand)
    rw [readOperand_congr hoperand]
    exact List.foldl_ext _ _ _ fun value filter hfilter =>
      applyWritten_congr (hfilters filter hfilter) value

/-- An expression is the same whatever depth beyond its length it is read to. -/
theorem ofTextWithin_eq {n m : Nat} (hn : t.length < n) (hm : t.length < m) :
    ofTextWithin n t = ofTextWithin m t := by
  induction n generalizing m t with
  | zero => exact absurd hn (Nat.not_lt_zero _)
  | succ n ih =>
    obtain ⟨m, rfl⟩ : ∃ k, m = k + 1 := ⟨m - 1, by omega⟩
    have hagree : AgreeBelow (ofTextWithin n) (ofTextWithin m) t := fun u hu =>
      ih (by omega) (by omega)
    have hpieces : ∀ piece ∈ pipeline (strip t),
        AgreeBelow (ofTextWithin n) (ofTextWithin m) piece := fun piece hpiece =>
      hagree.mono (Nat.le_trans (length_of_mem_pipeline hpiece) (Text.length_strip_le t))
    rw [ofTextWithin_eq_ofParts, ofTextWithin_eq_ofParts, ofParts_congr hpieces]

/-- Blanks around a text do not change the expression that it writes. -/
theorem ofText_strip (t : Text) : ofText (strip t) = ofText t := by
  have hle := Text.length_strip_le t
  have hdepth : ofText (strip t) = ofTextWithin (t.length + 1) (strip t) :=
    ofTextWithin_eq (by omega) (by omega)
  have hstrip : strip (strip t) = strip t := Text.trimmed_strip t
  rw [hdepth, ofText]
  unfold ofTextWithin
  rw [hstrip]

end Expr
end Stencil
