import Stencil.Proofs.Text.Blank
import Stencil.Expr.Path

/-!
# What scans pass over

A sealed text is one whose quotes are closed and whose brackets are balanced, and whose characters
outside of both belong to a class. A scan that begins outside of quotes is outside of them again
after a sealed text, with as many brackets open as before; on its way it sees no mark that is not in
the class. So the scans that cut at a mark pass over sealed texts.
-/

set_option autoImplicit false

namespace Stencil

/-! ## Sealed texts -/

namespace Scan

/-- A character that is neither a quote nor a bracket. -/
def isPlain (c : Char) : Bool := !isQuote c && !isOpening c && !isClosing c

/-- A text with closed quotes and balanced brackets, whose other characters outside of quotes and
brackets are of a class. -/
inductive Sealed : (Char → Bool) → Text → Prop where
  | nil {p : Char → Bool} : Sealed p []
  | plain {p : Char → Bool} {c : Char} {t : Text} : isPlain c = true → p c = true → Sealed p t →
      Sealed p (c :: t)
  | quoted {p : Char → Bool} {q : Char} {body t : Text} : isQuote q = true → q ∉ body →
      Sealed p t → Sealed p (q :: (body ++ q :: t))
  | element {p : Char → Bool} {body t : Text} : Sealed (fun _ => true) body → Sealed p t →
      Sealed p ('[' :: (body ++ ']' :: t))
  | call {p : Char → Bool} {t : Text} : Sealed p t → Sealed p ('(' :: ')' :: t)

namespace Sealed

variable {p p' : Char → Bool} {a b t : Text}

theorem of_all (h : ∀ c ∈ t, isPlain c = true ∧ p c = true) : Sealed p t := by
  induction t with
  | nil => exact .nil
  | cons c rest ih =>
    obtain ⟨hplain, hp⟩ := h c (List.mem_cons_self ..)
    exact .plain hplain hp (ih fun d hd => h d (List.mem_cons_of_mem _ hd))

theorem append (ha : Sealed p a) (hb : Sealed p b) : Sealed p (a ++ b) := by
  induction ha with
  | nil => exact hb
  | plain hplain hp _ ih => exact .plain hplain hp (ih hb)
  | quoted hq hbody _ ih =>
    rw [List.cons_append, List.append_assoc]
    exact .quoted hq hbody (ih hb)
  | element hbody _ _ ih =>
    rw [List.cons_append, List.append_assoc]
    exact .element hbody (ih hb)
  | call _ ih => exact .call (ih hb)

theorem mono (h : Sealed p t) (hp : ∀ c, p c = true → p' c = true) : Sealed p' t := by
  induction h with
  | nil => exact .nil
  | plain hplain hc _ ih => exact .plain hplain (hp _ hc) (ih hp)
  | quoted hq hbody _ ih => exact .quoted hq hbody (ih hp)
  | element hbody _ _ ih => exact .element hbody (ih hp)
  | call _ ih => exact .call (ih hp)

end Sealed

/-! ## Scans for a mark -/

section Marks

variable {mark : Char} {s : Scan} {t rest : Text}

/-- Whether a scan sees a mark nowhere in a text. -/
def passes (mark : Char) (s : Scan) : Text → Bool
  | [] => true
  | c :: rest => !(s.sees c && c == mark) && passes mark (s.step c) rest

theorem run_append (s : Scan) (a b : Text) : s.run (a ++ b) = (s.run a).run b :=
  List.foldl_append ..

theorem passes_append (mark : Char) (s : Scan) (a b : Text) :
    passes mark s (a ++ b) = (passes mark s a && passes mark (s.run a) b) := by
  induction a generalizing s with
  | nil => rfl
  | cons c rest ih => simp [passes, run, ih, Bool.and_assoc]

theorem run_quoted {q : Char} {body : Text} (hq : q ∉ body) (n : Nat) :
    run ⟨some q, n⟩ (body ++ [q]) = ⟨none, n⟩ := by
  induction body with
  | nil => simp [run, step]
  | cons c rest ih =>
    obtain ⟨hc, hrest⟩ := not_or.1 (mt List.mem_cons.2 hq)
    have hstep : step ⟨some q, n⟩ c = ⟨some q, n⟩ := if_neg fun h => hc h.symm
    rw [List.cons_append, run, List.foldl_cons, hstep]
    exact ih hrest

theorem passes_quoted {q : Char} {body : Text} (hq : q ∉ body) (n : Nat) :
    passes mark ⟨some q, n⟩ (body ++ [q]) = true := by
  induction body with
  | nil => simp [passes, sees]
  | cons c rest ih =>
    obtain ⟨hc, hrest⟩ := not_or.1 (mt List.mem_cons.2 hq)
    have hstep : step ⟨some q, n⟩ c = ⟨some q, n⟩ := if_neg fun h => hc h.symm
    rw [List.cons_append, passes, hstep, ih hrest]
    simp [sees]

theorem step_plain {c : Char} (h : isPlain c = true) (n : Nat) :
    step ⟨none, n⟩ c = ⟨none, n⟩ := by
  simp only [isPlain, Bool.and_eq_true, Bool.not_eq_true'] at h
  simp [step, h]

theorem step_quote {q : Char} (h : isQuote q = true) (n : Nat) :
    step ⟨none, n⟩ q = ⟨some q, n⟩ := by
  simp [step, h]

/-- A scan that begins outside of quotes ends a sealed text where it began it. It sees no mark on
its way, if it is inside brackets or the mark is not of the class. -/
theorem Sealed.scan {p : Char → Bool} (h : Sealed p t) (n : Nat)
    (hmark : n ≠ 0 ∨ p mark = false) :
    run ⟨none, n⟩ t = ⟨none, n⟩ ∧ passes mark ⟨none, n⟩ t = true := by
  induction h generalizing n with
  | nil => exact ⟨rfl, rfl⟩
  | @plain p c t hplain hp _ ih =>
    obtain ⟨hrun, hpasses⟩ := ih n hmark
    have hsees : (sees ⟨none, n⟩ c && c == mark) = false := by
      rcases hmark with hn | hmark
      · simp [sees, hn]
      · have hne : c ≠ mark := by
          rintro rfl
          rw [hp] at hmark
          cases hmark
        simp [hne]
    rw [run, List.foldl_cons, passes, step_plain hplain, hsees]
    exact ⟨hrun, hpasses⟩
  | @quoted p q body t hq hbody _ ih =>
    obtain ⟨hrun, hpasses⟩ := ih n hmark
    have hsplit : body ++ q :: t = body ++ [q] ++ t := by
      rw [List.append_assoc, List.singleton_append]
    have hsees : sees ⟨none, n⟩ q = false := by simp [sees, hq]
    rw [run, List.foldl_cons, passes, step_quote hq, hsees, hsplit]
    refine ⟨?_, ?_⟩
    · rw [← run, run_append, run_quoted hbody, hrun]
    · rw [passes_append, passes_quoted hbody, run_quoted hbody, hpasses]
      rfl
  | @element p body t _ _ ihBody ih =>
    obtain ⟨hrun, hpasses⟩ := ih n hmark
    -- Inside the brackets no mark is seen, whatever class it is of.
    obtain ⟨hrunBody, hpassesBody⟩ := ihBody (n + 1) (.inl (Nat.succ_ne_zero n))
    have hopen : step ⟨none, n⟩ '[' = ⟨none, n + 1⟩ := rfl
    have hclose : step ⟨none, n + 1⟩ ']' = ⟨none, n⟩ := rfl
    have hsees : ∀ m, sees ⟨none, m⟩ '[' = false ∧ sees ⟨none, m⟩ ']' = false := fun m => by
      simp [sees, isOpening, isClosing]
    rw [run, List.foldl_cons, passes, hopen, (hsees n).1]
    refine ⟨?_, ?_⟩
    · rw [← run, run_append, hrunBody, run, List.foldl_cons, hclose]
      exact hrun
    · rw [passes_append, hpassesBody, hrunBody, passes, hclose, (hsees _).2, hpasses]
      rfl
  | @call p t _ ih =>
    obtain ⟨hrun, hpasses⟩ := ih n hmark
    have hopen : step ⟨none, n⟩ '(' = ⟨none, n + 1⟩ := rfl
    have hclose : step ⟨none, n + 1⟩ ')' = ⟨none, n⟩ := rfl
    have hsees : ∀ m, sees ⟨none, m⟩ '(' = false ∧ sees ⟨none, m⟩ ')' = false := fun m => by
      simp [sees, isOpening, isClosing]
    rw [run, List.foldl_cons, List.foldl_cons, passes, passes, hopen, hclose, (hsees _).1,
      (hsees _).2]
    exact ⟨hrun, hpasses⟩

/-- A text in front of the first of some pieces. -/
def glue (t : Text) : List Text → List Text
  | [] => [t]
  | piece :: pieces => (t ++ piece) :: pieces

theorem cutAll_append (h : passes mark s t = true) (rest : Text) :
    cutAll mark s (t ++ rest) = glue t (cutAll mark (s.run t) rest) := by
  induction t generalizing s with
  | nil =>
    have hne : cutAll mark s rest ≠ [] := by
      cases rest with
      | nil => exact List.cons_ne_nil _ _
      | cons c rest =>
        unfold cutAll
        split
        · exact List.cons_ne_nil _ _
        · split <;> exact List.cons_ne_nil _ _
    cases hcut : cutAll mark s rest with
    | nil => exact absurd hcut hne
    | cons piece pieces =>
      rw [List.nil_append, hcut]
      show piece :: pieces = glue [] (cutAll mark s rest)
      rw [hcut]
      rfl
  | cons c t ih =>
    simp only [passes, Bool.and_eq_true, Bool.not_eq_true'] at h
    rw [List.cons_append, cutAll, if_neg (by simp [h.1]), ih h.2]
    show _ = glue (c :: t) (cutAll mark ((s.step c).run t) rest)
    cases cutAll mark ((s.step c).run t) rest <;> rfl

theorem cutFirst_append (h : passes mark s t = true) (rest : Text) :
    cutFirst mark s (t ++ rest) =
      (cutFirst mark (s.run t) rest).map fun cut => (t ++ cut.1, cut.2) := by
  induction t generalizing s with
  | nil =>
    show cutFirst mark s rest = (cutFirst mark s rest).map fun cut => (cut.1, cut.2)
    simp
  | cons c t ih =>
    simp only [passes, Bool.and_eq_true, Bool.not_eq_true'] at h
    rw [List.cons_append, cutFirst, if_neg (by simp [h.1]), ih h.2, Option.map_map]
    rfl

variable {p : Char → Bool}

theorem sees_outside (h : isPlain mark = true) : outside.sees mark = true := by
  simpa [sees, outside, isPlain] using h

/-- A sealed text without the mark is one piece. -/
theorem Sealed.cutAll_self (h : Sealed p t) (hmark : p mark = false) :
    cutAll mark outside t = [t] := by
  obtain ⟨hrun, hpasses⟩ := h.scan 0 (.inr hmark)
  have hcut := cutAll_append hpasses []
  rw [List.append_nil] at hcut
  rw [outside, hcut]
  show [t ++ []] = [t]
  rw [List.append_nil]

/-- A sealed text without the mark is the piece before the mark. -/
theorem Sealed.cutAll_mark (h : Sealed p t) (hmark : p mark = false) (hplain : isPlain mark = true)
    (rest : Text) : cutAll mark outside (t ++ mark :: rest) = t :: cutAll mark outside rest := by
  obtain ⟨hrun, hpasses⟩ := h.scan 0 (.inr hmark)
  have hsees : (outside.sees mark && mark == mark) = true := by simp [sees_outside hplain]
  have hnext : cutAll mark outside (mark :: rest) = [] :: cutAll mark outside rest := by
    rw [cutAll, if_pos hsees, outside, step_plain hplain]
  rw [outside] at hnext ⊢
  rw [cutAll_append hpasses, hrun, hnext]
  show (t ++ []) :: _ = _
  rw [List.append_nil]

/-- There is no cut in a sealed text without the mark. -/
theorem Sealed.cutFirst_self (h : Sealed p t) (hmark : p mark = false) :
    cutFirst mark outside t = none := by
  obtain ⟨hrun, hpasses⟩ := h.scan 0 (.inr hmark)
  have hcut := cutFirst_append hpasses []
  rw [List.append_nil] at hcut
  rw [outside, hcut]
  rfl

/-- A sealed text without the mark stands before the cut. -/
theorem Sealed.cutFirst_mark (h : Sealed p t) (hmark : p mark = false)
    (hplain : isPlain mark = true) (rest : Text) :
    cutFirst mark outside (t ++ mark :: rest) = some (t, rest) := by
  obtain ⟨hrun, hpasses⟩ := h.scan 0 (.inr hmark)
  have hsees : (outside.sees mark && mark == mark) = true := by simp [sees_outside hplain]
  have hnext : cutFirst mark outside (mark :: rest) = some ([], rest) := by
    rw [cutFirst, if_pos hsees]
  rw [outside] at hnext ⊢
  rw [cutFirst_append hpasses, hrun, hnext]
  simp

end Marks

end Scan

end Stencil
