import Stencil.Proofs.Expr.Scan

/-!
# Balanced texts

A balanced text is one whose quotes are closed and whose square brackets, outside of quotes, are
balanced; round brackets do not matter. The scan for the bracket that closes an element passes over
balanced texts, and what it finds before that bracket is balanced. Inside further open brackets, it
reads balanced texts with a closing bracket behind each, and a balanced text after them.
-/

set_option autoImplicit false

namespace Stencil.Path

open Scan (Sealed isPlain isQuote)

/-- A text with closed quotes and balanced square brackets. -/
inductive Balanced : Text → Prop where
  | nil : Balanced []
  | plain {c : Char} {t : Text} : isQuote c = false → c ≠ '[' → c ≠ ']' → Balanced t →
      Balanced (c :: t)
  | quoted {q : Char} {body t : Text} : isQuote q = true → q ∉ body → Balanced t →
      Balanced (q :: (body ++ q :: t))
  | element {body t : Text} : Balanced body → Balanced t → Balanced ('[' :: (body ++ ']' :: t))

/-- In a sealed text round brackets are balanced too. -/
theorem balanced_of_sealed {p : Char → Bool} {t : Text} (h : Sealed p t) : Balanced t := by
  induction h with
  | nil => exact .nil
  | @plain p c t hplain _ _ ih =>
    simp only [isPlain, Bool.and_eq_true, Bool.not_eq_true'] at hplain
    obtain ⟨⟨hquote, hopening⟩, hclosing⟩ := hplain
    refine .plain hquote ?_ ?_ ih
    · rintro rfl
      cases hopening
    · rintro rfl
      cases hclosing
  | quoted hq hbody _ ih => exact .quoted hq hbody ih
  | element _ _ ihBody ih => exact .element ihBody ih
  | call _ ih => exact .plain rfl (by decide) (by decide) (.plain rfl (by decide) (by decide) ih)

/-! ## One character of the scan -/

section Steps

variable {c q : Char} (n : Nat) (rest : Text)

theorem toClosing_inside (h : c ≠ q) : toClosing (some q) n (c :: rest) =
    (toClosing (some q) n rest).map fun cut => (c :: cut.1, cut.2) := by
  conv => lhs; unfold toClosing
  simp only [if_neg h]

theorem toClosing_unquote : toClosing (some q) n (q :: rest) =
    (toClosing none n rest).map fun cut => (q :: cut.1, cut.2) := by
  conv => lhs; unfold toClosing
  simp only [if_true]

theorem toClosing_quote (h : isQuote q = true) : toClosing none n (q :: rest) =
    (toClosing (some q) n rest).map fun cut => (q :: cut.1, cut.2) := by
  conv => lhs; unfold toClosing
  simp only [h, if_true]

theorem toClosing_other (h : isQuote c = false) (hopen : c ≠ '[') (hclose : c ≠ ']') :
    toClosing none n (c :: rest) =
      (toClosing none n rest).map fun cut => (c :: cut.1, cut.2) := by
  conv => lhs; unfold toClosing
  simp only [h, Bool.false_eq_true, if_false, if_neg hopen, if_neg hclose]

theorem toClosing_open : toClosing none n ('[' :: rest) =
    (toClosing none (n + 1) rest).map fun cut => ('[' :: cut.1, cut.2) := rfl

theorem toClosing_close : toClosing none (n + 1) (']' :: rest) =
    (toClosing none n rest).map fun cut => (']' :: cut.1, cut.2) := rfl

end Steps

/-! ## What the scan passes over -/

theorem toClosing_quoted {q : Char} {body : Text} (hq : q ∉ body) (n : Nat) (rest : Text) :
    toClosing (some q) n (body ++ q :: rest) =
      (toClosing none n rest).map fun cut => (body ++ q :: cut.1, cut.2) := by
  induction body with
  | nil => exact toClosing_unquote n rest
  | cons c body ih =>
    obtain ⟨hc, hbody⟩ := not_or.1 (mt List.mem_cons.2 hq)
    rw [List.cons_append, toClosing_inside n _ fun h => hc h.symm, ih hbody, Option.map_map]
    rfl

/-- The scan for a closing bracket passes over balanced texts. -/
theorem toClosing_balanced {t : Text} (h : Balanced t) (n : Nat) (rest : Text) :
    toClosing none n (t ++ rest) =
      (toClosing none n rest).map fun cut => (t ++ cut.1, cut.2) := by
  induction h generalizing n rest with
  | nil =>
    rw [List.nil_append]
    cases toClosing none n rest <;> rfl
  | @plain c t hquote hopen hclose _ ih =>
    rw [List.cons_append, toClosing_other n _ hquote hopen hclose, ih, Option.map_map]
    rfl
  | @quoted q body t hq hbody _ ih =>
    have hsplit : q :: (body ++ q :: t) ++ rest = q :: (body ++ q :: (t ++ rest)) := by
      simp only [List.cons_append, List.append_assoc]
    rw [hsplit, toClosing_quote n _ hq, toClosing_quoted hbody, ih, Option.map_map,
      Option.map_map]
    refine congrArg (Option.map · _) (funext fun cut => ?_)
    simp
  | @element body t _ _ ihBody ih =>
    have hsplit : '[' :: (body ++ ']' :: t) ++ rest = '[' :: (body ++ ']' :: (t ++ rest)) := by
      simp only [List.cons_append, List.append_assoc]
    rw [hsplit, toClosing_open, ihBody, toClosing_close, ih, Option.map_map, Option.map_map,
      Option.map_map]
    refine congrArg (Option.map · _) (funext fun cut => ?_)
    simp

/-! ## What the scan finds -/

/-- Balanced texts with a closing bracket behind each of them, as many as given, and one more
balanced text. -/
inductive Closes : Nat → Text → Prop where
  | last {t : Text} : Balanced t → Closes 0 t
  | bracket {n : Nat} {body t : Text} : Balanced body → Closes n t →
      Closes (n + 1) (body ++ ']' :: t)

/-- What can be put in front of balanced texts can be put in front of the first one. -/
theorem Closes.behind {n : Nat} {x t : Text} (hx : ∀ {b : Text}, Balanced b → Balanced (x ++ b))
    (h : Closes n t) : Closes n (x ++ t) := by
  cases h with
  | last ht => exact .last (hx ht)
  | bracket hbody ht =>
    rw [← List.append_assoc]
    exact .bracket (hx hbody) ht

/-- An opening bracket makes the first two balanced texts one. -/
theorem Closes.element {n : Nat} {t : Text} (h : Closes (n + 1) t) : Closes n ('[' :: t) := by
  cases h with
  | @bracket _ body t hbody ht =>
    cases ht with
    | last ht => exact .last (.element hbody ht)
    | @bracket _ next t hnext ht =>
      have hsplit : '[' :: (body ++ ']' :: (next ++ ']' :: t)) =
          '[' :: (body ++ ']' :: next) ++ ']' :: t := by
        simp only [List.cons_append, List.append_assoc]
      rw [hsplit]
      exact .bracket (.element hbody hnext) ht

/-- A text before a closing bracket, given the quote that is open at its beginning and the number
of further brackets that are. -/
def Enclosed (quote : Option Char) (n : Nat) (t : Text) : Prop :=
  match quote with
  | none => Closes n t
  | some q => ∃ body rest, t = body ++ q :: rest ∧ q ∉ body ∧ Closes n rest

/-- A scan that finds its bracket has read what brackets enclose. -/
theorem enclosed_of_toClosing {quote : Option Char} {n : Nat} {t body rest : Text}
    (h : toClosing quote n t = some (body, rest)) :
    t = body ++ ']' :: rest ∧ Enclosed quote n body := by
  induction t generalizing quote n body with
  | nil => cases h
  | cons c t ih =>
    -- Every character but the last closing bracket is read in front of what is read after it.
    have hnext : ∀ {quote' : Option Char} {m : Nat},
        ((toClosing quote' m t).map fun cut => (c :: cut.1, cut.2)) = some (body, rest) →
          ∃ tail, body = c :: tail ∧ t = tail ++ ']' :: rest ∧ Enclosed quote' m tail := by
      intro quote' m hmap
      obtain ⟨⟨tail, after⟩, hcut, heq⟩ := Option.map_eq_some_iff.1 hmap
      cases heq
      obtain ⟨hsplit, henclosed⟩ := ih hcut
      exact ⟨tail, rfl, hsplit, henclosed⟩
    cases quote with
    | some q =>
      by_cases hc : c = q
      · subst hc
        rw [toClosing_unquote] at h
        obtain ⟨tail, rfl, rfl, hcloses⟩ := hnext h
        exact ⟨rfl, [], tail, rfl, nofun, hcloses⟩
      · rw [toClosing_inside _ _ hc] at h
        obtain ⟨tail, rfl, rfl, body, after, rfl, hq, hcloses⟩ := hnext h
        refine ⟨rfl, c :: body, after, rfl, ?_, hcloses⟩
        rw [List.mem_cons, not_or]
        exact ⟨fun heq => hc heq.symm, hq⟩
    | none =>
      by_cases hquote : isQuote c = true
      · rw [toClosing_quote _ _ hquote] at h
        obtain ⟨tail, rfl, rfl, body, after, rfl, hq, hcloses⟩ := hnext h
        refine ⟨rfl, ?_⟩
        have hfront := hcloses.behind (x := c :: (body ++ [c])) fun {b} hb => by
          rw [List.cons_append, List.append_assoc]
          exact .quoted hquote hq hb
        rwa [List.cons_append, List.append_assoc] at hfront
      by_cases hopen : c = '['
      · subst hopen
        rw [toClosing_open] at h
        obtain ⟨tail, rfl, rfl, hcloses⟩ := hnext h
        exact ⟨rfl, Closes.element hcloses⟩
      by_cases hclose : c = ']'
      · subst hclose
        cases n with
        | zero =>
          cases h
          exact ⟨rfl, .last .nil⟩
        | succ n =>
          rw [toClosing_close] at h
          obtain ⟨tail, rfl, rfl, hcloses⟩ := hnext h
          exact ⟨rfl, .bracket .nil hcloses⟩
      · have hother : isQuote c = false := Bool.eq_false_iff.2 hquote
        rw [toClosing_other _ _ hother hopen hclose] at h
        obtain ⟨tail, rfl, rfl, hcloses⟩ := hnext h
        exact ⟨rfl, Closes.behind (x := [c]) (.plain hother hopen hclose) hcloses⟩

/-- The bracket that closes an element is the first one behind a balanced text. -/
theorem toClosing_eq_some_iff {t body rest : Text} :
    toClosing none 0 t = some (body, rest) ↔ Balanced body ∧ t = body ++ ']' :: rest := by
  constructor
  · intro h
    obtain ⟨hsplit, henclosed⟩ := enclosed_of_toClosing h
    cases henclosed with
    | last hbody => exact ⟨hbody, hsplit⟩
  · rintro ⟨hbody, rfl⟩
    have hclose : toClosing none 0 (']' :: rest) = some ([], rest) := rfl
    rw [toClosing_balanced hbody, hclose]
    simp

end Stencil.Path
