import Stencil.Proofs.Json.Defused
import Stencil.Proofs.Json.Values
import Stencil.Proofs.Session.Outcome
import Stencil.Filter.Builtin

/-!
# JSON inside a script element

Every value is written as a JSON text that cannot end a script element. What JSON keeps of a value is
read back from it, if its collections are not nested deeper than there is room for; a value that is
nested deeper, or that has a part without a JSON text, is written as null altogether.
-/

set_option autoImplicit false

namespace Stencil

/-! ## Nested lists -/

namespace Value

/-- A value inside lists of one element. -/
def nested : Nat → Value → Value
  | 0, v => v
  | n + 1, v => .list [nested n v]

theorem IsData.nested {v : Value} (h : v.IsData) (n : Nat) : (Value.nested n v).IsData := by
  induction n with
  | zero => exact h
  | succ n ih => exact .list fun w hw => List.mem_singleton.1 hw ▸ ih

theorem now_nested (n : Nat) (v : Value) (c : Cells) : (nested n v).now c = nested n (v.now c) := by
  induction n with
  | zero => rfl
  | succ n ih => rw [nested, now, allNow, allNow, ih, nested]

theorem depth_nested (n : Nat) (v : Value) : (nested n v).depth = v.depth + n := by
  induction n with
  | zero => rfl
  | succ n ih =>
    rw [nested, depth, depthAll, depthAll, ih]
    omega

theorem decoded_nested (n : Nat) (v : Value) : (nested n v).decoded = nested n v.decoded := by
  induction n with
  | zero => rfl
  | succ n ih => rw [nested, decoded, decodedItems, decodedItems, ih, nested]

end Value

/-! ## Embedding -/

namespace Filter

variable {v : Value} {m : Machine}

theorem outcome_json_of_ok {t : Text} (h : Json.compact m.cells.room (v.now m.cells) = .ok t) :
    (json v).outcome m = (.ok (Markup.defuseScript t), m) := by
  rw [json, Eval.outcome_bind, Eval.outcome_asking, h]
  rfl

theorem outcome_json_of_error {e : JsonProblem}
    (h : Json.compact m.cells.room (v.now m.cells) = .error e) :
    ((json v).outcome m).1 = .ok "null".toList := by
  rw [json, Eval.outcome_bind, Eval.outcome_asking, h]
  rfl

/-- A value that has no JSON text as it is now, because of a part that has none or because it is
nested too deep, is written as null. -/
theorem outcome_json_of_unwritten
    (h : (v.now m.cells).HasUnwritable ∨ m.cells.room < (v.now m.cells).depth) :
    ((json v).outcome m).1 = .ok "null".toList := by
  cases htext : Json.compact m.cells.room (v.now m.cells) with
  | error e => exact outcome_json_of_error htext
  | ok t =>
    obtain ⟨hwritable, hdepth⟩ := Json.exists_compact_iff.1 ⟨t, htext⟩
    rcases h with hunwritable | hdeep
    · exact absurd hunwritable hwritable
    · omega

/-- What is written for any other value stands for the value as it is now. -/
theorem outcome_json_of_written (h : ¬ (v.now m.cells).HasUnwritable)
    (hdepth : (v.now m.cells).depth ≤ m.cells.room) :
    ∃ t, ((json v).outcome m).1 = .ok (Markup.defuseScript t) ∧
      Json.decode? (Markup.defuseScript t) = some (v.now m.cells).decoded := by
  obtain ⟨t, htext⟩ := Json.exists_compact_iff.2 ⟨h, hdepth⟩
  refine ⟨t, ?_, Json.decode?_defuseScript (Json.decode?_compact htext)⟩
  rw [outcome_json_of_ok htext]

/-- Any value is written, as a JSON text in which no script element ends. If each part of the value
as it is now has a JSON text, and its collections are nested no deeper than there is room for, the
text stands for the value, but for tuples, which come back as lists, and numbers that are not finite,
which come back undefined; data has no other parts. If some part, at whatever depth, has none, or the
value is nested deeper, the text is that of an undefined value. -/
theorem json_embeds (v : Value) (m : Machine) :
    let w := v.now m.cells
    ∃ t, ((json v).outcome m).1 = .ok t ∧ (Json.decode? t).isSome ∧
      ¬ Markup.ClosesScript t ∧
      (w.HasUnwritable ∨ m.cells.room < w.depth → t = "null".toList) ∧
      (¬ w.HasUnwritable → w.depth ≤ m.cells.room → Json.decode? t = some w.decoded) ∧
      (w.IsData → w.depth ≤ m.cells.room → Json.decode? t = some w.decoded) := by
  intro w
  by_cases h : w.HasUnwritable ∨ m.cells.room < w.depth
  · have hnone : w.depth ≤ m.cells.room → w.HasUnwritable :=
      fun hdepth => h.resolve_right (Nat.not_lt_of_le hdepth)
    exact ⟨"null".toList, outcome_json_of_unwritten h, rfl,
      Markup.not_closesScript_defuseScript "null".toList, fun _ => rfl,
      fun hwritable hdepth => absurd (hnone hdepth) hwritable,
      fun hdata hdepth => absurd (hnone hdepth) (Json.not_hasUnwritable_of_isData hdata)⟩
  · rw [not_or, Nat.not_lt] at h
    obtain ⟨t, htext, hread⟩ := outcome_json_of_written h.1 h.2
    exact ⟨Markup.defuseScript t, htext, Option.isSome_of_eq_some hread,
      Markup.not_closesScript_defuseScript t,
      fun hunwritten => absurd hunwritten (by rw [not_or, Nat.not_lt]; exact h),
      fun _ _ => hread, fun _ _ => hread⟩

/-- A closing tag in a name, a backslash and a number that is not finite inside a tuple: all of it is
data, and it comes back as it was, but for the tuple and the number. -/
theorem json_embeds_nested :
    let m : Machine := ⟨.startingAt 0, []⟩
    ∃ t, ((json (.dict [(.text "</Script>".toList,
        .tuple [.text ['\\'], .float .nan, .int (-5)])])).outcome m).1 = .ok t ∧
      Json.decode? t = some (.dict [(.text "</Script>".toList,
        .list [.text ['\\'], .undefined, .int (-5)])]) ∧
      ¬ Markup.ClosesScript t := by
  intro m
  have hdata : Value.IsData (.dict [(.text "</Script>".toList,
      .tuple [.text ['\\'], .float .nan, .int (-5)])]) := by
    have hint : Value.IsData (.int (-5)) := .int (by decide +kernel)
    refine .dict (by simp [Value.text?]) ?_
    simp only [List.mem_singleton, forall_eq]
    refine .tuple ?_
    simp only [List.mem_cons, List.not_mem_nil, or_false, forall_eq_or_imp, forall_eq]
    exact ⟨.text _, .notFinite rfl, hint⟩
  obtain ⟨t, htext, -, hinert, -, -, hread⟩ := json_embeds _ m
  exact ⟨t, htext, hread hdata (by decide), hinert⟩

/-- Data that is nested deeper than there is room for does not come back. -/
theorem json_embeds_not_deep :
    let v : Value := .nested 20000 (.int 1)
    let m : Machine := ⟨.startingAt 0, []⟩
    v.IsData ∧ ((json v).outcome m).1 = .ok "null".toList ∧
      Json.decode? "null".toList ≠ some v.decoded := by
  intro v m
  have hroom : m.cells.room < (v.now m.cells).depth := by
    rw [Value.now_nested, Value.depth_nested]
    decide
  have hdata : v.IsData := .nested (.int (by decide +kernel)) 20000
  refine ⟨hdata, outcome_json_of_unwritten (.inr hroom), ?_⟩
  rw [Value.decoded_nested]
  nofun

end Filter
end Stencil
