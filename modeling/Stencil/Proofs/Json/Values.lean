import Stencil.Proofs.Json.Strings
import Stencil.Proofs.Json.Numbers
import Stencil.Proofs.Json.Writable

/-!
# JSON values read back

The compact JSON text of a value is read back as the value itself, but for tuples, which become
lists, marks of safe text, which are lost, numbers that are not finite, which become undefined, and
keys that are no texts, which become texts. A finite number is read back as what its own text stands
for.
-/

set_option autoImplicit false

namespace Stencil
namespace Json

/-- What may follow a value in a JSON text. -/
def Ended (rest : Text) : Prop := ∀ c ∈ rest.head?, c ∈ [',', ']', '}']

theorem Ended.endsNumber {rest : Text} (h : Ended rest) : EndsNumber rest := by
  intro c hc
  have hmem := h c hc
  simp only [List.mem_cons, List.not_mem_nil, or_false] at hmem
  rcases hmem with rfl | rfl | rfl <;> decide

/-- A reader takes a text as something, whatever ends it, if its limit is beyond the length of the
text. -/
def ReadAs {α : Type} (read : Nat → Reader α) (t : Text) (x : α) : Prop :=
  ∀ limit rest, t.length < limit → Ended rest → read limit (t ++ rest) = some (x, rest)

/-! ## Groups -/

theorem length_le_join (texts : List Text) :
    texts.length ≤ (Text.join [','] texts).length + 1 := by
  induction texts with
  | nil => simp
  | cons t texts ih =>
    cases texts with
    | nil => simp
    | cons u texts =>
      simp only [Text.join, List.length_cons, List.length_append, List.length_nil] at ih ⊢
      omega

section Groups

variable {α : Type} {read : Nat → Reader α} {closing : Char} {texts : List Text} {xs : List α}

theorem readItems_join (hclosing : closing ∈ [']', '}'])
    (h : List.Forall₂ (ReadAs read) texts xs) (hne : texts ≠ []) {limit limit' : Nat}
    (hlimit : (Text.join [','] texts).length < limit)
    (hcount : texts.length ≤ limit') (rest : Text) :
    readItems closing (read limit) limit' (Text.join [','] texts ++ closing :: rest) =
      some (xs, rest) := by
  have hmark : closing ≠ ',' ∧ isSpace closing = false ∧ Ended (closing :: rest) := by
    simp only [List.mem_cons, List.not_mem_nil, or_false] at hclosing
    rcases hclosing with rfl | rfl <;> simp [isSpace, Ended]
  obtain ⟨hcomma, hspace, hended⟩ := hmark
  induction h generalizing limit' with
  | nil => exact absurd rfl hne
  | @cons t x texts xs hfirst hothers ih =>
    obtain ⟨limit', rfl⟩ : ∃ k, limit' = k + 1 := ⟨limit' - 1, by simp at hcount; omega⟩
    cases hothers with
    | nil =>
      have hread := hfirst limit (closing :: rest) hlimit hended
      simp [Text.join, readItems, hread, skipSpaces, hspace, hcomma]
    | @cons u y texts xs hsecond hothers =>
      have hjoin : Text.join [','] (t :: u :: texts) =
          t ++ ',' :: Text.join [','] (u :: texts) := by simp [Text.join]
      rw [hjoin, List.length_append, List.length_cons] at hlimit
      have hread := hfirst limit (',' :: (Text.join [','] (u :: texts) ++ closing :: rest))
        (by omega) (by simp [Ended])
      have hrest := ih (by simp) (by omega) (Nat.le_of_succ_le_succ hcount)
      rw [hjoin, List.append_assoc, List.cons_append, readItems, hread]
      simp [skipSpaces, isSpace, hrest]

/-- A group of texts that are read is read. No item begins with the mark that closes the group. -/
theorem readGroup_join (hclosing : closing ∈ [']', '}'])
    (hbegins : ∀ limit t p, read limit t = some p →
      ∃ c u, skipSpaces t = c :: u ∧ c ≠ closing)
    (h : List.Forall₂ (ReadAs read) texts xs) {limit : Nat}
    (hlimit : (Text.join [','] texts).length + 1 < limit) (rest : Text) :
    readGroup closing (read limit) limit (Text.join [','] texts ++ closing :: rest) =
      some (xs, rest) := by
  by_cases hne : texts = []
  · subst hne
    cases h
    have hspace : isSpace closing = false := by
      simp only [List.mem_cons, List.not_mem_nil, or_false] at hclosing
      rcases hclosing with rfl | rfl <;> rfl
    simp [readGroup, Text.join, skipSpaces, hspace]
  · have hcount : texts.length ≤ limit := by
      have hle := length_le_join texts
      omega
    have hwithin : (Text.join [','] texts).length < limit := by omega
    have hitems := readItems_join hclosing h hne hwithin hcount rest
    obtain ⟨k, rfl⟩ : ∃ k, limit = k + 1 := ⟨limit - 1, by omega⟩
    obtain ⟨p, hp, -⟩ := Option.bind_eq_some_iff.1 hitems
    obtain ⟨c, u, hspaces, hc⟩ := hbegins _ _ p hp
    rw [readGroup, hspaces]
    simp only [if_neg hc]
    exact hitems

end Groups

theorem begins_of_readValue {limit : Nat} {t : Text} {p : Value × Text}
    (h : readValue limit t = some p) : ∃ c u, skipSpaces t = c :: u ∧ c ≠ ']' := by
  cases limit with
  | zero => cases h
  | succ limit =>
    rw [readValue] at h
    cases hspaces : skipSpaces t with
    | nil =>
      rw [hspaces] at h
      cases h
    | cons c u =>
      refine ⟨c, u, rfl, ?_⟩
      rintro rfl
      rw [hspaces] at h
      cases h

theorem begins_of_readMember {limit : Nat} {value : Reader Value} {t : Text}
    {p : (Value × Value) × Text} (h : readMember limit value t = some p) :
    ∃ c u, skipSpaces t = c :: u ∧ c ≠ '}' := by
  unfold readMember at h
  split at h
  · exact ⟨'"', _, ‹_›, by decide⟩
  · cases h

/-! ## Values -/

/-- A member of an object, its value read within the same limit. -/
def readMemberWithin (limit : Nat) : Reader (Value × Value) := readMember limit (readValue limit)

theorem readAs_string (t : Text) : ReadAs readValue (string false t) (.text t) := by
  intro limit rest hlimit _
  obtain ⟨limit, rfl⟩ : ∃ k, limit = k + 1 := ⟨limit - 1, by omega⟩
  have hlength := length_le_string false t
  simp only [string, List.length_append, List.length_cons, List.length_nil] at hlimit
  have hchars := readChars_string false t (show t.length < limit by omega) rest
  simp only [string, List.cons_append, List.nil_append, List.append_assoc, readValue, skipSpaces,
    List.dropWhile, isSpace]
  simp [readUnspaced, hchars]

theorem readAs_member {name text : Text} {v : Value} (h : ReadAs readValue text v) :
    ReadAs readMemberWithin (string false name ++ [':'] ++ text) (.text name, v) := by
  intro limit rest hlimit hrest
  have hlength := length_le_string false name
  simp only [string, List.length_append, List.length_cons, List.length_nil] at hlimit
  have hchars := readChars_string false name (show name.length < limit by omega)
    (':' :: (text ++ rest))
  have hvalue := h limit rest (by omega) hrest
  simp [readMemberWithin, readMember, string, skipSpaces, isSpace, hchars, hvalue]

theorem readAs_list {texts : List Text} {vs : List Value}
    (h : List.Forall₂ (ReadAs readValue) texts vs) :
    ReadAs readValue (['['] ++ Text.join [','] texts ++ [']']) (.list vs) := by
  intro limit rest hlimit _
  obtain ⟨limit, rfl⟩ : ∃ k, limit = k + 1 := ⟨limit - 1, by omega⟩
  simp only [List.length_append, List.length_cons, List.length_nil] at hlimit
  have hgroup := readGroup_join (by simp) (fun _ _ _ => begins_of_readValue) h
    (show (Text.join [','] texts).length + 1 < limit by omega) rest
  simp [readValue, skipSpaces, isSpace, readUnspaced, hgroup]

theorem readAs_dict {texts : List Text} {members : List (Value × Value)}
    (h : List.Forall₂ (ReadAs readMemberWithin) texts members) :
    ReadAs readValue (['{'] ++ Text.join [','] texts ++ ['}']) (.dict members) := by
  intro limit rest hlimit _
  obtain ⟨limit, rfl⟩ : ∃ k, limit = k + 1 := ⟨limit - 1, by omega⟩
  simp only [List.length_append, List.length_cons, List.length_nil] at hlimit
  have hgroup : readGroup '}' (readMember limit (readValue limit)) limit
      (Text.join [','] texts ++ '}' :: rest) = some (members, rest) :=
    readGroup_join (by simp) (fun _ _ _ => begins_of_readMember) h (by omega) rest
  simp [readValue, skipSpaces, isSpace, readUnspaced, hgroup]

theorem readAs_ofInt (n : Int) : ReadAs readValue (Text.ofInt n) (.int n) := by
  intro limit rest hlimit hrest
  obtain ⟨limit, rfl⟩ : ∃ k, limit = k + 1 := ⟨limit - 1, by omega⟩
  exact readValue_ofInt n hrest.endsNumber limit

theorem decode?_of_readAs {t : Text} {v : Value} (h : ReadAs readValue t v) :
    decode? t = some v := by
  have hread := h (t.length + 1) [] (Nat.lt_succ_self _) (by simp [Ended])
  rw [List.append_nil] at hread
  simp [decode?, hread, skipSpaces]

end Json

/-- The number that the text of a number stands for. -/
def Binary64.reread (x : Binary64) : Binary64 :=
  match Json.decode? x.toText with
  | some (.float y) => y
  | _ => x

namespace Value

/-- The name of a member that a value is written as. -/
def name : Value → Text
  | .text t | .safe t => t
  | .undefined => "null".toList
  | .bool b => (if b then "true" else "false").toList
  | .int n => Text.ofInt n
  | .float x => x.toText
  | _ => []

mutual

/-- What is left of a value that JSON has kept. -/
def decoded : Value → Value
  | .float x => if x.isFinite then .float x.reread else .undefined
  | .safe t => .text t
  | .list items | .tuple items | .shared _ .list items => .list (decodedItems items)
  | .dict entries => .dict (decodedEntries entries)
  | v => v

/-- What is left of the elements of a list. -/
def decodedItems : List Value → List Value
  | [] => []
  | v :: rest => decoded v :: decodedItems rest

/-- What is left of the entries of a mapping. -/
def decodedEntries : List (Value × Value) → List (Value × Value)
  | [] => []
  | (k, v) :: rest => (.text k.name, decoded v) :: decodedEntries rest

end

end Value

namespace Json

theorem readAs_toText {x : Binary64} (h : x.isFinite) :
    ReadAs readValue x.toText (.float x.reread) := by
  obtain ⟨y, hy⟩ := exists_readValue_toText h
  have hread : ReadAs readValue x.toText (.float y) := by
    intro limit rest hlimit hrest
    obtain ⟨limit, rfl⟩ : ∃ k, limit = k + 1 := ⟨limit - 1, by omega⟩
    exact hy limit rest hrest.endsNumber
  have hdecoded := decode?_of_readAs hread
  rwa [Binary64.reread, hdecoded]

theorem readAs_null : ReadAs readValue "null".toList .undefined := by
  intro limit rest hlimit _
  obtain ⟨limit, rfl⟩ : ∃ k, limit = k + 1 := ⟨limit - 1, by omega⟩
  rfl

theorem readAs_bool (b : Bool) :
    ReadAs readValue (if b then "true" else "false").toList (.bool b) := by
  intro limit rest hlimit _
  obtain ⟨limit, rfl⟩ : ∃ k, limit = k + 1 := ⟨limit - 1, by omega⟩
  cases b <;> rfl

theorem eq_name_of_key {k : Value} {name : Text} (h : key .compact k = .ok name) :
    name = k.name := by
  cases k with
  | int n =>
    rw [key] at h
    exact (integer_eq_ok h).2
  | float x =>
    rw [key] at h
    split at h
    · cases h
      rfl
    · cases h
  | text t => cases h; rfl
  | safe t => cases h; rfl
  | undefined => cases h; rfl
  | bool b => cases h; rfl
  | _ => cases h

mutual

/-- The text of a value is read as what is left of the value. -/
theorem readAs_ofValue : ∀ (v : Value) (t : Text), ofValue .compact v = .ok t →
    ReadAs readValue t v.decoded
  | .undefined => by
    intro t h
    cases h
    exact readAs_null
  | .bool b => by
    intro t h
    cases h
    exact readAs_bool b
  | .int n => by
    intro t h
    rw [ofValue] at h
    obtain ⟨-, rfl⟩ := integer_eq_ok h
    exact readAs_ofInt n
  | .float x => by
    intro t h
    rw [ofValue] at h
    split at h
    · rename_i hfinite
      cases h
      rw [Value.decoded, if_pos hfinite]
      exact readAs_toText hfinite
    · rename_i hfinite
      cases h
      rw [Value.decoded, if_neg hfinite]
      exact readAs_null
  | .text t => by
    intro _ h
    cases h
    exact readAs_string t
  | .safe t => by
    intro _ h
    cases h
    exact readAs_string t
  | .list items => by
    intro t h
    rw [ofValue] at h
    obtain ⟨texts, htexts, h⟩ := eq_ok_of_bind_eq_ok h
    cases h
    exact readAs_list (readAs_ofItems items texts htexts)
  | .tuple items => by
    intro t h
    rw [ofValue] at h
    obtain ⟨texts, htexts, h⟩ := eq_ok_of_bind_eq_ok h
    cases h
    exact readAs_list (readAs_ofItems items texts htexts)
  | .shared _ .list items => by
    intro t h
    rw [ofValue] at h
    obtain ⟨texts, htexts, h⟩ := eq_ok_of_bind_eq_ok h
    cases h
    exact readAs_list (readAs_ofItems items texts htexts)
  | .dict entries => by
    intro t h
    rw [ofValue] at h
    obtain ⟨texts, htexts, h⟩ := eq_ok_of_bind_eq_ok h
    cases h
    exact readAs_dict (readAs_ofEntries entries texts htexts)
  | .bytes _ | .set _ | .shared _ .set _ | .itself | .range _ _ _ | .view _ | .object _ _ _ _
  | .routine _ _ _ | .method _ _ | .cursor _ _ => by
    intro t h
    cases h

theorem readAs_ofItems : ∀ (items : List Value) (texts : List Text),
    ofItems .compact items = .ok texts →
    List.Forall₂ (ReadAs readValue) texts (Value.decodedItems items)
  | [] => by
    intro texts h
    cases h
    exact .nil
  | v :: rest => by
    intro texts h
    rw [ofItems] at h
    obtain ⟨first, hfirst, h⟩ := eq_ok_of_bind_eq_ok h
    obtain ⟨others, hothers, h⟩ := eq_ok_of_bind_eq_ok h
    cases h
    exact .cons (readAs_ofValue v first hfirst) (readAs_ofItems rest others hothers)

theorem readAs_ofEntries : ∀ (entries : List (Value × Value)) (texts : List Text),
    ofEntries .compact entries = .ok texts →
    List.Forall₂ (ReadAs readMemberWithin) texts (Value.decodedEntries entries)
  | [] => by
    intro texts h
    cases h
    exact .nil
  | (k, v) :: rest => by
    intro texts h
    rw [ofEntries] at h
    obtain ⟨name, hname, h⟩ := eq_ok_of_bind_eq_ok h
    obtain ⟨first, hfirst, h⟩ := eq_ok_of_bind_eq_ok h
    obtain ⟨others, hothers, h⟩ := eq_ok_of_bind_eq_ok h
    cases h
    rw [eq_name_of_key hname]
    exact .cons (readAs_member (readAs_ofValue v first hfirst))
      (readAs_ofEntries rest others hothers)

end

/-- The compact text of a value stands for what is left of the value. -/
theorem decode?_compact {v : Value} {room : Nat} {t : Text} (h : compact room v = .ok t) :
    decode? t = some v.decoded := by
  unfold compact at h
  split at h
  · exact decode?_of_readAs (readAs_ofValue v t h)
  · cases h

end Json
end Stencil
