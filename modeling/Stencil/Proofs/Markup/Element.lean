import Stencil.Proofs.Json.Embedding
import Stencil.Proofs.Markup.Escape
import Stencil.Proofs.Text.Blank

/-!
# Script elements

A script element with an id and a content, and what a reader of HTML makes of it: the id goes to the
next quote, and its entities stand for their characters; the content goes to the first closing tag
of a script element, in whatever case. If the content has no closing tag in itself, neither has the
whole element before its end, wherever the parts meet; so the reader gives the id and the content
back.
-/

set_option autoImplicit false

namespace Stencil.Markup

/-! ## Closing tags -/

/-- Whether a text begins with `</script`, in whatever case of ASCII letters. -/
def beginsClosing (t : Text) : Bool := (t.take 8).map Char.toLower == "</script".toList

theorem eq_of_toLower {c d : Char} (hd : d.toNat < 'a'.toNat) (h : c.toLower = d) : c = d := by
  rcases toLower_cases c with hsame | ⟨hlow, -, hnat⟩
  · rw [← hsame, h]
  · have hsmall : 'a'.toNat = 97 := rfl
    rw [h] at hnat
    omega

theorem closesScript_of_suffix {t u : Text} (hu : u <:+ t) (h : beginsClosing u = true) :
    ClosesScript t := by
  obtain ⟨before, rfl⟩ := hu
  have hlower : (u.take 8).map Char.toLower = '<' :: '/' :: "script".toList := by
    simpa [beginsClosing] using h
  obtain ⟨a, more, htake, ha, hmore⟩ := List.map_eq_cons_iff.1 hlower
  obtain ⟨b, word, rfl, hb, hword⟩ := List.map_eq_cons_iff.1 hmore
  obtain rfl := eq_of_toLower (by decide) ha
  obtain rfl := eq_of_toLower (by decide) hb
  refine ⟨before, word, u.drop 8, ?_, hword⟩
  conv => lhs; rw [← List.take_append_drop 8 u, htake]
  rfl

/-- No closing tag goes across the beginning of another tag. -/
theorem beginsClosing_append {u : Text} (hu : u ≠ []) (t : Text)
    (h : beginsClosing (u ++ '<' :: t) = true) : beginsClosing u = true := by
  have hlower : ((u ++ '<' :: t).take 8).map Char.toLower = "</script".toList := by
    simpa [beginsClosing] using h
  by_cases hlong : 8 ≤ u.length
  · rw [List.take_append_of_le_length hlong] at hlower
    simpa [beginsClosing] using hlower
  · have hmark : ∀ k < 8, k ≠ 0 → "</script".toList[k]? ≠ some '<' := by decide
    have hget : ("</script".toList)[u.length]? = some '<' := by
      rw [← hlower, List.getElem?_map, List.getElem?_take_of_lt (by omega),
        List.getElem?_append_right (Nat.le_refl _), Nat.sub_self]
      rfl
    exact absurd hget (hmark u.length (by omega) (by simpa using hu))

/-- What stands before the first closing tag of a text, and what begins with that tag. -/
def cutAtClosing : Text → Text × Text
  | [] => ([], [])
  | c :: t =>
    if beginsClosing (c :: t) then ([], c :: t)
    else (c :: (cutAtClosing t).1, (cutAtClosing t).2)

/-! ## Elements -/

/-- What stands before the id of a script element. -/
def elementStart : Text := "<script id=\"".toList

/-- What stands between the id and the content. -/
def elementMiddle : Text := "\" type=\"application/json\">".toList

/-- What stands behind the content. -/
def elementEnd : Text := "</script>".toList

/-- A script element with an id and a content. -/
def element (id content : Text) : Text :=
  elementStart ++ escape id ++ elementMiddle ++ content ++ elementEnd

/-- The id and the content of a script element, as they are read. -/
def readElement? (t : Text) : Option (Text × Text) := do
  let t ← Text.dropLead elementStart t
  let id := decode (t.takeWhile (· != '"'))
  let t ← Text.dropLead elementMiddle (t.dropWhile (· != '"'))
  let (content, rest) := cutAtClosing t
  if rest = elementEnd then some (id, content) else none

section Element

variable {id content : Text}

theorem element_eq : element id content =
    elementStart ++ (escape id ++ (elementMiddle ++ (content ++ elementEnd))) := by
  simp only [element, List.append_assoc]

theorem cutAtClosing_append (h : ¬ ClosesScript content) :
    cutAtClosing (content ++ elementEnd) = (content, elementEnd) := by
  induction content with
  | nil => rfl
  | cons c content ih =>
    have hrest : ¬ ClosesScript content := fun hcloses => h (hcloses.cons c)
    have hhead : ¬ beginsClosing (c :: content ++ elementEnd) = true := fun hclosing =>
      h (closesScript_of_suffix (List.suffix_refl _)
        (beginsClosing_append (List.cons_ne_nil _ _) _ hclosing))
    rw [List.cons_append, cutAtClosing, ← List.cons_append, if_neg hhead, ih hrest]

/-- The reader gives back the id and the content of an element. -/
theorem readElement?_element (h : ¬ ClosesScript content) :
    readElement? (element id content) = some (id, content) := by
  have hid : ∀ c ∈ escape id, (c != '"') = true := fun c hc => by
    rw [bne_iff_ne]
    rintro rfl
    exact (inert_escape id).plain _ (by decide) hc
  have hquote : Text.Stops (· != '"') (elementMiddle ++ (content ++ elementEnd)) :=
    Text.stops_cons.2 (by decide)
  rw [readElement?, element_eq, Text.dropLead_eq_some.2 rfl, Option.bind_eq_bind, Option.bind_some,
    Text.takeWhile_append_of_stops hid hquote, Text.dropWhile_append_of_stops hid hquote,
    Text.dropLead_eq_some.2 rfl, Option.bind_some]
  simp only [cutAtClosing_append h, if_true, decode_escape]

theorem beginsClosing_of_ne {c : Char} (hc : c ≠ '<') (t : Text) : beginsClosing (c :: t) = false := by
  refine Bool.eq_false_iff.2 fun h => hc (eq_of_toLower (by decide) ?_)
  simp only [beginsClosing, beq_iff_eq] at h
  exact (List.cons.inj h).1

/-- A text in front that begins no tag has nothing to do with closing tags. -/
theorem suffix_of_beginsClosing {w t u : Text} (hw : '<' ∉ w) (hu : u <:+ w ++ t)
    (h : beginsClosing u = true) : u <:+ t := by
  induction w with
  | nil => exact hu
  | cons c w ih =>
    obtain ⟨hc, hw⟩ := not_or.1 (mt List.mem_cons.2 hw)
    rcases List.suffix_cons_iff.1 hu with rfl | hu
    · rw [beginsClosing_of_ne (fun heq => hc heq.symm)] at h
      cases h
    · exact ih hw hu

/-- The opening tag begins as no closing tag does. -/
theorem suffix_of_suffix_elementStart {t u : Text} (hu : u <:+ elementStart ++ t)
    (h : beginsClosing u = true) : u <:+ t := by
  have hopening : beginsClosing ('<' :: ("script id=\"".toList ++ t)) = false := rfl
  have hsplit : elementStart ++ t = '<' :: ("script id=\"".toList ++ t) := rfl
  rw [hsplit] at hu
  rcases List.suffix_cons_iff.1 hu with rfl | hu
  · rw [hopening] at h
    cases h
  · exact suffix_of_beginsClosing (by decide) hu h

/-- The content and the end have one closing tag, the end. -/
theorem eq_elementEnd_of_suffix {u : Text} (h : ¬ ClosesScript content)
    (hu : u <:+ content ++ elementEnd) (hclosing : beginsClosing u = true) : u = elementEnd := by
  obtain ⟨before, hsplit⟩ := hu
  rcases List.append_eq_append_iff.1 hsplit with ⟨more, rfl, rfl⟩ | ⟨more, rfl, hend⟩
  · by_cases hmore : more = []
    · rw [hmore, List.nil_append]
    · have hinside := beginsClosing_append hmore _ hclosing
      exact absurd (closesScript_of_suffix (List.suffix_append _ _) hinside) h
  · have hends : ∀ s ∈ elementEnd.tails, beginsClosing s = true → s = elementEnd := by decide
    exact hends u ((List.mem_tails _ _).2 ⟨more, hend.symm⟩) hclosing

/-- An element has one closing tag, at its end. -/
theorem beginsClosing_of_suffix_element {u : Text} (h : ¬ ClosesScript content)
    (hu : u <:+ element id content) : beginsClosing u = true ↔ u = elementEnd := by
  constructor
  · intro hclosing
    have hid : '<' ∉ escape id := (inert_escape id).plain _ (by decide)
    rw [element_eq] at hu
    have hu := suffix_of_suffix_elementStart hu hclosing
    have hu := suffix_of_beginsClosing hid hu hclosing
    have hu := suffix_of_beginsClosing (by decide) hu hclosing
    exact eq_elementEnd_of_suffix h hu hclosing
  · rintro rfl
    rfl

end Element

end Stencil.Markup

namespace Stencil.Filter

/-- The text of the id that a script element gets in some cells, if it has one. -/
def scriptId? (argument : Option Value) (c : Cells) : Option Text :=
  match argument.getD .undefined with
  | .undefined => some defaultScriptId
  | a => (a.now c).output?

theorem outcome_jsonScript {v : Value} {argument : Option Value} {id payload : Text}
    {m n : Machine} (hid : scriptId? argument m.cells = some id)
    (hpayload : (json v).outcome m = (.ok payload, n)) :
    (jsonScript v argument).outcome m = (.ok (.safe (Markup.element id payload)), n) := by
  unfold scriptId? at hid
  unfold jsonScript
  generalize argument.getD .undefined = a at hid ⊢
  split at hid
  · cases hid
    simp only [Eval.outcome_bind, Eval.outcome_pure, hpayload]
    rfl
  · simp only [Eval.outcome_bind, Eval.outcome_textOf hid, hpayload]
    rfl

/-- The payload is written whatever the value is, and has no closing tag in itself. -/
theorem outcome_json (v : Value) (m : Machine) :
    ∃ payload n, (json v).outcome m = (.ok payload, n) ∧ ¬ Markup.ClosesScript payload := by
  obtain ⟨payload, htext, -, hinert, -⟩ := json_embeds v m
  exact ⟨payload, _, Prod.ext htext rfl, hinert⟩

/-- Any value, with any id that has a text, is written as one script element, and the only closing
tag in all of it, in whatever case, is its end. The id between the quotes is without characters that
have a meaning in HTML and stands for the text of the id; the content is the JSON text of the value.
So a reader of the element gets both of them back. -/
theorem jsonScript_one_element (v : Value) (argument : Option Value) {id : Text}
    {m : Machine} (hid : scriptId? argument m.cells = some id) :
    ∃ payload out n, (json v).outcome m = (.ok payload, n) ∧
      (jsonScript v argument).outcome m = (.ok (.safe out), n) ∧
      out = "<script id=\"".toList ++ Markup.escape id ++ "\" type=\"application/json\">".toList ++
        payload ++ "</script>".toList ∧
      (∀ c ∈ Markup.escape id, c ∉ ['<', '>', '"', '\'']) ∧
      Markup.decode (Markup.escape id) = id ∧
      (argument.getD .undefined = .undefined → id = "__data__".toList) ∧
      (∀ u, u <:+ out → (Markup.beginsClosing u = true ↔ u = "</script>".toList)) ∧
      Markup.readElement? out = some (id, payload) := by
  obtain ⟨payload, n, hpayload, hinert⟩ := outcome_json v m
  have hfilter := outcome_jsonScript hid hpayload
  have hdefault : argument.getD .undefined = .undefined → id = "__data__".toList := fun h => by
    rw [scriptId?, h] at hid
    exact (Option.some.inj hid).symm
  exact ⟨payload, Markup.element id payload, n, hpayload, hfilter, rfl,
    fun c hc hspecial => (Markup.inert_escape id).plain c hspecial hc, Markup.decode_escape id,
    hdefault, fun _ => Markup.beginsClosing_of_suffix_element hinert,
    Markup.readElement?_element hinert⟩

/-- An id that would close the tag, and a value that would close the element. -/
theorem jsonScript_one_element_hostile :
    let m : Machine := ⟨.startingAt 0, []⟩
    ∃ payload out n,
      (json (.list [.text "</Script>".toList])).outcome m = (.ok payload, n) ∧
      (jsonScript (.list [.text "</Script>".toList])
        (some (.text "\"></SCRIPT>".toList))).outcome m = (.ok (.safe out), n) ∧
      Markup.readElement? out = some ("\"></SCRIPT>".toList, payload) := by
  intro m
  obtain ⟨payload, out, n, hpayload, hout, -, -, -, -, -, hread⟩ :=
    jsonScript_one_element (.list [.text "</Script>".toList])
      (some (.text "\"></SCRIPT>".toList)) (m := m) rfl
  exact ⟨payload, out, n, hpayload, hout, hread⟩

end Stencil.Filter
