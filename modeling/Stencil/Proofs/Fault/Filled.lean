import Mathlib.Data.List.TakeWhile
import Stencil.Proofs.Fault.Missing
import Stencil.Proofs.Table.Lookup

/-!
# Filled wordings

A pattern of literal characters and named places is read as it was written, and it is filled from
left to right: a place with a value gives way to the text of the value, which is not read again, and
a place without one stays as it was written. So the fault of a registered wording of such patterns
can be made from all texts and integers, unless an integer has too many digits to be written.
-/

set_option autoImplicit false

namespace Stencil

namespace Pattern

/-! ## Patterns as they are written -/

/-- A character that has no meaning within the braces of a place. -/
def isNameChar (c : Char) : Bool := !(['{', '}', ':', '!', '.', '['].contains c)

/-- A name as it stands between braces. -/
structure Name where
  text : Text
  named : isName text = true
  plain : text.all isNameChar = true

/-- A part of a pattern: a literal character, or the place of a value. -/
inductive Part where
  | literal (c : Char)
  | place (name : Name)

namespace Part

/-- A part as it is written: a brace twice, and a name between braces. -/
def written : Part → Text
  | .literal c => if c = '{' ∨ c = '}' then [c, c] else [c]
  | .place name => '{' :: (name.text ++ ['}'])

/-- The piece that a part is read as. -/
def piece : Part → Piece
  | .literal c => .literal c
  | .place name => .field ⟨name.text, none, [], false⟩

/-- What a part is filled with, given the texts that there are for names. -/
def filled (words : Text → Option Text) : Part → Text
  | .literal c => [c]
  | .place name => (words name.text).getD (place name).written

/-- A pattern of parts. -/
def pattern (parts : List Part) : Text := parts.flatMap written

/-- A pattern of parts with its places filled. -/
def fill (words : Text → Option Text) (parts : List Part) : Text := parts.flatMap (filled words)

end Part

variable {name rest : Text}

theorem isNameChar_iff {c : Char} : isNameChar c = true ↔
    c ≠ '{' ∧ c ≠ '}' ∧ c ≠ ':' ∧ c ≠ '!' ∧ c ≠ '.' ∧ c ≠ '[' := by
  simp [isNameChar]

theorem fieldName_of_plain (h : ∀ c ∈ name, isNameChar c = true) (rest : Text) :
    fieldName false (name ++ '}' :: rest) = .ok (name, '}', rest) := by
  induction name with
  | nil => rfl
  | cons c name ih =>
    obtain ⟨hopen, hclose, hcolon, hmark, -, hbracket⟩ :=
      isNameChar_iff.1 (h c (List.mem_cons_self ..))
    have hrest := ih fun d hd => h d (List.mem_cons_of_mem _ hd)
    rw [List.cons_append, fieldName, if_neg Bool.false_ne_true, if_neg hopen,
      if_neg (by simp [hclose, hcolon, hmark]), decide_eq_false hbracket, hrest]
    rfl

theorem field_of_plain (h : ∀ c ∈ name, isNameChar c = true) (rest : Text) :
    field (name ++ '}' :: rest) = .ok (⟨name, none, [], false⟩, rest) := by
  rw [field, fieldName_of_plain h]
  rfl

theorem pieces_doubled {c : Char} (h : c = '{' ∨ c = '}') (rest : Text) :
    pieces (c :: c :: rest) = .literal c :: pieces rest := by
  rcases h with rfl | rfl
  all_goals rw [pieces]

theorem pieces_literal {c : Char} (h : ¬ (c = '{' ∨ c = '}')) (rest : Text) :
    pieces (c :: rest) = .literal c :: pieces rest := by
  rw [pieces]
  all_goals
    intros
    simp_all

theorem pieces_place (n : Name) (rest : Text) :
    pieces ('{' :: (n.text ++ '}' :: rest)) =
      .field ⟨n.text, none, [], false⟩ :: pieces rest := by
  obtain ⟨_ | ⟨c, name⟩, hnamed, hplain⟩ := n
  · cases hnamed
  · have hchars := List.all_eq_true.1 hplain
    have hfield := field_of_plain hchars rest
    rw [List.cons_append] at hfield ⊢
    have hc : c ≠ '{' := (isNameChar_iff.1 (hchars c (List.mem_cons_self ..))).1
    rw [pieces]
    · split
      · rename_i hread
        rw [hfield] at hread
        cases hread
        rfl
      · rename_i hread
        rw [hfield] at hread
        cases hread
    · exact hc

/-- A pattern is read as the parts that it is made of. -/
theorem pieces_pattern (parts : List Part) :
    pieces (Part.pattern parts) = parts.map Part.piece := by
  induction parts with
  | nil =>
    show pieces [] = []
    simp [pieces]
  | cons p parts ih =>
    rw [Part.pattern, List.flatMap_cons, ← Part.pattern, List.map_cons, ← ih]
    cases p with
    | literal c =>
      rw [Part.written]
      split
      · rename_i hc
        exact pieces_doubled hc _
      · rename_i hc
        exact pieces_literal hc _
    | place name =>
      rw [Part.written, List.cons_append, List.append_assoc]
      exact pieces_place name _

/-! ## Filled patterns -/

variable {values : List (Text × Value)} {words : Text → Option Text}

theorem Name.dropWhile_text (n : Name) : n.text.dropWhile (fun c => !beginsStep c) = [] := by
  rw [List.dropWhile_eq_nil_iff]
  intro c hc
  obtain ⟨-, -, -, -, hdot, hbracket⟩ := isNameChar_iff.1 (List.all_eq_true.1 n.plain c hc)
  simp [beginsStep, hdot, hbracket]

theorem Name.firstName_text (n : Name) : firstName n.text = n.text := by
  have hsplit := List.takeWhile_append_dropWhile (p := fun c => !beginsStep c) (l := n.text)
  rwa [n.dropWhile_text, List.append_nil] at hsplit

theorem Name.stepsOf_text (n : Name) : stepsOf n.text = [] := by
  rw [stepsOf, n.dropWhile_text]
  simp [steps]

theorem isPlainPattern_pattern (parts : List Part) : isPlainPattern (Part.pattern parts) = true := by
  rw [isPlainPattern, pieces_pattern, List.all_map, List.all_eq_true]
  intro p _
  cases p with
  | literal c => rfl
  | place n =>
    show isPlain (.field ⟨n.text, none, [], false⟩) = true
    simp [isPlain, n.firstName_text, n.stepsOf_text, n.named]

/-- The texts that there are for names are those of their values. -/
def Words (values : List (Text × Value)) (words : Text → Option Text) : Prop :=
  ∀ name, (values.lookup name).map Value.plain? = (words name).map some

theorem Words.plainPiece?_piece (h : Words values words) (p : Part) :
    plainPiece? values p.piece = some (p.filled words) := by
  cases p with
  | literal c => rfl
  | place n =>
    have hword := h n.text
    show ((values.lookup (firstName n.text)).getD
      (.text (['{'] ++ firstName n.text ++ ['}']))).plain? = some ((words n.text).getD _)
    rw [n.firstName_text]
    cases hvalue : values.lookup n.text with
    | none =>
      rw [hvalue, Option.map_none, eq_comm, Option.map_eq_none_iff] at hword
      rw [hword]
      rfl
    | some v =>
      rw [hvalue, Option.map_some, eq_comm, Option.map_eq_some_iff] at hword
      obtain ⟨t, ht, hv⟩ := hword
      rw [ht]
      exact hv.symm

/-- A pattern is filled part by part. -/
theorem Words.fill_pattern (h : Words values words) (parts : List Part) :
    fill values (Part.pattern parts) = .ok (Part.fill words parts) := by
  have hpieces : plainPieces? values (parts.map Part.piece) = some (Part.fill words parts) := by
    induction parts with
    | nil => rfl
    | cons p parts ih =>
      rw [List.map_cons, plainPieces?, h.plainPiece?_piece, ih]
      rfl
  rw [fill_of_plain values (isPlainPattern_pattern parts), pieces_pattern, hpieces]
  rfl

/-! ## Names without values -/

/-- What a name without a value stands for: its own place. -/
def ownPlace (name : Text) : Value := .text (['{'] ++ name ++ ['}'])

/-- Patterns only ask what their names stand for. -/
theorem fill_congr {values' : List (Text × Value)}
    (h : ∀ name, (values.lookup name).getD (ownPlace name) =
      (values'.lookup name).getD (ownPlace name)) (t : Text) : fill values t = fill values' t := by
  have hvalue : ∀ name, valueOf values name = valueOf values' name := by
    intro name
    have hfirst := h (firstName name)
    unfold ownPlace at hfirst
    simp only [valueOf, hfirst]
  have hpieces : ∀ fillSpec ps, fillPieces values fillSpec ps = fillPieces values' fillSpec ps := by
    intro fillSpec ps
    induction ps with
    | nil => rfl
    | cons p ps ih =>
      have hpiece : fillPiece values fillSpec p = fillPiece values' fillSpec p := by
        cases p with
        | literal c => rfl
        | field f => simp only [fillPiece, hvalue]
        | broken e => rfl
      rw [fillPieces, fillPieces, hpiece, ih]
  have hwithin : ∀ depth t, fillWithin values depth t = fillWithin values' depth t := by
    intro depth
    induction depth with
    | zero => exact fun _ => rfl
    | succ depth ih =>
      intro t
      rw [fillWithin, fillWithin, funext ih]
      exact hpieces _ _
  exact hwithin 2 t

/-- A pattern is filled as if its names without values were given their own places for values. So
what such a place carries, its steps, its conversion and its layout, is applied to that text. -/
theorem fill_ownPlace (values : List (Text × Value)) (name t : Text) :
    fill (values ++ [(name, ownPlace name)]) t = fill values t := by
  apply fill_congr
  intro n
  rw [List.lookup_append, Table.lookup_cons]
  cases values.lookup n with
  | some v => rfl
  | none =>
    by_cases hn : n = name
    · rw [if_pos hn, hn]
      rfl
    · rw [if_neg hn]
      rfl

end Pattern

/-! ## Values for the places -/

/-- A text or an integer. -/
inductive Value.IsWord : Value → Prop where
  | text (t : Text) : IsWord (.text t)
  | int (n : Int) : IsWord (.int n)

/-- The text of a text or an integer. -/
def Value.word : Value → Text
  | .text t => t
  | .int n => Text.ofInt n
  | _ => []

theorem Value.IsWord.plain?_eq {v : Value} (h : v.IsWord)
    (hwritable : ∀ n, v = .int n → Number.isWritable n) : v.plain? = some v.word := by
  cases h with
  | text t => rfl
  | int n =>
    show Number.integerText? n = some (Text.ofInt n)
    rw [Number.integerText?, if_pos (hwritable n rfl)]

namespace Registry

open Pattern (Part Words)

variable {context : List (Text × Value)}

/-- The texts for the places of a wording: those of the context, and the place of the fault in words
unless the context gives it. -/
def wordOf (context : List (Text × Value)) (location name : Text) : Option Text :=
  match context.lookup name with
  | some v => some v.word
  | none => if name = "location".toList then some location else none

theorem lookup_valuesAt (context : List (Text × Value)) (location name : Text) :
    (valuesAt context location).lookup name =
      (context.lookup name).or
        (if name = "location".toList then some (.text location) else none) := by
  unfold valuesAt
  split
  · rename_i hhas
    obtain ⟨v, hv⟩ := Table.mem_keys_iff_lookup.1 (Table.has_eq_true_iff.1 hhas)
    by_cases hname : name = "location".toList
    · rw [hname, hv]
      rfl
    · rw [if_neg hname, Option.or_none]
  · rw [List.lookup_append, Table.lookup_cons]
    rfl

theorem words_valuesAt (h : ∀ e ∈ context, e.2.plain? = some e.2.word) (location : Text) :
    Words (valuesAt context location) (wordOf context location) := by
  intro name
  rw [lookup_valuesAt, wordOf]
  cases hlookup : context.lookup name with
  | some v => exact congrArg some (h _ (Table.mem_of_lookup hlookup))
  | none =>
    by_cases hname : name = "location".toList
    · rw [if_pos hname, Option.none_or, if_pos hname]
      rfl
    · rw [if_neg hname, Option.none_or, if_neg hname]
      rfl

theorem exists_location (h : ∀ e ∈ context, e.2.plain? = some e.2.word) :
    ∃ location, Fault.location? (valueOf context "template".toList)
      (valueOf context "line".toList) (valueOf context "column".toList) = some location := by
  cases hlocation : Fault.location? (valueOf context "template".toList)
    (valueOf context "line".toList) (valueOf context "column".toList) with
  | some location => exact ⟨location, rfl⟩
  | none =>
    have hyields := @yields_location context
    rw [hlocation] at hyields
    obtain ⟨-, e, he, hnone⟩ := hyields
    rw [h e he] at hnone
    cases hnone

/-! ## Registered wordings -/

/-- A registered wording stands under its own code. -/
theorem code_of_registered {ws : List Wording} {code : Text} {w : Wording}
    (h : (ws.foldl register builtin).find? code = some w) : w.code = code := by
  have hfold : ∀ (ws : List Wording) (r : Registry),
      (∀ code w, r.find? code = some w → w.code = code) →
      ∀ code w, (ws.foldl register r).find? code = some w → w.code = code := by
    intro ws
    induction ws with
    | nil => exact fun r hr => hr
    | cons w' ws ih =>
      intro r hr
      refine ih (r.register w') fun code w hw => ?_
      have hput : (r.register w').find? code = if code = w'.code then some w' else r.find? code :=
        Table.lookup_put code w'.code w' r.wordings
      rw [hput] at hw
      split at hw
      · rename_i hcode
        cases hw
        exact hcode.symm
      · exact hr code w hw
  exact hfold ws builtin (fun _ _ => code_of_find?) code w h

/-- The detail of a fault: the one that is given unless it is empty, or else the one of the wording.
-/
def detailOf (given : Value) (filled : Option Text) : Value :=
  if given.isPresent then given
  else match filled with
    | some t => .text t
    | none => .undefined

/-- The fault of a wording whose texts are filled. -/
theorem fault_of_texts {w : Wording} {location message : Text} {detail suggestion : Option Text}
    (hlocation : Fault.location? (valueOf context "template".toList)
      (valueOf context "line".toList) (valueOf context "column".toList) = some location)
    (hmessage : Pattern.fill (valuesAt context location) w.message = .ok message)
    (hdetail : fillOptional (valuesAt context location) w.detail = .ok detail)
    (hsuggestion : fillOptional (valuesAt context location) w.suggestion = .ok suggestion) :
    fault w context = .ok {
      code := w.code, category := w.category
      message := if message.isEmpty then w.code else message
      detail := detailOf (valueOf context "detail".toList) detail, suggestion := suggestion
      template := valueOf context "template".toList
      line := valueOf context "line".toList
      column := valueOf context "column".toList } := by
  unfold detailOf
  cases hpresent : (valueOf context "detail".toList).isPresent with
  | true =>
    rw [fault_of_fill hlocation hmessage hpresent hsuggestion]
    rfl
  | false =>
    unfold fault
    simp only [hlocation, Pattern.required, hpresent, Bool.false_eq_true, if_false]
    show Pattern.fill (valuesAt context location) w.message >>= _ = _
    rw [hmessage]
    show fillOptional (valuesAt context location) w.detail >>= _ = _
    rw [hdetail]
    show fillOptional (valuesAt context location) w.suggestion >>= _ = _
    rw [hsuggestion]
    rfl

/-- A wording whose texts consist of literal characters and named places. -/
structure PlainWording where
  code : Text
  category : Category
  message : List Part
  detail : Option (List Part)
  suggestion : Option (List Part)

namespace PlainWording

/-- The wording with its texts as they are written. -/
def written (w : PlainWording) : Wording :=
  ⟨w.code, w.category, Part.pattern w.message, w.detail.map Part.pattern,
    w.suggestion.map Part.pattern⟩

/-- The fault that is made of a wording under a code. -/
def told (w : PlainWording) (code : Text) (context : List (Text × Value)) (location : Text) :
    Fault :=
  let fill := Part.fill (wordOf context location)
  { code := code, category := w.category
    message := if (fill w.message).isEmpty then code else fill w.message
    detail := detailOf (valueOf context "detail".toList) (w.detail.map fill)
    suggestion := w.suggestion.map fill
    template := valueOf context "template".toList
    line := valueOf context "line".toList
    column := valueOf context "column".toList }

theorem isPlain_written (w : PlainWording) : w.written.isPlain = true := by
  have hoption : ∀ o : Option (List Part),
      (o.map Part.pattern).all Pattern.isPlainPattern = true := by
    intro o
    cases o with
    | none => rfl
    | some parts => exact Pattern.isPlainPattern_pattern parts
  rw [Wording.isPlain, Bool.and_eq_true, Bool.and_eq_true]
  exact ⟨⟨Pattern.isPlainPattern_pattern w.message, hoption w.detail⟩, hoption w.suggestion⟩

theorem fault_written (w : PlainWording) (h : ∀ e ∈ context, e.2.plain? = some e.2.word) :
    ∃ location, Fault.location? (valueOf context "template".toList)
        (valueOf context "line".toList) (valueOf context "column".toList) = some location ∧
      fault w.written context = .ok (w.told w.code context location) := by
  obtain ⟨location, hlocation⟩ := exists_location h
  have hwords := words_valuesAt h location
  have hoption : ∀ o : Option (List Part),
      fillOptional (valuesAt context location) (o.map Part.pattern) =
        .ok (o.map (Part.fill (wordOf context location))) := by
    intro o
    cases o with
    | none => rfl
    | some parts =>
      show Pattern.fill (valuesAt context location) (Part.pattern parts) >>= _ = _
      rw [hwords.fill_pattern parts]
      rfl
  exact ⟨location, hlocation,
    fault_of_texts hlocation (hwords.fill_pattern w.message) (hoption w.detail)
      (hoption w.suggestion)⟩

end PlainWording

/-- From texts and integers the fault of a registered wording can be made, unless an integer has too
many digits to be written. In each of its texts a place with a value gives way to the text of the
value, and everything else stays as it is meant: a place without a value as it was written, and a
doubled brace as one. An empty message gives way to the code, and the detail to one that is given. -/
theorem create_fills {ws : List Wording} {code : Text} {w : PlainWording}
    (hw : (ws.foldl register builtin).find? code = some w.written)
    (hcontext : ∀ e ∈ context, e.2.IsWord) :
    ((∀ e ∈ context, ∀ n, e.2 = .int n → Number.isWritable n) →
      ∃ location, Fault.location? (valueOf context "template".toList)
          (valueOf context "line".toList) (valueOf context "column".toList) = some location ∧
        (ws.foldl register builtin).create code context = .ok (w.told code context location)) ∧
      ∀ e, (ws.foldl register builtin).create code context = .error e →
        e = .tooManyDigits none ∧
          ∃ entry ∈ context, ∃ n, entry.2 = .int n ∧ ¬ Number.isWritable n := by
  have hcode : w.code = code := code_of_registered hw
  rw [create, hw]
  constructor
  · intro hwritable
    have hplain : ∀ e ∈ context, e.2.plain? = some e.2.word := fun e he =>
      (hcontext e he).plain?_eq (hwritable e he)
    rw [← hcode]
    exact w.fault_written hplain
  · intro e he
    have hyields := @yields_fault context _ w.isPlain_written
    rw [show fault w.written context = .error e from he] at hyields
    obtain ⟨rfl, entry, hentry, hnone⟩ := hyields
    refine ⟨rfl, entry, hentry, ?_⟩
    rcases entry with ⟨name, v⟩
    cases hcontext _ hentry with
    | text t => cases hnone
    | int n =>
      refine ⟨n, rfl, fun hwritable => ?_⟩
      rw [(Value.IsWord.int n).plain?_eq fun m hm => by cases hm; exact hwritable] at hnone
      cases hnone

/-- What is put in for `a` holds a brace and a name, and there is no value for `b`. -/
theorem create_fills_braces :
    (([⟨"BROKEN".toList, .rendering,
        "{{{a}}} {b}{location}".toList, none, none⟩] :
        List Wording).foldl register builtin).create "BROKEN".toList
        [("a".toList, .text "{b}".toList), ("line".toList, .int 3)] =
      .ok {
        code := "BROKEN".toList, category := .rendering
        message := "{{b}} {b} at line 3".toList
        detail := .undefined, suggestion := none
        template := .undefined, line := .int 3, column := .undefined } := by
  let context : List (Text × Value) :=
    [("a".toList, .text "{b}".toList), ("line".toList, .int 3)]
  let name (t : Text) (hnamed : Pattern.isName t = true)
      (hplain : t.all Pattern.isNameChar = true) : Part := .place ⟨t, hnamed, hplain⟩
  let w : PlainWording :=
    ⟨"BROKEN".toList, .rendering,
      [.literal '{', name "a".toList (by decide +kernel) (by decide), .literal '}', .literal ' ',
        name "b".toList (by decide +kernel) (by decide),
        name "location".toList (by decide +kernel) (by decide)], none, none⟩
  have hcontext : ∀ e ∈ context, e.2.IsWord := by
    intro e he
    rcases List.mem_cons.1 he with rfl | he
    · exact .text _
    · rw [List.mem_singleton.1 he]
      exact .int 3
  have hwritable : ∀ e ∈ context, ∀ n, e.2 = .int n → Number.isWritable n := by
    intro e he n hn
    rcases List.mem_cons.1 he with rfl | he
    · cases hn
    · rw [List.mem_singleton.1 he] at hn
      cases hn
      decide +kernel
  obtain ⟨location, hlocation, hcreate⟩ :=
    (@create_fills context [w.written] "BROKEN".toList w rfl hcontext).1 hwritable
  have hwords : Fault.location? .undefined (.int 3) .undefined = some " at line 3".toList := by
    decide +kernel
  have hline : location = " at line 3".toList := Option.some.inj (hlocation.symm.trans hwords)
  rw [hline] at hcreate
  exact hcreate

end Registry
end Stencil
