import Stencil.Proofs.Text.Blank
import Stencil.Template.Tag

/-!
# The forms of tags

What the trimmed content of a tag must look like to have a meaning. The forms say how keywords,
blanks, names, commas, quotes and trimmed arguments follow one another; reading a content gives a
meaning exactly if the content has a form of that meaning, and so no content has forms of two
meanings.
-/

set_option autoImplicit false

namespace Stencil

open Text (isBlank isWord isName Stops Blanks Trimmed stops_append stops_of_all stripLeft strip)

/-- Blanks, at least one. -/
structure Text.Gap (b : Text) : Prop where
  blanks : Blanks b
  ne_nil : b ≠ []

open Text (Gap)

namespace Tag

/-- The keywords that are known. -/
def keywords : List Text :=
  ["if".toList, "elif".toList, "else".toList, "endif".toList, "for".toList, "endfor".toList,
    "block".toList, "endblock".toList, "include".toList, "extends".toList]

/-- What follows a keyword, and the argument that it gives: nothing, or a trimmed text after a
gap. -/
inductive Argument : Text → Text → Prop where
  | none : Argument [] []
  | some {gap t : Text} : Gap gap → t ≠ [] → Trimmed t → Argument (gap ++ t) t

/-- A path between two equal quotes. -/
inductive Quoted : Text → Text → Prop where
  | mk {quote : Char} {path : Text} : quote = '"' ∨ quote = '\'' → path ≠ [] → '\n' ∉ path →
      Quoted (quote :: path ++ [quote]) path

/-- The end of a loop tag: `in` between gaps, and an iterable. -/
inductive Iterable : Text → Text → Prop where
  | mk {gap gap' it : Text} : Gap gap → Gap gap' → it ≠ [] → Trimmed it →
      Iterable (gap ++ ['i', 'n'] ++ gap' ++ it) it

/-- The header of a loop: one name, or two with a comma between them, and an iterable. -/
inductive LoopHeader : Text → List Text → Text → Prop where
  | one {gap name rest it : Text} : Gap gap → isName name = true → Iterable rest it →
      LoopHeader (gap ++ name ++ rest) [name] it
  | two {gap key before after value rest it : Text} : Gap gap → isName key = true →
      Blanks before → Blanks after → isName value = true → Iterable rest it →
      LoopHeader (gap ++ key ++ before ++ [','] ++ after ++ value ++ rest) [key, value] it

/-- A content of the form that its meaning demands. -/
inductive Form : Text → Tag → Prop where
  | openIf {rest test : Text} : Argument rest test → Form ("if".toList ++ rest) (.openIf test)
  | elseIf {rest test : Text} : Argument rest test → Form ("elif".toList ++ rest) (.elseIf test)
  | otherwise {rest t : Text} : Argument rest t → Form ("else".toList ++ rest) .otherwise
  | close (c : Construct) {rest t : Text} : Argument rest t →
      Form (c.endKeyword ++ rest) (.close c)
  | openFor {rest it : Text} {names : List Text} : LoopHeader rest names it →
      Form ("for".toList ++ rest) (.openFor names it)
  | openBlock {gap name : Text} : Gap gap → isName name = true →
      Form ("block".toList ++ (gap ++ name)) (.openBlock name)
  | inclusion {gap rest path : Text} : Gap gap → Quoted rest path →
      Form ("include".toList ++ (gap ++ rest)) (.inclusion path)
  | extension {gap rest path : Text} : Gap gap → Quoted rest path →
      Form ("extends".toList ++ (gap ++ rest)) (.extension path)
  | unknown {content : Text} : Text.firstWord content ∉ keywords → Form content .unknown

end Tag

/-! ## Readers of the parts -/

namespace Text

theorem stops_blank_of_isName {name : Text} (h : isName name = true) (t : Text) :
    Stops isBlank (name ++ t) := by
  unfold isName at h
  obtain ⟨hne, hall⟩ := Bool.and_eq_true_iff.1 h
  refine stops_of_all (by simpa using hne) fun c hc => ?_
  have hword := List.all_eq_true.1 hall c hc
  cases hblank : isBlank c with
  | false => rfl
  | true =>
    rw [isWord_of_isBlank hblank] at hword
    cases hword

theorem Gap.stops_word {gap : Text} (h : Gap gap) (t : Text) : Stops isWord (gap ++ t) :=
  stops_of_all h.ne_nil fun c hc => isWord_of_isBlank (h.blanks c hc)

theorem Gap.stops {gap : Text} (h : Gap gap) (t : Text) :
    Stops (fun c => !isBlank c) (gap ++ t) :=
  stops_of_all h.ne_nil fun c hc => by simp [h.blanks c hc]

end Text

namespace Tag

open Text (isWord_of_isBlank stops_blank_of_isName dropLead_eq_some)

variable {t rest name it path : Text}

theorem afterBlanks?_eq_some :
    afterBlanks? t = some rest ↔ ∃ gap, Gap gap ∧ t = gap ++ rest ∧ Stops isBlank rest := by
  constructor
  · intro h
    cases t with
    | nil => cases h
    | cons c t =>
      by_cases hc : isBlank c = true
      · rw [afterBlanks?, if_pos hc] at h
        cases h
        refine ⟨c :: t.takeWhile isBlank, ⟨?_, List.cons_ne_nil _ _⟩, ?_, Text.stops_dropWhile _ t⟩
        · intro d hd
          rcases List.mem_cons.1 hd with rfl | hd
          · exact hc
          · exact Text.mem_takeWhile hd
        · rw [List.cons_append, stripLeft, List.takeWhile_append_dropWhile]
      · rw [afterBlanks?, if_neg hc] at h
        cases h
  · rintro ⟨gap, hgap, rfl, hrest⟩
    cases gap with
    | nil => exact absurd rfl hgap.ne_nil
    | cons c gap =>
      have hc : isBlank c = true := hgap.blanks c (List.mem_cons_self ..)
      have hblanks : Blanks gap := fun d hd => hgap.blanks d (List.mem_cons_of_mem _ hd)
      rw [List.cons_append, afterBlanks?, if_pos hc, Text.stripLeft_append hblanks,
        Text.stripLeft_of_stops hrest]

theorem nameAndRest?_eq_some :
    nameAndRest? t = some (name, rest) ↔
      isName name = true ∧ t = name ++ rest ∧ Stops isWord rest := by
  unfold nameAndRest?
  simp only
  constructor
  · intro h
    split at h
    · cases h
    · rename_i hne
      cases h
      refine ⟨?_, List.takeWhile_append_dropWhile.symm, Text.stops_dropWhile _ t⟩
      simp only [isName, hne, Bool.not_false, Bool.true_and]
      exact List.all_takeWhile
  · rintro ⟨hname, rfl, hrest⟩
    obtain ⟨hne, hall⟩ := Bool.and_eq_true_iff.1 hname
    have hall := List.all_eq_true.1 hall
    rw [Text.takeWhile_append_of_stops hall hrest, Text.dropWhile_append_of_stops hall hrest,
      if_neg (by simpa using hne)]

theorem Iterable.of_read (htrim : Stops isBlank t.reverse) (h : iterable? t = some it) :
    Iterable t it := by
  obtain ⟨a, ha, hrest⟩ := Option.bind_eq_some_iff.1 h
  obtain ⟨b, hb, hrest⟩ := Option.bind_eq_some_iff.1 hrest
  obtain ⟨c, hc, hlast⟩ := Option.bind_eq_some_iff.1 hrest
  obtain ⟨gap, hgap, rfl, -⟩ := afterBlanks?_eq_some.1 ha
  obtain rfl := dropLead_eq_some.1 hb
  obtain ⟨gap', hgap', rfl, hstops⟩ := afterBlanks?_eq_some.1 hc
  by_cases hempty : c.isEmpty = true
  · rw [if_pos hempty] at hlast
    cases hlast
  · rw [if_neg hempty] at hlast
    have hne : c ≠ [] := by simpa using hempty
    have htrimmed : Trimmed c := by
      refine Text.trimmed_of_stops hstops ?_
      simp only [List.reverse_append, List.append_assoc] at htrim
      exact Text.stops_of_append htrim
    cases hlast
    have hform := Iterable.mk hgap hgap' hne htrimmed
    rw [htrimmed]
    simpa only [List.append_assoc] using hform

theorem Iterable.read (h : Iterable t it) : iterable? t = some it := by
  rcases h with @⟨gap, gap', _, hgap, hgap', hne, htrimmed⟩
  have hin : Stops isBlank (['i', 'n'] ++ gap' ++ it) := Text.stops_cons.2 (by decide)
  have h₁ : afterBlanks? (gap ++ ['i', 'n'] ++ gap' ++ it) = some (['i', 'n'] ++ gap' ++ it) :=
    afterBlanks?_eq_some.2 ⟨gap, hgap, by simp only [List.append_assoc], hin⟩
  have h₂ : Text.dropLead ['i', 'n'] (['i', 'n'] ++ gap' ++ it) = some (gap' ++ it) :=
    dropLead_eq_some.2 (List.append_assoc ..)
  have h₃ : afterBlanks? (gap' ++ it) = some it :=
    afterBlanks?_eq_some.2 ⟨gap', hgap', rfl, htrimmed.stops⟩
  unfold iterable?
  simp only [h₁, h₂, h₃, Option.bind_eq_bind, Option.bind_some]
  rw [if_neg (by simpa using hne), htrimmed]

theorem Iterable.stops_word (h : Iterable rest it) : Stops isWord rest := by
  rcases h with ⟨hgap, -, -, -⟩
  rw [List.append_assoc, List.append_assoc]
  exact hgap.stops_word _

/-- After a gap, `in` does not stand for a comma. -/
theorem Iterable.stripLeft_ne (h : Iterable rest it) (t : Text) : stripLeft rest ≠ ',' :: t := by
  rcases h with ⟨hgap, -, -, -⟩
  rw [List.append_assoc, List.append_assoc, Text.stripLeft_append hgap.blanks]
  exact nofun

theorem LoopHeader.of_read {names : List Text} (htrim : Stops isBlank t.reverse)
    (h : loopHeader? t = some (names, it)) : LoopHeader t names it := by
  obtain ⟨a, ha, hrest⟩ := Option.bind_eq_some_iff.1 h
  obtain ⟨⟨first, b⟩, hb, hbody⟩ := Option.bind_eq_some_iff.1 hrest
  obtain ⟨gap, hgap, rfl, -⟩ := afterBlanks?_eq_some.1 ha
  obtain ⟨hfirst, rfl, -⟩ := nameAndRest?_eq_some.1 hb
  simp only [List.reverse_append, List.append_assoc] at htrim
  dsimp only at hbody
  split at hbody
  · rename_i after hcomma
    obtain ⟨⟨second, c⟩, hc, hlast⟩ := Option.bind_eq_some_iff.1 hbody
    obtain ⟨it', hit, hnames⟩ := Option.bind_eq_some_iff.1 hlast
    cases hnames
    obtain ⟨hsecond, hafter, -⟩ := nameAndRest?_eq_some.1 hc
    let before := b.takeWhile isBlank
    let between := after.takeWhile isBlank
    have hsplit : b = before ++ [','] ++ between ++ second ++ c := by
      have hb' : before ++ stripLeft b = b := List.takeWhile_append_dropWhile
      have hafter' : between ++ stripLeft after = after := List.takeWhile_append_dropWhile
      rw [← hb', hcomma, ← hafter', hafter]
      simp only [List.append_assoc, List.cons_append, List.nil_append]
    have hlast : Stops isBlank c.reverse := by
      rw [hsplit] at htrim
      simp only [List.reverse_append, List.append_assoc] at htrim
      exact Text.stops_of_append htrim
    have hbefore : Blanks before := fun _ => Text.mem_takeWhile
    have hbetween : Blanks between := fun _ => Text.mem_takeWhile
    have hheader := LoopHeader.two hgap hfirst hbefore hbetween hsecond (.of_read hlast hit)
    rw [hsplit]
    simpa only [List.append_assoc] using hheader
  · obtain ⟨it', hit, hnames⟩ := Option.bind_eq_some_iff.1 hbody
    cases hnames
    have hheader := LoopHeader.one hgap hfirst (.of_read (Text.stops_of_append htrim) hit)
    simpa only [List.append_assoc] using hheader

theorem LoopHeader.read {names : List Text} (h : LoopHeader t names it) :
    loopHeader? t = some (names, it) := by
  cases h with
  | @one gap name rest _ hgap hname hit =>
    have h₁ : afterBlanks? (gap ++ name ++ rest) = some (name ++ rest) :=
      afterBlanks?_eq_some.2 ⟨gap, hgap, List.append_assoc .., stops_blank_of_isName hname rest⟩
    have h₂ : nameAndRest? (name ++ rest) = some (name, rest) :=
      nameAndRest?_eq_some.2 ⟨hname, rfl, hit.stops_word⟩
    unfold loopHeader?
    simp only [h₁, h₂, Option.bind_eq_bind, Option.bind_some]
    split
    · rename_i after hcomma
      exact absurd hcomma (hit.stripLeft_ne after)
    · rw [hit.read, Option.bind_some]
  | @two gap key before after value rest _ hgap hkey hbefore hafter hvalue hit =>
    let tail := after ++ value ++ rest
    have hsplit : gap ++ key ++ before ++ [','] ++ after ++ value ++ rest =
        gap ++ (key ++ (before ++ ',' :: tail)) := by
      simp only [tail, List.append_assoc, List.cons_append, List.nil_append]
    have hcomma : isWord ',' = false ∧ isBlank ',' = false := by decide
    have hstops : Stops isWord (before ++ ',' :: tail) := by
      intro c hc
      cases before with
      | nil => exact Text.stops_cons.2 hcomma.1 c hc
      | cons b rest =>
        exact Text.stops_cons.2 (isWord_of_isBlank (hbefore b (List.mem_cons_self ..))) c hc
    have h₁ : afterBlanks? (gap ++ (key ++ (before ++ ',' :: tail))) =
        some (key ++ (before ++ ',' :: tail)) :=
      afterBlanks?_eq_some.2 ⟨gap, hgap, rfl, stops_blank_of_isName hkey _⟩
    have h₂ : nameAndRest? (key ++ (before ++ ',' :: tail)) = some (key, before ++ ',' :: tail) :=
      nameAndRest?_eq_some.2 ⟨hkey, rfl, hstops⟩
    have h₃ : stripLeft (before ++ ',' :: tail) = ',' :: tail := by
      rw [Text.stripLeft_append hbefore, Text.stripLeft_of_stops (Text.stops_cons.2 hcomma.2)]
    have h₄ : stripLeft tail = value ++ rest := by
      rw [show tail = after ++ (value ++ rest) from List.append_assoc .., Text.stripLeft_append hafter,
        Text.stripLeft_of_stops (stops_blank_of_isName hvalue rest)]
    have h₅ : nameAndRest? (value ++ rest) = some (value, rest) :=
      nameAndRest?_eq_some.2 ⟨hvalue, rfl, hit.stops_word⟩
    rw [hsplit]
    unfold loopHeader?
    simp only [h₁, h₂, h₃, h₄, h₅, hit.read, Option.bind_eq_bind, Option.bind_some]

theorem blockName?_eq_some :
    blockName? t = some name ↔ ∃ gap, Gap gap ∧ t = gap ++ name ∧ isName name = true := by
  constructor
  · intro h
    obtain ⟨a, ha, hrest⟩ := Option.bind_eq_some_iff.1 h
    obtain ⟨gap, hgap, rfl, -⟩ := afterBlanks?_eq_some.1 ha
    by_cases hname : isName a = true
    · rw [if_pos hname] at hrest
      cases hrest
      exact ⟨gap, hgap, rfl, hname⟩
    · rw [if_neg hname] at hrest
      cases hrest
  · rintro ⟨gap, hgap, rfl, hname⟩
    have hstops : Stops isBlank name := by
      simpa using stops_blank_of_isName hname []
    have h := afterBlanks?_eq_some.2 ⟨gap, hgap, rfl, hstops⟩
    unfold blockName?
    simp only [h, Option.bind_eq_bind, Option.bind_some]
    rw [if_pos hname]

theorem Quoted.stops (h : Quoted rest path) : Stops isBlank rest := by
  rcases h with ⟨hquote, -, -⟩
  refine Text.stops_cons.2 ?_
  rcases hquote with rfl | rfl <;> decide

theorem quotedPath?_eq_some :
    quotedPath? t = some path ↔ ∃ gap rest, Gap gap ∧ t = gap ++ rest ∧ Quoted rest path := by
  constructor
  · intro h
    obtain ⟨a, ha, hrest⟩ := Option.bind_eq_some_iff.1 h
    obtain ⟨gap, hgap, rfl, -⟩ := afterBlanks?_eq_some.1 ha
    refine ⟨gap, a, hgap, rfl, ?_⟩
    split at hrest
    · cases hrest
    · rename_i quote tail
      split at hrest
      · rename_i hquote
        split at hrest
        · cases hrest
        · rename_i last inner hreverse
          split at hrest
          · rename_i hinner
            obtain ⟨rfl, hne, hline⟩ := hinner
            cases hrest
            have htail : tail = inner.reverse ++ [last] := by
              rw [← List.reverse_cons, ← hreverse, List.reverse_reverse]
            rw [htail]
            exact .mk hquote (by simpa using hne) (by simpa using hline)
          · cases hrest
      · cases hrest
  · rintro ⟨gap, rest, hgap, rfl, hrest⟩
    have h := afterBlanks?_eq_some.2 ⟨gap, hgap, rfl, hrest.stops⟩
    rcases hrest with ⟨hquote, hne, hline⟩
    rw [quotedPath?, h, Option.bind_eq_bind, Option.bind_some]
    simp only [List.cons_append]
    rw [if_pos hquote]
    simp [hne, hline]

/-! ## Contents -/

/-- What arguments that are read mean, and otherwise that they are malformed. -/
def ofArguments {α : Type} (make : α → Tag) (keyword expected : Text) : Option α → Tag
  | some a => make a
  | none => .malformed keyword expected

/-- The meaning of a keyword and the text after it. -/
def ofKeyword (keyword rest : Text) : Tag :=
  if keyword = "if".toList then .openIf (strip rest)
  else if keyword = "elif".toList then .elseIf (strip rest)
  else if keyword = "else".toList then .otherwise
  else if keyword = "endif".toList then .close .conditional
  else if keyword = "for".toList then
    ofArguments (fun header => .openFor header.1 header.2) keyword loopForm (loopHeader? rest)
  else if keyword = "endfor".toList then .close .loop
  else if keyword = "block".toList then
    ofArguments .openBlock keyword blockForm (blockName? rest)
  else if keyword = "endblock".toList then .close .block
  else if keyword = "include".toList then
    ofArguments .inclusion keyword (pathForm keyword) (quotedPath? rest)
  else if keyword = "extends".toList then
    ofArguments .extension keyword (pathForm keyword) (quotedPath? rest)
  else .unknown

variable {content keyword rest : Text} {tag : Tag}

theorem ofContent_eq (content : Text) : ofContent content =
    ofKeyword (Text.firstWord content) (content.drop (Text.firstWord content).length) := by
  unfold ofContent ofKeyword arguments
  simp only
  generalize content.drop (Text.firstWord content).length = rest
  cases loopHeader? rest <;> cases blockName? rest <;> cases quotedPath? rest <;> rfl

theorem ofContent_append (h : Text.firstWord (keyword ++ rest) = keyword) :
    ofContent (keyword ++ rest) = ofKeyword keyword rest := by
  rw [ofContent_eq, h, List.drop_left]

theorem ofKeyword_of_not_mem (h : keyword ∉ keywords) : ofKeyword keyword rest = .unknown := by
  simp only [keywords, List.mem_cons, List.not_mem_nil, or_false, not_or] at h
  simp only [ofKeyword, h, if_false]

/-- Known keywords stand alone. -/
theorem firstWord_keyword (hk : keyword ∈ keywords) (hrest : Stops (fun c => !isBlank c) rest) :
    Text.firstWord (keyword ++ rest) = keyword := by
  have hword : ∀ k ∈ keywords, k ≠ [] ∧ (k.all fun c => !isBlank c) = true := by decide
  obtain ⟨hne, hall⟩ := hword keyword hk
  have hstops : Stops isBlank (keyword ++ rest) :=
    stops_of_all hne fun c hc => by simpa using List.all_eq_true.1 hall c hc
  unfold Text.firstWord
  rw [Text.stripLeft_of_stops hstops]
  exact Text.takeWhile_append_of_stops (List.all_eq_true.1 hall) hrest

theorem ofContent_keyword (hk : keyword ∈ keywords) (hrest : Stops (fun c => !isBlank c) rest) :
    ofContent (keyword ++ rest) = ofKeyword keyword rest :=
  ofContent_append (firstWord_keyword hk hrest)

theorem Argument.stops (h : Argument rest t) : Stops (fun c => !isBlank c) rest := by
  cases h with
  | none => exact Text.stops_nil
  | some hgap _ _ => exact hgap.stops _

theorem Argument.strip_eq (h : Argument rest t) : strip rest = t := by
  cases h with
  | none => rfl
  | some hgap _ htrim => simpa using Text.strip_between hgap.blanks Text.blanks_nil htrim

theorem LoopHeader.stops {names : List Text} (h : LoopHeader rest names it) :
    Stops (fun c => !isBlank c) rest := by
  cases h with
  | one hgap _ _ =>
    rw [List.append_assoc]
    exact hgap.stops _
  | two hgap _ _ _ _ _ =>
    simp only [List.append_assoc]
    exact hgap.stops _

/-- A content that has a form is read as the form says. -/
theorem Form.read (h : Form content tag) : ofContent content = tag := by
  cases h with
  | openIf h =>
    rw [ofContent_keyword (by decide) h.stops]
    exact congrArg Tag.openIf h.strip_eq
  | elseIf h =>
    rw [ofContent_keyword (by decide) h.stops]
    exact congrArg Tag.elseIf h.strip_eq
  | otherwise h =>
    rw [ofContent_keyword (by decide) h.stops]
    rfl
  | close c h =>
    rw [ofContent_keyword (by cases c <;> decide) h.stops]
    cases c <;> rfl
  | openFor h =>
    rw [ofContent_keyword (by decide) h.stops]
    exact congrArg (ofArguments _ _ _) h.read
  | openBlock hgap hname =>
    rw [ofContent_keyword (by decide) (hgap.stops _)]
    exact congrArg (ofArguments _ _ _) (blockName?_eq_some.2 ⟨_, hgap, rfl, hname⟩)
  | inclusion hgap h =>
    rw [ofContent_keyword (by decide) (hgap.stops _)]
    exact congrArg (ofArguments _ _ _) (quotedPath?_eq_some.2 ⟨_, _, hgap, rfl, h⟩)
  | extension hgap h =>
    rw [ofContent_keyword (by decide) (hgap.stops _)]
    exact congrArg (ofArguments _ _ _) (quotedPath?_eq_some.2 ⟨_, _, hgap, rfl, h⟩)
  | unknown h => rw [ofContent_eq, ofKeyword_of_not_mem h]

/-- The first word of a trimmed content, and what follows it. -/
theorem exists_firstWord (h : Trimmed content) :
    ∃ rest, content = Text.firstWord content ++ rest ∧ Stops (fun c => !isBlank c) rest := by
  refine ⟨content.dropWhile fun c => !isBlank c, ?_, Text.stops_dropWhile _ _⟩
  unfold Text.firstWord
  rw [Text.stripLeft_of_stops h.stops, List.takeWhile_append_dropWhile]

theorem exists_argument {keyword : Text} (htrim : Trimmed (keyword ++ rest))
    (hrest : Stops (fun c => !isBlank c) rest) : Argument rest (strip rest) := by
  cases rest with
  | nil => exact .none
  | cons c tail =>
    have hblank : isBlank c = true := by simpa using Text.stops_cons.1 hrest
    let gap := (c :: tail).takeWhile isBlank
    let t := (c :: tail).dropWhile isBlank
    have hsplit : gap ++ t = c :: tail := List.takeWhile_append_dropWhile
    have hgap : Gap gap := ⟨fun _ => Text.mem_takeWhile, by simp [gap, hblank]⟩
    have hend := htrim.stops_reverse
    rw [List.reverse_append, ← hsplit, List.reverse_append, List.append_assoc] at hend
    have hne : t ≠ [] := by
      intro ht
      rw [ht, List.reverse_nil, List.nil_append] at hend
      have hlast := Text.stops_of_append hend
      have hall : ∀ d ∈ gap.reverse.head?, isBlank d = true := fun d hd =>
        hgap.blanks d (List.mem_reverse.1 (List.mem_of_mem_head? hd))
      cases hrev : gap.reverse with
      | nil => exact hgap.ne_nil (List.reverse_eq_nil_iff.1 hrev)
      | cons d ds =>
        have := hlast d (by rw [hrev]; rfl)
        rw [hall d (by rw [hrev]; rfl)] at this
        cases this
    have htrimmed : Trimmed t :=
      Text.trimmed_of_stops (Text.stops_dropWhile _ _) (Text.stops_of_append hend)
    have harg := Argument.some hgap hne htrimmed
    rw [← hsplit, harg.strip_eq]
    exact harg

theorem exists_of_ofArguments {α : Type} {make : α → Tag} {expected : Text} {read : Option α}
    (h : ofArguments make keyword expected read = tag)
    (hgood : ∀ keyword expected, tag ≠ .malformed keyword expected) :
    ∃ a, read = some a ∧ make a = tag := by
  cases read with
  | none => exact absurd h.symm (hgood _ _)
  | some a => exact ⟨a, rfl, h⟩

/-- A trimmed content that is not malformed has a form of the meaning that it is read as. -/
theorem Form.of_read (htrim : Trimmed content) (hread : ofContent content = tag)
    (hgood : ∀ keyword expected, tag ≠ .malformed keyword expected) : Form content tag := by
  obtain ⟨rest, hcontent, hrest⟩ := exists_firstWord htrim
  generalize hk : Text.firstWord content = keyword at hcontent
  subst hcontent
  have harg : Argument rest (strip rest) := exists_argument htrim hrest
  rw [ofContent_append hk] at hread
  by_cases hknown : keyword ∈ keywords
  · simp only [keywords, List.mem_cons, List.not_mem_nil, or_false] at hknown
    rcases hknown with rfl | rfl | rfl | rfl | rfl | rfl | rfl | rfl | rfl | rfl
    · subst hread
      exact .openIf harg
    · subst hread
      exact .elseIf harg
    · subst hread
      exact .otherwise harg
    · subst hread
      exact .close .conditional harg
    · have hend : Stops isBlank rest.reverse := by
        have h := htrim.stops_reverse
        rw [List.reverse_append] at h
        exact Text.stops_of_append h
      obtain ⟨header, hheader, rfl⟩ := exists_of_ofArguments hread hgood
      exact .openFor (.of_read hend hheader)
    · subst hread
      exact .close .loop harg
    · obtain ⟨name, hname, rfl⟩ := exists_of_ofArguments hread hgood
      obtain ⟨gap, hgap, rfl, hword⟩ := blockName?_eq_some.1 hname
      exact .openBlock hgap hword
    · subst hread
      exact .close .block harg
    · obtain ⟨path, hpath, rfl⟩ := exists_of_ofArguments hread hgood
      obtain ⟨gap, quoted, hgap, rfl, hquoted⟩ := quotedPath?_eq_some.1 hpath
      exact .inclusion hgap hquoted
    · obtain ⟨path, hpath, rfl⟩ := exists_of_ofArguments hread hgood
      obtain ⟨gap, quoted, hgap, rfl, hquoted⟩ := quotedPath?_eq_some.1 hpath
      exact .extension hgap hquoted
  · rw [ofKeyword_of_not_mem hknown] at hread
    subst hread
    refine .unknown ?_
    rw [hk]
    exact hknown

theorem Form.ne_malformed (h : Form content tag) (keyword expected : Text) :
    tag ≠ .malformed keyword expected := by
  rintro rfl
  cases h

end Tag
end Stencil
