import Stencil.Text.Blank

/-!
# Segments of a source

A source is cut into stretches of text and delimited spans: expressions between double braces, tags
between brace and percent sign, comments between brace and number sign. Delimiters do not nest. A
span is the leftmost one that is complete, and it ends at the first closer; an opener without a
closer stays part of the text around it.
-/

set_option autoImplicit false

namespace Stencil

/-- The kinds of delimited spans. -/
inductive Delimiter where
  | expression
  | tag
  | comment
  deriving DecidableEq, Repr

namespace Delimiter

/-- The character that follows the brace of the opener. -/
def openMark : Delimiter → Char
  | .expression => '{'
  | .tag => '%'
  | .comment => '#'

/-- The character that precedes the brace of the closer. -/
def closeMark : Delimiter → Char
  | .expression => '}'
  | .tag => '%'
  | .comment => '#'

/-- The delimiter whose opener has a given second character. -/
def ofMark? (c : Char) : Option Delimiter :=
  if c = '{' then some .expression
  else if c = '%' then some .tag
  else if c = '#' then some .comment
  else none

/-- The two characters that open a span. -/
def opener (d : Delimiter) : Text := ['{', d.openMark]

/-- The two characters that close a span. -/
def closer (d : Delimiter) : Text := [d.closeMark, '}']

/-- Cuts a text at the first occurrence of two neighbouring characters, which are dropped. -/
def cutAtPair (a b : Char) : Text → Option (Text × Text)
  | x :: y :: rest =>
    if x = a ∧ y = b then some ([], rest)
    else (cutAtPair a b (y :: rest)).map fun cut => (x :: cut.1, cut.2)
  | _ => none

/-- Cuts what follows an opener into the body of the span and what comes after its closer. The
first character of an expression or a tag belongs to the body whatever it is. -/
def cutBody (d : Delimiter) : Text → Option (Text × Text)
  | [] => none
  | c :: rest =>
    match d with
    | .comment => cutAtPair d.closeMark '}' (c :: rest)
    | _ => (cutAtPair d.closeMark '}' rest).map fun cut => (c :: cut.1, cut.2)

end Delimiter

/-- A delimited span of a source, with the body exactly as written. -/
structure Delimited where
  delimiter : Delimiter
  body : Text
  deriving DecidableEq, Repr

/-- The characters of a span, delimiters included. -/
def Delimited.raw (s : Delimited) : Text := s.delimiter.opener ++ s.body ++ s.delimiter.closer

/-- The complete span at the very beginning of a text, and what follows it. -/
def Delimited.atHead? : Text → Option (Delimited × Text)
  | '{' :: mark :: rest =>
    match Delimiter.ofMark? mark with
    | none => none
    | some d => (d.cutBody rest).map fun cut => (⟨d, cut.1⟩, cut.2)
  | _ => none

/-- The leftmost complete span of a text, between what precedes and what follows it. -/
def Delimited.first? : Text → Option (Text × Delimited × Text)
  | [] => none
  | c :: rest =>
    match Delimited.atHead? (c :: rest) with
    | some (span, after) => some ([], span, after)
    | none => (Delimited.first? rest).map fun cut => (c :: cut.1, cut.2)

/-- A piece of a source: text, or a delimited span. -/
inductive Segment where
  | text (value : Text)
  | delimited (d : Delimited)
  deriving DecidableEq, Repr

namespace Segment

/-- The characters of a segment. -/
def raw : Segment → Text
  | .text value => value
  | .delimited d => d.raw

/-- A text segment, unless the text is empty. -/
def textOf (value : Text) : List Segment := if value.isEmpty then [] else [.text value]

end Segment

namespace Delimiter

theorem length_of_cutAtPair {a b : Char} {s : Text} {cut : Text × Text}
    (h : cutAtPair a b s = some cut) : cut.1.length + cut.2.length + 2 = s.length := by
  fun_induction cutAtPair a b s generalizing cut with
  | case1 x y rest hxy =>
    cases h
    simp
  | case2 x y rest hxy ih =>
    obtain ⟨inner, hinner, rfl⟩ := Option.map_eq_some_iff.1 h
    have := ih hinner
    simp only [List.length_cons] at this ⊢
    omega
  | case3 => cases h

theorem length_of_cutBody {d : Delimiter} {s : Text} {cut : Text × Text}
    (h : d.cutBody s = some cut) : cut.1.length + cut.2.length + 2 = s.length := by
  cases s with
  | nil => cases h
  | cons c rest =>
    have shorter : ∀ cut : Text × Text,
        ((cutAtPair d.closeMark '}' rest).map fun cut => (c :: cut.1, cut.2)) = some cut →
          cut.1.length + cut.2.length + 2 = (c :: rest).length := by
      intro cut hcut
      obtain ⟨inner, hinner, rfl⟩ := Option.map_eq_some_iff.1 hcut
      have := length_of_cutAtPair hinner
      simp only [List.length_cons]
      omega
    cases d with
    | comment => exact length_of_cutAtPair h
    | expression => exact shorter cut h
    | tag => exact shorter cut h

end Delimiter

theorem Delimited.length_of_atHead? {s : Text} {found : Delimited × Text}
    (h : Delimited.atHead? s = some found) : found.2.length + 4 ≤ s.length := by
  unfold Delimited.atHead? at h
  split at h
  · rename_i mark rest
    split at h
    · cases h
    · rename_i d _
      obtain ⟨cut, hcut, rfl⟩ := Option.map_eq_some_iff.1 h
      have := Delimiter.length_of_cutBody hcut
      simp only [List.length_cons]
      omega
  · cases h

theorem Delimited.length_of_first? {s : Text} {found : Text × Delimited × Text}
    (h : Delimited.first? s = some found) : found.2.2.length < s.length := by
  induction s generalizing found with
  | nil => cases h
  | cons c rest ih =>
    unfold Delimited.first? at h
    split at h
    · rename_i span after hhead
      cases h
      have := Delimited.length_of_atHead? hhead
      simp only [List.length_cons] at this ⊢
      omega
    · obtain ⟨cut, hcut, rfl⟩ := Option.map_eq_some_iff.1 h
      have := ih hcut
      simp only [List.length_cons]
      omega

namespace Segment

/-- The segments of a source: the leftmost complete span, then the segments of what follows it. -/
def ofSource (source : Text) : List Segment :=
  match _h : Delimited.first? source with
  | none => textOf source
  | some (before, span, after) => textOf before ++ .delimited span :: ofSource after
termination_by source.length
decreasing_by exact Delimited.length_of_first? _h

end Segment
end Stencil
