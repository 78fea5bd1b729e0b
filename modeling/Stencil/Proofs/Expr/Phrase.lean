import Stencil.Proofs.Text.Blank
import Stencil.Expr.Eval

/-!
# Phrases

A phrase is an expression as a tree, with the blanks it is written with: an operand, and filters
applied to it one after the other. An operand is a keyword, a number, a quotation, a name, or a
trail of steps from a name, the keys of elements being phrases again. A phrase is printed as text,
and it has a meaning of its own: the meaning of a trail is that of the trail before its last step,
and then the step; the meaning of a filter is applied to the meaning of what stands before it.
-/

set_option autoImplicit false

namespace Stencil

/-! ## Words and blanks -/

/-- Blanks between the parts of a phrase, possibly none. -/
structure Pad where
  text : Text
  blanks : Text.Blanks text

/-- The name of a filter. -/
structure Word where
  text : Text
  isName : Text.isName text = true

/-- The name of a member. -/
structure MemberName where
  text : Text
  ne_nil : text ≠ []
  all : ∀ c ∈ text, Path.isNameChar c = true

/-- The first name of a trail. -/
structure RootName where
  first : Char
  rest : Text
  begins : Path.beginsRoot first = true
  all : ∀ c ∈ rest, Path.isNameChar c = true

def RootName.text (n : RootName) : Text := n.first :: n.rest

/-- Decimal digits, at least one. -/
structure Digits where
  text : Text
  ne_nil : text ≠ []
  all : ∀ c ∈ text, Text.isDecimal c = true

/-- A text between quotes that it does not hold. -/
structure Quotation where
  quote : Char
  body : Text
  isQuote : Scan.isQuote quote = true
  not_mem : quote ∉ body

/-- The literals that are words. -/
inductive LiteralWord where
  | true
  | false
  | null
  | undefined

namespace LiteralWord

def text : LiteralWord → Text
  | .true => "true".toList
  | .false => "false".toList
  | .null => "null".toList
  | .undefined => "undefined".toList

def value : LiteralWord → Value
  | .true => .bool Bool.true
  | .false => .bool Bool.false
  | .null => .undefined
  | .undefined => .undefined

end LiteralWord

/-! ## Phrases -/

mutual

/-- An expression. -/
inductive Phrase where
  | operand (o : OperandPhrase)
  | filtered (value : Phrase) (before after : Pad) (filter : FilterPhrase)

/-- A filter, with an argument or without. -/
inductive FilterPhrase where
  | bare (name : Word)
  | given (name : Word) (before after : Pad) (argument : OperandPhrase)

/-- What filters are applied to. A name without steps is no literal word. -/
inductive OperandPhrase where
  | literalWord (w : LiteralWord)
  | integer (negative : Bool) (whole : Digits)
  | decimal (negative : Bool) (whole fraction : Digits)
  | quotation (q : Quotation)
  | name (n : RootName) (plain : ∀ w : LiteralWord, n.text ≠ w.text)
  | trail (t : TrailPhrase)

/-- A name and steps from it, at least one. -/
inductive TrailPhrase where
  | start (root : RootName) (step : StepPhrase)
  | next (trail : TrailPhrase) (step : StepPhrase)

/-- A step of a trail. -/
inductive StepPhrase where
  | member (name : MemberName)
  | element (before : Pad) (key : Phrase) (after : Pad)
  | call

end

/-! ## Printing -/

/-- The sign of a number. -/
def signText (negative : Bool) : Text := if negative then ['-'] else []

mutual

/-- A phrase as text. -/
def Phrase.print : Phrase → Text
  | .operand o => o.print
  | .filtered value before after filter =>
    value.print ++ before.text ++ '|' :: (after.text ++ filter.print)

def FilterPhrase.print : FilterPhrase → Text
  | .bare name => name.text
  | .given name before after argument =>
    name.text ++ before.text ++ ':' :: (after.text ++ argument.print)

def OperandPhrase.print : OperandPhrase → Text
  | .literalWord w => w.text
  | .integer negative whole => signText negative ++ whole.text
  | .decimal negative whole fraction => signText negative ++ (whole.text ++ '.' :: fraction.text)
  | .quotation q => q.quote :: (q.body ++ [q.quote])
  | .name n _ => n.text
  | .trail t => t.print

def TrailPhrase.print : TrailPhrase → Text
  | .start root step => root.text ++ step.print
  | .next trail step => trail.print ++ step.print

def StepPhrase.print : StepPhrase → Text
  | .member name => '.' :: name.text
  | .element before key after => '[' :: (before.text ++ key.print ++ after.text ++ [']'])
  | .call => ['(', ')']

end

/-! ## Meaning -/

section Meaning

variable (filters : Filters) (c : Context)

/-- A filter applied to a value: the value itself if the filter is not known or fails. -/
def applyFilter (name : Text) (v : Value) (run : Filter → Eval Value) : Eval Value :=
  match filters.lookup name with
  | none => pure v
  | some f => Eval.orElse (run f) fun e => do
    Eval.report "expressions".toList "Filter failed".toList ("filter".toList, .text name) e
    pure v

/-- A step from a value; there is none from the undefined value. -/
def stepFrom (step : Value → Eval Value) : Value → Eval Value
  | .undefined => pure .undefined
  | v => step v

mutual

/-- The value of a phrase in a context. -/
def Phrase.meaning : Phrase → Eval Value
  | .operand o => o.meaning
  | .filtered value _ _ filter => do
    let v ← value.meaning
    filter.meaning v

/-- What a filter gives for a value. Its argument is evaluated in the same context, if the filter is
known. -/
def FilterPhrase.meaning (v : Value) : FilterPhrase → Eval Value
  | .bare name => applyFilter filters name.text v fun f => f v none
  | .given name _ _ argument => applyFilter filters name.text v fun f => do
    let a ← argument.meaning
    f v (some a)

def OperandPhrase.meaning : OperandPhrase → Eval Value
  | .literalWord w => pure w.value
  | .integer negative whole => Eval.ofExcept (Literal.integer negative whole.text).value
  | .decimal negative whole fraction =>
    pure (.float (.ofDecimal negative (Text.digitsValue (whole.text ++ fraction.text))
      (-fraction.text.length)))
  | .quotation q => pure (.text q.body)
  | .name n _ => pure (c.get n.text)
  | .trail t => t.meaning t.print

/-- The value at the end of a trail, which is given as reports show it. -/
def TrailPhrase.meaning (written : Text) : TrailPhrase → Eval Value
  | .start root step => stepFrom (step.meaning written) (c.get root.text)
  | .next trail step => do
    let v ← trail.meaning written
    stepFrom (step.meaning written) v

def StepPhrase.meaning (written : Text) (v : Value) : StepPhrase → Eval Value
  | .member name => v.member name.text
  | .element _ key _ => do
    let k ← key.meaning
    v.item k
  | .call => v.call written

end

end Meaning

end Stencil
