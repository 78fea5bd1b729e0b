import Stencil.Template.Node
import Stencil.Template.Tag

/-!
# Frames

Tokens become a tree in one pass from left to right. Each tag that opens a conditional, loop or
block puts a frame on a stack; nodes go into the body of the innermost frame, and a closing tag
turns that frame into a node of the next one. Parsing fails at the first token that cannot be
placed, or at the innermost open tag when the source ends too early.
-/

set_option autoImplicit false

namespace Stencil

/-- Why a source is not a template. -/
inductive SyntaxCause where
  /-- A tag that neither closes nor continues the innermost open tag. -/
  | unexpected (keyword : Text)
  /-- A tag whose arguments do not have the expected form. -/
  | malformed (keyword expected : Text)
  /-- A tag that is still open at the end. -/
  | unclosed (keyword : Text)
  deriving DecidableEq, Repr

/-- A failure to parse, with the token at which it shows. -/
structure SyntaxProblem where
  cause : SyntaxCause
  token : Token
  deriving DecidableEq, Repr

/-- What an open tag will become when it is closed. -/
inductive Frame.Header where
  /-- A conditional: the finished branches, and the test of the branch that is being filled. -/
  | conditional (finished : List (Branch Node)) (test : Option Text)
  | loop (names : List Text) (iterable : Text)
  | block (name : Text)

/-- An open tag and the nodes gathered since, which form the body that is being filled. -/
structure Frame where
  opened : Token
  header : Frame.Header
  body : List Node

namespace Frame

/-- The construct that a frame belongs to. -/
def construct (f : Frame) : Construct :=
  match f.header with
  | .conditional _ _ => .conditional
  | .loop _ _ => .loop
  | .block _ => .block

/-- The node that a frame becomes when it is closed. -/
def close (f : Frame) : Node :=
  match f.header with
  | .conditional finished test => .conditional (finished ++ [⟨test, f.body⟩])
  | .loop names iterable => .loop names iterable f.body
  | .block name => .block name f.body

/-- Ends the current branch of a conditional and begins another; there is none to begin after the
branch without a test. -/
def continueWith (f : Frame) (test : Option Text) : Option Frame :=
  match f.header with
  | .conditional finished (some current) =>
    some { f with header := .conditional (finished ++ [⟨some current, f.body⟩]) test, body := [] }
  | _ => none

end Frame

/-- How far parsing has come: the finished top-level nodes and the open frames, innermost first. -/
structure Progress where
  root : List Node
  frames : List Frame

namespace Progress

/-- The state before the first token. -/
def start : Progress := ⟨[], []⟩

/-- Adds a node to the innermost body. -/
def insert (p : Progress) (n : Node) : Progress :=
  match p.frames with
  | [] => { p with root := p.root ++ [n] }
  | f :: rest => { p with frames := { f with body := f.body ++ [n] } :: rest }

/-- Opens a frame. -/
def push (p : Progress) (opened : Token) (header : Frame.Header) : Progress :=
  { p with frames := ⟨opened, header, []⟩ :: p.frames }

/-- Begins another branch of the innermost frame. -/
def continueWith (p : Progress) (t : Token) (keyword : Text) (test : Option Text) :
    Except SyntaxProblem Progress :=
  match p.frames with
  | [] => .error ⟨.unexpected keyword, t⟩
  | f :: rest => match f.continueWith test with
    | some g => .ok { p with frames := g :: rest }
    | none => .error ⟨.unexpected keyword, t⟩

/-- Closes the innermost frame, which must belong to the given construct. -/
def close (p : Progress) (t : Token) (c : Construct) : Except SyntaxProblem Progress :=
  match p.frames with
  | [] => .error ⟨.unexpected c.endKeyword, t⟩
  | f :: rest =>
    if f.construct = c then .ok (insert { p with frames := rest } f.close)
    else .error ⟨.unexpected c.endKeyword, t⟩

/-- Takes in one tag. -/
def stepTag (p : Progress) (t : Token) : Except SyntaxProblem Progress :=
  match Tag.ofContent t.content with
  | .openIf test => .ok (p.push t (.conditional [] (some test)))
  | .openFor names iterable => .ok (p.push t (.loop names iterable))
  | .openBlock name => .ok (p.push t (.block name))
  | .elseIf test => p.continueWith t "elif".toList (some test)
  | .otherwise => p.continueWith t "else".toList none
  | .close c => p.close t c
  | .inclusion path => .ok (p.insert (.inclusion path))
  | .extension path => .ok (p.insert (.extension path))
  | .malformed keyword expected => .error ⟨.malformed keyword expected, t⟩
  | .unknown => .ok (p.insert (.text t.raw))

/-- Takes in one token. -/
def step (p : Progress) (t : Token) : Except SyntaxProblem Progress :=
  match t.kind with
  | .text => .ok (p.insert (.text t.content))
  | .expression => .ok (p.insert (.interpolation t.content (some t.position)))
  | .tag => p.stepTag t
  | .comment => .ok p

/-- The tree, once all tokens are taken in and no frame is open. -/
def finish (p : Progress) : Except SyntaxProblem (List Node) :=
  match p.frames with
  | [] => .ok p.root
  | f :: _ => .error ⟨.unclosed f.construct.keyword, f.opened⟩

/-- Takes in tokens in order, up to the first that cannot be placed. -/
def run (p : Progress) : List Token → Except SyntaxProblem Progress
  | [] => .ok p
  | t :: rest => match p.step t with
    | .ok q => q.run rest
    | .error e => .error e

end Progress

namespace Node

/-- The tree that tokens form. -/
def ofTokens? (tokens : List Token) : Except SyntaxProblem (List Node) :=
  match Progress.start.run tokens with
  | .ok p => p.finish
  | .error e => .error e

/-- The tree of a source. -/
def ofSource? (source : Text) : Except SyntaxProblem (List Node) :=
  ofTokens? (Token.ofSource source)

end Node
end Stencil
