import Stencil.Yaml.Token
import Stencil.Yaml.Scalar
import Stencil.Value.Key
import Stencil.Settings.Loader

/-!
# YAML documents

A reader of documents for hosts that have none of their own: the value of a text that holds at most
one document, in the part of YAML that settings are written in. Mappings keep their keys in the order
of their first appearance, and a repeated key takes the last value. Aliases stand for the value of the
anchor before them. Nothing about settings depends on this reader.
-/

set_option autoImplicit false

namespace Stencil.Yaml

/-- What a node is before numbers and the like are told from texts. -/
inductive Node where
  | scalar (text : Text) (plain : Bool)
  | sequence (items : List Node)
  | mapping (entries : List (Node × Node))
  deriving Repr

/-- A node that is not written. -/
def Node.blank : Node := .scalar [] true

/-- What is left to read: the tokens, and the anchors that were read. -/
structure Reader where
  tokens : List Token
  anchors : List (Text × Node)

namespace Reader

/-- The next token. -/
def peek? (r : Reader) : Option Token := r.tokens.head?

/-- Passes a token. -/
def next (r : Reader) : Reader := { r with tokens := r.tokens.drop 1 }

/-- Whether the next token is one of some. -/
def sees (r : Reader) (ts : List Token) : Bool := (r.peek?.map ts.contains).getD false

/-- The tag that makes any scalar a text. -/
def isTextTag (t : Text) : Bool := t == "!str".toList

/-- The tags of collections, which change nothing. -/
def isCollectionTag (t : Text) : Bool := t == "!map".toList || t == "!seq".toList

/-- A node with what its tag makes of it. An empty tag makes any scalar a plain one. -/
def tagged (tag : Option Text) (n : Node) : Except Problem Node :=
  match tag, n with
  | none, n => .ok n
  | some [], .scalar text _ => .ok (.scalar text true)
  | some [], n => .ok n
  | some t, n =>
    match n with
    | .scalar text plain =>
      if isTextTag t then .ok (.scalar text false)
      else if plain && ["!int", "!float", "!bool", "!null"].any (·.toList == t) then
        .ok (.scalar text plain)
      else malformed "could not determine a constructor for the tag"
    | n =>
      if isCollectionTag t then .ok n
      else malformed "could not determine a constructor for the tag"

/-- Reads the anchor and the tag before a node, in either order. -/
def properties (r : Reader) : Option Text × Option Text × Reader :=
  match r.peek? with
  | some (.anchor a) => match r.next.peek? with
    | some (.tag t) => (some a, some t, r.next.next)
    | _ => (some a, none, r.next)
  | some (.tag t) => match r.next.peek? with
    | some (.anchor a) => (some a, some t, r.next.next)
    | _ => (none, some t, r.next)
  | _ => (none, none, r)

/-- What is read at a place. -/
inductive Goal where
  /-- A node: whether block collections may begin, and whether a sequence may stand as far left as
  the mapping around it. -/
  | node (block indentless : Bool)
  /-- The entries of a block sequence, up to its end. -/
  | entries
  /-- The entries of a sequence that stands as far left as the mapping around it. -/
  | indentlessEntries
  /-- The members of a block mapping, up to its end. -/
  | members
  /-- The items of a flow sequence; the first one has no comma before it. -/
  | items (first : Bool)
  /-- The members of a flow mapping; the first one has no comma before it. -/
  | flowMembers (first : Bool)

/-- What was read: a node, a list of nodes, or a list of members. -/
inductive Result where
  | node (n : Node)
  | nodes (ns : List Node)
  | pairs (ps : List (Node × Node))

/-- The node that was read. -/
def Result.toNode : Result → Node
  | .node n => n
  | .nodes ns => .sequence ns
  | .pairs ps => .mapping ps

/-- The nodes that were read. -/
def Result.list : Result → List Node
  | .nodes ns => ns
  | _ => []

/-- The members that were read. -/
def Result.members : Result → List (Node × Node)
  | .pairs ps => ps
  | _ => []

/-- Reads what a goal asks for. Every step passes a token or goes down to a goal inside, so that the
number of steps is bounded by that of the tokens. -/
def read : Nat → Goal → Reader → Except Problem (Result × Reader)
  | 0, _, _ => malformed "the document is nested too deeply"
  | steps + 1, goal, r =>
    let node (block indentless : Bool) (r : Reader) : Except Problem (Node × Reader) := do
      let (n, r) ← read steps (.node block indentless) r
      .ok (n.toNode, r)
    -- A node, unless one of some tokens follows at once.
    let nodeUnless (stops : List Token) (block indentless : Bool) (r : Reader) :
        Except Problem (Node × Reader) :=
      if r.sees stops then .ok (.blank, r) else node block indentless r
    match goal with
    | .node block indentless =>
      match r.peek? with
      | some (.alias name) =>
        match r.anchors.lookup name with
        | some n => .ok (.node n, r.next)
        | none => malformed "found undefined alias"
      | _ => do
        let (anchor, tag, r) := r.properties
        let (n, r) ← (match r.peek? with
          | some .entry =>
            if indentless then do
              let (ns, r) ← read steps .indentlessEntries r
              .ok (ns.toNode, r)
            else malformed "expected the node content"
          | some (.scalar t plain) => .ok (.scalar t plain, r.next)
          | some .openSequence => do
            let (ns, r) ← read steps (.items true) r.next
            .ok (ns.toNode, r)
          | some .openMapping => do
            let (ps, r) ← read steps (.flowMembers true) r.next
            .ok (ps.toNode, r)
          | some .blockSequence =>
            if block then do
              let (ns, r) ← read steps .entries r.next
              .ok (ns.toNode, r)
            else malformed "expected the node content"
          | some .blockMapping =>
            if block then do
              let (ps, r) ← read steps .members r.next
              .ok (ps.toNode, r)
            else malformed "expected the node content"
          | _ =>
            if anchor.isSome || tag.isSome then .ok (.blank, r)
            else malformed "expected the node content" : Except Problem (Node × Reader))
        let n ← tagged tag n
        let r := match anchor with
          | some a => { r with anchors := (a, n) :: r.anchors }
          | none => r
        .ok (.node n, r)
    | .entries =>
      match r.peek? with
      | some .entry => do
        let (n, r) ← nodeUnless [.entry, .blockEnd] true false r.next
        let (others, r) ← read steps .entries r
        .ok (.nodes (n :: others.list), r)
      | some .blockEnd => .ok (.nodes [], r.next)
      | _ => malformed "expected <block end>"
    | .indentlessEntries =>
      match r.peek? with
      | some .entry => do
        let (n, r) ← nodeUnless [.entry, .key, .value, .blockEnd] true false r.next
        let (others, r) ← read steps .indentlessEntries r
        .ok (.nodes (n :: others.list), r)
      | _ => .ok (.nodes [], r)
    | .members =>
      let value (r : Reader) : Except Problem (Node × Reader) :=
        if r.sees [.value] then nodeUnless [.key, .value, .blockEnd] true true r.next
        else .ok (.blank, r)
      match r.peek? with
      | some .key => do
        let (k, r) ← nodeUnless [.key, .value, .blockEnd] true true r.next
        let (v, r) ← value r
        let (others, r) ← read steps .members r
        .ok (.pairs ((k, v) :: others.members), r)
      | some .value => do
        let (v, r) ← value r
        let (others, r) ← read steps .members r
        .ok (.pairs ((.blank, v) :: others.members), r)
      | some .blockEnd => .ok (.pairs [], r.next)
      | _ => malformed "expected <block end>"
    | .items first =>
      if r.sees [.closeSequence] then .ok (.nodes [], r.next)
      else if !first && !r.sees [.comma] then malformed "expected ',' or ']'"
      else
        let r := if first then r else r.next
        match r.peek? with
        | some .closeSequence => .ok (.nodes [], r.next)
        | some .key => do
          let (k, r) ← nodeUnless [.value, .comma, .closeSequence] false false r.next
          let (v, r) ←
            if r.sees [.value] then nodeUnless [.comma, .closeSequence] false false r.next
            else .ok (.blank, r)
          let (others, r) ← read steps (.items false) r
          .ok (.nodes (.mapping [(k, v)] :: others.list), r)
        | _ => do
          let (n, r) ← node false false r
          let (others, r) ← read steps (.items false) r
          .ok (.nodes (n :: others.list), r)
    | .flowMembers first =>
      if r.sees [.closeMapping] then .ok (.pairs [], r.next)
      else if !first && !r.sees [.comma] then malformed "expected a comma or the end of the mapping"
      else
        let r := if first then r else r.next
        match r.peek? with
        | some .closeMapping => .ok (.pairs [], r.next)
        | some .key => do
          let (k, r) ← nodeUnless [.value, .comma, .closeMapping] false false r.next
          let (v, r) ←
            if r.sees [.value] then nodeUnless [.comma, .closeMapping] false false r.next
            else .ok (.blank, r)
          let (others, r) ← read steps (.flowMembers false) r
          .ok (.pairs ((k, v) :: others.members), r)
        | _ => do
          let (k, r) ← node false false r
          let (others, r) ← read steps (.flowMembers false) r
          .ok (.pairs ((k, .blank) :: others.members), r)

/-- Passes the tokens of one kind. -/
def passAll (r : Reader) (t : Token) : Reader :=
  { r with tokens := r.tokens.dropWhile (· == t) }

/-- Passes the beginning of a document, which has to be marked if directives precede it, and tells
whether it was marked. -/
def documentStart (r : Reader) : Except Problem (Bool × Reader) :=
  if r.sees [.directive] then
    let r := r.passAll .directive
    if r.sees [.documentStart] then .ok (true, r.next) else malformed "expected '<document start>'"
  else if r.sees [.documentStart] then .ok (true, r.next)
  else .ok (false, r)

/-- Reads the only document; without any, there is nothing. A document whose beginning is marked may
be empty. -/
def document (r : Reader) : Except Problem (Option Node) := do
  let bound := 4 * r.tokens.length + 4
  if r.tokens.isEmpty then .ok none
  else
    let (marked, r) ← r.documentStart
    let (n, r) ←
      if marked && (r.tokens.isEmpty || r.sees [.directive, .documentStart, .documentEnd]) then
        .ok (Node.blank, r)
      else do
        let (n, r) ← read bound (.node true false) r
        .ok (n.toNode, r)
    let r := r.passAll .documentEnd
    if r.tokens.isEmpty then .ok (some n)
    else malformed "expected a single document in the stream"

end Reader

mutual

/-- The value of a node. -/
def valueOf : Node → Except Problem Value
  | .scalar t plain => if plain then plainValue t else .ok (.text t)
  | .sequence items => do .ok (.list (← valuesOf items))
  | .mapping entries => do .ok (.dict (← entriesOf [] entries))

/-- The values of nodes. -/
def valuesOf : List Node → Except Problem (List Value)
  | [] => .ok []
  | n :: rest => do
    let v ← valueOf n
    let others ← valuesOf rest
    .ok (v :: others)

/-- The entries of a mapping, after those that were read. -/
def entriesOf (done : List (Value × Value)) :
    List (Node × Node) → Except Problem (List (Value × Value))
  | [] => .ok done
  | (k, v) :: rest => do
    let key ← valueOf k
    if !key.isKey then malformed "found unhashable key"
    else do
      let value ← valueOf v
      entriesOf (Value.store key value done) rest

end

/-- The value of a text that holds at most one document. -/
def parse (t : Text) : Except Problem Value := do
  let ts ← tokens? t
  match ← Reader.document ⟨ts, []⟩ with
  | none => .ok .undefined
  | some n => valueOf n

/-- What a host makes of a text that has this reader. -/
def document (t : Text) : Except DocumentProblem Value :=
  match parse t with
  | .ok v => .ok v
  | .error (.malformed reason) => .error (.malformed reason)
  | .error (.tooManyDigits count) => .error (.broken (.tooManyDigits (some count)))

end Stencil.Yaml
