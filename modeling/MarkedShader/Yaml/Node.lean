import MarkedShader.Yaml.Resolve
import MarkedShader.Yaml.Token

/-! Nodes: what the tokens of a YAML document say, before it is known what its scalars stand for. An
alias is the very node that it names, so that the nodes of a document make up a graph. -/
namespace MarkedShader.Yaml

/-- What a node is made of. Other nodes are given by their numbers. -/
inductive Content
  | scalar (text : Text)
  | sequence (items : List Nat)
  | mapping (entries : List (Nat × Nat))
  deriving DecidableEq, Repr

structure Node where
  kind : Kind
  content : Content
  deriving DecidableEq, Repr

/-- All nodes of a document, each in the place of its number. -/
abbrev Nodes := Array Node

namespace Nodes

def kind (ns : Nodes) (n : Nat) : Kind := (ns[n]?.map (·.kind)).getD .unknown

def content (ns : Nodes) (n : Nat) : Content := (ns[n]?.map (·.content)).getD (.scalar [])

def entries (ns : Nodes) (n : Nat) : List (Nat × Nat) :=
  match ns.content n with
  | .mapping es => es
  | _ => []

def withContent (ns : Nodes) (n : Nat) (content : Content) : Nodes :=
  ns.modify n fun node => { node with content }

def withKind (ns : Nodes) (n : Nat) (kind : Kind) : Nodes :=
  ns.modify n fun node => { node with kind }

end Nodes

/-- The tokens that are left, and the nodes that have been read or begun. -/
structure Feed where
  tokens : List Token
  /-- The fault met where the tokens end. -/
  ending : Fault
  /-- What the handles of tags stand for. -/
  handles : List (Text × Text) := []
  nodes : Nodes := #[]
  /-- The nodes that have been named. -/
  names : List (Text × Nat) := []
  /-- How many collections have been begun and are not complete. -/
  depth : Nat := 0

namespace Feed

def peek (f : Feed) : Except Fault Token :=
  match f.tokens with
  | t :: _ => .ok t
  | [] => .error f.ending

def drop (f : Feed) : Feed := { f with tokens := f.tokens.drop 1 }

/-- Pass a token that has to come next. -/
def expect (f : Feed) (t : Token) : Except Fault Feed := do
  if (← f.peek) = t then .ok f.drop else .error .invalid

end Feed

/-- What stands before a node: its name and its tag. -/
structure Properties where
  anchor : Option Text := none
  tag : Option Tag := none

namespace Properties

def isEmpty (p : Properties) : Bool := p.anchor.isNone && p.tag.isNone

/-- The tag that does not say what a node is. -/
def anyTag : Text := ['!']

/-- The kind of a node; `usual` is what it is without a tag. -/
def kindOr (p : Properties) (usual : Kind) : Kind :=
  match p.tag with
  | none => usual
  | some tag => if tag.suffix = anyTag then usual else .ofTag tag.suffix

/-- The kind of a scalar. A text in quotes is a text, unless the tag says that it can be
anything. -/
def kindOf (p : Properties) (t : Text) (isPlain : Bool) : Kind :=
  p.kindOr (if isPlain || p.tag.isSome then .resolve t else .text)

end Properties

namespace Feed

def anchor (f : Feed) (p : Properties) : Except Fault (Properties × Feed) := do
  match ← f.peek with
  | .anchor name => .ok ({ p with anchor := some name }, f.drop)
  | _ => .ok (p, f)

def tag (f : Feed) (p : Properties) : Except Fault (Properties × Feed) := do
  match ← f.peek with
  | .tag tag => .ok ({ p with tag := some tag }, f.drop)
  | _ => .ok (p, f)

/-- A tag with what its handle stands for in its place. -/
def whole (f : Feed) (tag : Tag) : Except Fault Tag :=
  match tag.handle with
  | none => .ok tag
  | some handle => match f.handles.lookup handle with
    | some pre => .ok ⟨none, pre ++ tag.suffix⟩
    | none => .error .invalid

/-- The name and the tag before a node, in either order. -/
def properties (f : Feed) : Except Fault (Properties × Feed) := do
  let (p, g) ← f.anchor {}
  let (p, g) ← g.tag p
  let (p, g) ← if p.anchor.isNone && p.tag.isSome then g.anchor p else .ok (p, g)
  .ok ({ p with tag := ← p.tag.mapM f.whole }, g)

/-- A new node, with its name if it has one. A name is used once. -/
def add (f : Feed) (p : Properties) (node : Node) : Except Fault (Nat × Feed) :=
  let n := f.nodes.size
  match p.anchor with
  | none => .ok (n, { f with nodes := f.nodes.push node })
  | some name =>
    if (f.names.lookup name).isSome then .error .invalid
    else .ok (n, { f with nodes := f.nodes.push node, names := (name, n) :: f.names })

/-- The node of what is left out. -/
def addEmpty (f : Feed) : Nat × Feed :=
  let n := f.nodes.size
  (n, { f with nodes := f.nodes.push ⟨.null, .scalar []⟩ })

/-- How many collections can stand in each other. -/
def depthLimit : Nat := 488

/-- Begin a collection, which has its name from now on. -/
def enter (f : Feed) (p : Properties) (usual : Kind) (content : Content) :
    Except Fault (Nat × Feed) :=
  if f.depth = depthLimit then .error .tooDeep
  else ({ f with depth := f.depth+1 } : Feed).add p ⟨p.kindOr usual, content⟩

def enterSequence (f : Feed) (p : Properties) : Except Fault (Nat × Feed) :=
  f.enter p .list (.sequence [])

def enterMapping (f : Feed) (p : Properties) : Except Fault (Nat × Feed) :=
  f.enter p .mapping (.mapping [])

/-- Complete a collection. -/
def complete (f : Feed) (n : Nat) (content : Content) : Nat × Feed :=
  (n, { f with depth := f.depth-1, nodes := f.nodes.withContent n content })

end Feed

/-- Where a node may be left out in a block sequence. -/
def endsItem (t : Token) : Bool := t == .dash || t == .blockEnd

/-- Where a node may be left out in a sequence that is not indented more than its mapping. -/
def endsLooseItem (t : Token) : Bool := t == .dash || t == .key || t == .value || t == .blockEnd

/-- Where a key or value may be left out in a block mapping. -/
def endsEntry (t : Token) : Bool := t == .key || t == .value || t == .blockEnd

/-- Where a key or value may be left out in a flow collection. -/
def endsFlowEntry (closing t : Token) : Bool := t == .value || t == .comma || t == closing

/-- Whether a node is in block context, and whether a sequence there may lack an indentation of its
own. -/
inductive Context
  | flow | block | value
  deriving DecidableEq, Repr

mutual
/-- The node that comes next. -/
def Node.read (fuel : Nat) (context : Context) (f : Feed) : Except Fault (Nat × Feed) :=
  match fuel with
  | 0 => .error .invalid
  | fuel+1 => do
    if let .alias name ← f.peek then
      match f.names.lookup name with
      | some n => return (n, f.drop)
      | none => throw .invalid
    let (p, f) ← f.properties
    let next ← f.peek
    match next with
    | .dash =>
      if context = .value then
        let (n, f) ← f.enterSequence p
        let (items, f) ← looseItems fuel f
        return f.complete n (.sequence items)
    | .scalar t isPlain => return ← f.drop.add p ⟨p.kindOf t isPlain, .scalar t⟩
    | .flowSequence =>
      let (n, f) ← f.drop.enterSequence p
      let (items, f) ← flowItems fuel true f
      return f.complete n (.sequence items)
    | .flowMapping =>
      let (n, f) ← f.drop.enterMapping p
      let (es, f) ← flowEntries fuel true f
      return f.complete n (.mapping es)
    | .blockSequence =>
      if context ≠ .flow then
        let (n, f) ← f.drop.enterSequence p
        let (items, f) ← blockItems fuel f
        return f.complete n (.sequence items)
    | .blockMapping =>
      if context ≠ .flow then
        let (n, f) ← f.drop.enterMapping p
        let (es, f) ← blockEntries fuel f
        return f.complete n (.mapping es)
    | _ => pure ()
    if p.isEmpty then throw .invalid
    f.add p ⟨p.kindOf [] true, .scalar []⟩

/-- The node that comes next, which is empty where it is left out. -/
def Node.readUnless (fuel : Nat) (ends : Token → Bool) (context : Context) (f : Feed) :
    Except Fault (Nat × Feed) :=
  match fuel with
  | 0 => .error .invalid
  | fuel+1 => do if ends (← f.peek) then .ok f.addEmpty else Node.read fuel context f

def blockItems (fuel : Nat) (f : Feed) : Except Fault (List Nat × Feed) :=
  match fuel with
  | 0 => .error .invalid
  | fuel+1 => do
    if (← f.peek) ≠ .dash then return ([], ← f.expect .blockEnd)
    let (n, f) ← Node.readUnless fuel endsItem .block f.drop
    let (ns, f) ← blockItems fuel f
    .ok (n :: ns, f)

def looseItems (fuel : Nat) (f : Feed) : Except Fault (List Nat × Feed) :=
  match fuel with
  | 0 => .error .invalid
  | fuel+1 => do
    if (← f.peek) ≠ .dash then return ([], f)
    let (n, f) ← Node.readUnless fuel endsLooseItem .block f.drop
    let (ns, f) ← looseItems fuel f
    .ok (n :: ns, f)

/-- Each entry has a key mark and perhaps a value mark. -/
def blockEntries (fuel : Nat) (f : Feed) : Except Fault (List (Nat × Nat) × Feed) :=
  match fuel with
  | 0 => .error .invalid
  | fuel+1 => do
    let (key, f) ← match ← f.peek with
      | .key => Node.readUnless fuel endsEntry .value f.drop
      | .blockEnd => return ([], f.drop)
      | _ => throw .invalid
    let (value, f) ← match ← f.peek with
      | .value => Node.readUnless fuel endsEntry .value f.drop
      | _ => .ok f.addEmpty
    let (es, f) ← blockEntries fuel f
    .ok ((key, value) :: es, f)

/-- An item with a key mark is a mapping of one entry. -/
def flowItems (fuel : Nat) (isFirst : Bool) (f : Feed) : Except Fault (List Nat × Feed) :=
  match fuel with
  | 0 => .error .invalid
  | fuel+1 => do
    if (← f.peek) = .flowSequenceEnd then return ([], f.drop)
    let f ← if isFirst then .ok f else f.expect .comma
    let (n, f) ← match ← f.peek with
      | .flowSequenceEnd => return ([], f.drop)
      | .key =>
        let (n, f) ← f.drop.enterMapping {}
        let (e, f) ← flowPair fuel .flowSequenceEnd f
        .ok (f.complete n (.mapping [e]))
      | _ => Node.read fuel .flow f
    let (ns, f) ← flowItems fuel false f
    .ok (n :: ns, f)

/-- The key and the value after a key mark in a flow collection. -/
def flowPair (fuel : Nat) (closing : Token) (f : Feed) : Except Fault ((Nat × Nat) × Feed) :=
  match fuel with
  | 0 => .error .invalid
  | fuel+1 => do
    let (key, f) ← Node.readUnless fuel (endsFlowEntry closing) .flow f
    let (value, f) ←
      if (← f.peek) = .value then
        Node.readUnless fuel (fun t => t == .comma || t == closing) .flow f.drop
      else .ok f.addEmpty
    .ok ((key, value), f)

def flowEntries (fuel : Nat) (isFirst : Bool) (f : Feed) : Except Fault (List (Nat × Nat) × Feed) :=
  match fuel with
  | 0 => .error .invalid
  | fuel+1 => do
    if (← f.peek) = .flowMappingEnd then return ([], f.drop)
    let f ← if isFirst then .ok f else f.expect .comma
    let (e, f) ← match ← f.peek with
      | .flowMappingEnd => return ([], f.drop)
      | .key => flowPair fuel .flowMappingEnd f.drop
      | _ =>
        let (key, f) ← Node.read fuel .flow f
        let (value, f) := f.addEmpty
        .ok ((key, value), f)
    let (es, f) ← flowEntries fuel false f
    .ok (e :: es, f)
end

def defaultHandles : List (Text × Text) := [(['!'], ['!']), (['!', '!'], Kind.tagPrefix)]

/-- The directives before a document. Each can be given once. -/
def Feed.directives (hasVersion : Bool) (fuel : Nat) (f : Feed) : Except Fault Feed :=
  match fuel with
  | 0 => .error .invalid
  | fuel+1 => do
    match ← f.peek with
    | .directive (.version major) =>
      if hasVersion || major ≠ 1 then .error .invalid else f.drop.directives true fuel
    | .directive (.tagPrefix handle pre) =>
      if (f.handles.lookup handle).isSome then .error .invalid
      else ({ f.drop with handles := (handle, pre) :: f.handles } : Feed).directives hasVersion fuel
    | .directive .other => f.drop.directives hasVersion fuel
    | _ => .ok { f with handles := f.handles ++ defaultHandles }

/-- Whether a token ends a document that holds nothing. -/
def endsDocument : Token → Bool
  | .directive _ | .documentStart | .documentEnd | .streamEnd => true
  | _ => false

/-- The end of the stream, before which a document may be ended several times. -/
def Feed.finish (fuel : Nat) (f : Feed) : Except Fault Unit :=
  match fuel with
  | 0 => .error .invalid
  | fuel+1 => do
    match ← f.peek with
    | .streamEnd => .ok ()
    | .documentEnd => f.drop.finish fuel
    | _ => do
      let _ ← ({ f with handles := [] } : Feed).directives false fuel
      .error .invalid

/-- A document: its nodes, and the number of the one that holds all others. -/
structure Document where
  nodes : Nodes
  root : Nat

/-- The only document of a stream; `none` if there is none. -/
def Document.read (fuel : Nat) (f : Feed) : Except Fault (Option Document) := do
  match ← f.peek with
  | .streamEnd => .ok none
  | .directive _ | .documentStart =>
    let f ← (← f.directives false fuel).expect .documentStart
    let (root, f) ← Node.readUnless fuel endsDocument .block f
    f.finish fuel
    .ok (some ⟨f.nodes, root⟩)
  | _ =>
    let (root, f) ← Node.read fuel .block { f with handles := defaultHandles }
    f.finish fuel
    .ok (some ⟨f.nodes, root⟩)

/-- Characters that may stand in a document. -/
def isAllowed (c : Char) : Bool :=
  let n := c.toNat
  n == 9 || n == 10 || n == 13 || (0x20 ≤ n && n ≤ 0x7E) || n == 0x85 ||
    (0xA0 ≤ n && n ≤ 0xFFFD) || 0x10000 ≤ n

/-- The document that a text holds. -/
def Document.ofText (t : Text) : Except Fault (Option Document) :=
  if !t.all isAllowed then .error .invalid else
  let (tokens, ending) := Token.ofText t
  Document.read (4*tokens.length+8) { tokens, ending }

end MarkedShader.Yaml
