import MarkedShader.Yaml.Literal
import MarkedShader.Yaml.Plain
import MarkedShader.Yaml.Tag

/-! The tokens of a YAML document. A key without a mark is known only by the colon after it; its
token is then put in where the key began. -/
namespace MarkedShader.Yaml

inductive Token
  | directive (directive : Directive)
  | documentStart
  | documentEnd
  | streamEnd
  | blockSequence
  | blockMapping
  | blockEnd
  | flowSequence
  | flowSequenceEnd
  | flowMapping
  | flowMappingEnd
  | dash
  | comma
  | key
  | value
  | alias (name : Text)
  | anchor (name : Text)
  | tag (tag : Tag)
  | scalar (text : Text) (isPlain : Bool)
  deriving DecidableEq, Repr

/-- A place where a key without a mark may have begun. -/
structure Candidate where
  flowLevel : Nat
  /-- The number of the token that begins there. -/
  token : Nat
  index : Nat
  line : Nat
  column : Nat
  /-- Whether nothing but a key can stand there. -/
  isRequired : Bool
  deriving Repr

/-- What has been read so far. -/
structure Scan where
  cursor : Cursor
  tokens : Array Token := #[]
  flowLevel : Nat := 0
  /-- The column of the innermost block collection, and those of the ones around it. -/
  indent : Int := -1
  outer : List Int := []
  /-- Whether a key without a mark may begin here. -/
  allowsKey : Bool := true
  /-- At most one place in each flow level. -/
  candidates : List Candidate := []

namespace Scan

/-- How long a key without a mark can be. -/
def keyLimit : Nat := 1024

def push (s : Scan) (t : Token) : Scan := { s with tokens := s.tokens.push t }

def isStale (s : Scan) (k : Candidate) : Bool :=
  k.line != s.cursor.line || keyLimit < s.cursor.index - k.index

/-- Give up the places that are too far back. -/
def dropStale (s : Scan) : Except Fault Scan :=
  if s.candidates.any fun k => s.isStale k && k.isRequired then .error .invalid
  else .ok { s with candidates := s.candidates.filter fun k => !s.isStale k }

/-- Give up the place of the present flow level. -/
def dropCandidate (s : Scan) : Except Fault Scan :=
  if s.candidates.any fun k => k.flowLevel = s.flowLevel && k.isRequired then .error .invalid
  else .ok { s with candidates := s.candidates.filter fun k => k.flowLevel ≠ s.flowLevel }

/-- Note that a key may begin here. -/
def saveCandidate (s : Scan) : Except Fault Scan :=
  if !s.allowsKey then .ok s else do
  let s ← s.dropCandidate
  .ok { s with candidates :=
                 ⟨s.flowLevel, s.tokens.size, s.cursor.index, s.cursor.line, s.cursor.column,
    s.flowLevel = 0 && s.indent = s.cursor.column⟩ :: s.candidates }

/-- End the block collections that begin to the right of a column. -/
def unwindFrom (column indent : Int) (tokens : Array Token) :
    List Int → Int × List Int × Array Token
  | [] => (indent, [], tokens)
  | o :: os =>
    if column < indent then unwindFrom column o (tokens.push .blockEnd) os
      else (indent, o :: os, tokens)

def unwind (s : Scan) (column : Int) : Scan :=
  if s.flowLevel ≠ 0 then s else
  let (indent, outer, tokens) := unwindFrom column s.indent s.tokens s.outer
  { s with indent, outer, tokens }

/-- Begin a block collection at a column, unless one has begun there; its token gets a number. -/
def beginBlock (s : Scan) (column : Nat) (place : Nat) (t : Token) : Scan :=
  if s.flowLevel = 0 && s.indent < column then
    { s with indent := column, outer := s.indent :: s.outer
             tokens := s.tokens.insertIdxIfInBounds place t }
  else s

/-- Take a token of some characters, after which a key without a mark may or may not begin. -/
def take (s : Scan) (t : Token) (length : Nat) (allowsKey : Bool) : Scan :=
  { s with tokens := s.tokens.push t, cursor := s.cursor.past length, allowsKey }

/-- Take what a reader has read. -/
def become (s : Scan) (t : Token) (cursor : Cursor) (allowsKey : Bool) : Scan :=
  { s with tokens := s.tokens.push t, cursor, allowsKey }

def openFlow (s : Scan) (t : Token) : Except Fault Scan := do
  let s ← s.saveCandidate
  .ok { s.take t 1 true with flowLevel := s.flowLevel+1 }

/-- No flow collection can end outside of all. -/
def closeFlow (s : Scan) (t : Token) : Except Fault Scan := do
  let s ← s.dropCandidate
  if s.flowLevel = 0 then .error .invalid
    else .ok { s.take t 1 false with flowLevel := s.flowLevel-1 }

def documentMark (s : Scan) (t : Token) : Except Fault Scan := do
  let s ← (s.unwind (-1)).dropCandidate
  .ok (s.take t 3 false)

/-- A dash, or a question mark, which in block context begins a collection. -/
def blockMark (s : Scan) (collection mark : Token) (allowsKey : Bool) : Except Fault Scan := do
  if s.flowLevel = 0 && !s.allowsKey then throw .invalid
  let s ← (s.beginBlock s.cursor.column s.tokens.size collection).dropCandidate
  .ok (s.take mark 1 allowsKey)

def colon (s : Scan) : Except Fault Scan := do
  match s.candidates.find? fun k => k.flowLevel = s.flowLevel with
  | some k =>
    let s := { s with
      candidates := s.candidates.filter fun k => k.flowLevel ≠ s.flowLevel
      tokens := s.tokens.insertIdxIfInBounds k.token .key }
    .ok ((s.beginBlock k.column k.token .blockMapping).take .value 1 false)
  | none => s.blockMark .blockMapping .value (s.flowLevel = 0)

/-- The name of an anchor or alias whose mark is next. -/
def name (c : Cursor) : Except Fault (Text × Cursor) :=
  let (name, c) := c.next.span isNameCharacter
  if !name.isEmpty && (endsToken c.rest || c.isAtAny "?:,]\x7d%@`") then .ok (name, c)
    else .error .invalid

/-- Read the token that is next. -/
def token (fuel : Nat) (s : Scan) : Except Fault Scan :=
  let c := s.cursor
  let inFlow := s.flowLevel ≠ 0
  match c.rest with
  | [] => do
    let s ← (s.unwind (-1)).dropCandidate
    .ok { s.push .streamEnd with candidates := [], allowsKey := false }
  | x :: r =>
    let separated := endsToken r
    if x == '%' && c.column = 0 then do
      let s ← (s.unwind (-1)).dropCandidate
      let (found, c) ← directive fuel c
      .ok (s.become (.directive found) c false)
    else if c.column = 0 && isMarked "---" c.rest then s.documentMark .documentStart
    else if c.column = 0 && isMarked "..." c.rest then s.documentMark .documentEnd
    else match x with
    | '[' => s.openFlow .flowSequence
    | '\x7b' => s.openFlow .flowMapping
    | ']' => s.closeFlow .flowSequenceEnd
    | '\x7d' => s.closeFlow .flowMappingEnd
    | ',' => do .ok ((← s.dropCandidate).take .comma 1 true)
    | '*' => do
      let s ← s.saveCandidate
      let (name, c) ← name c
      .ok (s.become (.alias name) c false)
    | '&' => do
      let s ← s.saveCandidate
      let (name, c) ← name c
      .ok (s.become (.anchor name) c false)
    | '!' => do
      let s ← s.saveCandidate
      let (found, c) ← tag fuel c
      .ok (s.become (.tag found) c false)
    | '"' | '\'' => do
      let s ← s.saveCandidate
      let (t, c) ← quoted fuel c
      .ok (s.become (.scalar t false) c false)
    | _ =>
      if x == '-' && separated then s.blockMark .blockSequence .dash true
      else if x == '?' && (inFlow || separated) then s.blockMark .blockMapping .key (!inFlow)
      else if x == ':' && (inFlow || separated) then s.colon
      else if (x == '|' || x == '>') && !inFlow then do
        let s ← s.dropCandidate
        let (t, c) ← literal s.indent fuel c
        .ok (s.become (.scalar t false) c true)
      else if startsPlain inFlow c.rest then do
        let s ← s.saveCandidate
        let (t, crossed, c) := plain inFlow s.indent fuel c
        .ok (s.become (.scalar t true) c crossed)
      else .error .invalid

/-- Read the next token after the blanks before it. -/
def advance (fuel : Nat) (s : Scan) : Except Fault Scan := do
  let start := if s.cursor.index = 0 && s.cursor.isAt '\uFEFF' then s.cursor.next else s.cursor
  let (crossed, cursor) := start.skip fuel
  let s ← { s with cursor, allowsKey := s.allowsKey || (crossed && s.flowLevel = 0) }.dropStale
  (s.unwind cursor.column).token fuel

/-- The number of tokens that are settled: no key can begin before them any more. -/
def settled (s : Scan) : Nat := (s.candidates.map (·.token)).foldl min s.tokens.size

/-- All tokens, or those that were settled before a fault, with the fault. -/
def all (fuel : Nat) (s : Scan) : List Token × Fault :=
  match fuel with
  | 0 => (s.tokens.toList, .invalid)
  | fuel+1 => match s.dropStale with
    | .error fault => ((s.tokens.take s.settled).toList, fault)
    | .ok s => match s.advance fuel with
      | .error fault => ((s.tokens.take s.settled).toList, fault)
      | .ok next =>
        if next.tokens.back? == some .streamEnd then (next.tokens.toList, .invalid)
          else all fuel next

end Scan

/-- The tokens of a document, and the fault met where they end too early. -/
def Token.ofText (t : Text) : List Token × Fault :=
  (Scan.mk ⟨t, 0, 0, 0⟩ #[] 0 (-1) [] true []).all (t.length+2)

end MarkedShader.Yaml
