import MarkedShader.Text.Basic
import MarkedShader.Yaml.Fault

/-! Places in a YAML document, and what separates its tokens. A reader that repeats itself takes as
fuel a bound on the number of characters left. -/
namespace MarkedShader.Yaml

def isBreak (c : Char) : Bool :=
  c == '\n' || c == '\r' || c == '\u0085' || c == '\u2028' || c == '\u2029'

def isGap (c : Char) : Bool := c == ' ' || c == '\t'

def isHex (c : Char) : Bool := c.isDigit || ('a' ≤ c && c ≤ 'f') || ('A' ≤ c && c ≤ 'F')

/-- Characters of the names of anchors, aliases and directives. -/
def isNameCharacter (c : Char) : Bool := c.isAlphanum || c == '-' || c == '_'

/-- Whether nothing, a space, a tab or a line break comes next. -/
def endsToken : Text → Bool
  | [] => true
  | c :: _ => isGap c || isBreak c

/-- As `endsToken`, but a tab does not count. -/
def endsPart : Text → Bool
  | [] => true
  | c :: _ => c == ' ' || isBreak c

def endsLine : Text → Bool
  | [] => true
  | c :: _ => isBreak c

/-- Whether a marker of a document's beginning or end stands at the beginning of a line. -/
def isMarked (mark : String) (t : Text) : Bool := (Text.after? mark.toList t).any endsToken

def isDocumentMarker (t : Text) : Bool := isMarked "---" t || isMarked "..." t

/-- A place: the text from there on, its index, its line and its column, all counted from zero. -/
structure Cursor where
  rest : Text
  index : Nat := 0
  line : Nat := 0
  column : Nat := 0
  deriving Repr

namespace Cursor

/-- Go past one character. A byte-order mark has no width. -/
def next (c : Cursor) : Cursor :=
  match c.rest with
  | [] => c
  | x :: r =>
    if isBreak x && !(x == '\r' && r.head? == some '\n') then
      { rest := r, index := c.index+1, line := c.line+1, column := 0 }
    else { c with rest := r, index := c.index+1
                  column := if x == '\uFEFF' then c.column else c.column+1 }

def past (c : Cursor) : Nat → Cursor
  | 0 => c
  | n+1 => c.next.past n

/-- The characters of a class that come next, and the place after them. -/
def span (c : Cursor) (p : Char → Bool) : Text × Cursor :=
  let t := c.rest.takeWhile p
  (t, c.past t.length)

def spaces (c : Cursor) : Text × Cursor := c.span (· == ' ')

def isAt (c : Cursor) (x : Char) : Bool := c.rest.head? == some x

def isAtAny (c : Cursor) (xs : String) : Bool := c.rest.head?.any xs.toList.contains

/-- A line break, as it is read. Only the two separators of Unicode are kept as they are. -/
def lineBreak? (c : Cursor) : Option (Char × Cursor) :=
  match c.rest with
  | '\r' :: '\n' :: _ => some ('\n', c.past 2)
  | x :: _ =>
    if isBreak x then some (if x = '\u2028' || x = '\u2029' then x else '\n', c.next) else none
  | [] => none

/-- Skip a comment, if there is one, up to the end of its line. -/
def pastComment (c : Cursor) : Cursor := if c.isAt '#' then (c.span (!isBreak ·)).2 else c

/-- Skip spaces, comments and line breaks; the answer says whether there was a line break. -/
def skip (fuel : Nat) (c : Cursor) : Bool × Cursor :=
  match fuel with
  | 0 => (false, c)
  | fuel+1 =>
    let c := c.spaces.2.pastComment
    match c.lineBreak? with
    | some (_, c) => (true, (skip fuel c).2)
    | none => (false, c)

/-- The end of a line, where only spaces and a comment may stand. -/
def lineEnd (c : Cursor) : Except Fault Cursor :=
  let c := c.spaces.2.pastComment
  if endsLine c.rest then .ok ((c.lineBreak?.map (·.2)).getD c) else .error .invalid

end Cursor
end MarkedShader.Yaml
