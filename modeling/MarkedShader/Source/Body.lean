import MarkedShader.Block
import MarkedShader.Marker
import MarkedShader.Source.Shape
import MarkedShader.Text.Lines
import MarkedShader.Warning

/-! Blocks and structs, read from the lines that follow their first one. Each answer says how many
of those lines it takes. -/
namespace MarkedShader.Source
open Text

variable (pre : Text)

def endsBody (line : Text) : Bool :=
  Marker.isBlockEnd pre line || (Marker.blockStart? pre line).isSome

/-- What the lines of a block's body have said so far. -/
structure Body where
  intent : Text := []
  params : List Text := []
  disabled : Bool := false
  code : List Text := []

/-- A marker line is taken in; any other line is code, without its comment mark once the block is
disabled. -/
def Body.take (body : Body) (line : Text) : Body :=
  match Marker.intent? pre line with
  | some intent => { body with intent }
  | none => match Marker.param? pre line with
    | some (name, _) =>
      if body.params.contains name then body else { body with params := body.params ++ [name] }
    | none =>
      if Marker.isDisabled pre line then { body with disabled := true }
      else { body with code := body.code ++ [if body.disabled then uncomment line else line] }

/-- The block whose start marker is in line `start`. Without an end marker it reaches to the next
start marker or to the last line. -/
def readBlock (start : Nat) (title : Text) (inSection : Section) (rest : List Text) :
    Block × Nat × List Warning :=
  let inner := rest.takeWhile fun l => !endsBody pre l
  let body := inner.foldl (Body.take pre) {}
  let closed := (rest.drop inner.length).head?.any (Marker.isBlockEnd pre)
  let taken := if closed then inner.length+1 else inner.length
  let block : Block :=
    { title, inSection, intent := body.intent, referencedParams := body.params
      isEnabled := !body.disabled
      code := trimBoth (· == '\n') (joinLines (dedentLines body.code))
      startLine := start, endLine := start+taken, id := .fresh start }
  (block, taken, if closed then [] else [⟨start, .blockNotEnded title⟩])

/-- The members declared up to the first line with a closing brace. -/
def readStruct (start : Nat) (rest : List Text) : List Member × Nat × List Warning :=
  let inner := rest.takeWhile fun l => !l.contains '\x7d'
  let members := inner.filterMap member?
  if inner.length < rest.length then (members, inner.length+1, [])
  else (members, inner.length, [⟨start, .structNotClosed⟩])

end MarkedShader.Source
