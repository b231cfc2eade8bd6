import MarkedShader.Yaml.Cursor

/-! Tags, and the directives that stand before a document. -/
namespace MarkedShader.Yaml

def isUriCharacter (c : Char) : Bool := c.isAlphanum || "-;/?:@&=+$,_.!~*'()[]".toList.contains c

/-- Bytes written as percent signs with two hexadecimal digits each. -/
def uriBytes (fuel : Nat) (c : Cursor) : Except Fault (List UInt8 × Cursor) :=
  match fuel, c.rest with
  | fuel+1, '%' :: a :: b :: _ =>
    match Numeral.digitIn? 16 a, Numeral.digitIn? 16 b with
    | some x, some y =>
      if isHex a && isHex b then (uriBytes fuel (c.past 3)).map fun (bs, c) =>
        (UInt8.ofNat (16*x+y) :: bs, c)
      else .error .invalid
    | _, _ => .error .invalid
  | _, '%' :: _ => .error .invalid
  | _, _ => .ok ([], c)

def uriFrom (fuel : Nat) (c : Cursor) : Except Fault (Text × Cursor) :=
  match fuel with
  | 0 => .error .invalid
  | fuel+1 => do
    let (plain, c) := c.span isUriCharacter
    if !c.isAt '%' then .ok (plain, c) else
    let (bytes, c) ← uriBytes fuel c
    match String.fromUTF8? ⟨bytes.toArray⟩ with
    | none => .error .invalid
    | some s => (uriFrom fuel c).map fun (more, c) => (plain ++ s.toList ++ more, c)

def uri (fuel : Nat) (c : Cursor) : Except Fault (Text × Cursor) := do
  let (t, c) ← uriFrom fuel c
  if t.isEmpty then .error .invalid else .ok (t, c)

/-- One exclamation mark, or a name between two of them. -/
def handle (c : Cursor) : Except Fault (Text × Cursor) :=
  if !c.isAt '!' then .error .invalid else
  if c.next.isAt ' ' then .ok (['!'], c.next) else
  let (name, after) := c.next.span isNameCharacter
  if after.isAt '!' then .ok ('!' :: name ++ ['!'], after.next) else .error .invalid

/-- The handle of a tag, if it has one, and the rest of it. -/
structure Tag where
  handle : Option Text
  suffix : Text
  deriving DecidableEq, Repr

/-- The tag whose mark is next. -/
def tag (fuel : Nat) (c : Cursor) : Except Fault (Tag × Cursor) := do
  let (found, c) ←
    if c.next.isAt '<' then do
      let (suffix, c) ← uri fuel (c.past 2)
      if c.isAt '>' then .ok (Tag.mk none suffix, c.next) else .error .invalid
    else if endsToken c.next.rest then .ok (Tag.mk none ['!'], c.next)
    else do
      let word := c.next.rest.takeWhile fun x => x != ' ' && !isBreak x
      let (name, c) ← if word.contains '!' then handle c else .ok (['!'], c.next)
      let (suffix, c) ← uri fuel c
      .ok (Tag.mk (some name) suffix, c)
  if endsPart c.rest then .ok (found, c) else .error .invalid

inductive Directive
  | version (major : Nat)
  | tagPrefix (handle pre : Text)
  | other
  deriving DecidableEq, Repr

def versionNumber (c : Cursor) : Except Fault (Nat × Cursor) :=
  let (digits, c) := c.span Char.isDigit
  if digits.isEmpty then .error .invalid
  else if Numeral.digitLimit < digits.length then .error (.badInteger 10 (.tooLong digits.length))
  else .ok (Numeral.valueIn 10 (digits.filterMap (Numeral.digitIn? 10)), c)

/-- The directive whose mark is next, with its line. -/
def directive (fuel : Nat) (c : Cursor) : Except Fault (Directive × Cursor) := do
  let (name, c) := c.next.span isNameCharacter
  if name.isEmpty || !endsPart c.rest then throw .invalid
  let (found, c) ←
    if name = "YAML".toList then do
      let (major, c) ← versionNumber c.spaces.2
      if !c.isAt '.' then throw .invalid
      let (_, c) ← versionNumber c.next
      if endsPart c.rest then .ok (Directive.version major, c) else .error .invalid
    else if name = "TAG".toList then do
      let (name, c) ← handle c.spaces.2
      if !c.isAt ' ' then throw .invalid
      let (pre, c) ← uri fuel c.spaces.2
      if endsPart c.rest then .ok (Directive.tagPrefix name pre, c) else .error .invalid
    else .ok (Directive.other, (c.span (!isBreak ·)).2)
  .ok (found, ← c.lineEnd)

end MarkedShader.Yaml
