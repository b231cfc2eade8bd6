import MarkedShader.Yaml.Cursor

/-! Scalars in single and in double quotes. -/
namespace MarkedShader.Yaml

/-- Line breaks as they are read: a single line feed is a space. -/
def folded (first : Char) (more : Text) : Text :=
  if first != '\n' then first :: more else if more.isEmpty then [' '] else more

def simpleEscapes : List (Char × Char) := [
  ('0', '\x00'), ('a', '\x07'), ('b', '\x08'), ('t', '\t'), ('\t', '\t'),
  ('n', '\n'), ('v', '\x0b'), ('f', '\x0c'),
  ('r', '\r'), ('e', '\x1b'), (' ', ' '), ('"', '"'), ('/', '/'), ('\\', '\\'),
  ('N', '\u0085'), ('_', '\u00a0'),
  ('L', '\u2028'), ('P', '\u2029')]

/-- The letters of escapes by number, each with the number of its digits. -/
def codeWidths : List (Char × Nat) := [('x', 2), ('u', 4), ('U', 8)]

def hexValue (t : Text) : Nat := Numeral.valueIn 16 (t.filterMap (Numeral.digitIn? 16))

/-- The code of an escape whose letter is next. -/
def code? (c : Cursor) : Option (Nat × Cursor) := do
  let width ← codeWidths.lookup (← c.rest.head?)
  let digits := c.next.rest.take width
  if digits.length = width && digits.all isHex then
    some (hexValue digits, c.next.past width) else none

/-- The character of a code. Half a surrogate pair is joined with its other half, if that is next;
alone it stands for no character. -/
def character (code : Nat) (c : Cursor) : Except Fault (Char × Cursor) :=
  if 0x10FFFF < code then .error .codeBeyond
  else if 0xD800 ≤ code && code < 0xDC00 then
    match if c.isAt '\\' then code? c.next else none with
    | some (low, after) =>
      if 0xDC00 ≤ low && low < 0xE000 then
        .ok (Char.ofNat (0x10000 + (code-0xD800)*0x400 + (low-0xDC00)), after)
      else .ok ('\uFFFD', c)
    | none => .ok ('\uFFFD', c)
  else .ok (if 0xDC00 ≤ code && code < 0xE000 then '\uFFFD' else Char.ofNat code, c)

/-- Blanks and line breaks after the first one. No document marker may stand between them. -/
def quotedBreaks (fuel : Nat) (c : Cursor) : Except Fault (Text × Cursor) :=
  match fuel with
  | 0 => .error .invalid
  | fuel+1 =>
    if isDocumentMarker c.rest then .error .invalid else
    let c := (c.span isGap).2
    match c.lineBreak? with
    | some (x, c) => (quotedBreaks fuel c).map fun (more, c) => (x :: more, c)
    | none => .ok ([], c)

/-- What an escape stands for, whose mark has been passed. -/
def escaped (fuel : Nat) (c : Cursor) : Except Fault (Text × Cursor) :=
  match c.rest with
  | [] => .error .invalid
  | x :: _ => match simpleEscapes.lookup x with
    | some y => .ok ([y], c.next)
    | none => match c.lineBreak? with
      | some (_, c) => quotedBreaks fuel c
      | none => match code? c with
        | some (code, c) => (character code c).map fun (y, c) => ([y], c)
        | none => .error .invalid

/-- Blanks in a scalar, or line breaks with the blanks around them. -/
def quotedGap (fuel : Nat) (c : Cursor) : Except Fault (Text × Cursor) :=
  let (blanks, c) := c.span isGap
  match c.lineBreak? with
  | some (x, c) => (quotedBreaks fuel c).map fun (more, c) => (folded x more, c)
  | none => if c.rest.isEmpty then .error .invalid else .ok (blanks, c)

/-- The rest of a scalar after its opening quote. -/
def quotedFrom (double : Bool) (fuel : Nat) (c : Cursor) : Except Fault (Text × Cursor) :=
  match fuel with
  | 0 => .error .invalid
  | fuel+1 =>
    let goOn (part : Except Fault (Text × Cursor)) : Except Fault (Text × Cursor) := do
      let (t, c) ← part
      let (more, c) ← quotedFrom double fuel c
      .ok (t ++ more, c)
    match c.rest with
    | [] => .error .invalid
    | x :: r =>
      if x == (if double then '"' else '\'') then
        if !double && r.head? == some '\'' then goOn (.ok (['\''], c.past 2)) else .ok ([], c.next)
      else if double && x == '\\' then goOn (escaped fuel c.next)
      else if isGap x || isBreak x then goOn (quotedGap fuel c)
      else goOn (.ok ([x], c.next))

/-- The scalar whose opening quote is next. -/
def quoted (fuel : Nat) (c : Cursor) : Except Fault (Text × Cursor) :=
  quotedFrom (c.isAt '"') fuel c.next

end MarkedShader.Yaml
