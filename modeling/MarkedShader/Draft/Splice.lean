import MarkedShader.Draft.Writing
import MarkedShader.Splice

/-! Replacing the code of one block in the raw text of a draft. -/
namespace MarkedShader.Draft

/-- A line of some text by its number, which has to be an integer. -/
def lineAt (ls : List Text) : Data → Except Fault (Option (Nat × Text))
  | .int i => .ok (ls[i.toNat]?.map (i.toNat, ·))
  | .bool value => .ok (ls[value.toNat]?.map (value.toNat, ·))
  | _ => .error .wrongKind

/-- The lines of a block's markers, if the recorded numbers still lead to them. -/
def Block.span? (pre : Text) (b : Block) (ls : List Text) : Except Fault (Option (Nat × Nat)) := do
  let inOrder := both (compare Number.le (.int 0) b.startLine) <|
    both (compare Number.lt b.startLine b.endLine) (compare Number.lt b.endLine (.int ls.length))
  if !(← inOrder) then return none
  match ← lineAt ls b.startLine with
  | none => .ok none
  | some (first, line) =>
    if !((Marker.blockStart? pre line).any b.title.isText) then return none
    .ok ((← lineAt ls b.endLine).bind fun (last, line) =>
      if Marker.isBlockEnd pre line then some (first, last) else none)

/-- The raw text with new code for a block. It comes back as it is if there is no such block, if
there is no text, or if the recorded lines no longer hold the markers of the block. -/
def spliced (pre : Text) (d : Draft) (id : Data) (code : Text) : Except Fault Data := do
  match (← d.findBlock? id).bind d.blockAt? with
  | none => .ok d.rawContent
  | some b =>
    if !d.store.isTrue d.rawContent then return d.rawContent
    let ls := Text.lines (← textIn d.store d.rawContent)
    match ← b.span? pre ls with
    | none => .ok d.rawContent
    | some (first, last) =>
      let h ← b.heading d.store d.properties
      let isEnabled := d.store.isTrue b.isEnabled
      .ok (.text (Text.joinLines (Splice.between first last
        (Writing.header pre h.intent h.params isEnabled) (Writing.body isEnabled code) ls)))

def replaceBlock (pre : Text) (d : Draft) (id : Data) (code : Text) : Except Fault Data :=
  d.ask (fun d => .ok (.text (d.replaceBlock pre id.identity code))) fun d => d.spliced pre id code

end MarkedShader.Draft
