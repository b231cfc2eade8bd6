import MarkedShader.Text.Lines
import MarkedShader.Writing.Block

/-! Replacing the code of one block in the last known text of a document. -/
namespace MarkedShader
open Text

/-- Whether the recorded lines of a block still hold its markers. -/
def Block.isCurrentIn (pre : Text) (b : Block) (ls : List Text) : Bool :=
  0 ≤ b.startLine && b.startLine < b.endLine && b.endLine < ls.length &&
  (ls[b.startLine.toNat]?.bind (Marker.blockStart? pre)) == some b.title &&
  ls[b.endLine.toNat]?.any (Marker.isBlockEnd pre)

namespace Splice

/-- The lines with what stands between two of them replaced by a header and the lines of a body.
Both get the margin of the first of the two. -/
def between (first last : Nat) (header body ls : List Text) : List Text :=
  let margin := ((ls[first]?).getD []).takeWhile isBlank
  ls.take (first+1) ++ header.map (margin ++ ·) ++
    (body.map fun l => if l.isEmpty then [] else margin ++ l) ++ ls.drop last

end Splice

/-- The lines with the inside of a block's span replaced. -/
def Block.spliceInto (pre : Text) (properties : List Property) (b : Block) (code : Text)
    (ls : List Text) : List Text :=
  Splice.between b.startLine.toNat b.endLine.toNat
    (Writing.header pre b.intent (Writing.paramsOf properties b) b.isEnabled)
      (Writing.body b.isEnabled code) ls

/-- The raw text with new code for a block, which the document itself does not take over. It comes
back unchanged if there is no such block or its recorded lines no longer hold its markers. -/
def Document.replaceBlock (pre : Text) (d : Document) (id : Identity) (code : Text) : Text :=
  match (d.findBlock? id).bind d.blockAt? with
  | none => d.rawContent
  | some b =>
    let ls := lines d.rawContent
    if b.isCurrentIn pre ls then joinLines (b.spliceInto pre d.properties code ls) else d.rawContent

section
variable {pre : Text} {d : Document} {id : Identity} {b : Block}

theorem Document.replaceBlock_of_found (found : (d.findBlock? id).bind d.blockAt? = some b)
    (code : Text) : d.replaceBlock pre id code = if b.isCurrentIn pre (lines d.rawContent) then
      joinLines (b.spliceInto pre d.properties code (lines d.rawContent)) else d.rawContent := by
  rw [replaceBlock, found]

theorem Document.replaceBlock_of_current (found : (d.findBlock? id).bind d.blockAt? = some b)
    (current : b.isCurrentIn pre (lines d.rawContent)) (code : Text) :
    d.replaceBlock pre id code =
      joinLines (b.spliceInto pre d.properties code (lines d.rawContent)) := by
  rw [replaceBlock_of_found found, if_pos current]

end

end MarkedShader
