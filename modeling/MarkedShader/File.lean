import MarkedShader.Source.Parse
import MarkedShader.Writing.Document

/-! Files of shader text: their names, what is read from their bytes, and saving a document. -/
namespace MarkedShader
open Text

namespace File

/-- A path without empty parts and parts that stay in place. Exactly two slashes at the beginning
are kept. -/
def normalize (path : Text) : Text :=
  let slashes := (path.takeWhile (· == '/')).length
  let root : Text := if slashes = 0 then [] else if slashes = 2 then ['/', '/'] else ['/']
  let parts := (path.splitOn '/').filter fun p => !p.isEmpty && p != ['.']
  let whole := root ++ List.intercalate ['/'] parts
  if whole.isEmpty then ['.'] else whole

/-- The text of a file, every line break as a line feed. -/
def decode? (bytes : ByteArray) : Option Text := (String.fromUTF8? bytes).map fun s =>
  (unifyBreaks s.toList).map fun c => if c = '\r' then '\n' else c

/-- The document in a file, from its bytes if it is there. -/
def parse (settings : Settings) (r : Registry) (path : Text) (bytes : Option ByteArray) :
    Except SourceError (Document × List Warning) :=
  match bytes with
  | none => .error (.missing path)
  | some bytes => match decode? bytes with
    | none => .error .undecodable
    | some content => Source.parseFile settings r path content

end File

/-- A document that is to be saved: the file to write, its text, and the document once that is
done. -/
structure Save where
  path : Text
  content : Text
  saved : Document
  deriving DecidableEq, Repr

/-- Save under a path, or under the document's own one if that is empty; there has to be one. -/
def Document.save? (settings : Settings) (r : Registry) (d : Document)
    (path : Text) : Option Save :=
  let target := if path.isEmpty then d.filePath else path
  if target.isEmpty then none else
  let path := File.normalize target
  let content := d.generate settings r
  some ⟨path, content, { d with
    rawContent := content, isDirty := false
    filePath := if d.filePath.isEmpty then path else d.filePath }⟩

end MarkedShader
