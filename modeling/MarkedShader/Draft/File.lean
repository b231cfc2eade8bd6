import MarkedShader.Draft.Writing
import MarkedShader.File

/-! Saving drafts. -/
namespace MarkedShader.Draft

/-- A draft that is to be saved: the file to write, its text, and the draft once that is done. -/
structure Save where
  path : Text
  content : Text
  saved : Draft

/-- Save under a path, or under the draft's own one if that is empty; there has to be one. -/
def save? (settings : Settings) (r : Registry) (d : Draft) (path : Text) :
    Except Fault (Option Save) :=
  let inDraft (d : Draft) := do
    let target := if path.isEmpty then d.filePath else .text path
    if !d.store.isTrue target then return none
    let content ← d.generate settings r
    match target with
    | .text t =>
      let path := File.normalize t
      .ok (some ⟨path, content, { d with
        rawContent := .text content, isDirty := false
        filePath := if d.store.isTrue d.filePath then d.filePath else .text path }⟩)
    | _ => .error .wrongKind
  if d.hasWritableNumbers then
    d.ask (fun d => .ok ((d.save? settings r path).map fun save =>
      ⟨save.path, save.content, .ofDocument save.saved⟩)) inDraft
  else inDraft d

end MarkedShader.Draft
