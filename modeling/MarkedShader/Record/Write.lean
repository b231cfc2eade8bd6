import MarkedShader.Draft

/-! Documents as plain data, with every part under its name. -/
namespace MarkedShader
namespace Record

def version : Int := 1

def entry (key : String) (d : Data) : Data × Data := (.ofString key, d)

def orNull {α : Type} (write : α → Data) (a : Option α) : Data := (a.map write).getD .null

def field (f : Draft.Field) : Data := .mapping [
  entry "name" f.name, entry "data_type" f.dataType, entry "semantic" f.semantic,
  entry "display_name" f.displayName,
  entry "stage" (.text f.stage.name), entry "is_required" (.bool f.isRequired),
  entry "is_active" (.bool f.isActive),
  entry "annotation" f.annotation]

def property (p : Draft.Property) : Data := .mapping [
  entry "name" p.name, entry "display_name" p.displayName,
  entry "property_type" (.text p.kind.name),
  entry "default_value" p.defaultValue, entry "min_value" p.minValue, entry "max_value" p.maxValue,
  entry "role" p.role, entry "raw_declaration" p.rawDeclaration,
  entry "default_texture" p.defaultTexture]

def block (b : Draft.Block) : Data := .mapping [
  entry "title" b.title, entry "code" b.code,
  entry "section" (.text b.inSection.name), entry "intent" b.intent,
  entry "referenced_params" b.referencedParams, entry "is_enabled" b.isEnabled,
  entry "start_line" b.startLine,
  entry "end_line" b.endLine, entry "id" b.id]

def stencil (s : Draft.Stencil) : Data := .mapping [
  entry "ref" s.ref, entry "comp" s.comp, entry "pass_op" s.passOp, entry "fail_op" s.failOp,
  entry "zfail_op" s.zfailOp, entry "read_mask" s.readMask, entry "write_mask" s.writeMask]

def renderState (s : Draft.RenderState) : Data := .mapping [
  entry "cull" s.cull, entry "blend" s.blend, entry "zwrite" s.zwrite, entry "ztest" s.ztest,
  entry "color_mask" s.colorMask, entry "stencil" (orNull stencil s.stencil)]

def graph (g : Draft.Graph) : Data := .mapping [
  entry "input_fields" (.list (g.inputs.map field)),
  entry "output_fields" (.list (g.outputs.map field))]

def globalSettings (g : Draft.GlobalSettings) : Data := .mapping [
  entry "cull" g.cull, entry "blend" g.blend, entry "zwrite" g.zwrite,
  entry "render_type" g.renderType,
  entry "render_queue" g.renderQueue]

variable {m : Type → Type} [Monad m]

/-- The record of a pass. Its render state and its blocks are copied; other leaves are in it
themselves. -/
def pass (copy : Data → m Data) (p : Draft.Pass) : m Data := do
  let renderState ← copy (orNull renderState p.renderState)
  let blocks ← p.blocks.mapM fun b => copy (block b)
  return .mapping [
    entry "id" p.id, entry "name" p.name, entry "light_mode" p.lightMode,
    entry "is_use_pass" (.bool p.isUsePass),
    entry "use_pass_path" p.usePassPath, entry "pragmas" (.list p.pragmas),
    entry "includes" (.list p.includes),
    entry "render_state" renderState, entry "blocks" (.list blocks),
    entry "data_flow" (orNull graph p.graph)]

/-- The record of a draft. Its settings and its properties are copied as the parts of its passes
are. -/
def draft (copy : Data → m Data) (d : Draft) : m Data := do
  let globalSettings ← copy (globalSettings d.globalSettings)
  let properties ← d.properties.mapM fun p => copy (property p)
  let passes ← d.passes.mapM (pass copy)
  return .mapping [
    entry "version" (.int version), entry "shader_name" d.shaderName, entry "file_path" d.filePath,
    entry "active_pass_index" (.int d.activeIndex), entry "is_dirty" (.bool d.isDirty),
    entry "raw_content" d.rawContent, entry "global_settings" globalSettings,
    entry "properties" (.list properties),
    entry "passes" (.list passes)]

end Record

/-- The record of a draft. -/
def Draft.toRecord (d : Draft) : Except Data.Fault Data := Record.draft d.store.copy d

/-- The record of a document. -/
def Document.toRecord (d : Document) : Data := Id.run (Record.draft pure (.ofDocument d))

namespace Draft

/-- The parts of a pass in the order in which they are compared. -/
def Pass.parts (p : Pass) : Data := .tuple [
  p.name, p.lightMode, .list (p.blocks.map Record.block),
  Record.orNull Record.graph p.graph, .list p.pragmas,
  .list p.includes, Record.orNull Record.renderState p.renderState, .bool p.isUsePass,
  p.usePassPath, p.id]

def parts (d : Draft) : Data := .tuple [
  d.shaderName, d.filePath, Record.globalSettings d.globalSettings,
  .list (d.properties.map Record.property),
  .list (d.passes.map Pass.parts), .int d.activeIndex, d.rawContent, .bool d.isDirty]

/-- Whether two passes of drafts that share a store have the same parts. -/
def Pass.agrees (s : Store) (p q : Pass) : Except Data.Fault Bool := s.same p.parts q.parts

/-- Whether two drafts have the same parts. With `isOne`, they share a store. -/
def agrees (isOne : Bool) (d e : Draft) : Except Data.Fault Bool :=
  Store.equalWith d.store e.store isOne Store.spellingLimit true d.parts e.parts

end Draft

/-- Whether two documents have the same parts. -/
def Document.agrees (d e : Document) : Bool :=
  (Draft.ofDocument d).parts.same (Draft.ofDocument e).parts

end MarkedShader
