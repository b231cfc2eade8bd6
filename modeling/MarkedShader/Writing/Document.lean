import MarkedShader.Writing.Block
import MarkedShader.Writing.Entry

/-! The whole annotated text of a document. -/
namespace MarkedShader
namespace Writing
open Text

variable (settings : Settings)

def inDoubleQuotes (t : Text) : Text := '"' :: t ++ ['"']

/-- `key="value"` pairs of a tag list, the values as they are. -/
def tags (pairs : List (String × Text)) : Text :=
  "Tags \x7b ".toList ++ List.intercalate [' '] (pairs.map fun (key, value) =>
    inDoubleQuotes key.toList ++ '=' :: inDoubleQuotes value) ++ " \x7d".toList

def propertyAttributes (p : Property) : Attributes :=
  [("name".toList, p.name), ("display".toList, p.displayName), ("type".toList, p.kind.name),
    ("default".toList, p.defaultValue)] ++
  (if p.kind = .range then
    [("min".toList, p.minValue.plain), ("max".toList, p.maxValue.plain)] else []) ++
  (if p.role.isEmpty then [] else [("role".toList, p.role)]) ++
  (if p.defaultTexture.isEmpty then [] else [("texture".toList, p.defaultTexture)])

def properties (ps : List Property) : Layout :=
  .scope "Properties".toList <| .ofLines <| ps.flatMap fun p =>
    [Marker.property settings.tagPrefix (propertyAttributes p), p.declaration]

/-- The texts of a stencil group, in the order of its keywords. -/
def stencilTexts (s : Stencil) : List Text :=
  [Decimal.integer s.ref, s.comp, s.passOp, s.failOp, s.zfailOp, Decimal.integer s.readMask,
    Decimal.integer s.writeMask]

def stencilKeywords : List String :=
  ["Ref", "Comp", "Pass", "Fail", "ZFail", "ReadMask", "WriteMask"]

/-- The lines of a render state, from the texts of its keys and of its stencil group. -/
def renderStateWith (states : List (StateKey × Text)) (stencil : Option (List Text)) : Layout :=
  .ofLines (states.map fun (key, value) => key.keyword ++ ' ' :: value) ++
  match stencil with
  | none => .empty
  | some texts => .scope "Stencil".toList <| .ofLines <|
    (stencilKeywords.zip texts).map fun (keyword, t) => keyword.toList ++ ' ' :: t

def renderState (s : RenderState) : Layout :=
  renderStateWith (StateKey.all.filterMap fun key => (s.value? key).map (key, ·))
    (s.stencil.map stencilTexts)

def textureMacro? : PropertyKind → Option Text
  | .texture2D => some "TEXTURE2D".toList
  | .texture3D => some "TEXTURE3D".toList
  | .cubemap => some "TEXTURECUBE".toList
  | _ => none

/-- What a property adds to the material constants. A flat texture adds its scale and offset. -/
def constant? (p : Property) : Option Text :=
  match p.kind with
  | .float | .range => some ("float ".toList ++ p.name ++ [';'])
  | .int => some ("int ".toList ++ p.name ++ [';'])
  | .color | .vector => some ("float4 ".toList ++ p.name ++ [';'])
  | .texture2D => some ("float4 ".toList ++ p.name ++ "_ST;".toList)
  | .texture3D | .cubemap => none

def materialDeclarations (ps : List Property) : Layout :=
  let textures := ps.filterMap fun p => (textureMacro? p.kind).map fun macroName =>
    macroName ++ '(' :: p.name ++ "); SAMPLER(sampler".toList ++ p.name ++ ");".toList
  let constants := ps.filterMap constant?
  .ofLines textures ++ .blank ++
  if constants.isEmpty then .empty
  else .line ("CBUFFER_START(".toList ++ settings.cbufferName ++ [')']) ++
    .indented (.ofLines constants) ++
    .line "CBUFFER_END".toList ++ .blank

/-- A section with its label, its blocks and the entry function that follows them. -/
def sectionWith (s : Section) (label : Text) (blocks : List Layout) (entry : Layout) : Layout :=
  (if blocks.isEmpty && s ≠ .vertex && s ≠ .fragment then .empty
    else .line (Marker.sectionLabel settings.tagPrefix label)) ++
  .concat blocks ++ entry

def inSection (r : Registry) (ps : List Property) (g : Graph) (p : Pass) (s : Section)
    (label : Text) : Layout :=
  let blocks := p.blocksIn s
  sectionWith settings s label (blocks.map (block settings.tagPrefix ps)) <| match s with
    | .vertex => vertexEntry settings r g blocks
    | .fragment => fragmentEntry settings blocks
    | _ => .empty

/-- The program of a pass, from its lines, structs and sections. -/
def programWith (ps : List Property) (pragmas includes : List Text)
    (structs sections : Layout) : Layout :=
  .line "HLSLPROGRAM".toList ++ .ofLines pragmas ++ .blank ++
  .ofLines (includes.map fun path => "#include ".toList ++ inDoubleQuotes path) ++ .blank ++
  materialDeclarations settings ps ++ structs ++ sections ++ .line "ENDHLSL".toList

def program (r : Registry) (ps : List Property) (p : Pass) : Layout :=
  let g := p.graph.getD (.ofRegistry r)
  programWith settings ps p.pragmas p.includes (structs settings g)
    (.concat (Section.layout.map fun (s, label) => inSection settings r ps g p s label))

def usePass (path : Text) : Layout := .blank ++ .line ("UsePass ".toList ++ inDoubleQuotes path)

/-- A pass from its name, its light mode, its render state and its program. -/
def passWith (name lightMode : Text) (state program : Layout) : Layout :=
  .blank ++
  .line (Marker.pass settings.tagPrefix [("name".toList, name), ("lightmode".toList, lightMode)]) ++
  .scope "Pass".toList (
    .line ("Name ".toList ++ inDoubleQuotes name) ++
    (if lightMode.isEmpty then .empty else .line (tags [("LightMode", lightMode)])) ++
    state ++ .blank ++ program)

def pass (r : Registry) (ps : List Property) (p : Pass) : Layout :=
  if p.isUsePass then usePass p.usePassPath
  else passWith settings p.name p.lightMode ((p.renderState.map renderState).getD .empty)
    (program settings r ps p)

def subshader (g : GlobalSettings) (passes : List Layout) : Layout :=
  .scope "SubShader".toList (
    .line (Marker.global settings.tagPrefix [
      ("cull".toList, g.cull), ("blend".toList, g.blend), ("zwrite".toList, g.zwrite),
      ("rendertype".toList, g.renderType), ("queue".toList, g.renderQueue)]) ++
    .line (tags [("RenderType", g.renderType), ("Queue", g.renderQueue),
      ("RenderPipeline", settings.renderPipeline)]) ++
    .line ("Cull ".toList ++ g.cull) ++
    (if g.blend = "Off".toList then .empty else .line ("Blend ".toList ++ g.blend)) ++
    .line ("ZWrite ".toList ++ g.zwrite) ++ .concat passes)

/-- A shader from its name, its properties, its render defaults and its passes. -/
def shader (name : Text) (ps : List Property) (g : GlobalSettings)
    (passes : List Layout) : Layout :=
  .scope ("Shader ".toList ++ inDoubleQuotes name) (
    properties settings ps ++ subshader settings g passes ++
    .line ("FallBack ".toList ++ inDoubleQuotes settings.fallbackShader))

def document (r : Registry) (d : Document) : Layout :=
  shader settings d.shaderName d.properties d.globalSettings
    (d.passes.map (pass settings r d.properties))

end Writing

/-- The whole annotated text of a document. One registry serves all its graphs. Integers are written
here whatever their length; `Draft.generate` refuses those of too many digits. -/
def Document.generate (settings : Settings) (r : Registry) (d : Document) : Text :=
  (Writing.document settings r d).text settings.indent

end MarkedShader
