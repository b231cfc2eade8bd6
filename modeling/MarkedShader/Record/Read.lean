import MarkedShader.Draft.Settled
import MarkedShader.Record.Fault
import MarkedShader.Record.Write

/-! Drafts from records. Every part gets its default, and whatever is not as a record has to be is a
fault; leaves are kept as they are, and so is the store along with which the record is read. -/
namespace MarkedShader
namespace Record.Read

abbrev Entries := List (Data × Data)

/-- An entry that has to be there. -/
def required (es : Entries) (key : String) : Except RecordFault Data :=
  match Data.lookup? key es with
  | some d => .ok d
  | none => .error (.missingKey key.toList)

def getD (es : Entries) (key : String) (default : Data) : Data := (Data.lookup? key es).getD default

def noText : Data := .text []

/-- The fault that shows a value, or the one that counts if the value has an integer of too many
digits. -/
def faultOf (s : Store) (found : Data) (fault : Data → RecordFault)
    (whenTooLong : RecordFault) : RecordFault :=
  match s.shown found with
  | .ok found => fault found
  | .error .integerTooLong => whenTooLong
  | .error f => .unspellable f

variable (s : Store)

/-- The items gone over in a loop. -/
def items (d : Data) : Except RecordFault (List Data) :=
  match s.items? d with
  | some ds => .ok ds
  | none => .error .wrongShape

/-- The entries of a mapping; what is none has the given fault. -/
def entriesOr (fault : RecordFault) (d : Data) : Except RecordFault Entries :=
  match s.view d with
  | .mapping es => .ok es
  | _ => .error fault

/-- The entries of a mapping made from pairs. -/
def ofPairs (index : Nat) (es : Entries) : List Data → Except RecordFault Entries
  | [] => .ok es
  | d :: ds => do
    match ← items s d with
    | [key, value] =>
      if s.isFixed key then ofPairs (index+1) (Data.insert key value es) ds else .error .wrongShape
    | parts => .error (.badPair index parts.length)

/-- The entries of a mapping, or of one made from a list of pairs. -/
def copied (d : Data) : Except RecordFault Entries :=
  match s.view d with
  | .mapping es => .ok es
  | d => do ofPairs s 0 [] (← items s d)

/-- Entries of which each has one of the given names. -/
def onlyNamed (names : List String) (es : Entries) : Except RecordFault Entries :=
  if es.all fun (key, _) => names.any fun name => key.isText name.toList then .ok es
    else .error .wrongShape

/-- An entry that has to be there, as a part that an item cannot be without. -/
def partOf (es : Entries) (key : String) : Except RecordFault Data :=
  match Data.lookup? key es with
  | some d => .ok d
  | none => .error .wrongShape

/-- A value as the name of one of several things of a kind. -/
def named {α : Type} (kind : String) (ofName? : Text → Option α) (d : Data) :
    Except RecordFault α :=
  match d.text?.bind ofName? with
  | some a => .ok a
  | none => .error (faultOf s d (.unknownName · kind.toList) (.integerTooLong none))

def property (d : Data) : Except RecordFault Draft.Property := do
  let es ← copied s d
  let kind ← named s "PropertyType" PropertyKind.ofName? (← required es "property_type")
  let es ← onlyNamed
      ["name", "display_name", "property_type", "default_value", "min_value", "max_value", "role",
    "raw_declaration", "default_texture"] es
  .ok { name := ← partOf es "name", displayName := getD es "display_name" noText, kind
        defaultValue := getD es "default_value" noText
        minValue := getD es "min_value" (Number.ofNat 0).toData
        maxValue := getD es "max_value" (Number.ofNat 1).toData, role := getD es "role" noText
        rawDeclaration := getD es "raw_declaration" noText
        defaultTexture := getD es "default_texture" noText }

/-- A block without an identity gets the made-up one of a serial. -/
def block (serial : Nat) (d : Data) : Except RecordFault Draft.Block := do
  let es ← copied s d
  let inSection ← named s "SectionType" Section.ofName? (← required es "section")
  let es ← onlyNamed ["title", "code", "section", "intent", "referenced_params", "is_enabled",
    "start_line", "end_line",
    "id"] es
  .ok { title := ← partOf es "title", code := getD es "code" noText, inSection
        intent := getD es "intent" noText
        referencedParams := getD es "referenced_params" (.list [])
        isEnabled := getD es "is_enabled" (.bool true)
        startLine := getD es "start_line" (.int (-1)), endLine := getD es "end_line" (.int (-1))
        id := getD es "id" (.madeUp serial) }

def blocks (serial : Nat) : List Data → Except RecordFault (List Draft.Block)
  | [] => .ok []
  | d :: ds => do .ok ((← block s serial d) :: (← blocks (serial+1) ds))

def stage (d : Data) : Except RecordFault Stage :=
  if !s.isFixed d then .error .wrongShape
  else match d.text?.bind Stage.ofName? with
    | some stage => .ok stage
    | none => .error (faultOf s d .unknownStage (.unspellable .integerTooLong))

/-- As for every field, an empty display name becomes the name and a required field is active. -/
def field (d : Data) : Except RecordFault Draft.Field := do
  let es ← entriesOr s .wrongShape d
  let name ← required es "name"
  let dataType ← required es "data_type"
  let label := getD es "display_name" noText
  let stage ← stage s (← required es "stage")
  let isRequired := s.isTrue (getD es "is_required" (.bool false))
  .ok { name, dataType, semantic := getD es "semantic" noText
        displayName := if s.isTrue label then label else name
        stage, isRequired, isActive := isRequired || s.isTrue (getD es "is_active" (.bool false))
        annotation := getD es "annotation" noText }

/-- A part that may be null. -/
def optional {α : Type} (read : Data → Except RecordFault α) : Data → Except RecordFault (Option α)
  | .null => .ok none
  | d => (read d).map some

def graph (d : Data) : Except RecordFault Draft.Graph := do
  let es ← entriesOr s .wrongShape d
  let inputs ← (← items s (← required es "input_fields")).mapM (field s)
  let outputs ← (← items s (← required es "output_fields")).mapM (field s)
  .ok ⟨inputs, outputs⟩

def stencil (d : Data) : Except RecordFault Draft.Stencil := do
  let es ← onlyNamed ["ref", "comp", "pass_op", "fail_op", "zfail_op", "read_mask", "write_mask"]
    (← entriesOr s .wrongShape d)
  let usual := Draft.Stencil.ofStencil {}
  .ok { ref := getD es "ref" usual.ref, comp := getD es "comp" usual.comp
        passOp := getD es "pass_op" usual.passOp
        failOp := getD es "fail_op" usual.failOp, zfailOp := getD es "zfail_op" usual.zfailOp
        readMask := getD es "read_mask" usual.readMask
        writeMask := getD es "write_mask" usual.writeMask }

def renderState (d : Data) : Except RecordFault Draft.RenderState := do
  let es ← entriesOr s .noParts d
  .ok { cull := getD es "cull" .null, blend := getD es "blend" .null
        zwrite := getD es "zwrite" .null
        ztest := getD es "ztest" .null, colorMask := getD es "color_mask" .null
        stencil := ← optional (stencil s) (getD es "stencil" .null) }

def pass (serial : Nat) (d : Data) : Except RecordFault Draft.Pass := do
  let es ← entriesOr s .noParts d
  let graph ← optional (graph s) (getD es "data_flow" .null)
  let blocks ← blocks s serial (← items s (getD es "blocks" (.list [])))
  let id ← required es "id"
  let name ← required es "name"
  let pragmas ← items s (getD es "pragmas" (.list []))
  let includes ← items s (getD es "includes" (.list []))
  let renderState ← optional (renderState s) (getD es "render_state" .null)
  .ok { name, lightMode := getD es "light_mode" noText, blocks, graph, pragmas, includes
        renderState
        isUsePass := s.isTrue (getD es "is_use_pass" (.bool false))
        usePassPath := getD es "use_pass_path" noText, id }

def passes (serial : Nat) : List Data → Except RecordFault (List Draft.Pass)
  | [] => .ok []
  | d :: ds => do
    let p ← pass s serial d
    .ok (p :: (← passes (serial + p.blocks.length) ds))

def integerOf (found : Data) (t : Text) : Except RecordFault Int :=
  match Numeral.integer t with
  | .ok i => .ok i
  | .error (.tooLong digits) => .error (.integerTooLong (some digits))
  | .error (.notAnInteger _) => .error (.notAnInteger found)

/-- The bytes of a numeral as a text. Those beyond ASCII are neither digits nor blanks. -/
def numeralOf (bs : List UInt8) : Text :=
  bs.map fun b => if b < 128 then Char.ofNat b.toNat else 'ÿ'

/-- The index of the active pass; numerals, truth values and fractions are turned into integers. -/
def activeIndex (d : Data) : Except RecordFault Int :=
  match d with
  | .int i => .ok i
  | .bool value => .ok (if value then 1 else 0)
  | .real (.nan _) => .error .notANumber
  | .real (.infinite _) => .error .infinite
  | .real (.finite negative m q) =>
    .ok (Binary64.signed negative
      (if q < 0 then m / Nat.pow 2 q.natAbs else m * Nat.pow 2 q.natAbs))
  | .text t => integerOf d t
  | .bytes bs => integerOf d (numeralOf bs)
  | _ => .error .wrongShape

def globalSettings (d : Data) : Except RecordFault Draft.GlobalSettings := do
  let es ← onlyNamed ["cull", "blend", "zwrite", "render_type", "render_queue"]
      (← entriesOr s .wrongShape d)
  let usual := Draft.GlobalSettings.ofGlobalSettings {}
  .ok { cull := getD es "cull" usual.cull, blend := getD es "blend" usual.blend
        zwrite := getD es "zwrite" usual.zwrite
        renderType := getD es "render_type" usual.renderType
        renderQueue := getD es "render_queue" usual.renderQueue }

/-- One more than the serial of a made-up identity. -/
def serialBound : Data → Nat
  | .madeUp serial => serial+1
  | _ => 0

/-- A named part, where there is one. -/
def part (key : String) (d : Data) : Data :=
  match s.view d with
  | .mapping es => getD es key .null
  | _ => .null

/-- A serial above those of all made-up block identities among some passes. -/
def nextSerial (passes : List Data) : Nat :=
  let blocks := passes.flatMap fun p => (s.items? (part s "blocks" p)).getD []
  (blocks.map fun b => serialBound (part s "id" b)).foldl max 0

def draft (d : Data) : Except RecordFault Draft := do
  let es ← entriesOr s .notMapping d
  let found := getD es "version" .null
  if !found.same (.int version) then throw (faultOf s found .version (.unspellable .integerTooLong))
  let properties ← (← items s (getD es "properties" (.list []))).mapM (property s)
  let shaderName ← required es "shader_name"
  let active ← activeIndex (getD es "active_pass_index" (.int 0))
  let settings ← globalSettings s (getD es "global_settings" (.mapping []))
  let ds ← items s (getD es "passes" (.list []))
  let passes ← passes s (nextSerial s ds) ds
  .ok { shaderName, filePath := getD es "file_path" noText, globalSettings := settings, properties
        passes
        activeIndex := active, rawContent := getD es "raw_content" noText
        isDirty := s.isTrue (getD es "is_dirty" (.bool false)), store := s }

end Record.Read

/-- The draft that a record describes, with the store of what is kept of the record. -/
def Draft.ofRecord (s : Store) (d : Data) : Except RecordFault Draft := Record.Read.draft s d

/-- The document that a record describes, if each leaf has the kind that it should have. -/
def Document.ofRecord (d : Data) : Except RecordFault Document := do
  match (← Draft.ofRecord {} d).document? with
  | some document => .ok document
  | none => .error .wrongShape

end MarkedShader
