import MarkedShader.Code
import MarkedShader.Document
import MarkedShader.Layout
import MarkedShader.Marker

/-! Blocks as they are written: a start marker, the markers of the header, the code and an end
marker. -/
namespace MarkedShader.Writing
open Text

variable (pre : Text)

/-- The intent of a block that only declares; its code is not written, as the material declarations
stand for it. -/
def stubIntent : Text := "(auto-skipped: declarations handled by CBUFFER)".toList

/-- The role written beside a parameter: that of the property, if it has one. -/
def roleOf (properties : List Property) (param : Text) : Text :=
  match properties.find? fun p => p.name = param with
  | some p => if p.role.isEmpty then "parameter".toList else p.role
  | none => "parameter".toList

/-- The parameters of a block, each with its role. -/
def paramsOf (properties : List Property) (b : Block) : List (Text × Text) :=
  b.referencedParams.map fun param => (param, roleOf properties param)

/-- The markers between a start marker and the code. -/
def header (intent : Text) (params : List (Text × Text)) (isEnabled : Bool) : List Text :=
  (if intent.isEmpty then [] else [Marker.intent pre intent]) ++
    (params.map fun (param, role) => Marker.param pre param role) ++
    if isEnabled then [] else [Marker.disabled pre]

def commentOut (line : Text) : Text := if line.isEmpty then "//".toList else "// ".toList ++ line

/-- The lines of some code in a block, as comments if the block is disabled. -/
def body (isEnabled : Bool) (code : Text) : List Text :=
  let ls := (dedent code).splitOn '\n'
  if isEnabled then ls else ls.map commentOut

/-- A block whose parameters have the given roles. -/
def blockWith (params : List (Text × Text)) (b : Block) : Layout :=
  if isDeclarationOnly b.code then
    .ofLines [Marker.blockStart pre b.title, Marker.intent pre stubIntent, Marker.blockEnd pre, []]
  else
    .line (Marker.blockStart pre b.title) ++ .ofLines (header pre b.intent params b.isEnabled) ++
      .verbatim (body b.isEnabled b.code) ++ .line (Marker.blockEnd pre) ++ .blank

def block (properties : List Property) (b : Block) : Layout :=
  blockWith pre (paramsOf properties b) b

end MarkedShader.Writing
