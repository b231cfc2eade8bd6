import MarkedShader.Code
import MarkedShader.Document
import MarkedShader.Layout
import MarkedShader.Settings

/-! The stage structs and the two entry functions. -/
namespace MarkedShader.Writing
open Text

variable (settings : Settings)

def memberWidth : Nat := 18

def member (dataType name semantic : Text) : Text :=
  (dataType ++ ' ' :: name).rightpad memberWidth ' ' ++ " : ".toList ++ semantic ++ [';']

/-- Fields with the semantics they are written with. Those without one are numbered from `next`
on. -/
def withSemantics (next : Nat) : List Field → List (Field × Text)
  | [] => []
  | f :: fs =>
    if f.semantic.isEmpty then (f, "TEXCOORD".toList ++ Decimal.natural next) ::
      withSemantics (next+1) fs
    else (f, f.semantic) :: withSemantics next fs

/-- The two structs from their members. -/
def structsOf (inputs outputs : List Text) : Layout :=
  let declare (name : Text) (members : List Text) : Layout :=
    .block ("struct ".toList ++ name) "\x7d;".toList (.ofLines members) ++ .blank
  declare settings.inputStruct inputs ++ declare settings.outputStruct outputs

def structs (g : Graph) : Layout :=
  structsOf settings ((g.activeFields .input).map fun f => member f.dataType f.name f.semantic)
    ((withSemantics 0 (g.activeFields .output)).map fun (f, semantic) =>
      member f.dataType f.name semantic)

def isCallable (b : Block) : Bool := b.isEnabled && !isDeclarationOnly b.code

/-- The call that a vertex block contributes: a `void` function of one `float3`. -/
def vertexCall? (b : Block) : Option Text :=
  if !isCallable b then none else
  match Signature.find? b.code with
  | none => none
  | some s => match s.parameterList with
    | [param] =>
      if s.returnType = "void".toList && param.holds "float3".toList then
        some (s.name ++ "(posOS);".toList) else none
    | _ => none

/-- The call that a fragment block contributes: a function of the output struct, by what it
returns. -/
def fragmentCall? (b : Block) : Option Text :=
  if !isCallable b then none else
  match Signature.find? b.code with
  | none => none
  | some s => match s.parameterList with
    | [param] =>
      if !param.startsWith settings.outputStruct then none
      else if s.returnType = "half4".toList || s.returnType = "float4".toList then
        some ("finalColor = ".toList ++ s.name ++ "(input);".toList)
      else if s.returnType = "half3".toList || s.returnType = "float3".toList then
        some ("finalColor = half4(".toList ++ s.name ++ "(input), 1.0);".toList)
      else if s.returnType = "void".toList then some (s.name ++ "(input);".toList)
      else none
    | _ => none

def positionHelper : Text := "GetVertexPositionInputs".toList
def normalHelper : Text := "GetVertexNormalInputs".toList

/-- The lines of a dependency's code that are written. The helper structs are declared elsewhere. -/
def transformLines (code : Text) : List Text :=
  ((code.splitOn '\n').map strip).filter fun l =>
    !l.isEmpty && !l.startsWith "VertexPositionInputs".toList &&
      !l.startsWith "VertexNormalInputs".toList

/-- The first edge of each source and target. -/
def firstOfEachKey (ds : List Dependency) : List Dependency :=
  ds.eraseDupsBy fun d e => d.key == e.key

def positionInput : Text := "positionOS".toList
def tangentInput : Text := "tangentOS".toList

/-- The lines between the declaration of the result and its return, from the edges of a graph and
whether it has a position and a tangent. -/
def vertexLines (edges : List Dependency) (hasPosition hasTangent : Bool)
    (blocks : List Block) : List Text :=
  let needs (helper : Text) := edges.any fun d => d.transformCode.holds helper
  (if hasPosition then ["float3 posOS = input.positionOS.xyz;".toList] else []) ++
    blocks.filterMap vertexCall? ++
    (if needs positionHelper && hasPosition then
      ["VertexPositionInputs vpi = ".toList ++ positionHelper ++ "(posOS);".toList] else []) ++
    (if needs normalHelper then
      ["VertexNormalInputs vni = ".toList ++ normalHelper ++
        (if hasTangent then "(input.normalOS, input.tangentOS);" else "(input.normalOS);").toList]
          else []) ++
    (firstOfEachKey edges).flatMap fun d => transformLines d.transformCode

def vertexBody (r : Registry) (g : Graph) (blocks : List Block) : List Text :=
  vertexLines (g.edges r) (g.isActiveInput positionInput) (g.isActiveInput tangentInput) blocks

def vertexEntryWith (body : List Text) : Layout :=
  let out := settings.outputStruct
  .scope (out ++ " vert(".toList ++ settings.inputStruct ++ " input)".toList)
    (.ofLines ([out ++ " output = (".toList ++ out ++ ")0;".toList] ++ body ++
      ["return output;".toList])) ++ .blank

def vertexEntry (r : Registry) (g : Graph) (blocks : List Block) : Layout :=
  vertexEntryWith settings (vertexBody r g blocks)

def fragmentEntry (blocks : List Block) : Layout :=
  .scope ("half4 frag(".toList ++ settings.outputStruct ++ " input) : SV_Target".toList) (.ofLines
    (["half4 finalColor = half4(1,1,1,1);".toList] ++ blocks.filterMap (fragmentCall? settings) ++
      ["return finalColor;".toList])) ++ .blank

end MarkedShader.Writing
