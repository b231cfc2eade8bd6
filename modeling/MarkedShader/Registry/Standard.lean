import MarkedShader.Registry

/-! The registry of the standard pipeline. -/
namespace MarkedShader.Registry

def vertexInput (name dataType semantic displayName : String) (isRequired : Bool) : Field :=
  .normalize ⟨name.toList, dataType.toList, semantic.toList, displayName.toList, .input,
    isRequired, false, []⟩

def interpolant (name dataType semantic displayName : String) (isRequired : Bool) : Field :=
  .normalize ⟨name.toList, dataType.toList, semantic.toList, displayName.toList, .output,
    isRequired, false, []⟩

def pipelineValue (name dataType displayName : String) : Field :=
  .normalize ⟨name.toList, dataType.toList, [], displayName.toList, .global, false, false, []⟩

/-- One output field with the sources, code and description of its dependencies. -/
def computed (target : String) (sources : List (String × String × String)) :
    Text × List Dependency :=
  (target.toList, sources.map fun (source, code, description) =>
    ⟨source.toList, target.toList, code.toList, description.toList⟩)

def standardInputs : List Field := [
  vertexInput "positionOS" "float4" "POSITION" "Object Position" true,
  vertexInput "normalOS" "float3" "NORMAL" "Object Normal" false,
  vertexInput "tangentOS" "float4" "TANGENT" "Object Tangent" false,
  vertexInput "uv" "float2" "TEXCOORD0" "UV Channel 0" false,
  vertexInput "uv2" "float2" "TEXCOORD1" "UV Channel 1" false,
  vertexInput "color" "float4" "COLOR" "Vertex Color" false]

def standardOutputs : List Field := [
  interpolant "positionCS" "float4" "SV_POSITION" "Clip Position" true,
  interpolant "normalWS" "float3" "" "World Normal" false,
  interpolant "tangentWS" "float4" "" "World Tangent" false,
  interpolant "bitangentWS" "float3" "" "World Bitangent" false,
  interpolant "uv" "float2" "" "UV" false,
  interpolant "positionWS" "float3" "" "World Position" false,
  interpolant "viewDirWS" "float3" "" "View Direction" false,
  interpolant "fogFactor" "float" "" "Fog Factor" false,
  interpolant "shadowCoord" "float4" "" "Shadow Coord" false,
  interpolant "vertexColor" "float4" "" "Vertex Color" false,
  interpolant "screenPos" "float4" "" "Screen Position" false]

/-- Available in every stage without a declaration. -/
def standardGlobals : List Field := [
  pipelineValue "_Time" "float4" "Time",
  pipelineValue "_SinTime" "float4" "Sine of Time",
  pipelineValue "_CosTime" "float4" "Cosine of Time",
  pipelineValue "unity_DeltaTime" "float4" "Delta Time",
  pipelineValue "_WorldSpaceCameraPos" "float3" "Camera Position (World)",
  pipelineValue "_ScreenParams" "float4" "Screen Size",
  pipelineValue "_ProjectionParams" "float4" "Projection Params",
  pipelineValue "unity_OrthoParams" "float4" "Ortho Params",
  pipelineValue "unity_ObjectToWorld" "float4x4" "Object to World Matrix",
  pipelineValue "unity_WorldToObject" "float4x4" "World to Object Matrix"]

def standardTooltips : List (Text × Text) := [
  ("_Time".toList, "(t/20, t, t*2, t*3)".toList),
  ("_SinTime".toList, "(sin(t/8), sin(t/4), sin(t/2), sin(t))".toList),
  ("_CosTime".toList, "(cos(t/8), cos(t/4), cos(t/2), cos(t))".toList),
  ("unity_DeltaTime".toList, "(dt, 1/dt, smoothDt, 1/smoothDt)".toList),
  ("_WorldSpaceCameraPos".toList, "World space position of the camera".toList),
  ("_ScreenParams".toList, "(width, height, 1 + 1/width, 1 + 1/height)".toList),
  ("_ProjectionParams".toList, "(1 or -1 if flipped, near, far, 1/far)".toList),
  ("unity_OrthoParams".toList, "(width, height, unused, 1 if orthographic)".toList),
  ("unity_ObjectToWorld".toList, "Current model matrix".toList),
  ("unity_WorldToObject".toList, "Inverse of the current model matrix".toList)]

def standardDependencies : List (Text × List Dependency) := [
  computed "positionCS" [
    ("positionOS",
      "VertexPositionInputs vpi = GetVertexPositionInputs(input.positionOS.xyz);\noutput.positionCS = vpi.positionCS;",
      "GetVertexPositionInputs")],
  computed "positionWS" [
    ("positionOS",
      "output.positionWS = vpi.positionWS;",
      "GetVertexPositionInputs -> positionWS")],
  computed "normalWS" [
    ("normalOS",
      "VertexNormalInputs vni = GetVertexNormalInputs(input.normalOS);\noutput.normalWS = vni.normalWS;",
      "TransformObjectToWorldNormal")],
  computed "tangentWS" [
    ("tangentOS",
      "VertexNormalInputs vni = GetVertexNormalInputs(input.normalOS, input.tangentOS);\noutput.tangentWS = float4(vni.tangentWS, input.tangentOS.w);",
      "GetVertexNormalInputs -> tangentWS")],
  computed "bitangentWS" [
    ("normalOS",
      "output.bitangentWS = vni.bitangentWS;",
      "GetVertexNormalInputs -> bitangentWS"),
    ("tangentOS",
      "",
      "requires tangentOS for bitangent")],
  computed "uv" [
    ("uv",
      "output.uv = input.uv;",
      "Pass-through UV")],
  computed "fogFactor" [
    ("positionOS",
      "output.fogFactor = ComputeFogFactor(vpi.positionCS.z);",
      "ComputeFogFactor")],
  computed "shadowCoord" [
    ("positionOS",
      "output.shadowCoord = GetShadowCoord(vpi);",
      "GetShadowCoord")],
  computed "viewDirWS" [
    ("positionOS",
      "output.viewDirWS = GetWorldSpaceNormalizeViewDir(vpi.positionWS);",
      "GetWorldSpaceNormalizeViewDir")],
  computed "vertexColor" [
    ("color",
      "output.vertexColor = input.color;",
      "Pass-through vertex color")],
  computed "screenPos" [
    ("positionOS",
      "output.screenPos = ComputeScreenPos(vpi.positionCS);",
      "ComputeScreenPos")]]

def standard : Registry :=
  ⟨standardInputs, standardOutputs, standardGlobals, standardDependencies, standardTooltips⟩

end MarkedShader.Registry
