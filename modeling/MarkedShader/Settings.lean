import MarkedShader.Text.Basic

/-! The names and spellings of the annotated format that a project may change. -/
namespace MarkedShader

structure Settings where
  /-- The beginning of every marker, as in `// [AILab_Block_End]`. -/
  tagPrefix : Text := "AILab".toList
  defaultShaderName : Text := "AILab/NewShader".toList
  /-- The shader named in the last line of a written file. -/
  fallbackShader : Text := "Hidden/Universal Render Pipeline/FallbackError".toList
  /-- One step of indentation. -/
  indent : Text := "    ".toList
  inputStruct : Text := "Attributes".toList
  outputStruct : Text := "Varyings".toList
  cbufferName : Text := "UnityPerMaterial".toList
  renderPipeline : Text := "UniversalPipeline".toList
  deriving DecidableEq, Repr

namespace Settings

/-- The value of an environment variable, unless it is empty or not set. -/
def lookup? (environment : List (Text × Text)) (name : Text) : Option Text :=
  (environment.lookup name).filter fun value => !value.isEmpty

/-- The defaults with the marker prefix and the fallback shader that the environment names. -/
def ofEnvironment (environment : List (Text × Text)) : Settings :=
  let defaults : Settings := {}
  { defaults with
    tagPrefix := (lookup? environment "SHADERLAB_TAG_PREFIX".toList).getD defaults.tagPrefix
    fallbackShader :=
      (lookup? environment "SHADERLAB_FALLBACK".toList).getD defaults.fallbackShader }

end Settings
end MarkedShader
