import MarkedShader.Marker
import MarkedShader.Number.Numeral
import MarkedShader.Property
import MarkedShader.RenderState
import MarkedShader.Source.Shape
import MarkedShader.Warning

/-! Properties and render defaults, both of which stand in markers. -/
namespace MarkedShader.Source
open Text

variable (pre : Text)

/-- The declaration near a property marker: the first line of the next three that is neither blank
nor a comment, if it is a declaration and no other property marker comes before it. -/
def declarationAfter (following : List Text) : Text :=
  let near := ((following.take 3).takeWhile fun l => (Marker.property? pre l).isNone).map strip
  ((near.find? fun l => !l.isEmpty && !l.startsWith "//".toList).filter isPropertyDeclaration).getD
    []

def numberOr (default : Number) (t : Text) : Number :=
  ((Numeral.real? t).map Number.real).getD default

/-- The property that a marker's attributes describe. A declaration is kept only if it says
something else. -/
def propertyOf (attributes : Attributes) (following : List Text) : Property :=
  let raw := declarationAfter pre following
  let kind := PropertyKind.read (attributes.getD "type" "Float".toList)
  let texture := attributes.getD "texture" []
  let p : Property :=
    { name := attributes.getD "name" [], displayName := attributes.getD "display" [], kind
      defaultValue := attributes.getD "default" []
      minValue := numberOr (.ofNat 0) (attributes.getD "min" ['0'])
      maxValue := numberOr (.ofNat 1) (attributes.getD "max" ['1'])
      role := attributes.getD "role" []
      defaultTexture :=
        if kind.isTexture && texture.isEmpty then (defaultTexture? raw).getD [] else texture }
  { p with rawDeclaration := if raw = p.synthesize then [] else raw }

/-- The properties from line `i` on, without those whose names are already known. -/
def propertiesFrom (i : Nat) (known : List Text) : List Text → List Property × List Warning
  | [] => ([], [])
  | l :: ls => match Marker.property? pre l with
    | none => propertiesFrom (i+1) known ls
    | some text =>
      let p := propertyOf pre (Attributes.read text) ls
      if p.name.isEmpty then
        let (ps, warnings) := propertiesFrom (i+1) known ls
        (ps, ⟨i, .unnamedProperty⟩ :: warnings)
      else if known.contains p.name then
        let (ps, warnings) := propertiesFrom (i+1) known ls
        (ps, ⟨i, .duplicateProperty p.name⟩ :: warnings)
      else
        let (ps, warnings) := propertiesFrom (i+1) (p.name :: known) ls
        (p :: ps, warnings)

def properties (ls : List Text) : List Property × List Warning := propertiesFrom pre 0 [] ls

/-- What one line changes in the render defaults. -/
def takeGlobal (settings : GlobalSettings) (line : Text) : GlobalSettings :=
  match Marker.global? pre line with
  | none => settings
  | some text =>
    let attributes := Attributes.read text
    { cull := attributes.getD "cull" settings.cull
      blend := attributes.getD "blend" settings.blend
      zwrite := attributes.getD "zwrite" settings.zwrite
      renderType := attributes.getD "rendertype" settings.renderType
      renderQueue := attributes.getD "queue" settings.renderQueue }

def globalSettings (ls : List Text) : GlobalSettings := ls.foldl (takeGlobal pre) {}

end MarkedShader.Source
