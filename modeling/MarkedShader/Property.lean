import MarkedShader.Number
import MarkedShader.Text.Blank
import MarkedShader.Text.Lowercase

/-! Material properties and the declaration lines that stand for them. -/
namespace MarkedShader

inductive PropertyKind
  | float | range | color | vector | texture2D | texture3D | cubemap | int
  deriving DecidableEq, Repr

namespace PropertyKind

def all : List PropertyKind :=
  [.float, .range, .color, .vector, .texture2D, .texture3D, .cubemap, .int]

def name : PropertyKind → Text
  | .float => "Float".toList
  | .range => "Range".toList
  | .color => "Color".toList
  | .vector => "Vector".toList
  | .texture2D => "Texture2D".toList
  | .texture3D => "Texture3D".toList
  | .cubemap => "Cubemap".toList
  | .int => "Int".toList

def ofName? (t : Text) : Option PropertyKind := all.find? fun k => k.name = t

@[simp] theorem ofName?_name (k : PropertyKind) : ofName? k.name = some k := by cases k <;> rfl

def spellings : List (Text × PropertyKind) := [
  ("float".toList, .float), ("range".toList, .range),
  ("color".toList, .color), ("vector".toList, .vector),
  ("2d".toList, .texture2D), ("texture2d".toList, .texture2D), ("3d".toList, .texture3D),
  ("texture3d".toList, .texture3D), ("cube".toList, .cubemap), ("cubemap".toList, .cubemap),
  ("int".toList, .int), ("integer".toList, .int)]

/-- The kind written in a marker or declaration; an unknown word means a float. -/
def read (t : Text) : PropertyKind := (spellings.lookup t.strip.lower).getD .float

def isNumeric (k : PropertyKind) : Bool := k = .float || k = .range || k = .int

def isTexture (k : PropertyKind) : Bool := k = .texture2D || k = .texture3D || k = .cubemap

end PropertyKind

structure Property where
  name : Text
  displayName : Text := []
  kind : PropertyKind := .float
  defaultValue : Text := []
  minValue : Number := .ofNat 0
  maxValue : Number := .ofNat 1
  role : Text := []
  /-- The declaration line as it was found, if it is not the synthesized one. -/
  rawDeclaration : Text := []
  defaultTexture : Text := []
  deriving DecidableEq, Repr

namespace Property

/-- The declaration line made from kind, default and range. -/
def synthesize (p : Property) : Text :=
  let label := p.name ++ "(\"".toList ++ p.displayName ++ "\", ".toList
  let textured (kind texture : Text) :=
    label ++ kind ++ ") = \"".toList ++ texture ++ "\" \x7b\x7d".toList
  match p.kind with
  | .range =>
    label ++ "Range(".toList ++ p.minValue.plain ++ ',' :: p.maxValue.plain ++
      ")) = ".toList ++ p.defaultValue
  | .texture2D =>
    textured "2D".toList (if p.defaultTexture.isEmpty then "white".toList else p.defaultTexture)
  | .texture3D => textured "3D".toList p.defaultTexture
  | .cubemap => textured "Cube".toList p.defaultTexture
  | k => label ++ k.name ++ ") = ".toList ++ p.defaultValue

def declaration (p : Property) : Text :=
  if p.rawDeclaration.isEmpty then p.synthesize else p.rawDeclaration

end Property
end MarkedShader
