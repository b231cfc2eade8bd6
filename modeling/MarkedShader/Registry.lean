import MarkedShader.Field

/-! The catalogue of known fields, and what each output field is computed from. -/
namespace MarkedShader

/-- An input field that an output field is computed from, with the code that computes it. -/
structure Dependency where
  source : Text
  target : Text
  transformCode : Text
  description : Text := []
  deriving DecidableEq, Repr

def Dependency.key (d : Dependency) : Text := d.source ++ "->".toList ++ d.target

structure Registry where
  inputs : List Field := []
  outputs : List Field := []
  globals : List Field := []
  /-- By the name of the output field. -/
  dependencies : List (Text × List Dependency) := []
  tooltips : List (Text × Text) := []
  deriving DecidableEq, Repr

namespace Registry

/-- The dependencies of an output field in the order of their declaration. -/
def dependenciesOf (r : Registry) (output : Text) : List Dependency :=
  (r.dependencies.lookup output).getD []

def findInput? (r : Registry) (nameOrSemantic : Text) : Option Field :=
  r.inputs.find? fun f => f.name = nameOrSemantic || f.semantic = nameOrSemantic

def findOutput? (r : Registry) (name : Text) : Option Field := Field.find? name r.outputs

def findGlobal? (r : Registry) (name : Text) : Option Field := Field.find? name r.globals

def tooltip (r : Registry) (name : Text) : Text := (r.tooltips.lookup name).getD []

end Registry
end MarkedShader
