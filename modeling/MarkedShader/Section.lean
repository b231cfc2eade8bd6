import MarkedShader.Text.Lowercase

/-! The sections of a stage program, and the labels that stand for them. -/
namespace MarkedShader

inductive Section
  | properties | constants | vertex | fragment | helper | global | unknown
  deriving DecidableEq, Repr

namespace Section

def all : List Section := [.properties, .constants, .vertex, .fragment, .helper, .global, .unknown]

def name : Section → Text
  | .properties => "Properties".toList
  | .constants => "Constants".toList
  | .vertex => "Vertex".toList
  | .fragment => "Fragment".toList
  | .helper => "Helper".toList
  | .global => "Global".toList
  | .unknown => "Unknown".toList

def ofName? (t : Text) : Option Section := all.find? fun s => s.name = t

@[simp] theorem ofName?_name (s : Section) : ofName? s.name = some s := by cases s <;> rfl

/-- The words looked for in a label, in the order in which they are tried. -/
def keywords : List (Text × Section) := [
  ("constant".toList, .constants), ("vertex".toList, .vertex), ("fragment".toList, .fragment),
  ("helper".toList, .helper), ("propert".toList, .properties), ("global".toList, .global)]

/-- The section that a label such as "Helper Functions" stands for. -/
def ofLabel (label : Text) : Section :=
  match keywords.find? fun (word, _) => label.lower.holds word with
  | some (_, s) => s
  | none => .unknown

/-- The order in which sections are written, each with its label. -/
def layout : List (Section × Text) := [
  (.properties, "Properties".toList), (.global, "Global".toList), (.constants, "Constants".toList),
  (.helper, "Helper Functions".toList), (.vertex, "Vertex".toList), (.fragment, "Fragment".toList),
  (.unknown, "Unknown".toList)]

end Section
end MarkedShader
