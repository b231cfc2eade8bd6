import MarkedShader.Registry

/-! Which fields of the stage structs are in use in a pass. That an active output has its inputs is
checked on request and never enforced. A graph does not name the registry it is over: all graphs of
a document are over one registry, the one that its text is read and written with, and what depends
on the registry is given it. -/
namespace MarkedShader

structure Graph where
  inputs : List Field := []
  outputs : List Field := []
  deriving DecidableEq, Repr

namespace Graph

/-- Each field is made anew, so that a required one is active and no label is left out. -/
def copy (g : Graph) : Graph := ⟨g.inputs.map .normalize, g.outputs.map .normalize⟩

/-- The graph of the fields of a registry, as they stand there. -/
def ofPrototypes (r : Registry) : Graph := ⟨r.inputs, r.outputs⟩

/-- The graph that a pass begins with: a copy of every prototype. -/
def ofRegistry (r : Registry) : Graph := (ofPrototypes r).copy

/-- Global values are in no struct. -/
def fields (g : Graph) : Stage → List Field
  | .input => g.inputs
  | .output => g.outputs
  | .global => []

def withFields (g : Graph) (stage : Stage) (fs : List Field) : Graph :=
  match stage with
  | .input => { g with inputs := fs }
  | .output => { g with outputs := fs }
  | .global => g

theorem fields_copy (g : Graph) (stage : Stage) :
    g.copy.fields stage = (g.fields stage).map .normalize := by
  cases stage <;> rfl

theorem names_copy (g : Graph) (stage : Stage) :
    (g.copy.fields stage).map (·.name) = (g.fields stage).map (·.name) := by
  rw [fields_copy, List.map_map]
  rfl

theorem isNormal_copy {g : Graph} {stage : Stage} : ∀ f ∈ g.copy.fields stage, f.IsNormal := by
  rw [fields_copy, List.forall_mem_map]
  exact fun f _ => f.isNormal_normalize

/-- A graph whose fields are as they were made is its own copy. -/
theorem copy_eq_self {g : Graph}
    (normal : ∀ stage, ∀ f ∈ g.fields stage, f.IsNormal) : g.copy = g := by
  have hsame : ∀ stage, g.copy.fields stage = g.fields stage := fun stage => by
    rw [fields_copy, List.map_congr_left fun f hf =>
      (f.normalize_eq_self_iff).mpr (normal stage f hf), List.map_id']
  exact congr (congrArg mk (hsame .input)) (hsame .output)

theorem fields_withFields (g : Graph) (stage other : Stage) (fs : List Field) :
    (g.withFields stage fs).fields other = if other = stage ∧ stage ≠ .global then fs
      else g.fields other := by
  cases stage <;> cases other <;> rfl

theorem fields_withFields_self {g : Graph} {stage : Stage} {fs : List Field}
    (hstage : stage ≠ .global) : (g.withFields stage fs).fields stage = fs := by
  rw [fields_withFields, if_pos ⟨rfl, hstage⟩]

def find? (g : Graph) (name : Text) (stage : Stage) : Option Field :=
  Field.find? name (g.fields stage)

def activeFields (g : Graph) (stage : Stage) : List Field := Field.active (g.fields stage)

def activeNames (g : Graph) (stage : Stage) : List Text := (g.activeFields stage).map (·.name)

def modify (g : Graph) (name : Text) (stage : Stage) (change : Field → Field) : Graph :=
  g.withFields stage (Field.modifyFirst name change (g.fields stage))

/-- Switch a field on or off, and say whether that changed it. Required and unknown fields stay as
they are. -/
def setActive (g : Graph) (name : Text) (stage : Stage) (value : Bool) : Graph × Bool :=
  match g.find? name stage with
  | some f =>
    if f.isRequired || f.isActive == value then (g, false)
    else (g.modify name stage fun f => { f with isActive := value }, true)
  | none => (g, false)

def isActiveInput (g : Graph) (name : Text) : Bool := (g.find? name .input).any (·.isActive)

/-- Switch an input on if it is there and off, and note its name. -/
def switchOn (state : Graph × List Text) (source : Text) : Graph × List Text :=
  match state.1.find? source .input with
  | some f =>
    if f.isActive then state
    else (state.1.modify source .input fun f => { f with isActive := true }, state.2 ++ [f.name])
  | none => state

/-- Switch an output on together with the inputs it is computed from. The names are those of the
inputs that were off, in the order of the dependencies. -/
def activate (r : Registry) (g : Graph) (output : Text) : Graph × List Text :=
  match g.find? output .output with
  | none => (g, [])
  | some _ =>
    let lit := g.modify output .output fun f => { f with isActive := true }
    ((r.dependenciesOf output).map (·.source)).foldl switchOn (lit, [])

/-- Inputs stay on, as another output may need them. -/
def deactivate (g : Graph) (output : Text) : Graph × Bool := g.setActive output .output false

/-- Each active output with its dependencies, in order. -/
def activeDependencies (r : Registry) (g : Graph) : List (Field × Dependency) :=
  (Field.active g.outputs).flatMap fun out => (r.dependenciesOf out.name).map (out, ·)

/-- The dependencies with both ends active. -/
def edges (r : Registry) (g : Graph) : List Dependency :=
  ((activeDependencies r g).filter fun (_, d) => g.isActiveInput d.source).map (·.2)

/-- An active output one of whose inputs is not active. -/
structure Issue where
  field : Text
  label : Text
  source : Text
  deriving DecidableEq, Repr

def Issue.message (i : Issue) : Text :=
  "'".toList ++ i.label ++ "' requires '".toList ++ i.source ++
    "' in Attributes, but it is not active.".toList

def issues (r : Registry) (g : Graph) : List Issue :=
  ((activeDependencies r g).filter fun (_, d) => !g.isActiveInput d.source).map fun (out, d) =>
    ⟨out.name, out.displayName, d.source⟩

/-- Leave only the required fields active. -/
def reset (g : Graph) : Graph :=
  let back := List.map fun (f : Field) => { f with isActive := f.isRequired }
  ⟨back g.inputs, back g.outputs⟩

inductive AddError
  | globalField
  | duplicate (name : Text) (stage : Stage)
  deriving DecidableEq, Repr

def AddError.message : AddError → Text
  | .globalField => "Global fields are not declared in a struct".toList
  | .duplicate name stage =>
    "Field '".toList ++ name ++ "' already exists in stage ".toList ++ stage.name

/-- Append a field that the registry does not know. -/
def add (g : Graph) (f : Field) : Except AddError Graph :=
  if f.stage = .global then .error .globalField
  else if (g.find? f.name f.stage).isSome then .error (.duplicate f.name f.stage)
  else .ok (g.withFields f.stage (g.fields f.stage ++ [f]))

def annotate (g : Graph) (name : Text) (stage : Stage) (note : Text) : Graph × Bool :=
  (g.modify name stage fun f => { f with annotation := note }, (g.find? name stage).isSome)

end Graph
end MarkedShader
