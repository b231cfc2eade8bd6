import MarkedShader.Draft.Fault
import MarkedShader.Draft.Settled

/-! Graphs of drafts: fields whose names can be any value, looked up by texts. What is done with a
graph is what is done with the settled graph that it is, if it is one. -/
namespace MarkedShader.Draft

def Field.modifyFirst (name : Text) (change : Field → Field) : List Field → List Field
  | [] => []
  | f :: fs => if f.name.isText name then change f :: fs else f :: modifyFirst name change fs

/-- An active output that lacks an input. -/
structure Issue where
  field : Data
  message : Text

namespace Graph

def fields (g : Graph) : Stage → List Field
  | .input => g.inputs
  | .output => g.outputs
  | .global => []

def withFields (g : Graph) (stage : Stage) (fs : List Field) : Graph :=
  match stage with
  | .input => { g with inputs := fs }
  | .output => { g with outputs := fs }
  | .global => g

def find? (g : Graph) (name : Text) (stage : Stage) : Option Field :=
  g.ask (fun g => (g.find? name stage).map .ofField) fun g => (g.fields stage).find? fun f =>
    f.name.isText name

def activeFields (g : Graph) (stage : Stage) : List Field := (g.fields stage).filter (·.isActive)

def activeNames (g : Graph) (stage : Stage) : List Data :=
  g.ask (fun g => (g.activeNames stage).map .text) fun g => (g.activeFields stage).map (·.name)

def modify (g : Graph) (name : Text) (stage : Stage) (change : Field → Field) : Graph :=
  g.withFields stage (Field.modifyFirst name change (g.fields stage))

def setActive (g : Graph) (name : Text) (stage : Stage) (value : Bool) : Graph × Bool :=
  g.edit (·.setActive name stage value) fun g => match g.find? name stage with
    | some f =>
      if f.isRequired || f.isActive == value then (g, false)
      else (g.modify name stage fun f => { f with isActive := value }, true)
    | none => (g, false)

def isActiveInput (g : Graph) (name : Text) : Bool := (g.find? name .input).any (·.isActive)

/-- Switch an input on if it is there and off, and note its name. -/
def switchOn (state : Graph × List Text) (source : Text) : Graph × List Text :=
  match state.1.find? source .input with
  | some f =>
    if f.isActive then state
    else (state.1.modify source .input fun f => { f with isActive := true }, state.2 ++ [source])
  | none => state

/-- Switch an output on together with the inputs it is computed from. -/
def activate (r : Registry) (g : Graph) (output : Text) : Graph × List Text :=
  g.edit (·.activate r output) fun g => match g.find? output .output with
    | none => (g, [])
    | some _ =>
      let lit := g.modify output .output fun f => { f with isActive := true }
      ((r.dependenciesOf output).map (·.source)).foldl switchOn (lit, [])

def deactivate (g : Graph) (output : Text) : Graph × Bool :=
  g.edit (·.deactivate output) fun g => g.setActive output .output false

/-- Only a value that cannot change can be looked up. -/
def dependenciesOf (r : Registry) : Data → Except Fault (List Dependency)
  | .text t => .ok (r.dependenciesOf t)
  | d => if d.isFixed then .ok [] else .error .wrongKind

/-- Each active output with its dependencies, in order. -/
def activeDependencies (r : Registry) (g : Graph) : Except Fault (List (Field × Dependency)) := do
  .ok (← (g.activeFields .output).mapM
    fun out => do .ok ((← dependenciesOf r out.name).map (out, ·))).flatten

def edges (r : Registry) (g : Graph) : Except Fault (List Dependency) :=
  g.ask (fun g => .ok (g.edges r)) fun g => do
    .ok (((← activeDependencies r g).filter fun (_, d) => g.isActiveInput d.source).map (·.2))

def issues (r : Registry) (s : Store) (g : Graph) : Except Fault (List Issue) :=
  g.ask (fun g => .ok ((g.issues r).map fun i => ⟨.text i.field, i.message⟩)) fun g => do
    ((← activeDependencies r g).filter fun (_, d) => !g.isActiveInput d.source).mapM
        fun (out, d) => do
      .ok ⟨out.name,
        (MarkedShader.Graph.Issue.mk [] (← spelled s out.displayName) d.source).message⟩

/-- Each field is made anew. A label that does not count as true is replaced by the name. -/
def copy (s : Store) (g : Graph) : Graph :=
  let made := List.map fun (f : Field) => { f with
    displayName := if s.isTrue f.displayName then f.displayName else f.name
    isActive := f.isRequired || f.isActive }
  g.ask (fun g => .ofGraph g.copy) fun g => ⟨made g.inputs, made g.outputs⟩

def reset (g : Graph) : Graph :=
  let back := List.map fun (f : Field) => { f with isActive := f.isRequired }
  g.ask (fun g => .ofGraph g.reset) fun g => ⟨back g.inputs, back g.outputs⟩

def add (g : Graph) (f : MarkedShader.Field) : Except MarkedShader.Graph.AddError Graph :=
  g.ask (fun g => (g.add f).map .ofGraph) fun g =>
    if f.stage = .global then .error .globalField
    else if (g.find? f.name f.stage).isSome then .error (.duplicate f.name f.stage)
    else .ok (g.withFields f.stage (g.fields f.stage ++ [.ofField f]))

def annotate (g : Graph) (name : Text) (stage : Stage) (note : Text) : Graph × Bool :=
  g.edit (·.annotate name stage note) fun g =>
    (g.modify name stage fun f => { f with annotation := .text note }, (g.find? name stage).isSome)

end Graph
end MarkedShader.Draft
