import MarkedShader.Proofs.Graph.Grows
import Mathlib.Data.List.Induction

/-! Runs of calls on a graph, and what no call can undo: a required field that a registry puts first
of its name stays there, required and active. -/
namespace MarkedShader

namespace Graph

/-- A call that changes a graph, or takes a copy to go on with. A refused addition leaves the graph
as it is. -/
inductive Call
  | set (name : Text) (stage : Stage) (value : Bool)
  | activate (output : Text)
  | deactivate (output : Text)
  | reset
  | add (f : Field)
  | annotate (name : Text) (stage : Stage) (note : Text)
  | bring (stage : Stage) (members : List Source.Member)
  | copy

def Call.apply (r : Registry) (g : Graph) : Call → Graph
  | .set name stage value => (g.setActive name stage value).1
  | .activate output => (Graph.activate r g output).1
  | .deactivate output => (g.deactivate output).1
  | .reset => g.reset
  | .add f => match g.add f with
    | .ok h => h
    | .error _ => g
  | .annotate name stage note => (g.annotate name stage note).1
  | .bring stage members => Source.applyMembers g stage members
  | .copy => g.copy

/-- The graph after some calls on the one of the registry. -/
def run (r : Registry) (calls : List Call) : Graph := calls.foldl (Call.apply r) (.ofRegistry r)

/-- The first field of a name is required and active. -/
def Anchored (name : Text) (stage : Stage) (g : Graph) : Prop :=
  ∃ f, g.find? name stage = some f ∧ f.isRequired ∧ f.isActive

variable {name : Text} {stage : Stage} {g : Graph}

/-- Where fields only grow, an anchor stays. -/
theorem Anchored.grows {h : Graph} (anchored : Anchored name stage g) (grows : Grows g h) :
    Anchored name stage h := by
  obtain ⟨f, hf, hr, ha⟩ := anchored
  obtain ⟨new, grown⟩ := grows
  obtain ⟨f', hf', touched⟩ := (grown stage).find? (Field.find?_append (new stage) hf)
  exact ⟨f', hf', touched.isRequired_eq.trans hr, touched.stays hr ha⟩

lemma Grows.apply (r : Registry) (g : Graph) (c : Call) : Grows g (c.apply r g) := by
  cases c with
  | set name stage value => exact ⟨_, .setActive name stage value⟩
  | activate output => exact ⟨_, .activate output⟩
  | deactivate output => exact ⟨_, .setActive output .output false⟩
  | reset => exact ⟨_, .reset⟩
  | add f =>
    simp only [Call.apply, Graph.add]
    split_ifs with hglobal
    · exact refl g
    · exact refl g
    · exact ⟨_, .append hglobal [f]⟩
  | annotate name stage note => exact ⟨_, .modify fun f _ => .annotate f note⟩
  | bring stage members => exact applyMembers g stage members
  | copy => exact ⟨_, .copy⟩

lemma Grows.run (r : Registry) (calls : List Call) : Grows (.ofRegistry r) (Graph.run r calls) :=
  List.foldlRecOn _ _ (motive := Grows (.ofRegistry r)) (refl _) fun g hg c _ =>
    hg.trans (apply r g c)

/-- No call takes an anchor away. -/
theorem Anchored.run {r : Registry} (h : Anchored name stage (.ofRegistry r)) (calls : List Call) :
    Anchored name stage (Graph.run r calls) := h.grows (.run r calls)

end Graph
end MarkedShader
