import MarkedShader.Graph
import Mathlib.Algebra.GroupWithZero.Nat
import Mathlib.Data.List.Basic

/-! The dependencies of the active outputs of a graph. Each one is an edge or an issue, and never
both. Main statement: `edges_issues_parted`. -/
namespace MarkedShader

namespace Registry

lemma dependenciesOf_mem (r : Registry) (output : Text) :
    r.dependenciesOf output = [] ∨ (output, r.dependenciesOf output) ∈ r.dependencies := by
  unfold dependenciesOf
  cases hl : r.dependencies.lookup output with
  | none => exact .inl rfl
  | some ds =>
    obtain ⟨before, after, he, -⟩ := List.lookup_eq_some_iff.mp hl
    exact .inr (by simp [he])

/-- The dependencies of an output are in the table of the registry. -/
theorem mem_dependenciesOf {r : Registry} {output : Text} {d : Dependency}
    (h : d ∈ r.dependenciesOf output) : ∃ ds, (output, ds) ∈ r.dependencies ∧ d ∈ ds :=
  ⟨_, (dependenciesOf_mem r output).resolve_left (List.ne_nil_of_mem h), h⟩

end Registry

namespace Graph

lemma mem_activeDependencies {r : Registry} {g : Graph} {out : Field} {d : Dependency} :
    (out, d) ∈ activeDependencies r g ↔
      (out ∈ g.outputs ∧ out.isActive) ∧ d ∈ r.dependenciesOf out.name := by
  simp [activeDependencies, Field.active, List.mem_flatMap, and_assoc]

/-- An edge of a graph is a dependency of an active output whose source is active. -/
theorem mem_edges {r : Registry} {g : Graph} {d : Dependency} :
    d ∈ g.edges r ↔ ∃ out ∈ g.outputs, out.isActive ∧ d ∈ r.dependenciesOf out.name ∧
      g.isActiveInput d.source := by
  simp only [edges, List.mem_map, List.mem_filter, Prod.exists, mem_activeDependencies]
  constructor
  · rintro ⟨out, _, ⟨⟨⟨ho, ha⟩, hd⟩, hi⟩, rfl⟩
    exact ⟨out, ho, ha, hd, hi⟩
  · rintro ⟨out, ho, ha, hd, hi⟩
    exact ⟨out, d, ⟨⟨⟨ho, ha⟩, hd⟩, hi⟩, rfl⟩

/-- Without issues every dependency of an active output is an edge. -/
theorem mem_edges_of_issues {r : Registry} {g : Graph}
    (h : g.issues r = []) {out : Field} (ho : out ∈ g.outputs) (ha : out.isActive) {d : Dependency}
    (hd : d ∈ r.dependenciesOf out.name) : d ∈ g.edges r := by
  refine mem_edges.mpr ⟨out, ho, ha, hd, ?_⟩
  by_contra hn
  have hm : (out, d) ∈ (activeDependencies r g).filter fun p => !g.isActiveInput p.2.source :=
    List.mem_filter.mpr ⟨mem_activeDependencies.mpr ⟨⟨ho, ha⟩, hd⟩, by simpa using hn⟩
  have hnone : ((activeDependencies r g).filter fun p => !g.isActiveInput p.2.source) = [] :=
    List.map_eq_nil_iff.mp h
  rw [hnone] at hm
  contradiction

variable {r : Registry} {g : Graph}

/-- The first input of a name is active. -/
def Supplies (g : Graph) (name : Text) : Prop :=
  ∃ before f after, g.inputs = before ++ f :: after ∧ (∀ e ∈ before, e.name ≠ name) ∧
    f.name = name ∧ f.isActive

lemma supplies_iff {name : Text} : g.Supplies name ↔ g.isActiveInput name := by
  simp only [isActiveInput, Option.any_eq_true, Graph.find?, fields, Field.find?,
    List.find?_eq_some_iff_append, decide_eq_true_eq, Supplies]
  constructor
  · rintro ⟨before, f, after, hinputs, hbefore, hname, hactive⟩
    exact ⟨f, ⟨hname, before, after, hinputs, by simpa using hbefore⟩, hactive⟩
  · rintro ⟨f, ⟨hname, before, after, hinputs, hbefore⟩, hactive⟩
    exact ⟨before, f, after, hinputs, by simpa using hbefore, hname, hactive⟩

/-- The dependencies met on a walk over outputs, each put into one of two lists: the edges if its
source is supplied, else the issues, as one that has the output's name and says which source it
lacks. -/
inductive Parted (g : Graph) : List (Field × Dependency) → List Dependency → List Issue → Prop
  | nil : Parted g [] [] []
  | edge {out d walk edges issues} (supplied : g.Supplies d.source)
      (rest : Parted g walk edges issues) : Parted g ((out, d) :: walk) (d :: edges) issues
  | issue {out d walk edges issues}
      {i : Issue} (missing : ¬ g.Supplies d.source) (field : i.field = out.name)
      (message : i.message = "'".toList ++ out.displayName ++ "' requires '".toList ++ d.source ++
        "' in Attributes, but it is not active.".toList) (rest : Parted g walk edges issues) :
      Parted g ((out, d) :: walk) edges (i :: issues)

namespace Parted

variable {walk : List (Field × Dependency)} {edges : List Dependency} {issues : List Issue}

lemma length_eq (h : Parted g walk edges issues) : edges.length + issues.length = walk.length := by
  induction h with
  | nil => rfl
  | edge _ _ ih =>
    simp only [List.length_cons]
    omega
  | issue _ _ _ _ ih =>
    simp only [List.length_cons]
    omega

lemma issues_eq_nil_iff (h : Parted g walk edges issues) :
    issues = [] ↔ edges = walk.map (·.2) := by
  constructor
  · rintro rfl
    generalize hnone : ([] : List Issue) = issues at h
    induction h with
    | nil => rfl
    | edge _ _ ih => rw [List.map_cons, ih hnone]
    | issue => contradiction
  · rintro rfl
    have := h.length_eq
    rw [List.length_map] at this
    exact List.eq_nil_of_length_eq_zero (by omega)

end Parted

/-- Whatever is walked over, those dependencies that have their source and those that do not are
parted. -/
lemma parted_filter (g : Graph) (walk : List (Field × Dependency)) :
    Parted g walk ((walk.filter fun p => g.isActiveInput p.2.source).map (·.2))
      ((walk.filter fun p => !g.isActiveInput p.2.source).map fun p =>
        ⟨p.1.name, p.1.displayName, p.2.source⟩) := by
  induction walk with
  | nil => exact .nil
  | cons p walk ih =>
    obtain ⟨out, d⟩ := p
    cases hd : g.isActiveInput d.source with
    | true =>
      rw [List.filter_cons_of_pos (by simpa using hd), List.filter_cons_of_neg (by simpa using hd)]
      exact .edge (supplies_iff.mpr hd) ih
    | false =>
      rw [List.filter_cons_of_neg (by simpa using hd), List.filter_cons_of_pos (by simpa using hd)]
      exact .issue (fun h => by simp [supplies_iff.mp h] at hd) rfl rfl ih

/-- On the walk over the active outputs and, for each, over its dependencies, every dependency is an
edge or an issue. -/
theorem edges_issues_parted (r : Registry) (g : Graph) :
    let walk := (g.activeFields .output).flatMap fun out => (r.dependenciesOf out.name).map (out, ·)
    Parted g walk (g.edges r) (g.issues r) ∧
      (g.edges r).length + (g.issues r).length =
        ((g.activeFields .output).map fun out => (r.dependenciesOf out.name).length).sum ∧
      (g.issues r = [] ↔ g.edges r = walk.map (·.2)) := by
  intro walk
  have parted : Parted g walk (g.edges r) (g.issues r) := parted_filter g walk
  refine ⟨parted, ?_, parted.issues_eq_nil_iff⟩
  rw [parted.length_eq, List.length_flatMap]
  simp only [List.length_map]

end Graph
end MarkedShader
