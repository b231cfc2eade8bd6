import MarkedShader.Proofs.Firsts
import MarkedShader.Proofs.Graph.Standing

/-! Which fields calls add to a graph, in the order in which they are added, and what holds of the
graph of a registry after any calls. Main statement: `run_lawful`. -/
namespace MarkedShader

namespace Source

lemma nodup_firstOfEachName (ms : List Member) : ((firstOfEachName ms).map (·.name)).Nodup :=
  Firsts.nodup_keys _ ms

end Source

namespace Graph

/-- The fields that a call adds to a stage, in order: the one that is added if it is accepted, and
those of the members that a struct declares and the stage does not know. -/
def Call.added (g : Graph) (stage : Stage) : Call → List Field
  | .add f => if (g.add f).isOk ∧ f.stage = stage then [f] else []
  | .bring other members =>
    if other = stage ∧ stage ≠ .global then
      ((Source.firstOfEachName members).filter fun m => (g.find? m.name stage).isNone).map
        (Source.customField stage)
    else []
  | _ => []

/-- The fields that calls add to a stage, one after another. -/
def added (r : Registry) (stage : Stage) : Graph → List Call → List Field
  | _, [] => []
  | g, c :: cs => c.added g stage ++ added r stage (c.apply r g) cs

namespace GrowsBy

variable {r : Registry} {g : Graph}

lemma applyMembers {stage : Stage} (distinct : ((g.fields stage).map (·.name)).Nodup)
    (ms : List Source.Member) :
    GrowsBy g (fun other => (Call.bring stage ms).added g other) (Source.applyMembers g stage ms) :=
  fun other => by
  by_cases hs : stage = other ∧ other ≠ .global
  · obtain ⟨rfl, hstage⟩ := hs
    have hnew : (Source.firstOfEachName ms).filter (fun m => (g.find? m.name stage).isNone) =
        (Source.firstOfEachName ms).filter fun m => m.name ∉ (g.fields stage).map (·.name) := by
      refine List.filter_congr fun m _ => ?_
      rw [Bool.eq_iff_iff, Option.isNone_iff_eq_none, decide_eq_true_iff]
      exact Field.find?_eq_none_iff
    simp only [Call.added, true_and, if_pos hstage]
    rw [hnew, Source.applyMembers, fields_withFields_self hstage,
      Source.fields_foldl_declare hstage distinct (Source.nodup_firstOfEachName ms)]
    refine .trans (.append (.map fun f _ => ?_) (.refl _)) (.map fun f _ => ?_)
    · unfold Source.lit
      split_ifs
      · exact .activate f
      · exact .refl f
    · split_ifs with hstays
      · exact .refl f
      · exact .switch (by simp at hstays; exact hstays.1) false
  · have hother : (Source.applyMembers g stage ms).fields other = g.fields other := by
      by_cases hglobal : other = .global
      · subst hglobal
        rfl
      · exact Source.fields_applyMembers_of_ne (fun h => hs ⟨h.symm, hglobal⟩) g ms
    simp only [Call.added, if_neg hs, List.append_nil, hother]
    exact .refl _

/-- What one call does to a graph whose names are distinct. -/
lemma apply (distinct : ∀ stage, ((g.fields stage).map (·.name)).Nodup) (c : Call) :
    GrowsBy g (fun stage => c.added g stage) (c.apply r g) := by
  cases c with
  | set name stage value => exact setActive name stage value
  | activate output => exact activate output
  | deactivate output => exact setActive output .output false
  | reset => exact reset
  | add f =>
    simp only [Call.apply, Call.added, Graph.add]
    split_ifs with hglobal hsome
    · exact refl g
    · exact refl g
    · simp only [Except.isOk, Except.toBool, true_and]
      exact append hglobal [f]
  | annotate name stage note => exact modify fun f _ => .annotate f note
  | bring stage members => exact applyMembers (distinct stage) members
  | copy => exact copy

lemma foldl (standing : Standing r g) (calls : List Call) :
    GrowsBy g (fun stage => added r stage g calls) (calls.foldl (Call.apply r) g) := by
  induction calls generalizing g with
  | nil => exact refl g
  | cons c calls ih => exact (apply standing.distinct c).trans (ih (standing.apply c))

end GrowsBy

/-- What holds of each field that is given or declared holds of all that are added. -/
theorem forall_mem_added {r : Registry} {stage : Stage} {P : Field → Prop}
    {g : Graph} {calls : List Call} (given : ∀ f, Call.add f ∈ calls → f.stage = stage → P f)
    (declared : ∀ members, Call.bring stage members ∈ calls →
      ∀ m ∈ members, P (Source.customField stage m)) : ∀ f ∈ added r stage g calls, P f := by
  induction calls generalizing g with
  | nil => exact fun f hf => absurd hf List.not_mem_nil
  | cons c calls ih =>
    intro f hf
    rcases List.mem_append.mp hf with hf | hf
    · cases c with
      | add f' =>
        simp only [Call.added] at hf
        split_ifs at hf with hadded
        · rw [List.mem_singleton.mp hf]
          exact given f' List.mem_cons_self hadded.2
        · exact absurd hf List.not_mem_nil
      | bring other members =>
        simp only [Call.added] at hf
        split_ifs at hf with hbrought
        · obtain ⟨rfl, -⟩ := hbrought
          obtain ⟨m, hm, rfl⟩ := List.mem_map.mp hf
          exact declared members List.mem_cons_self m (Firsts.mem_of_mem (List.mem_filter.mp hm).1)
        · exact absurd hf List.not_mem_nil
      | _ => exact absurd hf List.not_mem_nil
    · exact ih (fun f hf => given f (List.mem_cons_of_mem _ hf))
        (fun members hm => declared members (List.mem_cons_of_mem _ hm)) f hf

/-- The fields that calls add are as they were made, if those that are given are. -/
lemma isNormal_added {r : Registry} {stage : Stage} {g : Graph} {calls : List Call}
    (made : ∀ f, Call.add f ∈ calls → f.IsNormal) : ∀ f ∈ added r stage g calls, f.IsNormal :=
  forall_mem_added (fun f hf _ => made f hf) fun _ _ _ _ => Field.isNormal_normalize _

/-- A field is refused if it is in no struct, or if its stage has one of its name. -/
lemma add_eq_error_iff {g : Graph} {f : Field} :
    (∃ e, g.add f = .error e) ↔ f.stage = .global ∨ f.name ∈ (g.fields f.stage).map (·.name) := by
  have hfind : (g.find? f.name f.stage).isSome ↔ f.name ∈ (g.fields f.stage).map (·.name) :=
    Field.isSome_find?_iff
  rw [← hfind]
  unfold Graph.add
  split_ifs with hglobal hsome
  · exact iff_of_true ⟨_, rfl⟩ (.inl hglobal)
  · exact iff_of_true ⟨_, rfl⟩ (.inr hsome)
  · refine iff_of_false (fun h => ?_) (fun h => h.elim hglobal hsome)
    obtain ⟨e, h⟩ := h
    cases h

/-- What holds of a graph that calls have made of the one of a registry. -/
structure Lawful (r : Registry) (calls : List Call) (g : Graph) : Prop where
  distinct : ∀ stage, ((g.fields stage).map (·.name)).Nodup
  /-- Each field is as it was made: a required one is active. -/
  normal : ∀ stage, ∀ f ∈ g.fields stage, f.IsNormal
  /-- The registry's fields stand first and the added ones after them, declared as they were. -/
  grown : ∀ stage, (g.fields stage).map Field.declared =
    ((ofPrototypes r).fields stage ++ added r stage (ofRegistry r) calls).map Field.declared
  refuses : ∀ f, (∃ e, g.add f = .error e) ↔
    f.stage = .global ∨ f.name ∈ (g.fields f.stage).map (·.name)
  unchanged : ∀ f e, g.add f = .error e → (Call.add f).apply r g = g

/-- A copy of such a graph is the graph. -/
theorem Lawful.copy_eq {r : Registry} {calls : List Call} {g : Graph}
    (h : Lawful r calls g) : g.copy = g :=
  copy_eq_self h.normal

lemma isNormal_ofPrototypes {r : Registry} (known : ∀ f ∈ r.inputs ++ r.outputs, f.IsNormal)
    (stage : Stage) : ∀ f ∈ (ofPrototypes r).fields stage, f.IsNormal := by
  cases stage with
  | input => exact fun f hf => known f (List.mem_append_left _ hf)
  | output => exact fun f hf => known f (List.mem_append_right _ hf)
  | global => exact fun f hf => absurd hf List.not_mem_nil

/-- Whatever calls make of the graph of a registry, with distinct names and fields as they are
made. -/
theorem run_lawful {r : Registry} (inputs : (r.inputs.map (·.name)).Nodup)
    (outputs : (r.outputs.map (·.name)).Nodup) (known : ∀ f ∈ r.inputs ++ r.outputs, f.IsNormal)
    (calls : List Call) (made : ∀ f, Call.add f ∈ calls → f.IsNormal) :
    Lawful r calls (run r calls) := by
  have hknown := isNormal_ofPrototypes known
  have hcopy : ofRegistry r = ofPrototypes r := copy_eq_self hknown
  have start : Standing r (ofRegistry r) := by
    refine ⟨fun stage => List.prefix_refl _, fun stage => ?_⟩
    rw [hcopy]
    cases stage with
    | input => exact inputs
    | output => exact outputs
    | global => exact List.nodup_nil
  have grows : ∀ stage,
      Field.AllTouched ((ofPrototypes r).fields stage ++ added r stage (ofRegistry r) calls)
      ((run r calls).fields stage) := fun stage => by
    rw [← congrArg (fields · stage) hcopy]
    exact GrowsBy.foldl start calls stage
  have normal : ∀ stage,
      ∀ f ∈ (ofPrototypes r).fields stage ++ added r stage (ofRegistry r) calls, f.IsNormal :=
    fun stage => List.forall_mem_append.mpr ⟨hknown stage, isNormal_added made⟩
  exact ⟨(start.run calls).distinct, fun stage => (grows stage).isNormal (normal stage),
    fun stage => (grows stage).declared (normal stage), fun f => add_eq_error_iff,
    fun f e he => by simp only [Call.apply, he]⟩

/-- A required field is added, a second one of its name is refused, and a struct that declares
neither leaves it active. -/
theorem run_lawful_glow :
    let glow : Field := .normalize
      { name := "glow".toList, dataType := "half".toList, stage := .output, isRequired := true }
    let calls := [Call.add glow, .add { glow with semantic := "COLOR1".toList },
      .bring .output [⟨"float".toList, "dust".toList, "TEXCOORD5".toList⟩,
        ⟨"float2".toList, "uv".toList, "TEXCOORD0".toList⟩],
      .set "glow".toList .output false]
    Lawful .standard calls (run .standard calls) ∧
      (run .standard calls).activeNames .output =
        ["positionCS".toList, "uv".toList, "glow".toList, "dust".toList] := by
  intro glow calls
  refine ⟨run_lawful (by decide) (by decide) (by decide) calls fun f hf => ?_, by decide⟩
  have hmade : f = glow ∨ f = { glow with semantic := "COLOR1".toList } := by simpa [calls] using hf
  rcases hmade with rfl | rfl
  · decide
  · decide

end Graph
end MarkedShader
