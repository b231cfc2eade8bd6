import MarkedShader.Proofs.Firsts
import MarkedShader.Proofs.Graph.Edges
import MarkedShader.Proofs.Graph.Standing

/-! Switching an output on together with its inputs. All it does is to switch on the output and the
inputs that its dependencies name, so that it does nothing a second time and the order of two
outputs does not count. Main statement: `activate_cascade`. -/
namespace MarkedShader

namespace Source

variable {names more : List Text}

lemma lit_congr (h : ∀ n, n ∈ names ↔ n ∈ more) : lit names = lit more := by
  funext f
  simp only [lit, h]

lemma isActive_lit (f : Field) :
    (lit names f).isActive = (f.isActive || decide (f.name ∈ names)) := by
  by_cases hn : f.name ∈ names <;> simp [lit, hn]

lemma displayName_lit (names : List Text) (f : Field) :
    (lit names f).displayName = f.displayName := by
  unfold lit
  split_ifs <;> rfl

end Source

/-- The inputs that an output field is computed from, in the order of its dependencies. -/
def Registry.sourcesOf (r : Registry) (output : Text) : List Text :=
  (r.dependenciesOf output).map (·.source)

namespace Graph
open Source (lit)

variable {r : Registry} {g : Graph} {output : Text}

/-- An input of the name is there and off. -/
def isOff (g : Graph) (name : Text) : Bool := g.inputs.any fun f => f.name = name && !f.isActive

/-- The graph with the inputs and the outputs of some names switched on, and nothing else
changed. -/
def switchedOn (g : Graph) (inputs outputs : List Text) : Graph :=
  ⟨g.inputs.map (lit inputs), g.outputs.map (lit outputs)⟩

section SwitchedOn

variable {inputs outputs : List Text}

lemma map_name_lit (names : List Text) (fs : List Field) :
    (fs.map (lit names)).map (·.name) = fs.map (·.name) := by
  rw [List.map_map]
  exact List.map_congr_left fun f _ => Source.name_lit names f

lemma map_lit_nil (fs : List Field) : fs.map (lit []) = fs :=
  (List.map_congr_left fun _ _ => if_neg List.not_mem_nil).trans (List.map_id' _)

lemma names_switchedOn (stage : Stage) :
    ((g.switchedOn inputs outputs).fields stage).map (·.name) = (g.fields stage).map (·.name) := by
  cases stage with
  | global => rfl
  | _ => exact map_name_lit _ _

lemma switchedOn_switchedOn (more more' : List Text) :
    (g.switchedOn inputs outputs).switchedOn more more' =
      g.switchedOn (inputs ++ more) (outputs ++ more') := by
  simp only [switchedOn, List.map_map, Function.comp_def, Source.lit_lit]

lemma switchedOn_congr {more more' : List Text} (hi : ∀ n, n ∈ inputs ↔ n ∈ more)
    (ho : ∀ n, n ∈ outputs ↔ n ∈ more') :
    g.switchedOn inputs outputs = g.switchedOn more more' := by
  rw [switchedOn, switchedOn, Source.lit_congr hi, Source.lit_congr ho]

/-- Inputs that are on or not there are not switched. -/
lemma switchedOn_of_not_isOff (h : ∀ n ∈ inputs, g.isOff n = false) :
    g.switchedOn inputs [] = g := by
  have hinputs : g.inputs.map (lit inputs) = g.inputs := by
    refine (List.map_congr_left fun f hf => ?_).trans (List.map_id' _)
    by_cases hn : f.name ∈ inputs
    · have hactive : f.isActive = true := by simpa using List.any_eq_false.mp (h _ hn) f hf
      obtain ⟨name, dataType, semantic, label, stage, isRequired, isActive, note⟩ := f
      obtain rfl : isActive = true := hactive
      exact if_pos hn
    · exact if_neg hn
  rw [switchedOn, hinputs, map_lit_nil]

lemma isOff_switchedOn (n : Text) :
    (g.switchedOn inputs outputs).isOff n = (g.isOff n && decide (n ∉ inputs)) := by
  rw [Bool.eq_iff_iff]
  simp only [isOff, switchedOn, List.any_map, Function.comp_def,
    Source.name_lit, Source.isActive_lit, List.any_eq_true, Bool.and_eq_true, Bool.not_eq_true',
    Bool.or_eq_false_iff, decide_eq_true_eq, decide_eq_false_iff_not]
  constructor
  · rintro ⟨f, hf, rfl, hoff, hn⟩
    exact ⟨⟨f, hf, rfl, hoff⟩, hn⟩
  · rintro ⟨⟨f, hf, rfl, hoff⟩, hn⟩
    exact ⟨f, hf, rfl, hoff, hn⟩

end SwitchedOn

/-- Switching on the first field of a name switches on every field of the name, if names are
distinct. -/
lemma modify_eq_switchedOn (stage : Stage) (distinct : ((g.fields stage).map (·.name)).Nodup)
    (name : Text) : (g.modify name stage fun f => { f with isActive := true }) =
      g.switchedOn (if stage = .input then [name] else [])
        (if stage = .output then [name] else []) := by
  have hfields : Field.modifyFirst name (fun f => { f with isActive := true }) (g.fields stage) =
      (g.fields stage).map (lit [name]) := by
    rw [Field.modifyFirst_eq_map distinct]
    exact List.map_congr_left fun f _ => by simp only [lit, List.mem_singleton]
  rw [Graph.modify, hfields]
  cases stage <;> simp [withFields, fields, switchedOn, map_lit_nil]

/-- With distinct names the input that is found is the only one of its name. -/
lemma isOff_of_find? (distinct : (g.inputs.map (·.name)).Nodup) (name : Text) :
    g.isOff name = (g.find? name .input).any fun f => !f.isActive := by
  rw [Bool.eq_iff_iff]
  simp only [isOff, List.any_eq_true, Option.any_eq_true, Bool.and_eq_true, decide_eq_true_eq]
  constructor
  · rintro ⟨f, hf, rfl, hoff⟩
    cases hfind : g.find? f.name .input with
    | none => exact absurd (List.mem_map_of_mem hf) (Field.find?_eq_none_iff.mp hfind)
    | some f' =>
      obtain rfl : f' = f := List.inj_on_of_nodup_map distinct (List.mem_of_find?_eq_some hfind) hf
        (Field.name_of_find? hfind)
      exact ⟨f', rfl, hoff⟩
  · rintro ⟨f, hfind, hoff⟩
    exact ⟨f, List.mem_of_find?_eq_some hfind, Field.name_of_find? hfind, hoff⟩

lemma switchOn_eq (distinct : (g.inputs.map (·.name)).Nodup) (noted : List Text) (source : Text) :
    Graph.switchOn (g, noted) source =
      (g.switchedOn [source] [], noted ++ if g.isOff source then [source] else []) := by
  have hstay : g.isOff source = false → g.switchedOn [source] [] = g := fun h =>
    switchedOn_of_not_isOff fun n hn => List.mem_singleton.mp hn ▸ h
  have hoff := isOff_of_find? distinct source
  unfold Graph.switchOn
  cases hfind : g.find? source .input with
  | none =>
    rw [hfind] at hoff
    simp [hstay hoff, show g.isOff source = false from hoff]
  | some f =>
    rw [hfind, Option.any_some] at hoff
    cases hactive : f.isActive with
    | true =>
      rw [hactive] at hoff
      simp [hactive, hstay hoff, show g.isOff source = false from hoff]
    | false =>
      rw [hactive] at hoff
      have hname : f.name = source := Field.name_of_find? hfind
      simp [hactive, hname, modify_eq_switchedOn .input distinct,
        show g.isOff source = true from hoff]

/-- What has been switched on and noted after a walk over sources. -/
lemma foldl_switchOn (distinct : (g.inputs.map (·.name)).Nodup) (noted sources : List Text) :
    sources.foldl Graph.switchOn (g, noted) =
      (g.switchedOn sources [], noted ++ (sources.filter g.isOff).eraseDups) := by
  induction sources generalizing g noted with
  | nil =>
    rw [switchedOn_of_not_isOff fun n hn => absurd hn List.not_mem_nil]
    simp
  | cons source sources ih =>
    have hdistinct : ((g.switchedOn [source] []).inputs.map (·.name)).Nodup :=
      (names_switchedOn .input).symm ▸ distinct
    have hoff : sources.filter (g.switchedOn [source] []).isOff =
        (sources.filter g.isOff).filter fun n => !n == source := by
      rw [List.filter_filter]
      exact List.filter_congr fun n _ => by simp [isOff_switchedOn, Bool.and_comm, beq_eq_decide]
    rw [List.foldl_cons, switchOn_eq distinct, ih hdistinct, switchedOn_switchedOn, hoff]
    cases hs : g.isOff source with
    | true =>
      rw [if_pos rfl, List.filter_cons_of_pos hs, List.eraseDups_cons, List.append_assoc]; rfl
    | false =>
      -- a source that is not off is not noted later either
      have hnone :
          ((sources.filter g.isOff).filter fun n => !n == source) = sources.filter g.isOff := by
        refine List.filter_eq_self.mpr fun n hn => ?_
        have hne : n ≠ source := fun he => by simp [he ▸ (List.mem_filter.mp hn).2] at hs
        simpa using hne
      rw [hnone, List.filter_cons_of_neg (by simp [hs])]
      simp

/-- What switching on an output makes of a graph that has it, and what it answers. -/
lemma activate_eq (distinct : ∀ stage, ((g.fields stage).map (·.name)).Nodup)
    (known : output ∈ g.outputs.map (·.name)) : activate r g output =
      (g.switchedOn (r.sourcesOf output) [output],
        ((r.sourcesOf output).filter g.isOff).eraseDups) := by
  have hlit := modify_eq_switchedOn .output (distinct .output) output
  have hdistinct : ((g.switchedOn [] [output]).inputs.map (·.name)).Nodup :=
    (names_switchedOn .input).symm ▸ distinct .input
  have hoff : (g.switchedOn [] [output]).isOff = g.isOff := by
    funext n
    simp [isOff_switchedOn]
  unfold activate
  cases hfind : g.find? output .output with
  | none => exact absurd known (Field.find?_eq_none_iff.mp hfind)
  | some f =>
    rw [if_neg (by decide), if_pos rfl] at hlit
    simp only [hlit]
    rw [← Registry.sourcesOf, foldl_switchOn hdistinct, switchedOn_switchedOn, hoff]
    rfl

lemma activate_of_unknown (unknown : output ∉ g.outputs.map (·.name)) :
    activate r g output = (g, []) := by
  have hnone : g.find? output .output = none := Field.find?_eq_none_iff.mpr unknown
  rw [activate, hnone]

lemma names_activate (distinct : ∀ stage, ((g.fields stage).map (·.name)).Nodup)
    (output : Text) (stage : Stage) :
    ((activate r g output).1.fields stage).map (·.name) = (g.fields stage).map (·.name) := by
  by_cases known : output ∈ g.outputs.map (·.name)
  · rw [activate_eq distinct known, names_switchedOn]
  · rw [activate_of_unknown known]

/-- Two outputs may be switched on in either order. -/
lemma activate_comm (distinct : ∀ stage, ((g.fields stage).map (·.name)).Nodup)
    (output other : Text) :
    (activate r (activate r g output).1 other).1 =
      (activate r (activate r g other).1 output).1 := by
  have hnames : ∀ output, ((activate r g output).1.outputs.map (·.name)) = g.outputs.map (·.name) :=
    fun output => names_activate distinct output .output
  have hdistinct : ∀ output stage, ((((activate r g output).1.fields stage)).map (·.name)).Nodup :=
    fun output stage => (names_activate distinct output stage).symm ▸ distinct stage
  by_cases ho : output ∈ g.outputs.map (·.name) <;> by_cases hother : other ∈ g.outputs.map (·.name)
  · rw [activate_eq (hdistinct output) (hnames output ▸ hother),
      activate_eq (hdistinct other) (hnames other ▸ ho), activate_eq distinct ho,
      activate_eq distinct hother, switchedOn_switchedOn, switchedOn_switchedOn]
    exact switchedOn_congr (fun n => by simp only [List.mem_append, or_comm])
      fun n => by simp only [List.mem_append, or_comm]
  · rw [activate_of_unknown hother, activate_of_unknown (by rwa [hnames])]
  · rw [activate_of_unknown ho, activate_of_unknown (g := (activate r g other).1) (by rwa [hnames])]
  · rw [activate_of_unknown ho, activate_of_unknown hother, activate_of_unknown ho]

/-- A second time there is nothing to switch on. -/
lemma activate_activate (distinct : ∀ stage, ((g.fields stage).map (·.name)).Nodup)
    (known : output ∈ g.outputs.map (·.name)) :
    activate r (activate r g output).1 output = ((activate r g output).1, []) := by
  have hnames := names_activate (r := r) distinct output
  rw [activate_eq (fun stage => hnames stage ▸ distinct stage) (hnames .output ▸ known),
    activate_eq distinct known, switchedOn_switchedOn]
  refine Prod.ext (switchedOn_congr (fun n => by simp) fun n => by simp) ?_
  have hnone :
      (r.sourcesOf output).filter (g.switchedOn (r.sourcesOf output) [output]).isOff = [] :=
    List.filter_eq_nil_iff.mpr fun n hn => by simp [isOff_switchedOn, hn]
  exact congrArg List.eraseDups hnone

/-- An issue for each dependency of an output that a test on its source lets through. -/
def issuesOf (r : Registry) (out : Field) (lacks : Text → Bool) : List Issue :=
  ((r.dependenciesOf out.name).filter fun d => lacks d.source).map fun d =>
    ⟨out.name, out.displayName, d.source⟩

lemma field_of_mem_issuesOf {out : Field} {lacks : Text → Bool} {i : Issue}
    (h : i ∈ issuesOf r out lacks) : i.field = out.name := by
  obtain ⟨d, -, rfl⟩ := List.mem_map.mp h
  rfl

lemma issues_eq (r : Registry) (g : Graph) :
    g.issues r = (g.activeFields .output).flatMap fun out => issuesOf r out fun source =>
      !g.isActiveInput source := by
  rw [issues, activeDependencies, List.filter_flatMap, List.map_flatMap]
  refine List.flatMap_congr fun out _ => ?_
  rw [List.filter_map, List.map_map]
  rfl

/-- With distinct names, the issues under the name of an active output are its own. -/
lemma filter_issues (distinct : (g.outputs.map (·.name)).Nodup) {out : Field}
    (ho : out ∈ g.outputs) (ha : out.isActive) :
    (g.issues r).filter (fun i => i.field = out.name) = issuesOf r out fun source =>
      !g.isActiveInput source := by
  obtain ⟨before, after, houtputs⟩ := List.append_of_mem ho
  rw [houtputs, List.map_append, List.map_cons, List.nodup_middle, List.nodup_cons,
    ← List.map_append] at distinct
  have hothers : ∀ fs ⊆ before ++ after, ((Field.active fs).flatMap fun f =>
      issuesOf r f fun source => !g.isActiveInput source).filter (fun i => i.field =
        out.name) = [] := by
    intro fs hfs
    refine List.filter_eq_nil_iff.mpr fun i hi => ?_
    obtain ⟨f, hf, hif⟩ := List.mem_flatMap.mp hi
    have hmem : f ∈ before ++ after := hfs (List.mem_filter.mp hf).1
    have hne : f.name ≠ out.name := fun he => distinct.1 (List.mem_map.mpr ⟨f, hmem, he⟩)
    simpa [field_of_mem_issuesOf hif] using hne
  have hown :
      (issuesOf r out fun source => !g.isActiveInput source).filter (fun i => i.field = out.name) =
      issuesOf r out fun source => !g.isActiveInput source :=
    List.filter_eq_self.mpr fun i hi => by simp [field_of_mem_issuesOf hi]
  have hactive : g.activeFields .output = Field.active before ++ out :: Field.active after := by
    rw [activeFields, fields, houtputs, Field.active, List.filter_append,
      List.filter_cons_of_pos ha]
    rfl
  rw [issues_eq, hactive, List.flatMap_append, List.flatMap_cons,
    List.filter_append, List.filter_append, hown, hothers before (List.subset_append_left _ _),
    hothers after (List.subset_append_right _ _), List.nil_append, List.append_nil]

lemma isActiveInput_switchedOn (inputs outputs : List Text) (n : Text) :
    (g.switchedOn inputs outputs).isActiveInput n =
      (g.isActiveInput n || decide (n ∈ inputs ∧ n ∈ g.inputs.map (·.name))) := by
  have hfind : (g.switchedOn inputs outputs).find? n .input = (g.find? n .input).map (lit inputs) :=
    Field.find?_map (Source.name_lit inputs)
  rw [isActiveInput, isActiveInput, hfind]
  cases hf : g.find? n .input with
  | none =>
    have hnot : n ∉ g.inputs.map (·.name) := Field.find?_eq_none_iff.mp hf
    simp [hnot]
  | some f =>
    have hname : f.name = n := Field.name_of_find? hf
    have hknown : n ∈ g.inputs.map (·.name) :=
      List.mem_map.mpr ⟨f, List.mem_of_find?_eq_some hf, hname⟩
    rw [Option.map_some, Option.any_some, Option.any_some, Source.isActive_lit, hname]
    simp [hknown]

/-- After an output has been switched on, it lacks those sources that no input has the name of. -/
lemma filter_issues_switchedOn (distinct : (g.outputs.map (·.name)).Nodup)
    {out : Field} (ho : out ∈ g.outputs) :
    ((g.switchedOn (r.sourcesOf out.name) [out.name]).issues r).filter
      (fun i => i.field = out.name) =
      issuesOf r out fun source => source ∉ g.inputs.map (·.name) := by
  have hname : (lit [out.name] out).name = out.name := Source.name_lit _ _
  have hmem : lit [out.name] out ∈ (g.switchedOn (r.sourcesOf out.name) [out.name]).outputs :=
    List.mem_map_of_mem ho
  have hactive : (lit [out.name] out).isActive := by simp [Source.isActive_lit]
  have hissues := filter_issues (r := r) ((names_switchedOn .output).symm ▸ distinct) hmem hactive
  rw [hname] at hissues
  rw [hissues, issuesOf, issuesOf, hname, Source.displayName_lit]
  congr 1
  refine List.filter_congr fun d hd => ?_
  have hsource : d.source ∈ r.sourcesOf out.name := List.mem_map_of_mem hd
  rw [isActiveInput_switchedOn]
  by_cases hk : d.source ∈ g.inputs.map (·.name)
  · simp [hsource, hk]
  · have hfind : g.find? d.source .input = none := Field.find?_eq_none_iff.mpr hk
    simp [isActiveInput, hfind, hk]

/-- What switching on an output of a graph leaves behind, and the names that it answers. -/
structure Cascade (r : Registry) (g : Graph) (out : Field) (h : Graph)
    (noted : List Text) : Prop where
  /-- The output and the inputs that its dependencies name are on, whatever was on stays on, and
  nothing else changes. -/
  state : h = g.switchedOn (r.sourcesOf out.name) [out.name]
  /-- The inputs that were off, in the order in which they are first named. -/
  noted_eq : noted = ((r.sourcesOf out.name).filter g.isOff).eraseDups
  distinct : noted.Nodup
  /-- What the output still lacks are the sources that no input has the name of. -/
  lacking : (h.issues r).filter (fun i => i.field = out.name) =
    issuesOf r out fun source => source ∉ g.inputs.map (·.name)
  again : activate r h out.name = (h, [])

/-- In a graph with distinct names, switching on an output that is not there does nothing, one that
is there switches it on with its inputs, and two outputs may be switched on in either order. -/
theorem activate_cascade (r : Registry) {g : Graph}
    (distinct : ∀ stage, ((g.fields stage).map (·.name)).Nodup) (output : Text) :
    (output ∉ g.outputs.map (·.name) → activate r g output = (g, [])) ∧
      (∀ out ∈ g.outputs, out.name = output →
        Cascade r g out (activate r g output).1 (activate r g output).2) ∧
      ∀ other, (activate r (activate r g output).1 other).1 =
        (activate r (activate r g other).1 output).1 := by
  refine ⟨activate_of_unknown, fun out ho hname => ?_, activate_comm distinct output⟩
  subst hname
  have known : out.name ∈ g.outputs.map (·.name) := List.mem_map_of_mem ho
  have heq := activate_eq (r := r) distinct known
  refine ⟨congrArg Prod.fst heq, congrArg Prod.snd heq, ?_, ?_, activate_activate distinct known⟩
  · have hkeys := Firsts.nodup_keys id ((r.sourcesOf out.name).filter g.isOff)
    rw [List.map_id] at hkeys
    rw [heq]
    exact hkeys
  · rw [heq]
    exact filter_issues_switchedOn (distinct .output) ho

/-- A source that is named twice is switched on and noted once, and one that is no input remains an
issue. -/
theorem activate_cascade_repeated :
    let tint : Field :=
      .normalize { name := "tint".toList, dataType := "half4".toList, stage := .output }
    let r : Registry :=
      { inputs := [.normalize { name := "uv".toList, dataType := "float2".toList },
          .normalize { name := "color".toList, dataType := "half4".toList }]
        outputs := [tint,
          .normalize { name := "uv".toList, dataType := "float2".toList, stage := .output }]
        dependencies := [("tint".toList, ["color", "mask", "uv", "color"].map fun source =>
          ⟨source.toList, "tint".toList, [], []⟩)] }
    let g := run r [.set "uv".toList .input true]
    Cascade r g tint (activate r g "tint".toList).1 ["color".toList] ∧
      (activate r g "tint".toList).1.issues r =
        [⟨"tint".toList, "tint".toList, "mask".toList⟩] := by
  intro tint r g
  have distinct : ∀ stage, ((g.fields stage).map (·.name)).Nodup :=
    fun stage => by cases stage <;> decide
  have hcascade := (activate_cascade r distinct "tint".toList).2.1 tint (by decide) rfl
  exact ⟨hcascade, by decide⟩

end Graph
end MarkedShader
