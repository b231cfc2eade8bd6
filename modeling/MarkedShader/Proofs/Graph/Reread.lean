import MarkedShader.Proofs.Graph.Growth

/-! What comes back of a graph from the structs that are written for it, whatever calls have made of
it: its active fields in their order, and of outputs that no registry knows only semantics that are
no numbers. Main statement: `run_reread`. -/
namespace MarkedShader
open Text

/-- A field whose texts are words. An input has a semantic, and an output may leave it to the
writer. -/
structure Field.Worded (stage : Stage) (f : Field) : Prop where
  name : IsName f.name
  dataType : IsName f.dataType
  semantic : f.semantic ≠ [] → IsName f.semantic
  input : stage = .input → f.semantic ≠ []

namespace Field

instance (stage : Stage) (f : Field) : Decidable (f.Worded stage) :=
  decidable_of_iff (IsName f.name ∧ IsName f.dataType ∧ (f.semantic ≠ [] → IsName f.semantic) ∧
      (stage = .input → f.semantic ≠ []))
    ⟨fun ⟨name, dataType, semantic, input⟩ => ⟨name, dataType, semantic, input⟩,
      fun h => ⟨h.name, h.dataType, h.semantic, h.input⟩⟩

variable {stage : Stage}

lemma Touched.worded {f f' : Field} (touched : Touched f f') (h : f.Worded stage) :
    f'.Worded stage := by
  have htype : f'.dataType = f.dataType := touched.part_eq (fun _ => rfl) fun _ => rfl
  have hsemantic : f'.semantic = f.semantic := touched.part_eq (fun _ => rfl) fun _ => rfl
  exact ⟨touched.name_eq ▸ h.name, htype ▸ h.dataType, hsemantic ▸ h.semantic, hsemantic ▸ h.input⟩

lemma worded_customField {m : Source.Member} (h : m.Named) :
    (Source.customField stage m).Worded stage where
  name := h.name
  dataType := h.dataType
  semantic hne := by
    simp only [Source.customField, Field.normalize] at hne ⊢
    split_ifs at hne ⊢
    · contradiction
    · exact h.semantic
  input hstage := by
    subst hstage
    exact h.semantic.1

lemma AllTouched.worded {fs gs : List Field} (h : AllTouched fs gs)
    (worded : ∀ f ∈ fs, f.Worded stage) : ∀ f ∈ gs, f.Worded stage := by
  induction h with
  | nil => exact fun f hf => absurd hf List.not_mem_nil
  | cons touched _ ih =>
    obtain ⟨hfirst, hrest⟩ := List.forall_mem_cons.mp worded
    exact List.forall_mem_cons.mpr ⟨touched.worded hfirst, ih hrest⟩

end Field

/-- A registry whose fields can be written as members, at least one of them always in each
struct. -/
structure Registry.Declarable (r : Registry) : Prop where
  distinct : ∀ stage, (((Graph.ofRegistry r).fields stage).map (·.name)).Nodup
  worded : ∀ stage, ∀ f ∈ (Graph.ofRegistry r).fields stage, f.Worded stage
  required : ∀ stage ∈ [Stage.input, Stage.output],
    ∃ f ∈ (Graph.ofRegistry r).fields stage, f.isRequired

namespace Graph

variable {r : Registry} {g : Graph} {calls : List Call}

/-- A call that brings only fields whose texts are words. -/
def Call.Worded : Call → Prop
  | .add f => f.Worded f.stage
  | .bring _ members => ∀ m ∈ members, m.Named
  | _ => True

lemma standing_of_declarable (h : r.Declarable) : Standing r (.ofRegistry r) :=
  ⟨fun _ => List.prefix_refl _, h.distinct⟩

lemma hasRequired_of_declarable (h : r.Declarable) : HasRequired r (.ofRegistry r) := by
  intro stage f hf hr
  cases hfind : (ofRegistry r).find? f.name stage with
  | none => exact absurd (List.mem_map_of_mem hf) (Field.find?_eq_none_iff.mp hfind)
  | some f' =>
    obtain rfl : f' = f :=
      List.inj_on_of_nodup_map (h.distinct stage) (List.mem_of_find?_eq_some hfind) hf
      (Field.name_of_find? hfind)
    exact ⟨f', hfind, hr, (isNormal_copy f' hf).active hr⟩

/-- Calls that bring words lead to graphs of words. -/
lemma worded_run (h : r.Declarable) (worded : ∀ c ∈ calls, c.Worded) (stage : Stage) :
    ∀ f ∈ (run r calls).fields stage, f.Worded stage := by
  have grows :
      GrowsBy (ofRegistry r) (fun stage => added r stage (ofRegistry r) calls) (run r calls) :=
    .foldl (standing_of_declarable h) calls
  refine (grows stage).worded fun f hf => ?_
  rcases List.mem_append.mp hf with hf | hf
  · exact h.worded stage f hf
  · refine forall_mem_added (fun f hadd hstage => ?_) (fun members hbring m hm => ?_) f hf
    · exact hstage ▸ worded _ hadd
    · exact Field.worded_customField (worded _ hbring m hm)

end Graph

namespace Source

variable {r : Registry} {g : Graph} {indent : Text}

lemma isName_numbered (n : Nat) : IsName ("TEXCOORD".toList ++ Decimal.natural n) := by
  refine ⟨by simp, fun c hc => ?_⟩
  have hletters : ∀ c ∈ "TEXCOORD".toList, isWord c := by decide
  exact (List.mem_append.mp hc).elim (hletters c) ((Numeral.isName_natural n).2 c)

lemma named_inputMembers (worded : ∀ f ∈ g.fields .input, f.Worded .input) :
    ∀ m ∈ inputMembers g, m.Named := by
  intro m hm
  obtain ⟨f, hf, rfl⟩ := List.mem_map.mp hm
  have h := worded f (List.mem_filter.mp hf).1
  exact ⟨h.dataType, h.name, h.semantic (h.input rfl)⟩

lemma named_outputMembers (worded : ∀ f ∈ g.fields .output, f.Worded .output) :
    ∀ m ∈ outputMembers g, m.Named := by
  intro m hm
  obtain ⟨⟨f, semantic⟩, hw, rfl⟩ := List.mem_map.mp hm
  have hmem : f ∈ g.activeFields .output := by
    rw [← map_fst_withSemantics 0 (g.activeFields .output)]
    exact List.mem_map_of_mem hw
  have h := worded f (List.mem_filter.mp hmem).1
  have hsemantic := semantic_of_mem_withSemantics hw
  refine ⟨h.dataType, h.name, show IsName semantic from ?_⟩
  split_ifs at hsemantic with hnone
  · obtain ⟨n, rfl⟩ := hsemantic
    exact isName_numbered n
  · rw [show semantic = f.semantic from hsemantic]
    exact h.semantic hnone

/-- The members that are read where both structs are written. -/
lemma contentOf_structs (hindent : IsMargin indent) (hin : ∀ m ∈ inputMembers g, m.Named)
    (hout : ∀ m ∈ outputMembers g, m.Named) (level first : Nat) (filled : Bool) :
    let content := contentOf {} first ((Writing.structs {} g).lines indent level filled)
    content.inputs = inputMembers g ∧ content.outputs = outputMembers g ∧
      content.warnings = [] := by
  intro content
  have hread : Layout.Leads (Reads {}) indent level (Writing.structs {} g) ⟨{}, (· = false), 0⟩ _ :=
    leads_structs hindent hin hout
  obtain ⟨c, ⟨hfound, -⟩, hwalk⟩ := (hread filled).walked first {} [] ⟨rfl, rfl⟩
  rw [List.append_nil, walk] at hwalk
  have hcontent : content = c := hwalk
  rw [hcontent]
  exact ⟨congrArg (·.inputs) hfound, congrArg (·.outputs) hfound, congrArg (·.warnings) hfound⟩

/-- What comes back of an output. The registry knows the semantics of its own, and a number tells
nothing of another one. -/
def outputReread (r : Registry) (f : Field) : Member :=
  if (r.findOutput? f.name).isSome then ownMember f
  else { ownMember f with semantic := if isPositional f.semantic then [] else f.semantic }

lemma outputReread_of_known {f : Field} (known : f.name ∈ r.outputs.map (·.name)) :
    ownMember f = outputReread r f :=
  (if_pos (Field.isSome_find?_iff.mpr known)).symm

lemma ownMember_customField {w : Field × Text}
    (hw : w ∈ Writing.withSemantics 0 (g.activeFields .output))
    (custom : w.1.name ∉ r.outputs.map (·.name)) :
    ownMember (customField .output (memberAs w)) = outputReread r w.1 := by
  have hunknown : ¬ (r.findOutput? w.1.name).isSome := fun h => custom (Field.isSome_find?_iff.mp h)
  rw [outputReread, if_neg hunknown, ownMember, semantic_customField hw]
  rfl

end Source

namespace Graph
open Source

/-- The structs of a graph that calls have made of the one of a registry are read without a warning,
and the graph that the registry makes of them has the same active fields in the same order. -/
theorem run_reread {r : Registry} (declarable : r.Declarable) {calls : List Call}
    (worded : ∀ c ∈ calls, c.Worded) {indent : Text}
    (hindent : IsMargin indent) (level first : Nat) (filled : Bool) :
    let content := contentOf {} first ((Writing.structs {} (run r calls)).lines indent level filled)
    let reread := graphOf r content.inputs content.outputs
    content.warnings = [] ∧ (∀ stage, reread.activeNames stage = (run r calls).activeNames stage) ∧
      (reread.activeFields .input).map ownMember =
        ((run r calls).activeFields .input).map ownMember ∧
      (reread.activeFields .output).map ownMember =
        ((run r calls).activeFields .output).map (outputReread r) := by
  intro content reread
  have hwords := worded_run declarable worded
  obtain ⟨hinputs, houtputs, hwarnings⟩ :=
    contentOf_structs hindent (named_inputMembers (hwords .input))
      (named_outputMembers (hwords .output)) level first filled
  have hreread : reread = graphOf r (inputMembers (run r calls)) (outputMembers (run r calls)) :=
    congrArg₂ (graphOf r) hinputs houtputs
  have standing := Standing.run (standing_of_declarable declarable) calls
  have required := HasRequired.run (hasRequired_of_declarable declarable) calls
  obtain ⟨hin, hout⟩ := members_ne_nil required declarable.required
  rw [hreread]
  exact ⟨hwarnings, activeNames_graphOf standing required hin hout,
    map_activeInputs_graphOf standing required hin hout (fun _ => rfl) fun _ => rfl,
    map_activeOutputs_graphOf standing required hin hout (fun _ => rfl)
    (fun _ => outputReread_of_known) fun _ => ownMember_customField⟩

/-- A custom output comes back without its number and another one with its color, while an input
keeps its number. -/
theorem run_reread_glow :
    let custom (stage : Stage) (name dataType semantic : String) : Call := .add <| .normalize
      { name := name.toList, dataType := dataType.toList, semantic := semantic.toList, stage
        isActive := true }
    let calls := [custom .output "glow" "half" "TEXCOORD3", .activate "normalWS".toList,
      custom .output "tint" "half4" "COLOR1",
      custom .input "mask" "float" "TEXCOORD4"]
    let content := contentOf {} 7 ((Writing.structs {} (run .standard calls)).lines ['\t'] 2 true)
    let reread := graphOf .standard content.inputs content.outputs
    Registry.standard.Declarable ∧ (∀ c ∈ calls, c.Worded) ∧ IsMargin ['\t'] ∧
      content.warnings = [] ∧
      (reread.activeFields .input).map ownMember =
        [⟨"float4".toList, "positionOS".toList, "POSITION".toList⟩,
        ⟨"float3".toList, "normalOS".toList, "NORMAL".toList⟩,
        ⟨"float".toList, "mask".toList, "TEXCOORD4".toList⟩] ∧
      (reread.activeFields .output).map ownMember =
        [⟨"float4".toList, "positionCS".toList, "SV_POSITION".toList⟩,
        ⟨"float3".toList, "normalWS".toList, []⟩, ⟨"half".toList, "glow".toList, []⟩,
        ⟨"half4".toList, "tint".toList, "COLOR1".toList⟩] := by
  intro custom calls content reread
  have declarable : Registry.standard.Declarable := by
    constructor
    · exact standing_standard.distinct
    · intro stage
      cases stage <;> decide
    · decide
  have worded : ∀ c ∈ calls, c.Worded := by
    have hcustom :
        ∀ stage (name dataType semantic : String), IsName name.toList → IsName dataType.toList →
        IsName semantic.toList → (custom stage name dataType semantic).Worded :=
      fun _ _ _ _ hname htype hsemantic => ⟨hname, htype, fun _ => hsemantic, fun _ => hsemantic.1⟩
    intro c hc
    simp only [calls, List.mem_cons, List.not_mem_nil, or_false] at hc
    obtain rfl | rfl | rfl | rfl := hc
    · exact hcustom _ _ _ _ (by decide) (by decide) (by decide)
    · trivial
    · exact hcustom _ _ _ _ (by decide) (by decide) (by decide)
    · exact hcustom _ _ _ _ (by decide) (by decide) (by decide)
  have hindent : IsMargin ['\t'] := fun c hc => .inr (List.mem_singleton.mp hc)
  obtain ⟨hwarnings, -, hinputs, houtputs⟩ := run_reread declarable worded hindent 2 7 true
  exact ⟨declarable, worded, hindent, hwarnings, hinputs.trans (by decide),
    houtputs.trans (by decide)⟩

end Graph
end MarkedShader
