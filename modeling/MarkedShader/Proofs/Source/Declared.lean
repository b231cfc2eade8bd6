import MarkedShader.Proofs.Firsts
import MarkedShader.Proofs.Graph.Standing
import MarkedShader.Proofs.Source.Kept

/-! The fields that the structs of a pass declare. They are active after the pass is read, and those
of the first pass stay so as far as structs outside the passes leave them. -/
namespace MarkedShader

namespace Field

variable {fs : List Field} {name other : Text}

/-- A field is found active after its name is switched on, or if it was before. -/
lemma exists_active_modifyFirst (known : other ∈ fs.map (·.name)) :
    (∃ f ∈ modifyFirst other (fun f => { f with isActive := true }) fs, f.name = name ∧
      f.isActive) ↔
      name = other ∨ ∃ f ∈ fs, f.name = name ∧ f.isActive := by
  induction fs with
  | nil => exact absurd known List.not_mem_nil
  | cons f fs ih =>
    rw [modifyFirst, List.exists_mem_cons_iff]
    split_ifs with hf
    · subst hf
      rw [List.exists_mem_cons_iff]
      constructor
      · rintro (⟨rfl, -⟩ | hrest)
        · exact .inl rfl
        · exact .inr (.inr hrest)
      · rintro (rfl | ⟨rfl, -⟩ | hrest)
        · exact .inl ⟨rfl, rfl⟩
        · exact .inl ⟨rfl, rfl⟩
        · exact .inr hrest
    · have hrest : other ∈ fs.map (·.name) := (List.mem_cons.mp known).resolve_left (Ne.symm hf)
      rw [List.exists_mem_cons_iff, ih hrest]
      exact or_left_comm

/-- Of the fields that are active before, those that are to stay are so after the others are
switched off. -/
lemma exists_active_map {stays : Field → Bool} :
    (∃ f ∈ fs.map (fun f => if stays f then f else { f with isActive := false }), f.name = name ∧
      f.isActive) ↔
      ∃ f ∈ fs, f.name = name ∧ f.isActive ∧ stays f := by
  simp only [List.mem_map, exists_exists_and_eq_and]
  refine exists_congr fun f => and_congr_right fun _ => ?_
  split_ifs with hstays
  · simp [hstays]
  · simp [hstays]

/-- Switching a field on leaves required fields active. -/
lemma requiredActive_modifyFirst (h : ∀ f ∈ fs, f.isRequired → f.isActive) :
    ∀ f ∈ modifyFirst other (fun f => { f with isActive := true }) fs,
      f.isRequired → f.isActive := by
  induction fs with
  | nil => exact h
  | cons f fs ih =>
    obtain ⟨hf, hrest⟩ := List.forall_mem_cons.mp h
    rw [modifyFirst]
    split_ifs
    · exact List.forall_mem_cons.mpr ⟨fun _ => rfl, hrest⟩
    · exact List.forall_mem_cons.mpr ⟨hf, ih hrest⟩

end Field

namespace Graph

variable {g : Graph} {stage : Stage} {name : Text}

lemma mem_activeNames_iff :
    name ∈ g.activeNames stage ↔ ∃ f ∈ g.fields stage, f.name = name ∧ f.isActive := by
  simp only [activeNames, activeFields, Field.active, List.mem_map, List.mem_filter]
  exact exists_congr fun f => by rw [and_assoc, and_comm (a := f.isActive = true)]

/-- A stage has a required field of a name. -/
def Requires (g : Graph) (stage : Stage) (name : Text) : Prop :=
  ∃ f ∈ g.fields stage, f.name = name ∧ f.isRequired

/-- Required fields are active. -/
def RequiredActive (g : Graph) : Prop := ∀ stage, ∀ f ∈ g.fields stage, f.isRequired → f.isActive

lemma requires_congr {h : Graph}
    (same : (h.fields stage).map Field.declared = (g.fields stage).map Field.declared) :
    h.Requires stage name ↔ g.Requires stage name := by
  have hdeclared : ∀ k : Graph, k.Requires stage name ↔
      ∃ f ∈ (k.fields stage).map Field.declared, f.name = name ∧ f.isRequired := fun k => by
    simp [Requires, Field.declared]
  rw [hdeclared, hdeclared, same]

end Graph

namespace Source
open Text

variable {g : Graph} {stage other : Stage} {name : Text}

lemma requires_declare (m : Member) :
    (declare stage g m).Requires other name ↔ g.Requires other name := by
  unfold declare
  split
  · refine Graph.requires_congr ?_
    rw [Graph.modify, Graph.fields_withFields]
    split_ifs with hs
    · rw [hs.1]
      exact Field.declared_modifyFirst fun _ => rfl
    · rfl
  · simp only [Graph.Requires, Graph.fields_withFields]
    split_ifs with hs
    · simp [hs.1, customField, Field.normalize]
    · rfl

lemma requiredActive_declare (h : g.RequiredActive) (m : Member) :
    (declare stage g m).RequiredActive := by
  intro other f hf
  unfold declare at hf
  split at hf
  · rw [Graph.modify, Graph.fields_withFields] at hf
    split_ifs at hf
    · exact Field.requiredActive_modifyFirst (h stage) f hf
    · exact h other f hf
  · rw [Graph.fields_withFields] at hf
    split_ifs at hf
    · rcases List.mem_append.mp hf with hf | hf
      · exact h stage f hf
      · rw [List.mem_singleton.mp hf]
        exact fun _ => rfl
    · exact h other f hf

/-- A member is active once it is declared, and nothing that is active is switched off. -/
lemma mem_activeNames_declare (hstage : stage ≠ .global) (m : Member) :
    name ∈ (declare stage g m).activeNames stage ↔ name = m.name ∨ name ∈ g.activeNames stage := by
  rw [Graph.mem_activeNames_iff, Graph.mem_activeNames_iff]
  unfold declare
  split
  · rename_i f hf
    have hknown : m.name ∈ (g.fields stage).map (·.name) :=
      List.mem_map.mpr ⟨f, List.mem_of_find?_eq_some hf, Field.name_of_find? hf⟩
    rw [Graph.modify, Graph.fields_withFields_self hstage]
    exact Field.exists_active_modifyFirst hknown
  · have hcustom : (∃ f ∈ [customField stage m], f.name = name ∧ f.isActive) ↔ name = m.name := by
      simp only [List.mem_singleton, exists_eq_left, isActive_customField, and_true]
      exact eq_comm
    rw [Graph.fields_withFields_self hstage, ← hcustom]
    simp only [List.mem_append, or_and_right, exists_or]
    exact or_comm

section
variable {ms : List Member}

lemma mem_firstOfEachName : name ∈ (firstOfEachName ms).map (·.name) ↔ name ∈ ms.map (·.name) := by
  constructor
  · intro h
    obtain ⟨m, hm, rfl⟩ := List.mem_map.mp h
    exact List.mem_map_of_mem (Firsts.mem_of_mem hm)
  · intro h
    obtain ⟨m, hm, rfl⟩ := List.mem_map.mp h
    have hkept : ∃ m' ∈ firstOfEachName ms, m'.name = m.name := Firsts.exists_key_eq hm
    exact List.mem_map.mpr hkept

lemma requires_foldl_declare :
    (ms.foldl (declare stage) g).Requires other name ↔ g.Requires other name :=
  List.foldlRecOn _ _ (motive := fun h : Graph => h.Requires other name ↔ g.Requires other name)
    Iff.rfl fun _ hh m _ => (requires_declare m).trans hh

lemma requiredActive_foldl_declare (h : g.RequiredActive) :
    (ms.foldl (declare stage) g).RequiredActive :=
  List.foldlRecOn _ _ h fun _ hg m _ => requiredActive_declare hg m

lemma mem_activeNames_foldl_declare (hstage : stage ≠ .global) :
    name ∈ (ms.foldl (declare stage) g).activeNames stage ↔
      name ∈ ms.map (·.name) ∨ name ∈ g.activeNames stage := by
  induction ms generalizing g with
  | nil => simp
  | cons m ms ih =>
    rw [List.foldl_cons, ih, mem_activeNames_declare hstage, List.map_cons, List.mem_cons]
    exact or_left_comm.trans or_assoc.symm

lemma requires_applyStruct :
    (applyStruct g stage ms).Requires other name ↔ g.Requires other name := by
  unfold applyStruct
  split_ifs
  · rfl
  · have hdeclared : ((firstOfEachName ms).foldl (declare stage) g).Requires other name ↔
        g.Requires other name :=
      requires_foldl_declare
    refine Iff.trans (Graph.requires_congr ?_) hdeclared
    rw [applyMembers, Graph.fields_withFields]
    split_ifs with hs
    · rw [hs.1]
      refine Field.declared_map fun f => ?_
      split_ifs <;> rfl
    · rfl

lemma requiredActive_applyStruct (h : g.RequiredActive) :
    (applyStruct g stage ms).RequiredActive := by
  unfold applyStruct
  split_ifs
  · exact h
  · intro other f hf
    have hdeclared : ((firstOfEachName ms).foldl (declare stage) g).RequiredActive :=
      requiredActive_foldl_declare h
    rw [applyMembers, Graph.fields_withFields] at hf
    split_ifs at hf
    · obtain ⟨f', hf', rfl⟩ := List.mem_map.mp hf
      split_ifs with hstays
      · exact hdeclared stage f' hf'
      · intro hr
        simp only at hr
        simp [hr] at hstays
    · exact hdeclared other f hf

/-- A struct with members leaves active what it declares, and of the rest what is required. -/
lemma mem_activeNames_applyStruct (hstage : stage ≠ .global) (h : g.RequiredActive) :
    name ∈ (applyStruct g stage ms).activeNames stage ↔
      if ms = [] then name ∈ g.activeNames stage else name ∈ ms.map (·.name) ∨
        g.Requires stage name := by
  split_ifs with hms
  · rw [hms]
    rfl
  set declared := (firstOfEachName ms).foldl (declare stage) g with hdeclared
  have hkept : name ∈ (applyStruct g stage ms).activeNames stage ↔ ∃ f ∈ declared.fields stage,
      f.name = name ∧ f.isActive ∧ (f.isRequired || ms.any fun m => m.name = f.name) := by
    rw [Graph.mem_activeNames_iff, applyStruct_of_ne_nil hms, applyMembers,
      Graph.fields_withFields_self hstage]
    exact Field.exists_active_map
  have hnamed : ∀ f : Field, (ms.any fun m => m.name = f.name) ↔ f.name ∈ ms.map (·.name) := by simp
  have hactive : declared.RequiredActive := requiredActive_foldl_declare h
  have hrequires : g.Requires stage name ↔ declared.Requires stage name :=
    requires_foldl_declare.symm
  rw [hkept, hrequires]
  constructor
  · rintro ⟨f, hf, rfl, -, hstays⟩
    rcases (Bool.or_eq_true _ _).mp hstays with hr | hm
    · exact .inr ⟨f, hf, rfl, hr⟩
    · exact .inl ((hnamed f).mp hm)
  · rintro (hm | ⟨f, hf, rfl, hr⟩)
    · have hdeclares : name ∈ declared.activeNames stage :=
        (mem_activeNames_foldl_declare hstage).mpr (.inl (mem_firstOfEachName.mpr hm))
      obtain ⟨f, hf, rfl, ha⟩ := Graph.mem_activeNames_iff.mp hdeclares
      exact ⟨f, hf, rfl, ha, (Bool.or_eq_true _ _).mpr (.inr ((hnamed f).mpr hm))⟩
    · exact ⟨f, hf, rfl, hactive stage f hf hr, (Bool.or_eq_true _ _).mpr (.inl hr)⟩

lemma activeNames_applyStruct_of_ne (hne : other ≠ stage) :
    (applyStruct g stage ms).activeNames other = g.activeNames other := by
  unfold applyStruct
  split_ifs
  · rfl
  · rw [Graph.activeNames, Graph.activeFields, fields_applyMembers_of_ne hne]
    rfl

end

/-- The members found for a stage. -/
def Parts.members (p : Parts) : Stage → List Member
  | .input => p.inputs
  | .output => p.outputs
  | .global => []

/-- A graph after the structs of both stages. -/
def Parts.applyTo (p : Parts) (g : Graph) : Graph :=
  applyStruct (applyStruct g .input p.inputs) .output p.outputs

lemma requires_applyTo (p : Parts) : (p.applyTo g).Requires stage name ↔ g.Requires stage name :=
  requires_applyStruct.trans requires_applyStruct

lemma requiredActive_applyTo (h : g.RequiredActive) (p : Parts) : (p.applyTo g).RequiredActive :=
  requiredActive_applyStruct (requiredActive_applyStruct h)

/-- A struct with members decides what is active in its stage, whatever the one of the other stage
declares. -/
lemma mem_activeNames_applyTo (hstage : stage ≠ .global) (h : g.RequiredActive) (p : Parts) :
    name ∈ (p.applyTo g).activeNames stage ↔
      if p.members stage = [] then name ∈ g.activeNames stage
      else name ∈ (p.members stage).map (·.name) ∨ g.Requires stage name := by
  cases stage with
  | global => contradiction
  | input =>
    rw [Parts.applyTo, activeNames_applyStruct_of_ne (by decide)]
    exact mem_activeNames_applyStruct hstage h
  | output =>
    rw [Parts.applyTo, mem_activeNames_applyStruct hstage (requiredActive_applyStruct h),
      activeNames_applyStruct_of_ne (by decide), requires_applyStruct]
    rfl

lemma requiredActive_ofRegistry (r : Registry) : (Graph.ofRegistry r).RequiredActive :=
  fun _ f hf => (Graph.isNormal_copy f hf).active

section
variable {settings : Settings} {r : Registry} {k : Nat} {p : Pass}

/-- What stands outside the passes goes into one pass, and leaves the others as they are. -/
lemma getElem?_attach (outside : Parts) (passes : List Pass) (k : Nat) :
    (outside.attach passes).1[k]? =
    passes[k]?.map fun p =>
      if outside.isEmpty = false ∧ passes.findIdx? (fun p => !p.isUsePass) = some k then
        outside.attachTo p else p := by
  by_cases hempty : outside.isEmpty
  · simp [Parts.attach, hempty]
  · rw [Parts.attach, if_neg hempty]
    cases hi : passes.findIdx? fun p => !p.isUsePass with
    | none => simp
    | some i =>
      simp only [hempty, Option.some.injEq, true_and, List.getElem?_modify]
      rfl

lemma isUsePass_attach (outside : Parts) (passes : List Pass) :
    (outside.attach passes).1.map (·.isUsePass) = passes.map (·.isUsePass) := by
  refine List.ext_getElem? fun k => ?_
  rw [List.getElem?_map, List.getElem?_map, getElem?_attach, Option.map_map]
  congr 1
  funext p
  simp only [Function.comp_apply]
  split_ifs <;> rfl

lemma readPasses_getElem? {ls : List Text} {cursor : Nat} {es : List Extent}
    (h : (readPasses settings r ls cursor es).1[k]? = some p) :
    ∃ e start, es[k]? = some e ∧ p = (readPass settings r ls start e).1 := by
  induction es generalizing cursor k with
  | nil => simp [readPasses] at h
  | cons e es ih =>
    cases k with
    | zero => exact ⟨e, cursor, rfl, (Option.some.inj h).symm⟩
    | succ k => exact ih h

/-- The graph of a pass that is no reference is that of its own structs, and those outside the
passes go into the first one. -/
lemma graph_of_own {content : Text} {d : Document} {ws : List Warning}
    (h : parse settings r content = .ok (d, ws))
    (hp : d.passes[k]? = some p) (own : p.isUsePass = false) :
    let ls := lines content
    let outside := partsOutside settings ls (passExtents ls).1
    ∃ e, (passExtents ls).1[k]? = some e ∧
      let mine := (contentOf settings e.first (between ls e.first e.last)).toParts.applyTo
        (.ofRegistry r)
      p.graph =
        some (if outside.isEmpty = false ∧ d.passes.findIdx? (fun p => !p.isUsePass) = some k then
        outside.applyTo mine else mine) := by
  intro ls outside
  have hd : (documentOf settings r content).1 = d := by rw [documentOf_of_parse h]
  set read := (readPasses settings r ls 0 (passExtents ls).1).1
  have hpasses : d.passes = (outside.attach read).1 := hd ▸ rfl
  have htarget :
      d.passes.findIdx? (fun p => !p.isUsePass) = read.findIdx? fun p => !p.isUsePass := by
    have hsame := isUsePass_attach outside read
    rw [← hpasses] at hsame
    have hmap := congrArg (List.findIdx? fun use => !use) hsame
    rwa [List.findIdx?_map, List.findIdx?_map] at hmap
  rw [hpasses, getElem?_attach] at hp
  obtain ⟨q, hq, hattached⟩ := Option.map_eq_some_iff.mp hp
  obtain ⟨e, start, he, hread⟩ := readPasses_getElem? hq
  have huse : e.usePath = none := by
    by_contra hsome
    obtain ⟨path, hpath⟩ := Option.ne_none_iff_exists'.mp hsome
    have hq : q.isUsePass = true := by rw [hread, readPass, hpath]; rfl
    have hp : p.isUsePass = q.isUsePass := by
      rw [← hattached]
      split_ifs <;> rfl
    rw [own, hq] at hp
    contradiction
  refine ⟨e, he, ?_⟩
  have hgraph :
      q.graph = some ((contentOf settings e.first (between ls e.first e.last)).toParts.applyTo
        (.ofRegistry r)) := by
    rw [hread, readPass, huse]
    rfl
  rw [htarget, ← hattached]
  split_ifs
  · rw [Parts.attachTo, hgraph]
    rfl
  · exact hgraph

lemma members_of_isEmpty {parts : Parts} (h : parts.isEmpty = true) (stage : Stage) :
    parts.members stage = [] := by
  simp only [Parts.isEmpty, Bool.and_eq_true, List.isEmpty_iff] at h
  obtain ⟨⟨-, hinputs⟩, houtputs⟩ := h
  cases stage with
  | input => exact hinputs
  | output => exact houtputs
  | global => rfl

/-- Structs outside the passes leave a field of a stage active: they declare none for the stage, or
this one, or it is required. -/
def Parts.Spares (outside : Parts) (r : Registry) (stage : Stage) (name : Text) : Prop :=
  outside.members stage = [] ∨ name ∈ (outside.members stage).map (·.name) ∨
    (Graph.ofRegistry r).Requires stage name

/-- A field that a pass declares is active in it, unless the pass is the first of its own and
structs outside the passes do not spare the field. -/
theorem parse_declared_active_iff {content : Text} {d : Document} {ws : List Warning}
    (h : parse settings r content = .ok (d, ws)) (hp : d.passes[k]? = some p)
    (own : p.isUsePass = false) :
    let ls := lines content
    let outside := partsOutside settings ls (passExtents ls).1
    ∃ e g, (passExtents ls).1[k]? = some e ∧ p.graph = some g ∧ ∀ stage,
      ∀ m ∈ (contentOf settings e.first (between ls e.first e.last)).members stage,
        m.name ∈ g.activeNames stage ↔
        (d.passes.findIdx? (fun p => !p.isUsePass) = some k → outside.Spares r stage m.name) := by
  intro ls outside
  obtain ⟨e, he, hgraph⟩ := graph_of_own h hp own
  refine ⟨e, _, he, hgraph, fun stage m hm => ?_⟩
  set content := contentOf settings e.first (between ls e.first e.last)
  have hactive : (content.toParts.applyTo (.ofRegistry r)).RequiredActive :=
    requiredActive_applyTo (requiredActive_ofRegistry r) _
  have hstage : stage ≠ .global := by
    rintro rfl
    exact absurd hm List.not_mem_nil
  have hdeclared : m.name ∈ (content.toParts.applyTo (.ofRegistry r)).activeNames stage := by
    rw [mem_activeNames_applyTo hstage (requiredActive_ofRegistry r),
      if_neg (List.ne_nil_of_mem hm)]
    exact .inl (List.mem_map_of_mem hm)
  split_ifs with htakes
  · rw [mem_activeNames_applyTo hstage hactive, requires_applyTo, Parts.Spares,
      imp_iff_right htakes.2]
    split_ifs with hnone
    · exact iff_of_true hdeclared (.inl hnone)
    · exact (or_iff_right hnone).symm
  · refine iff_of_true hdeclared fun hfirst => .inl (members_of_isEmpty ?_ stage)
    by_contra hne
    exact htakes ⟨by simpa using hne, hfirst⟩

end

/-- The pass of the first subshader declares a texture coordinate and a tint, the struct that the
second one shares does not. -/
def twoSubShaders : Text :=
  joinLines ["Shader \"A/B\" \x7b".toList, "    SubShader \x7b".toList, "        Pass \x7b".toList,
  "            HLSLPROGRAM".toList, "            struct Attributes \x7b".toList,
  "                float4 positionOS : POSITION;".toList,
  "                float2 uv : TEXCOORD0;".toList,
  "                half4 tint : COLOR1;".toList,
  "            \x7d;".toList, "            ENDHLSL".toList,
  "        \x7d".toList, "    \x7d".toList,
  "    SubShader \x7b".toList, "        HLSLINCLUDE".toList,
  "        struct Attributes \x7b".toList,
  "            float4 positionOS : POSITION;".toList, "        \x7d;".toList,
  "        ENDHLSL".toList, "        Pass \x7b".toList, "        \x7d".toList,
  "    \x7d".toList, ['\x7d'], []]

/-- Of the three fields that are declared, one is active. -/
theorem parse_drops_declared :
    ∃ d ws p e g, parse {} .standard twoSubShaders = .ok (d, ws) ∧ d.passes[0]? = some p ∧
    (passExtents (lines twoSubShaders)).1[0]? = some e ∧ p.graph = some g ∧
    ((contentOf {} e.first (between (lines twoSubShaders) e.first e.last)).members .input).map
      (·.name) = ["positionOS".toList, "uv".toList, "tint".toList] ∧
    "positionOS".toList ∈ g.activeNames .input ∧ "uv".toList ∉ g.activeNames .input ∧
      "tint".toList ∉ g.activeNames .input := by
  obtain ⟨d, ws, hread⟩ : ∃ d ws, documentOf {} .standard twoSubShaders = (d, ws) := ⟨_, _, rfl⟩
  have hparse : parse {} .standard twoSubShaders = .ok (d, ws) := by
    rw [parse, if_neg (by decide), hread]
  have hfirst : d.passes.findIdx? (fun p => !p.isUsePass) = some 0 := by
    have : (documentOf {} .standard twoSubShaders).1.passes.findIdx?
        (fun p => !p.isUsePass) = some 0 := by
      decide +kernel
    rwa [hread] at this
  obtain ⟨hlength, hown, -⟩ := List.findIdx?_eq_some_iff_getElem.mp hfirst
  have hp := List.getElem?_eq_getElem hlength
  obtain ⟨e, g, he, hg, hactive⟩ := parse_declared_active_iff hparse hp (by simpa using hown)
  have hextent : (passExtents (lines twoSubShaders)).1[0]? = some ⟨2, 10, none⟩ := by decide +kernel
  obtain rfl : e = ⟨2, 10, none⟩ := Option.some.inj (he.symm.trans hextent)
  have hmembers : (contentOf {} 2 (between (lines twoSubShaders) 2 10)).members .input =
      [⟨"float4".toList, "positionOS".toList, "POSITION".toList⟩,
        ⟨"float2".toList, "uv".toList, "TEXCOORD0".toList⟩,
        ⟨"half4".toList, "tint".toList, "COLOR1".toList⟩] := by
    decide +kernel
  have hspares : ∀ name ∈ ["positionOS".toList, "uv".toList, "tint".toList],
      (partsOutside {} (lines twoSubShaders) (passExtents (lines twoSubShaders)).1).Spares .standard
        .input name ↔
        name = "positionOS".toList := by
    unfold Parts.Spares Graph.Requires
    decide +kernel
  have hnames : ∀ name ∈ ["positionOS".toList, "uv".toList, "tint".toList],
      name ∈ g.activeNames .input ↔ name = "positionOS".toList := by
    intro name hname
    have hdeclared : name ∈
        ((contentOf {} 2 (between (lines twoSubShaders) 2 10)).members .input).map (·.name) := by
      rwa [hmembers]
    obtain ⟨m, hm, rfl⟩ := List.mem_map.mp hdeclared
    exact (hactive .input m hm).trans ((imp_iff_right hfirst).trans (hspares m.name hname))
  refine ⟨d, ws, _, _, g, hparse, hp, he, hg, by rw [hmembers]; rfl, ?_, ?_, ?_⟩
  · exact (hnames _ (by decide)).mpr rfl
  · exact fun h => absurd ((hnames _ (by decide)).mp h) (by decide)
  · exact fun h => absurd ((hnames _ (by decide)).mp h) (by decide)

end Source
end MarkedShader
