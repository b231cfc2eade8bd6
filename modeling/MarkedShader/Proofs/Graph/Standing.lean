import MarkedShader.Proofs.Graph.Calls
import MarkedShader.Proofs.Number.Numeral
import MarkedShader.Proofs.Source.Struct
import MarkedShader.Registry.Standard
import Mathlib.Data.List.Nodup

/-! Graphs that calls make of the one of a registry: the registry's fields stay in front, and names
stay distinct. The active fields of such a graph come back, in order, from the members of its
structs. -/
namespace MarkedShader

namespace Field

variable {fs : List Field} {name : Text} {change : Field → Field}

lemma declared_modifyFirst (keeps : ∀ f, (change f).declared = f.declared) :
    (modifyFirst name change fs).map declared = fs.map declared := by
  induction fs with
  | nil => rfl
  | cons f fs ih =>
    rw [modifyFirst]
    split_ifs
    · rw [List.map_cons, List.map_cons, keeps]
    · rw [List.map_cons, List.map_cons, ih]

lemma declared_map (keeps : ∀ f, (change f).declared = f.declared) :
    (fs.map change).map declared = fs.map declared := by
  rw [List.map_map]
  exact List.map_congr_left fun f _ => keeps f

lemma find?_map (keeps : ∀ f, (change f).name = f.name) :
    find? name (fs.map change) = (find? name fs).map change := by
  simp only [find?, List.find?_map, Function.comp_def, keeps]

/-- No field is found exactly if none has the name. -/
theorem find?_eq_none_iff : find? name fs = none ↔ name ∉ fs.map (·.name) := by
  simp [find?]

lemma isSome_find?_iff : (find? name fs).isSome ↔ name ∈ fs.map (·.name) := by
  rw [← not_iff_not, ← find?_eq_none_iff, Bool.not_eq_true, Option.isSome_eq_false_iff,
    Option.isNone_iff_eq_none]

lemma modifyFirst_eq_map (distinct : (fs.map (·.name)).Nodup) :
    modifyFirst name change fs = fs.map fun f => if f.name = name then change f else f := by
  induction fs with
  | nil => rfl
  | cons f fs ih =>
    obtain ⟨hnot, hrest⟩ := List.nodup_cons.mp distinct
    rw [modifyFirst, List.map_cons]
    split_ifs with hf
    · have hsame : ∀ g ∈ fs, (if g.name = name then change g else g) = g := fun g hg =>
        if_neg fun hn => hnot (List.mem_map.mpr ⟨g, hg, hn.trans hf.symm⟩)
      rw [List.map_congr_left hsame, List.map_id']
    · rw [ih hrest]

end Field

namespace Source

variable {stage : Stage}

/-- Members of one stage leave the fields of the other stages alone. -/
theorem fields_applyMembers_of_ne {other : Stage} (hne : other ≠ stage) (g : Graph)
    (ms : List Member) : (applyMembers g stage ms).fields other = g.fields other := by
  have hdeclare :
      ∀ (g : Graph) (m : Member), (declare stage g m).fields other = g.fields other := by
    intro g m
    unfold declare
    split <;> simp [Graph.modify, Graph.fields_withFields, hne]
  have hall : ((firstOfEachName ms).foldl (declare stage) g).fields other = g.fields other :=
    List.foldlRecOn _ _ (motive := fun h : Graph => h.fields other = g.fields other) rfl
      fun h hh m _ => (hdeclare h m).trans hh
  rw [applyMembers, Graph.fields_withFields, if_neg fun h => hne h.1, hall]

end Source

namespace Graph

/-- The fields of a registry stand first in each stage, and no stage has two fields of one name. -/
structure Standing (r : Registry) (g : Graph) : Prop where
  known : ∀ stage, ((ofRegistry r).fields stage).map Field.declared <+:
    (g.fields stage).map Field.declared
  distinct : ∀ stage, ((g.fields stage).map (·.name)).Nodup

namespace Standing

variable {r : Registry} {g h : Graph}

/-- Fields that are touched in place stay where they are, under their names. -/
lemma touched (standing : Standing r g) (touched : GrowsBy g (fun _ => []) h) : Standing r h := by
  have inPlace : ∀ stage, Field.AllTouched (g.fields stage) (h.fields stage) := fun stage => by
    simpa only [List.append_nil] using touched stage
  exact ⟨fun stage => (inPlace stage).prefix_declared isNormal_copy (standing.known stage),
    fun stage => (inPlace stage).names ▸ standing.distinct stage⟩

lemma append (standing : Standing r g) {stage : Stage} {f : Field}
    (new : g.find? f.name stage = none) :
    Standing r (g.withFields stage (g.fields stage ++ [f])) := by
  refine ⟨fun other => ?_, fun other => ?_⟩
  · rw [fields_withFields]
    split_ifs with hs
    · rw [hs.1, List.map_append]
      exact (standing.known stage).trans (List.prefix_append _ _)
    · exact standing.known other
  · rw [fields_withFields]
    split_ifs with hs
    · rw [List.map_append, List.map_singleton]
      refine List.Nodup.append (standing.distinct stage) (List.nodup_singleton _) ?_
      rw [List.disjoint_singleton]
      exact Field.find?_eq_none_iff.mp new
    · exact standing.distinct other

lemma declare (standing : Standing r g) (stage : Stage) (m : Source.Member) :
    Standing r (Source.declare stage g m) := by
  unfold Source.declare
  split
  · exact standing.touched (.modify fun f _ => .activate f)
  · rename_i new
    exact standing.append new

lemma applyMembers (standing : Standing r g) (stage : Stage) (ms : List Source.Member) :
    Standing r (Source.applyMembers g stage ms) := by
  have declared : Standing r ((Source.firstOfEachName ms).foldl (Source.declare stage) g) :=
    List.foldlRecOn _ _ standing fun _ hg m _ => hg.declare stage m
  exact declared.touched (.clear ms)

lemma applyStruct (standing : Standing r g) (stage : Stage) (ms : List Source.Member) :
    Standing r (Source.applyStruct g stage ms) := by
  unfold Source.applyStruct
  split_ifs
  · exact standing
  · exact standing.applyMembers stage ms

/-- No call takes the fields of a registry away or brings a name twice. -/
theorem apply (standing : Standing r g) (c : Call) : Standing r (c.apply r g) := by
  cases c with
  | set name stage value => exact standing.touched (.setActive name stage value)
  | activate output => exact standing.touched (.activate output)
  | deactivate output => exact standing.touched (.setActive output .output false)
  | reset => exact standing.touched .reset
  | add f =>
    simp only [Call.apply, Graph.add]
    split_ifs with hglobal hsome
    · exact standing
    · exact standing
    · exact standing.append (by simpa using hsome)
  | annotate name stage note => exact standing.touched (.modify fun f _ => .annotate f note)
  | bring stage members => exact standing.applyMembers stage members
  | copy => exact standing.touched .copy

lemma run (start : Standing r (.ofRegistry r)) (calls : List Call) :
    Standing r (Graph.run r calls) := by
  unfold Graph.run
  induction calls using List.reverseRecOn with
  | nil => exact start
  | append_singleton calls c ih => simpa using ih.apply c

/-- The fields of a graph are those of the registry with flags and notes of their own, and its own
ones under other names. -/
lemma exists_own (standing : Standing r g) (stage : Stage) :
    ∃ front own, g.fields stage = front ++ own ∧
    front.map Field.declared = ((ofRegistry r).fields stage).map Field.declared ∧
    ∀ f ∈ own, f.name ∉ ((ofRegistry r).fields stage).map (·.name) := by
  obtain ⟨rest, hrest⟩ := standing.known stage
  obtain ⟨front, own, hfields, hfront, -⟩ := List.map_eq_append_iff.mp hrest.symm
  have hdistinct := standing.distinct stage
  rw [hfields, List.map_append, Field.names_of_declared hfront, List.nodup_append] at hdistinct
  obtain ⟨-, -, hdisjoint⟩ := hdistinct
  exact ⟨front, own, hfields, hfront, fun f hf hk => hdisjoint _ hk _ (List.mem_map_of_mem hf) rfl⟩

lemma distinct_registry (standing : Standing r g) (stage : Stage) :
    (((ofRegistry r).fields stage).map (·.name)).Nodup := by
  obtain ⟨front, own, hfields, hfront, -⟩ := standing.exists_own stage
  have hdistinct := standing.distinct stage
  rw [hfields, List.map_append, Field.names_of_declared hfront] at hdistinct
  exact (List.nodup_append.mp hdistinct).1

end Standing

lemma Anchored.mem_activeNames {name : Text} {stage : Stage} {g : Graph}
    (h : Anchored name stage g) : name ∈ g.activeNames stage := by
  obtain ⟨f, hf, -, ha⟩ := h
  exact List.mem_map.mpr ⟨f, List.mem_filter.mpr ⟨List.mem_of_find?_eq_some hf, ha⟩,
    Field.name_of_find? hf⟩

/-- The fields that a registry requires are required and active. -/
def HasRequired (r : Registry) (g : Graph) : Prop :=
  ∀ stage, ∀ f ∈ (ofRegistry r).fields stage, f.isRequired → Anchored f.name stage g

lemma HasRequired.run {r : Registry} (start : HasRequired r (.ofRegistry r)) (calls : List Call) :
    HasRequired r (Graph.run r calls) := fun stage f hf hr => (start stage f hf hr).run calls

lemma HasRequired.applyStruct {r : Registry} {g : Graph} (h : HasRequired r g) (stage : Stage)
    (ms : List Source.Member) : HasRequired r (Source.applyStruct g stage ms) := by
  intro other f hf hr
  unfold Source.applyStruct
  split_ifs
  · exact h other f hf hr
  · exact (h other f hf hr).grows (.applyMembers g stage ms)

/-- No output has a semantic that the writer assigns by position. -/
def Unnumbered (g : Graph) : Prop := ∀ f ∈ g.fields .output, Source.isPositional f.semantic = false

namespace Unnumbered

variable {g h : Graph}

lemma congr (unnumbered : Unnumbered g)
    (same : (h.fields .output).map Field.declared = (g.fields .output).map Field.declared) :
    Unnumbered h := by
  intro f hf
  have hmem : f.declared ∈ (g.fields .output).map Field.declared := same ▸ List.mem_map_of_mem hf
  obtain ⟨f', hf', he⟩ := List.mem_map.mp hmem
  have hsemantic : f'.semantic = f.semantic := congrArg (·.semantic) he
  exact hsemantic ▸ unnumbered f' hf'

lemma declare (unnumbered : Unnumbered g) (m : Source.Member) :
    Unnumbered (Source.declare .output g m) := by
  unfold Source.declare
  split
  · exact unnumbered.congr (Field.declared_modifyFirst fun _ => rfl)
  · intro f hf
    rcases List.mem_append.mp hf with hf | hf
    · exact unnumbered f hf
    · rw [List.mem_singleton.mp hf]
      by_cases hp : Source.isPositional m.semantic
        <;> simp [Source.customField, Field.normalize, hp]
      decide

lemma applyMembers (unnumbered : Unnumbered g) (stage : Stage) (ms : List Source.Member) :
    Unnumbered (Source.applyMembers g stage ms) := by
  by_cases hstage : stage = .output
  · subst hstage
    have hall : Unnumbered ((Source.firstOfEachName ms).foldl (Source.declare .output) g) :=
      List.foldlRecOn _ _ unnumbered fun _ hg m _ => hg.declare m
    refine hall.congr (Field.declared_map fun f => ?_)
    split_ifs <;> rfl
  · exact unnumbered.congr (congrArg _ (Source.fields_applyMembers_of_ne (Ne.symm hstage) g ms))

lemma applyStruct (unnumbered : Unnumbered g) (stage : Stage) (ms : List Source.Member) :
    Unnumbered (Source.applyStruct g stage ms) := by
  unfold Source.applyStruct
  split_ifs
  · exact unnumbered
  · exact unnumbered.applyMembers stage ms

end Unnumbered

/-- The graph of the standard registry stands: no stage has two fields of one name. -/
theorem standing_standard : Standing .standard (.ofRegistry .standard) where
  known _ := List.prefix_refl _
  distinct stage := by cases stage <;> decide

/-- In the graph of the standard registry the required fields are active. -/
theorem hasRequired_standard : HasRequired .standard (.ofRegistry .standard) := by
  have hnamed : ∀ stage ∈ Stage.all, ∀ f ∈ (ofRegistry .standard).fields stage, f.isRequired →
      ((ofRegistry .standard).find? f.name stage).any fun a => a.isRequired && a.isActive := by
    decide
  intro stage f hf hr
  obtain ⟨a, ha, hflags⟩ :=
    (Option.any_eq_true _ _).mp (hnamed stage (by cases stage <;> decide) f hf hr)
  rw [Bool.and_eq_true] at hflags
  exact ⟨a, ha, hflags⟩

lemma unnumbered_standard : Unnumbered (.ofRegistry .standard) := by
  unfold Unnumbered
  decide

end Graph

namespace Source
open Text

variable {g : Graph} {stage : Stage} {ms : List Member} {fs : List Field}

/-- A field that is active if a name is declared for it. -/
def lit (names : List Text) (f : Field) : Field :=
  if f.name ∈ names then { f with isActive := true } else f

lemma name_lit (names : List Text) (f : Field) : (lit names f).name = f.name := by
  unfold lit
  split_ifs <;> rfl

lemma map_name_map_lit (names : List Text) (fs : List Field) :
    (fs.map (lit names)).map (·.name) = fs.map (·.name) := by
  rw [List.map_map]
  exact List.map_congr_left fun f _ => name_lit names f

lemma lit_lit (names more : List Text) (f : Field) :
    lit more (lit names f) = lit (names ++ more) f := by
  by_cases hn : f.name ∈ names <;> by_cases hm : f.name ∈ more <;> simp [lit, hn, hm]

/-- A member of a known name switches on the field of that name. -/
lemma fields_declare_of_mem
    (hstage : stage ≠ .global) (distinct : ((g.fields stage).map (·.name)).Nodup) {m : Member}
    (known : m.name ∈ (g.fields stage).map (·.name)) :
    (declare stage g m).fields stage = (g.fields stage).map (lit [m.name]) := by
  obtain ⟨f, hfind⟩ := Option.isSome_iff_exists.mp (Field.isSome_find?_iff.mpr known)
  rw [declare, Graph.find?, hfind]
  simp only [Graph.modify, Graph.fields_withFields_self hstage, Field.modifyFirst_eq_map distinct]
  exact List.map_congr_left fun f _ => by simp [lit]

/-- A member of a new name comes last, as a custom field. -/
lemma fields_declare_of_not_mem (hstage : stage ≠ .global) {m : Member}
    (new : m.name ∉ (g.fields stage).map (·.name)) :
    (declare stage g m).fields stage = g.fields stage ++ [customField stage m] := by
  rw [declare, Graph.find?, Field.find?_eq_none_iff.mpr new]
  exact Graph.fields_withFields_self hstage

/-- All declared members at once: the known ones are switched on, and the others come behind
them. -/
theorem fields_foldl_declare (hstage : stage ≠ .global)
    (distinct : ((g.fields stage).map (·.name)).Nodup) (hms : (ms.map (·.name)).Nodup) :
    (ms.foldl (declare stage) g).fields stage = (g.fields stage).map (lit (ms.map (·.name))) ++
        (ms.filter fun m => m.name ∉ (g.fields stage).map (·.name)).map (customField stage) := by
  induction ms generalizing g with
  | nil =>
    have hlit : (g.fields stage).map (lit []) = g.fields stage :=
      (List.map_congr_left fun _ _ => if_neg List.not_mem_nil).trans (List.map_id' _)
    simp [hlit]
  | cons m ms ih =>
    obtain ⟨hnot, hrest⟩ := List.nodup_cons.mp hms
    rw [List.foldl_cons]
    by_cases hknown : m.name ∈ (g.fields stage).map (·.name)
    · have hfields := fields_declare_of_mem hstage distinct hknown
      have hnames :
          ((declare stage g m).fields stage).map (·.name) = (g.fields stage).map (·.name) := by
        rw [hfields, map_name_map_lit]
      rw [ih (hnames ▸ distinct) hrest, hnames, hfields, List.map_map,
        List.filter_cons_of_neg (by simpa using hknown)]
      congr 1
      exact List.map_congr_left fun f _ => lit_lit [m.name] _ f
    · have hfields := fields_declare_of_not_mem hstage hknown
      have hname : (customField stage m).name = m.name := rfl
      have hdistinct : (((declare stage g m).fields stage).map (·.name)).Nodup := by
        rw [hfields, List.map_append, List.map_singleton]
        exact distinct.append (List.nodup_singleton _) (List.disjoint_singleton.mpr hknown)
      have hold : (g.fields stage).map (lit (ms.map (·.name))) =
          (g.fields stage).map (lit (m.name :: ms.map (·.name))) := by
        refine List.map_congr_left fun f hf => ?_
        have hne : f.name ≠ m.name := fun he => hknown (List.mem_map.mpr ⟨f, hf, he⟩)
        simp [lit, hne]
      have hlast : lit (ms.map (·.name)) (customField stage m) = customField stage m := if_neg hnot
      have hlater : (ms.filter fun k => k.name ∉ ((declare stage g m).fields stage).map (·.name)) =
          ms.filter fun k => k.name ∉ (g.fields stage).map (·.name) := by
        refine List.filter_congr fun k hk => ?_
        have hne : k.name ≠ m.name := fun he => hnot (List.mem_map.mpr ⟨k, hk, he⟩)
        simp [hfields, hname, hne]
      rw [ih hdistinct hrest, hlater, hfields, List.map_append, List.map_singleton,
        hlast, hold, List.map_cons, List.filter_cons_of_pos (by simpa using hknown), List.map_cons,
        List.append_assoc, List.singleton_append]

/-- The first member of each name is every member, if names are distinct. -/
lemma firstOfEachName_eq_self (hms : (ms.map (·.name)).Nodup) : firstOfEachName ms = ms := by
  induction ms with
  | nil => rfl
  | cons m ms ih =>
    obtain ⟨hnot, hrest⟩ := List.nodup_cons.mp hms
    have hall : (ms.filter fun k => (k.name == m.name) = false) = ms := by
      refine List.filter_eq_self.mpr fun k hk => ?_
      have hne : k.name ≠ m.name := fun he => hnot (List.mem_map.mpr ⟨k, hk, he⟩)
      simpa using hne
    rw [firstOfEachName, List.eraseDupsBy_cons, hall]
    exact congrArg (m :: ·) (ih hrest)

lemma isActive_customField (stage : Stage) (m : Member) :
    (customField stage m).isActive = true := rfl

/-- After a struct, the fields that it names are active, those of a registry first. -/
lemma activeFields_applyMembers (hstage : stage ≠ .global)
    (distinct : ((g.fields stage).map (·.name)).Nodup) (hms : (ms.map (·.name)).Nodup)
    (required : ∀ f ∈ g.fields stage, f.isRequired → f.name ∈ ms.map (·.name)) :
    (applyMembers g stage ms).activeFields stage =
      ((g.fields stage).filter fun f => f.name ∈ ms.map (·.name)).map
        (fun f => { f with isActive := true }) ++
        (ms.filter fun m => m.name ∉ (g.fields stage).map (·.name)).map (customField stage) := by
  have hany :
      ∀ f : Field, (ms.any fun m => m.name = f.name) = decide (f.name ∈ ms.map (·.name)) := by
    intro f
    rw [Bool.eq_iff_iff]
    simp
  have hfields : (applyMembers g stage ms).fields stage =
      (g.fields stage).map (fun f => { f with isActive := decide (f.name ∈ ms.map (·.name)) }) ++
        (ms.filter fun m => m.name ∉ (g.fields stage).map (·.name)).map (customField stage) := by
    rw [applyMembers, Graph.fields_withFields_self hstage, firstOfEachName_eq_self hms,
      fields_foldl_declare hstage distinct hms, List.map_append, List.map_map]
    congr 1
    · refine List.map_congr_left fun f hf => ?_
      simp only [Function.comp_apply, hany, name_lit]
      by_cases hn : f.name ∈ ms.map (·.name)
      · simp [lit, hn]
      · have hr : f.isRequired = false := by
          by_contra hr
          exact hn (required f hf (by simpa using hr))
        have hlit : lit (ms.map (·.name)) f = f := if_neg hn
        simp [hlit, hr, hn]
    · refine (List.map_congr_left fun f hf => ?_).trans (List.map_id' _)
      obtain ⟨m, hm, rfl⟩ := List.mem_map.mp hf
      have hn : (customField stage m).name ∈ ms.map (·.name) :=
        List.mem_map.mpr ⟨m, (List.mem_filter.mp hm).1, rfl⟩
      simp only [hany, hn, decide_true, Bool.or_true, if_true]
  rw [Graph.activeFields, hfields, Field.active, List.filter_append, List.filter_map]
  congr 1
  · refine List.map_congr_left fun f hf => ?_
    simpa using (List.mem_filter.mp hf).2
  · refine List.filter_eq_self.mpr fun f hf => ?_
    obtain ⟨m, -, rfl⟩ := List.mem_map.mp hf
    exact isActive_customField stage m

/-- A field as a member, under the semantic it is written with. -/
def memberAs (w : Field × Text) : Member := ⟨w.1.dataType, w.1.name, w.2⟩

variable {r : Registry} {base : Graph} {written : List (Field × Text)}

lemma map_name_memberAs (written : List (Field × Text)) :
    (written.map memberAs).map (·.name) = (written.map (·.1)).map (·.name) := by
  rw [List.map_map, List.map_map]
  rfl

/-- With distinct names, a field is active exactly if its name is one of the active ones. -/
theorem isActive_iff (distinct : ((g.fields stage).map (·.name)).Nodup) {f : Field}
    (hf : f ∈ g.fields stage) : f.isActive ↔ f.name ∈ g.activeNames stage := by
  constructor
  · exact fun ha => List.mem_map.mpr ⟨f, List.mem_filter.mpr ⟨hf, ha⟩, rfl⟩
  · intro hn
    obtain ⟨f', hf', he⟩ := List.mem_map.mp hn
    obtain ⟨hmem, ha⟩ := List.mem_filter.mp hf'
    rwa [List.inj_on_of_nodup_map distinct hmem hf he] at ha

lemma activeFields_eq_append {front own : List Field}
    (distinct : ((g.fields stage).map (·.name)).Nodup) (hfields : g.fields stage = front ++ own) :
    g.activeFields stage = (front.filter fun f => f.name ∈ g.activeNames stage) ++
      own.filter (·.isActive) := by
  have hfront : Field.active front = front.filter fun f => f.name ∈ g.activeNames stage := by
    refine List.filter_congr fun f hf => ?_
    rw [Bool.eq_iff_iff, decide_eq_true_eq]
    exact isActive_iff distinct (hfields ▸ List.mem_append_left _ hf)
  rw [← hfront, Graph.activeFields, hfields, Field.active, List.filter_append, Field.active]

/-- The active fields of a graph come back from its members in their order. A part of them is what
another one tells of those that were written, if it is so of known fields and of custom ones. -/
lemma map_activeFields_applyMembers {β : Type} (hstage : stage ≠ .global)
    (standing : Graph.Standing r g) (fresh : base.fields stage = (Graph.ofRegistry r).fields stage)
    (required : ∀ f ∈ base.fields stage, f.isRequired → f.name ∈ g.activeNames stage)
    (all : written.map (·.1) = g.activeFields stage)
    {part told : Field → β} (stays : ∀ f : Field, part f.declared = part f)
    (known : ∀ f : Field, f.name ∈ (base.fields stage).map (·.name) → part f = told f)
    (custom : ∀ w ∈ written, w.1.name ∉ (base.fields stage).map (·.name) →
      part (customField stage (memberAs w)) = told w.1) :
    ((applyMembers base stage (written.map memberAs)).activeFields stage).map part =
      (g.activeFields stage).map told := by
  obtain ⟨front, own, hfields, hfront, hown⟩ := standing.exists_own stage
  have hdistinct := standing.distinct_registry stage
  rw [← fresh] at hfront hown hdistinct
  have hfrontNames : ∀ f ∈ front, f.name ∈ (base.fields stage).map (·.name) := fun f hf =>
    Field.names_of_declared hfront ▸ List.mem_map_of_mem hf
  have hactive := activeFields_eq_append (standing.distinct stage) hfields
  have hwritten : (written.map memberAs).map (·.name) = g.activeNames stage := by
    rw [map_name_memberAs, all, Graph.activeNames]
  have hnodup : (g.activeNames stage).Nodup :=
    (standing.distinct stage).sublist (List.filter_sublist.map _)
  have hunknown :
      ((g.activeFields stage).filter fun f => f.name ∉ (base.fields stage).map (·.name)) =
        own.filter (·.isActive) := by
    rw [hactive, List.filter_append, List.filter_eq_nil_iff.mpr, List.nil_append,
      List.filter_eq_self.mpr]
    · exact fun f hf => decide_eq_true (hown f (List.mem_filter.mp hf).1)
    · intro f hf
      rw [decide_eq_true_eq, not_not]
      exact hfrontNames f (List.mem_filter.mp hf).1
  have hpart : ∀ fs : List Field, (fs.filter fun f => f.name ∈ g.activeNames stage).map part =
      ((fs.map Field.declared).filter fun f => f.name ∈ g.activeNames stage).map part := by
    intro fs
    rw [List.filter_map, List.map_map]
    exact List.map_congr_left fun f _ => (stays f).symm
  have htold : (front.filter fun f => f.name ∈ g.activeNames stage).map told =
      (front.filter fun f => f.name ∈ g.activeNames stage).map part :=
    List.map_congr_left fun f hf => (known f (hfrontNames f (List.mem_filter.mp hf).1)).symm
  have hsecond :
      ((written.map memberAs).filter fun m => m.name ∉ (base.fields stage).map (·.name)).map
      (part ∘ customField stage) = (own.filter (·.isActive)).map told := by
    rw [← hunknown, ← all, List.filter_map, List.filter_map, List.map_map, List.map_map]
    refine List.map_congr_left fun w hw => ?_
    obtain ⟨hw, hn⟩ := List.mem_filter.mp hw
    exact custom w hw (of_decide_eq_true hn)
  rw [activeFields_applyMembers hstage hdistinct (hwritten ▸ hnodup) (hwritten ▸ required),
    hwritten, List.map_append, List.map_map, List.map_map, hactive, List.map_append, htold,
    hpart front, hfront, ← hpart, hsecond]
  congr 1
  exact List.map_congr_left fun f _ => by
    rw [Function.comp_apply, ← stays f, ← stays { f with isActive := true }]
    rfl

lemma map_fst_withSemantics (next : Nat) (fs : List Field) :
    (Writing.withSemantics next fs).map (·.1) = fs := by
  induction fs generalizing next with
  | nil => rfl
  | cons f fs ih =>
    rw [Writing.withSemantics]
    split_ifs
    · rw [List.map_cons, ih]
    · rw [List.map_cons, ih]

lemma isPositional_natural (n : Nat) : isPositional ("TEXCOORD".toList ++ Decimal.natural n) := by
  have hne : Decimal.natural n ≠ [] := Nat.toDigits_ne_nil
  have hall : (Decimal.natural n).all isDigit := by
    refine List.all_eq_true.mpr fun c hc => ?_
    rw [isDigit, Numeral.digit?_of_isDigit (Numeral.isDigit_of_mem_natural hc)]
    rfl
  rw [isPositional, after?_append]
  simp [hne, hall]

/-- A field is written with its semantic, or with a numbered one if it has none. -/
theorem semantic_of_mem_withSemantics {next : Nat} {fs : List Field} {w : Field × Text}
    (h : w ∈ Writing.withSemantics next fs) :
    if w.1.semantic = [] then ∃ n, w.2 = "TEXCOORD".toList ++ Decimal.natural n else w.2 =
      w.1.semantic := by
  induction fs generalizing next with
  | nil => exact absurd h List.not_mem_nil
  | cons f fs ih =>
    rw [Writing.withSemantics] at h
    split_ifs at h with hs
    · rcases List.mem_cons.mp h with rfl | h
      · rw [if_pos (List.isEmpty_iff.mp hs)]
        exact ⟨next, rfl⟩
      · exact ih h
    · rcases List.mem_cons.mp h with rfl | h
      · rw [if_neg (by simpa using hs)]
      · exact ih h

/-- A custom output comes back without a semantic that is a number, be it its own or one that was
assigned. -/
theorem semantic_customField {next : Nat} {w : Field × Text}
    (h : w ∈ Writing.withSemantics next fs) :
    (customField .output (memberAs w)).semantic = if isPositional w.1.semantic then []
      else w.1.semantic := by
  have hread :
      (customField .output (memberAs w)).semantic = if isPositional w.2 then [] else w.2 := by
    simp [customField, Field.normalize, memberAs]
  have hwritten := semantic_of_mem_withSemantics h
  rw [hread]
  split_ifs at hwritten with hnone
  · obtain ⟨n, hn⟩ := hwritten
    rw [hn, if_pos (isPositional_natural n), hnone]
    split_ifs <;> rfl
  · rw [hwritten]

lemma inputMembers_eq (g : Graph) :
    inputMembers g = ((g.activeFields .input).map fun f => (f, f.semantic)).map memberAs := by
  rw [inputMembers, List.map_map]
  rfl

lemma outputMembers_eq (g : Graph) :
    outputMembers g = (Writing.withSemantics 0 (g.activeFields .output)).map memberAs := rfl

lemma applyStruct_of_ne_nil {ms : List Member} (h : ms ≠ []) (g : Graph) (stage : Stage) :
    applyStruct g stage ms = applyMembers g stage ms := if_neg (by simpa using h)

section
variable (standing : g.Standing r) (required : g.HasRequired r) (hinputs : inputMembers g ≠ [])
  (houtputs : outputMembers g ≠ [])
include standing required hinputs houtputs

/-- Inputs come back with whatever is told by their members. -/
theorem map_activeInputs_graphOf
    {β : Type} {part : Field → β} (stays : ∀ f : Field, part f.declared = part f)
    (custom : ∀ f : Field, part (customField .input (memberAs (f, f.semantic))) = part f) :
    ((graphOf r (inputMembers g) (outputMembers g)).activeFields .input).map part =
      (g.activeFields .input).map part := by
  rw [graphOf, applyStruct_of_ne_nil hinputs, applyStruct_of_ne_nil houtputs, Graph.activeFields,
    fields_applyMembers_of_ne (by decide), inputMembers_eq]
  refine map_activeFields_applyMembers (by decide) standing rfl
    (fun f hf hr => (required .input f hf hr).mem_activeNames) ?_ stays (fun _ _ => rfl) ?_
  · rw [List.map_map]
    exact List.map_id' _
  · intro w hw _
    obtain ⟨f, -, rfl⟩ := List.mem_map.mp hw
    exact custom f

/-- Outputs come back with whatever is told by the registry or by their members. -/
theorem map_activeOutputs_graphOf {β : Type} {part told : Field → β}
    (stays : ∀ f : Field, part f.declared = part f)
    (known : ∀ f : Field, f.name ∈ r.outputs.map (·.name) → part f = told f)
    (custom : ∀ w ∈ Writing.withSemantics 0 (g.activeFields .output),
      w.1.name ∉ r.outputs.map (·.name) → part (customField .output (memberAs w)) = told w.1) :
    ((graphOf r (inputMembers g) (outputMembers g)).activeFields .output).map part =
      (g.activeFields .output).map told := by
  have hfresh := fields_applyMembers_of_ne (show Stage.output ≠ Stage.input by decide)
    (.ofRegistry r) (inputMembers g)
  rw [graphOf, applyStruct_of_ne_nil hinputs, applyStruct_of_ne_nil houtputs, outputMembers_eq]
  refine map_activeFields_applyMembers (by decide) standing hfresh
    (hfresh ▸ fun f hf hr => (required .output f hf hr).mem_activeNames)
      (map_fst_withSemantics 0 _) stays ?_ ?_
  · rw [hfresh, Graph.ofRegistry, Graph.names_copy]
    exact known
  · rw [hfresh, Graph.ofRegistry, Graph.names_copy]
    exact custom

/-- What a part of the fields says of the active fields of a graph it also says of those that are
read back. -/
lemma map_activeFields_graphOf {β : Type} {part : Field → β}
    (stays : ∀ f : Field, part f.declared = part f)
    (inputs : ∀ f : Field, part (customField .input (memberAs (f, f.semantic))) = part f)
    (outputs : ∀ w ∈ Writing.withSemantics 0 (g.activeFields .output),
      part (customField .output (memberAs w)) = part w.1) :
    ∀ stage, ((graphOf r (inputMembers g) (outputMembers g)).activeFields stage).map part =
      (g.activeFields stage).map part := by
  intro stage
  cases stage with
  | global => rfl
  | input => exact map_activeInputs_graphOf standing required hinputs houtputs stays inputs
  | output =>
    exact map_activeOutputs_graphOf standing required hinputs houtputs stays (fun _ _ => rfl)
      fun w hw _ => outputs w hw

end

/-- The names of the active fields are read back. -/
theorem activeNames_graphOf (standing : g.Standing r) (required : g.HasRequired r)
    (hinputs : inputMembers g ≠ []) (houtputs : outputMembers g ≠ []) (stage : Stage) :
    (graphOf r (inputMembers g) (outputMembers g)).activeNames stage = g.activeNames stage :=
  map_activeFields_graphOf standing required hinputs houtputs (fun _ => rfl) (fun _ => rfl)
    (fun _ _ => rfl) stage

/-- What stands in a struct for a field that has its semantic. -/
def ownMember (f : Field) : Member := memberAs (f, f.semantic)

lemma map_withSemantics_congr {fs gs : List Field}
    (h : fs.map ownMember = gs.map ownMember) (next : Nat) :
    (Writing.withSemantics next fs).map memberAs =
      (Writing.withSemantics next gs).map memberAs := by
  induction fs generalizing gs next with
  | nil => rw [List.map_eq_nil_iff.mp h.symm]
  | cons f fs ih =>
    obtain ⟨f', gs', rfl, hf, hrest⟩ := List.map_eq_cons_iff.mp h.symm
    simp only [ownMember, memberAs, Member.mk.injEq] at hf
    obtain ⟨htype, hname, hsemantic⟩ := hf
    rw [Writing.withSemantics, Writing.withSemantics, hsemantic]
    split_ifs
    · rw [List.map_cons, List.map_cons, ih hrest.symm, memberAs, memberAs, htype, hname]
    · rw [List.map_cons, List.map_cons, ih hrest.symm, memberAs, memberAs, htype, hname]

/-- Members of required fields are always written. -/
theorem members_ne_nil (required : g.HasRequired r)
    (some : ∀ stage ∈ [Stage.input, Stage.output],
      ∃ f ∈ (Graph.ofRegistry r).fields stage, f.isRequired) :
    inputMembers g ≠ [] ∧ outputMembers g ≠ [] := by
  have hactive : ∀ stage ∈ [Stage.input, Stage.output], g.activeFields stage ≠ [] := by
    intro stage hstage hnil
    obtain ⟨f, hf, hr⟩ := some stage hstage
    have hname := (required stage f hf hr).mem_activeNames
    rw [Graph.activeNames, hnil] at hname
    exact absurd hname List.not_mem_nil
  constructor
  · rw [inputMembers_eq]
    simpa using hactive .input (by decide)
  · rw [outputMembers_eq, ← List.length_pos_iff, List.length_map, ← List.length_map (f := (·.1)),
      map_fst_withSemantics]
    exact List.length_pos_iff.mpr (hactive .output (by decide))

/-- Where the required fields are active, both structs have members. -/
theorem members_ne_nil_of_standard (required : g.HasRequired .standard) :
    inputMembers g ≠ [] ∧ outputMembers g ≠ [] :=
  members_ne_nil required (by decide)

/-- The active fields are written again as they were read. -/
lemma ownMembers_graphOf (standing : g.Standing r)
    (required : g.HasRequired r) (unnumbered : g.Unnumbered) (hinputs : inputMembers g ≠ [])
    (houtputs : outputMembers g ≠ []) (stage : Stage) :
    ((graphOf r (inputMembers g) (outputMembers g)).activeFields stage).map ownMember =
      (g.activeFields stage).map ownMember := by
  refine map_activeFields_graphOf standing required hinputs houtputs (fun _ => rfl) (fun f => ?_)
    (fun w hw => ?_) stage
  · rfl
  · have hmem : w.1 ∈ g.activeFields .output := by
      have := List.mem_map_of_mem (f := (·.1)) hw
      rwa [map_fst_withSemantics] at this
    have hnumber := unnumbered w.1 (List.mem_filter.mp hmem).1
    rw [ownMember, ownMember, semantic_customField hw, hnumber]
    rfl

lemma inputMembers_graphOf (standing : g.Standing .standard)
    (required : g.HasRequired .standard) (unnumbered : g.Unnumbered) :
    inputMembers (graphOf .standard (inputMembers g) (outputMembers g)) = inputMembers g := by
  obtain ⟨hinputs, houtputs⟩ := members_ne_nil_of_standard required
  exact ownMembers_graphOf standing required unnumbered hinputs houtputs .input

lemma outputMembers_graphOf (standing : g.Standing .standard)
    (required : g.HasRequired .standard) (unnumbered : g.Unnumbered) :
    outputMembers (graphOf .standard (inputMembers g) (outputMembers g)) = outputMembers g := by
  obtain ⟨hinputs, houtputs⟩ := members_ne_nil_of_standard required
  exact map_withSemantics_congr
    (ownMembers_graphOf standing required unnumbered hinputs houtputs .output) 0

end Source
end MarkedShader
