import MarkedShader.Source.Parse
import Mathlib.Data.List.Forall2
import Mathlib.Tactic.SplitIfs

/-! What an operation makes of a graph: the fields that were there stay in their order, changed at
most in their activation and their note and active if they are required, and new ones follow. -/
namespace MarkedShader

namespace Field

/-- A field without what a document may change in it. -/
def declared (f : Field) : Field := { f with isActive := false, annotation := [] }

/-- The field that is found has the name that is sought. -/
theorem name_of_find? {name : Text} {fs : List Field} {f : Field} (h : find? name fs = some f) :
    f.name = name := by
  simpa using List.find?_some h

/-- What a field is declared as anew depends on what it is declared as. -/
lemma declared_normalize (f : Field) : f.normalize.declared = f.declared.normalize.declared := rfl

lemma IsNormal.declared_normalize {f : Field} (h : f.IsNormal) :
    f.normalize.declared = f.declared :=
  congrArg declared ((normalize_eq_self_iff f).mpr h)

lemma names_of_declared {fs gs : List Field} (h : gs.map declared = fs.map declared) :
    gs.map (·.name) = fs.map (·.name) := by
  have := congrArg (List.map (·.name)) h
  rwa [List.map_map, List.map_map] at this

lemma find?_append {name : Text} {fs : List Field} {f : Field} (gs : List Field)
    (h : find? name fs = some f) : find? name (fs ++ gs) = some f := by
  rw [find?, List.find?_append]
  exact congrArg (Option.or · _) h

/-- What may become of a field in place: it stays declared as it was or as it is made, and active if
it is required. -/
structure Touched (f f' : Field) : Prop where
  same : f'.declared = f.declared ∨ f'.declared = f.normalize.declared
  stays : f.isRequired → f.isActive → f'.isActive

namespace Touched

variable {f f' f'' : Field}

/-- A part of a field that neither its activation, its note nor its label belongs to is kept. -/
theorem part_eq {β : Type}
    {part : Field → β} (h : Touched f f') (stays : ∀ f : Field, part f.declared = part f)
    (made : ∀ f : Field, part f.normalize = part f) : part f' = part f := by
  rcases h.same with hsame | hsame
  · rw [← stays f', hsame, stays]
  · rw [← stays f', hsame, stays, made]

lemma name_eq (h : Touched f f') : f'.name = f.name := h.part_eq (fun _ => rfl) fun _ => rfl

lemma isRequired_eq (h : Touched f f') : f'.isRequired = f.isRequired :=
  h.part_eq (fun _ => rfl) fun _ => rfl

lemma declared_eq (h : Touched f f') (labelled : f.normalize.declared = f.declared) :
    f'.declared = f.declared :=
  h.same.elim id (·.trans labelled)

lemma refl (f : Field) : Touched f f := ⟨.inl rfl, fun _ => id⟩

lemma trans (h : Touched f f') (h' : Touched f' f'') : Touched f f'' where
  same := by
    rcases h.same with hsame | hsame <;> rcases h'.same with hsame' | hsame'
    · exact .inl (hsame'.trans hsame)
    · exact .inr (by rw [hsame', declared_normalize, hsame, ← declared_normalize])
    · exact .inr (hsame'.trans hsame)
    · exact .inr
        (by rw [hsame', declared_normalize, hsame, ← declared_normalize, normalize_normalize])
  stays hr ha := h'.stays (by rwa [h.isRequired_eq]) (h.stays hr ha)

lemma isNormal (h : Touched f f') (normal : f.IsNormal) : f'.IsNormal := by
  have hlabel : f'.displayName = f.displayName :=
    congrArg (·.displayName) (h.declared_eq normal.declared_normalize)
  refine ⟨fun hr => ?_, fun hl => ?_⟩
  · rw [h.isRequired_eq] at hr
    exact h.stays hr (normal.active hr)
  · rw [h.name_eq]
    exact normal.label (hlabel ▸ hl)

lemma activate (f : Field) : Touched f { f with isActive := true } := ⟨.inl rfl, fun _ _ => rfl⟩

lemma annotate (f : Field) (note : Text) : Touched f { f with annotation := note } :=
  ⟨.inl rfl, fun _ => id⟩

lemma reset (f : Field) : Touched f { f with isActive := f.isRequired } :=
  ⟨.inl rfl, fun hr _ => hr⟩

lemma normalize (f : Field) : Touched f f.normalize :=
  ⟨.inr rfl, fun hr _ => by simp [Field.normalize, hr]⟩

/-- Only a field that is not required may be switched off. -/
theorem switch (hr : f.isRequired = false) (value : Bool) :
    Touched f { f with isActive := value } :=
  ⟨.inl rfl, fun h => absurd h (by simp [hr])⟩

end Touched

/-- Fields that stand where others stood. -/
abbrev AllTouched : List Field → List Field → Prop := List.Forall₂ Touched

namespace AllTouched

variable {fs gs hs : List Field}

lemma refl (fs : List Field) : AllTouched fs fs := List.forall₂_same.mpr fun f _ => .refl f

lemma trans (h : AllTouched fs gs) (h' : AllTouched gs hs) : AllTouched fs hs := by
  induction h generalizing hs with
  | nil =>
    cases h'
    exact .nil
  | cons touched _ ih =>
    cases h' with
    | cons touched' rest => exact .cons (touched.trans touched') (ih rest)

lemma append {fs' gs' : List Field} (h : AllTouched fs gs) (h' : AllTouched fs' gs') :
    AllTouched (fs ++ fs') (gs ++ gs') := List.rel_append h h'

lemma map {change : Field → Field} (h : ∀ f ∈ fs, Touched f (change f)) :
    AllTouched fs (fs.map change) :=
  List.forall₂_map_right_iff.mpr (List.forall₂_same.mpr h)

lemma modifyFirst {name : Text} {change : Field → Field}
    (h : ∀ f, find? name fs = some f → Touched f (change f)) :
    AllTouched fs (modifyFirst name change fs) := by
  induction fs with
  | nil => exact .nil
  | cons f fs ih =>
    rw [Field.modifyFirst]
    split_ifs with hname
    · exact .cons (h f (by simp [find?, hname])) (refl fs)
    · exact .cons (.refl f) (ih fun g hg => h g (by simpa [find?, hname] using hg))

lemma names (h : AllTouched fs gs) : gs.map (·.name) = fs.map (·.name) := by
  induction h with
  | nil => rfl
  | cons touched _ ih => rw [List.map_cons, List.map_cons, touched.name_eq, ih]

/-- Fields in front that are as they were made stay declared as they are. -/
theorem prefix_declared {ks : List Field} (h : AllTouched fs gs) (normal : ∀ k ∈ ks, k.IsNormal)
    (known : ks.map Field.declared <+: fs.map Field.declared) :
    ks.map Field.declared <+: gs.map Field.declared := by
  induction h generalizing ks with
  | nil => exact known
  | @cons f g fs gs touched _ ih =>
    cases ks with
    | nil => exact List.nil_prefix
    | cons k ks =>
      obtain ⟨hfirst, hrest⟩ := List.forall_mem_cons.mp normal
      simp only [List.map_cons, List.cons_prefix_cons] at known ⊢
      have hlabelled : f.normalize.declared = f.declared := by
        rw [declared_normalize, ← known.1, ← declared_normalize, hfirst.declared_normalize]
      exact ⟨known.1.trans (touched.declared_eq hlabelled).symm, ih hrest known.2⟩

lemma declared (h : AllTouched fs gs) (normal : ∀ f ∈ fs, f.IsNormal) :
    gs.map Field.declared = fs.map Field.declared := by
  refine (h.prefix_declared normal List.prefix_rfl).eq_of_length ?_ |>.symm
  rw [List.length_map, List.length_map, h.length_eq]

lemma isNormal (h : AllTouched fs gs) (normal : ∀ f ∈ fs, f.IsNormal) : ∀ f ∈ gs, f.IsNormal := by
  induction h with
  | nil => exact fun f hf => absurd hf List.not_mem_nil
  | cons touched _ ih =>
    obtain ⟨hfirst, hrest⟩ := List.forall_mem_cons.mp normal
    exact List.forall_mem_cons.mpr ⟨touched.isNormal hfirst, ih hrest⟩

/-- What is found under a name is what was found there, touched. -/
theorem find? {name : Text} {f : Field} (h : AllTouched fs gs) (hf : Field.find? name fs = some f) :
    ∃ g, Field.find? name gs = some g ∧ Touched f g := by
  induction h with
  | nil => contradiction
  | @cons a b fs gs touched _ ih =>
    have hname : b.name = a.name := touched.name_eq
    rw [Field.find?, List.find?_cons] at hf ⊢
    rw [hname]
    split at hf
    · cases hf
      exact ⟨b, rfl, touched⟩
    · exact ih hf

end AllTouched
end Field

namespace Graph
open MarkedShader.Field (AllTouched)

/-- In each stage the fields of one graph, and new ones after them, stand in another graph. -/
def GrowsBy (g : Graph) (new : Stage → List Field) (h : Graph) : Prop :=
  ∀ stage, AllTouched (g.fields stage ++ new stage) (h.fields stage)

namespace GrowsBy

variable {r : Registry} {g h k : Graph} {new more : Stage → List Field}

lemma refl (g : Graph) : GrowsBy g (fun _ => []) g := fun stage => by
  rw [List.append_nil]
  exact .refl _

lemma trans (first : GrowsBy g new h) (second : GrowsBy h more k) :
    GrowsBy g (fun stage => new stage ++ more stage) k :=
  fun stage => by
    rw [← List.append_assoc]
    exact .trans (.append (first stage) (.refl _)) (second stage)

lemma withFields {stage : Stage} {fs : List Field} (touched : AllTouched (g.fields stage) fs) :
    GrowsBy g (fun _ => []) (g.withFields stage fs) := fun other => by
  rw [List.append_nil, fields_withFields]
  split_ifs with hs
  · exact hs.1 ▸ touched
  · exact .refl _

lemma modify {name : Text} {stage : Stage} {change : Field → Field}
    (h : ∀ f, g.find? name stage = some f → Field.Touched f (change f)) :
    GrowsBy g (fun _ => []) (g.modify name stage change) :=
  withFields (.modifyFirst h)

lemma setActive (name : Text) (stage : Stage) (value : Bool) :
    GrowsBy g (fun _ => []) (g.setActive name stage value).1 := by
  unfold Graph.setActive
  split
  · rename_i f hf
    split_ifs with hfixed
    · exact refl g
    · refine modify fun f' hf' => ?_
      -- the first field of the name is the one that was found not to be required
      obtain rfl : f = f' := Option.some.inj (hf.symm.trans hf')
      exact .switch (by simp at hfixed; exact hfixed.1) value
  · exact refl g

lemma switchOn {state : Graph × List Text} {source : Text} :
    GrowsBy state.1 (fun _ => []) (Graph.switchOn state source).1 := by
  unfold Graph.switchOn
  split
  · split_ifs
    · exact refl _
    · exact modify fun f _ => .activate f
  · exact refl _

lemma activate (output : Text) : GrowsBy g (fun _ => []) (Graph.activate r g output).1 := by
  unfold Graph.activate
  split
  · exact refl g
  · generalize (r.dependenciesOf output).map (·.source) = sources
    have lit :
        GrowsBy g (fun _ => []) (g.modify output .output fun f => { f with isActive := true }) :=
      modify fun f _ => .activate f
    refine lit.trans ?_
    -- the walk over the sources goes on from any state
    suffices ∀ state : Graph × List Text,
        GrowsBy state.1 (fun _ => []) (sources.foldl Graph.switchOn state).1 from this (_, [])
    intro state
    induction sources generalizing state with
    | nil => exact refl _
    | cons source sources ih => exact switchOn.trans (ih _)

lemma reset : GrowsBy g (fun _ => []) g.reset := fun stage => by
  rw [List.append_nil]
  cases stage with
  | global => exact .nil
  | _ => exact .map fun f _ => .reset f

lemma copy : GrowsBy g (fun _ => []) g.copy := fun stage => by
  rw [List.append_nil, fields_copy]
  exact .map fun f _ => .normalize f

lemma append {stage : Stage} (hstage : stage ≠ .global) (fs : List Field) :
    GrowsBy g (fun other => if stage = other then fs else [])
      (g.withFields stage (g.fields stage ++ fs)) := fun other => by
  rw [fields_withFields]
  by_cases hs : other = stage
  · subst hs
    simp only [if_true, ne_eq, hstage, not_false_eq_true, and_self]
    exact .refl _
  · simp only [hs, Ne.symm hs, if_false, false_and, List.append_nil]
    exact .refl _

/-- Of the fields that no member declares only those that are not required are switched off. -/
theorem clear {stage : Stage} (ms : List Source.Member) :
    GrowsBy g (fun _ => []) (g.withFields stage <| (g.fields stage).map fun f =>
      if f.isRequired || (ms.any fun m => m.name = f.name) then f
      else { f with isActive := false }) := by
  refine withFields (.map fun f _ => ?_)
  split_ifs with hstays
  · exact .refl f
  · exact .switch (by simp at hstays; exact hstays.1) false

end GrowsBy

/-- A graph in which the fields of another one stand, with any new ones after them. -/
def Grows (g h : Graph) : Prop := ∃ new, GrowsBy g new h

namespace Grows

variable {g h k : Graph}

lemma refl (g : Graph) : Grows g g := ⟨_, .refl g⟩

lemma trans (first : Grows g h) (second : Grows h k) : Grows g k := by
  obtain ⟨_, hfirst⟩ := first
  obtain ⟨_, hsecond⟩ := second
  exact ⟨_, hfirst.trans hsecond⟩

/-- A member switches on the field of its name, or comes last as a custom field. -/
lemma declare (g : Graph) (stage : Stage) (m : Source.Member) :
    Grows g (Source.declare stage g m) := by
  unfold Source.declare
  split
  · exact ⟨_, .modify fun f _ => .activate f⟩
  · by_cases hstage : stage = .global
    · subst hstage
      exact refl g
    · exact ⟨_, .append hstage _⟩

/-- To declare members only touches fields and puts new ones behind them. -/
theorem applyMembers (g : Graph) (stage : Stage) (ms : List Source.Member) :
    Grows g (Source.applyMembers g stage ms) := by
  have hdeclared : Grows g ((Source.firstOfEachName ms).foldl (Source.declare stage) g) :=
    List.foldlRecOn _ _ (motive := Grows g) (refl g) fun _ hg m _ => hg.trans (declare _ stage m)
  exact hdeclared.trans ⟨_, .clear ms⟩

end Grows

end Graph
end MarkedShader
