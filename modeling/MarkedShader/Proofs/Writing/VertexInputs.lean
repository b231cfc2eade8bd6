import MarkedShader.Proofs.Layout
import MarkedShader.Proofs.Text.Search
import MarkedShader.Proofs.Writing.VertexEntry

/-! The inputs that the vertex entry reads. Over the standard registry they are all declared in the
input struct, but for the normal: the tangent calls the helper that takes both, and depends on the
tangent alone. -/
namespace MarkedShader.Writing
open Text

/-- A member of the input that is read at the beginning of a text, and how many characters that
takes. -/
def inputRead? (before : Option Char) (t : Text) : Option (Text × Nat) :=
  if before.any isWord then none
  else ((after? "input.".toList t).bind word?).map fun p =>
    (p.1, "input.".toList.length + p.1.length)

/-- The members of the input that a line reads. -/
def inputReads (line : Text) : List Text := scan inputRead? none 0 line

/-- A field of the graph that stands as a member in the input struct written for it. -/
def DeclaresInput (g : Graph) (name : Text) : Prop :=
  ∃ f ∈ g.activeFields .input, f.name = name ∧
    ∀ (settings : Settings) (level : Nat) (filled : Bool),
    Layout.margin settings.indent (level+1) ++ member f.dataType f.name f.semantic ∈
      (structs settings g).lines settings.indent level filled

/-- Every line of a body reads only declared inputs. -/
def ReadsDeclared (g : Graph) (body : List Text) : Prop :=
  ∀ line ∈ body, ∀ name ∈ inputReads line, g.isActiveInput name ∧ DeclaresInput g name

lemma scan_inputRead?_of_not_mem {l : Text} (h : '.' ∉ l) (before : Option Char) (skip : Nat) :
    scan inputRead? before skip l = [] := by
  induction l generalizing before skip with
  | nil => rfl
  | cons c l ih =>
    have hl : '.' ∉ l := fun hm => h (List.mem_cons_of_mem _ hm)
    cases skip with
    | succ skip => exact ih hl _ skip
    | zero =>
      have hnone : after? "input.".toList (c :: l) = none := by
        rw [after?_eq_none_iff]
        intro hp
        exact h (hp.subset (by decide))
      have hread : inputRead? before (c :: l) = none := by
        rw [inputRead?, hnone]
        split <;> rfl
      rw [scan, hread]
      exact ih hl _ 0

lemma inputReads_of_not_mem {l : Text} (h : '.' ∉ l) : inputReads l = [] :=
  scan_inputRead?_of_not_mem h none 0

/-- The call of a block reads no input. -/
lemma inputReads_vertexCall {b : Block} {l : Text} (h : vertexCall? b = some l) :
    inputReads l = [] := by
  obtain ⟨w, hw, rfl⟩ := vertexCall?_eq_some h
  refine inputReads_of_not_mem fun hm => ?_
  rcases List.mem_append.mp hm with hm | hm
  · exact absurd (hw _ hm) (by decide)
  · exact absurd hm (by decide)

lemma mem_lines_structs {settings : Settings} {g : Graph} {f : Field}
    (hf : f ∈ g.activeFields .input) (level : Nat) (filled : Bool) :
    Layout.margin settings.indent (level+1) ++ member f.dataType f.name f.semantic ∈
      (structs settings g).lines settings.indent level filled := by
  have hmember : ∀ f : Field, member f.dataType f.name f.semantic ≠ [] := fun f => by simp [member]
  have htexts :
      ∀ t ∈ (g.activeFields .input).map fun f => member f.dataType f.name f.semantic, t ≠ [] := by
    intro t ht
    obtain ⟨f, -, rfl⟩ := List.mem_map.mp ht
    exact hmember f
  have hbody : Layout.margin settings.indent (level+1) ++ member f.dataType f.name f.semantic ∈
      (Layout.block ("struct ".toList ++ settings.inputStruct) "\x7d;".toList
        (.ofLines ((g.activeFields .input).map fun f => member f.dataType f.name f.semantic))).lines
        settings.indent level filled := by
    rw [Layout.lines_block_ofLines htexts (by decide)]
    exact List.mem_append_left _ (List.mem_cons_of_mem _ (List.mem_map_of_mem
      (List.mem_map_of_mem hf)))
  simp only [structs, structsOf, Layout.lines_append, List.mem_append]
  exact .inl (.inl hbody)

/-- An active input is declared. -/
lemma declaresInput_of_isActiveInput {g : Graph} {name : Text} (h : g.isActiveInput name) :
    DeclaresInput g name := by
  rw [Graph.isActiveInput, Option.any_eq_true] at h
  obtain ⟨f, hf, ha⟩ := h
  have hactive : f ∈ g.activeFields .input := List.mem_filter.mpr ⟨List.mem_of_find?_eq_some hf, ha⟩
  exact ⟨f, hactive, Field.name_of_find? hf, fun _ => mem_lines_structs hactive⟩

lemma readsDeclared_iff {g : Graph} {body : List Text} :
    ReadsDeclared g body ↔ ∀ line ∈ body, ∀ name ∈ inputReads line, g.isActiveInput name :=
  ⟨fun h line hl name hn => (h line hl name hn).1,
    fun h line hl name hn =>
      ⟨h line hl name hn, declaresInput_of_isActiveInput (h line hl name hn)⟩⟩

/-- What the code of a dependency reads is its source. -/
lemma inputReads_standard :
    ∀ e ∈ Registry.standardDependencies, ∀ d ∈ e.2, ∀ l ∈ transformLines d.transformCode,
    ∀ name ∈ inputReads l, name = d.source := by
  unfold Registry.standardDependencies Registry.computed transformLines inputReads inputRead?
  simp only [List.map]
  repeat rw [String.toList_ofList]
  decide

/-- The lines of the body that are always the same. -/
lemma inputReads_fixed :
    inputReads "float3 posOS = input.positionOS.xyz;".toList = [positionInput] ∧
    inputReads ("VertexPositionInputs vpi = ".toList ++ positionHelper ++ "(posOS);".toList) = [] ∧
    inputReads ("VertexNormalInputs vni = ".toList ++ normalHelper ++
      "(input.normalOS, input.tangentOS);".toList) = ["normalOS".toList, tangentInput] ∧
    inputReads ("VertexNormalInputs vni = ".toList ++ normalHelper ++ "(input.normalOS);".toList) =
      ["normalOS".toList] := by
  decide

lemma source_normalWS :
    ∃ d ∈ Registry.standard.dependenciesOf "normalWS".toList, d.source = "normalOS".toList := by
  unfold Registry.dependenciesOf Registry.standard Registry.standardDependencies Registry.computed
  simp only [List.map]
  repeat rw [String.toList_ofList]
  decide

section
variable {g : Graph} {blocks : List Block}

/-- The lines of the dependencies read what is active. -/
lemma isActiveInput_of_dependency {l name : Text}
    (hl : l ∈ (firstOfEachKey (g.edges .standard)).flatMap fun d => transformLines d.transformCode)
    (hn : name ∈ inputReads l) : g.isActiveInput name := by
  obtain ⟨d, hd, hl⟩ := List.mem_flatMap.mp hl
  obtain ⟨out, -, -, hdep, hactive⟩ := Graph.mem_edges.mp (mem_firstOfEachKey hd)
  obtain ⟨ds, he, hd⟩ := Registry.mem_dependenciesOf hdep
  rw [inputReads_standard _ he d hd l hl name hn]
  exact hactive

/-- An active normal has its input active. -/
lemma isActiveInput_normal (sound : g.issues .standard = []) (h : g.IsActiveOutput "normalWS") :
    g.isActiveInput "normalOS".toList := by
  obtain ⟨out, ho, hname, ha⟩ := h
  obtain ⟨d, hd, hsource⟩ := source_normalWS
  obtain ⟨-, -, -, -, hactive⟩ :=
    Graph.mem_edges.mp (Graph.mem_edges_of_issues sound ho ha (hname ▸ hd))
  exact hsource ▸ hactive

/-- What the call of the normal helper reads. -/
def normalReads (hasTangent : Bool) : List Text :=
  if hasTangent then ["normalOS".toList, tangentInput] else ["normalOS".toList]

lemma mem_inputReads_vertexBody {l name : Text}
    (hl : l ∈ vertexBody .standard g blocks) (hn : name ∈ inputReads l) :
    g.isActiveInput name ∨ (∃ d ∈ g.edges .standard, holds d.transformCode normalHelper) ∧
      name ∈ normalReads (g.isActiveInput tangentInput) := by
  obtain ⟨hposition, hvpi, hboth, hnormal⟩ := inputReads_fixed
  rw [vertexBody, vertexLines_eq, List.mem_append] at hl
  rcases hl with hl | hl
  · simp only [vertexPrelude, List.mem_append, List.mem_ite_nil_right, List.mem_singleton,
      List.any_eq_true] at hl
    rcases hl with ((⟨hp, rfl⟩ | hl) | ⟨-, rfl⟩) | ⟨hneeds, rfl⟩
    · rw [hposition, List.mem_singleton] at hn
      exact .inl (hn ▸ hp)
    · obtain ⟨b, -, hcall⟩ := List.mem_filterMap.mp hl
      rw [inputReads_vertexCall hcall] at hn
      exact absurd hn List.not_mem_nil
    · rw [hvpi] at hn
      exact absurd hn List.not_mem_nil
    · refine .inr ⟨hneeds, ?_⟩
      rw [normalReads]
      split at hn <;> rename_i ht
      · rwa [if_pos ht, ← hboth]
      · rwa [if_neg ht, ← hnormal]
  · exact .inl (isActiveInput_of_dependency hl hn)

/-- The call of the normal helper is there as soon as some edge needs it. -/
lemma normalCall_mem (blocks : List Block)
    (h : ∃ d ∈ g.edges .standard, holds d.transformCode normalHelper) :
    ∃ l ∈ vertexBody .standard g blocks, "normalOS".toList ∈ inputReads l := by
  obtain ⟨-, -, hboth, hnormal⟩ := inputReads_fixed
  have hneeds : (g.edges .standard).any (fun d => holds d.transformCode normalHelper) = true :=
    List.any_eq_true.mpr h
  refine ⟨"VertexNormalInputs vni = ".toList ++ normalHelper ++
    (if g.isActiveInput tangentInput then "(input.normalOS, input.tangentOS);"
      else "(input.normalOS);").toList, ?_, ?_⟩
  · rw [vertexBody, vertexLines_eq]
    refine List.mem_append_left _ (List.mem_append_right _ ?_)
    rw [if_pos hneeds]
    exact List.mem_singleton_self _
  · split
    · rw [hboth]
      exact List.mem_cons_self
    · rw [hnormal]
      exact List.mem_cons_self

end

/-- Over the standard registry, in every graph without issues: the vertex entry reads only inputs
that are declared in the input struct, exactly if the tangent is not active without the input of the
normal. -/
theorem vertexInputs_declared (calls : List Graph.Call) (blocks : List Block)
    (sound : (Graph.run .standard calls).issues .standard = []) :
    let g := Graph.run .standard calls
    ReadsDeclared g (vertexBody .standard g blocks) ↔
      (g.IsActiveOutput "tangentWS" → g.isActiveInput "normalOS".toList) := by
  intro g
  rw [readsDeclared_iff]
  constructor
  · intro h htangent
    obtain ⟨l, hl, hn⟩ :=
      normalCall_mem blocks ((exists_normalHelper_iff sound).mpr (.inr htangent))
    exact h l hl _ hn
  · intro h l hl name hn
    rcases mem_inputReads_vertexBody hl hn with hactive | ⟨hneeds, hname⟩
    · exact hactive
    · have hnormal : g.isActiveInput "normalOS".toList :=
        ((exists_normalHelper_iff sound).mp hneeds).elim (isActiveInput_normal sound) h
      rw [normalReads] at hname
      split at hname <;> rename_i ht
      · rcases List.mem_cons.mp hname with rfl | hname
        · exact hnormal
        · rw [List.mem_singleton.mp hname]
          exact ht
      · rw [List.mem_singleton.mp hname]
        exact hnormal

/-- A tangent that is switched on alone has no issue, and the normal is read undeclared. -/
theorem vertexInputs_undeclared :
    let g := Graph.run .standard [.activate "tangentWS".toList]
    g.issues .standard = [] ∧ ¬ ReadsDeclared g (vertexBody .standard g []) := by
  intro g
  have sound : g.issues .standard = [] := by decide
  have alone : g.IsActiveOutput "tangentWS" ∧ g.isActiveInput "normalOS".toList = false := by
    unfold Graph.IsActiveOutput
    decide
  refine ⟨sound, fun h => ?_⟩
  exact Bool.false_ne_true (alone.2.symm.trans ((vertexInputs_declared _ [] sound).mp h alone.1))

end MarkedShader.Writing
