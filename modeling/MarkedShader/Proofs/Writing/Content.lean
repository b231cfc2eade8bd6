import MarkedShader.Proofs.Code
import MarkedShader.Proofs.Graph.Edges
import MarkedShader.Proofs.Graph.Standing
import MarkedShader.Writing.Document

/-! What the text of a document is written from. Documents of the same content have the same text,
however their code is indented and whatever else is kept with it for editing. Main statement:
`generate_sameContent`. -/
namespace MarkedShader
open Text

/-- What is written of a field. -/
def Field.written (f : Field) : Text × Text × Text := (f.name, f.dataType, f.semantic)

namespace Graph

variable {r : Registry} {g h : Graph}

lemma edges_eq (r : Registry) (g : Graph) :
    g.edges r = ((g.activeNames .output).flatMap r.dependenciesOf).filter fun d =>
      g.isActiveInput d.source := by
  have hdependencies :
      (activeDependencies r g).map (·.2) = (g.activeNames .output).flatMap r.dependenciesOf := by
    rw [activeDependencies, List.map_flatMap, activeNames, List.flatMap_map]
    refine List.flatMap_congr fun f _ => ?_
    rw [List.map_map]
    exact List.map_id' _
  rw [← hdependencies, List.filter_map]
  rfl

lemma isActiveInput_iff (distinct : ((g.fields .input).map (·.name)).Nodup) {name : Text} :
    g.isActiveInput name ↔ name ∈ g.activeNames .input := by
  rw [isActiveInput, Graph.find?]
  cases hf : Field.find? name (g.fields .input) with
  | none =>
    have hnone := Field.find?_eq_none_iff.mp hf
    have : name ∉ g.activeNames .input := fun hn => hnone ((List.filter_sublist.map _).subset hn)
    simpa using this
  | some f =>
    rw [Option.any_some, Source.isActive_iff distinct (List.mem_of_find?_eq_some hf),
      Field.name_of_find? hf]

/-- The same fields are in use, as far as they are written, and each is found under its name. -/
structure SameActive (g h : Graph) : Prop where
  distinct : ∀ stage, ((g.fields stage).map (·.name)).Nodup ∧ ((h.fields stage).map (·.name)).Nodup
  active : ∀ stage, (g.activeFields stage).map Field.written =
    (h.activeFields stage).map Field.written

lemma SameActive.activeNames_eq (same : g.SameActive h) (stage : Stage) :
    g.activeNames stage = h.activeNames stage := by
  have hnames := congrArg (List.map (·.1)) (same.active stage)
  rwa [List.map_map, List.map_map] at hnames

end Graph

/-- A block as it is written: its code dedented, and nothing of where it was read from. -/
def Block.canonical (b : Block) : Block :=
  { b with code := dedent b.code, startLine := -1, endLine := -1, id := .fresh 0 }

/-- Passes of which the same is written. In each section the blocks stand in the same order. -/
structure Pass.SameContent (r : Registry) (p q : Pass) : Prop where
  name : p.name = q.name
  lightMode : p.lightMode = q.lightMode
  isUsePass : p.isUsePass = q.isUsePass
  usePassPath : p.usePassPath = q.usePassPath
  pragmas : p.pragmas = q.pragmas
  includes : p.includes = q.includes
  renderState : p.renderState = q.renderState
  graph : p.graph = q.graph ∨
    (p.graph.getD (.ofRegistry r)).SameActive (q.graph.getD (.ofRegistry r))
  blocks : ∀ s, (p.blocksIn s).map (·.canonical) = (q.blocksIn s).map (·.canonical)

/-- Documents of which the same is written. -/
structure Document.SameContent (r : Registry) (d e : Document) : Prop where
  shaderName : d.shaderName = e.shaderName
  globalSettings : d.globalSettings = e.globalSettings
  properties : d.properties = e.properties
  passes : List.Forall₂ (Pass.SameContent r) d.passes e.passes

namespace Writing

variable {settings : Settings} {r : Registry} {ps qs : List Property} {p q : Pass}
  {g h : Graph} {b c : Block}

lemma withSemantics_congr {fs gs : List Field} (same : fs.map Field.written = gs.map Field.written)
    (next : Nat) :
    ((withSemantics next fs).map fun (f, semantic) => member f.dataType f.name semantic) =
      (withSemantics next gs).map fun (f, semantic) => member f.dataType f.name semantic := by
  induction fs generalizing gs next with
  | nil => rw [List.map_eq_nil_iff.mp same.symm]
  | cons f fs ih =>
    obtain ⟨k, gs, rfl, hk, hrest⟩ := List.map_eq_cons_iff.mp same.symm
    obtain ⟨hname, hsort, hsemantic⟩ : k.name = f.name ∧ k.dataType = f.dataType ∧
        k.semantic = f.semantic := by
      simpa [Field.written] using hk
    rw [withSemantics, withSemantics, hsemantic]
    split_ifs
    · simp only [List.map_cons, ih hrest.symm, hname, hsort]
    · simp only [List.map_cons, ih hrest.symm, hname, hsort]

lemma structs_congr (same : g.SameActive h) : structs settings g = structs settings h := by
  have hinputs := congrArg (List.map fun t => member t.2.1 t.1 t.2.2) (same.active .input)
  rw [List.map_map, List.map_map] at hinputs
  rw [structs, structs, withSemantics_congr (same.active .output)]
  exact congrArg (structsOf settings · _) hinputs

lemma vertexLines_congr {bs cs : List Block}
    (calls : cs.filterMap vertexCall? = bs.filterMap vertexCall?) (edges : List Dependency)
    (position tangent : Bool) :
    vertexLines edges position tangent cs = vertexLines edges position tangent bs := by
  delta vertexLines
  rw [calls]

/-- The vertex entry depends on the blocks only by their calls. -/
theorem vertexEntry_congr_calls {bs cs : List Block}
    (calls : cs.filterMap vertexCall? = bs.filterMap vertexCall?) :
    vertexEntry settings r g cs = vertexEntry settings r g bs := by
  rw [vertexEntry, vertexBody, vertexLines_congr calls, ← vertexBody, ← vertexEntry]

/-- The vertex entry depends on the graph only by the names of its active fields, and on the blocks
only by their calls. -/
theorem vertexEntry_congr (names : ∀ stage, h.activeNames stage = g.activeNames stage)
    (hg : ((g.fields .input).map (·.name)).Nodup) (hh : ((h.fields .input).map (·.name)).Nodup)
    {bs cs : List Block} (calls : cs.filterMap vertexCall? = bs.filterMap vertexCall?) :
    vertexEntry settings r h cs = vertexEntry settings r g bs := by
  have hactive : ∀ name, h.isActiveInput name = g.isActiveInput name := by
    intro name
    rw [Bool.eq_iff_iff, Graph.isActiveInput_iff hh, Graph.isActiveInput_iff hg, names]
  have hedges : h.edges r = g.edges r := by
    rw [Graph.edges_eq, Graph.edges_eq, names]
    exact List.filter_congr fun d _ => hactive d.source
  rw [vertexEntry_congr_calls calls, vertexEntry, vertexBody, hedges, hactive, hactive,
    ← vertexBody, ← vertexEntry]

/-- What follows the blocks of a section. -/
def entryAfter (settings : Settings) (r : Registry) (g : Graph) (s : Section)
    (blocks : List Block) : Layout :=
  match s with
  | .vertex => vertexEntry settings r g blocks
  | .fragment => fragmentEntry settings blocks
  | _ => .empty

/-- What is written for a section: its blocks, and the entry function behind them. -/
theorem inSection_eq (p : Pass) (s : Section) (label : Text) : inSection settings r ps g p s label =
    sectionWith settings s label ((p.blocksIn s).map (block settings.tagPrefix ps))
      (entryAfter settings r g s (p.blocksIn s)) := by
  cases s <;> rfl

lemma entryAfter_congr {bs cs : List Block}
    (vertex : vertexEntry settings r h cs = vertexEntry settings r g bs)
    (fragment : cs.filterMap (fragmentCall? settings) = bs.filterMap (fragmentCall? settings))
    (s : Section) : entryAfter settings r h s cs = entryAfter settings r g s bs := by
  cases s with
  | vertex => exact vertex
  | fragment => simp only [entryAfter, fragmentEntry, fragment]
  | _ => rfl

/-- Blocks that are written alike and called alike make the same section. -/
theorem inSection_congr {s : Section}
    (layouts : (q.blocksIn s).map (block settings.tagPrefix qs) =
      (p.blocksIn s).map (block settings.tagPrefix ps))
    (vertex : (q.blocksIn s).filterMap vertexCall? = (p.blocksIn s).filterMap vertexCall?)
    (fragment : (q.blocksIn s).filterMap (fragmentCall? settings) =
      (p.blocksIn s).filterMap (fragmentCall? settings))
    (entry : ∀ {bs cs : List Block}, cs.filterMap vertexCall? = bs.filterMap vertexCall? →
      vertexEntry settings r h cs = vertexEntry settings r g bs)
    (label : Text) :
    inSection settings r qs h q s label = inSection settings r ps g p s label := by
  rw [inSection_eq, inSection_eq, layouts, entryAfter_congr (entry vertex) fragment]

lemma filterMap_map_of_same {α β : Type} {f : α → α} {told : α → Option β} {as : List α}
    (same : ∀ a ∈ as, told (f a) = told a) : (as.map f).filterMap told = as.filterMap told := by
  rw [List.filterMap_map]
  exact List.filterMap_congr same

/-- The material declares its properties by their names and kinds alone. -/
lemma materialDeclarations_map {f : Property → Property} (name : ∀ p, (f p).name = p.name)
    (kind : ∀ p, (f p).kind = p.kind) (ps : List Property) :
    materialDeclarations settings (ps.map f) = materialDeclarations settings ps := by
  have hconstant : ∀ p, constant? (f p) = constant? p := fun p => by
    simp only [constant?, name, kind]
  rw [materialDeclarations, materialDeclarations,
    filterMap_map_of_same fun p _ => by rw [name, kind],
    filterMap_map_of_same fun p _ => hconstant p]

/-- What the program of a pass is written from, the graph and the blocks apart. -/
theorem program_congr (pragmas : q.pragmas = p.pragmas) (includes : q.includes = p.includes)
    (material : materialDeclarations settings qs = materialDeclarations settings ps)
    (structs : Writing.structs settings (q.graph.getD (.ofRegistry r)) =
      Writing.structs settings (p.graph.getD (.ofRegistry r)))
    (sections : ∀ s label, inSection settings r qs (q.graph.getD (.ofRegistry r)) q s label =
      inSection settings r ps (p.graph.getD (.ofRegistry r)) p s label) :
    program settings r qs q = program settings r ps p := by
  have hlayout : (Section.layout.map fun e =>
      inSection settings r qs (q.graph.getD (.ofRegistry r)) q e.1 e.2) =
      Section.layout.map fun e =>
        inSection settings r ps (p.graph.getD (.ofRegistry r)) p e.1 e.2 :=
    List.map_congr_left fun e _ => sections e.1 e.2
  delta program
  simp only [hlayout, structs, pragmas, includes, programWith, material]

/-- The parameter of a function of one parameter. -/
def onlyParameter? (s : Signature) : Option Text :=
  match s.parameterList with
  | [param] => some param
  | _ => none

/-- What is told of a callable block by the head of its function and the only parameter there. -/
def callBy (told : Signature → Text → Option Text) (b : Block) : Option Text :=
  if !isCallable b then none else (Signature.find? b.code).bind fun s =>
    (onlyParameter? s).bind (told s)

lemma callBy_eq (told : Signature → Text → Option Text) (b : Block) : callBy told b =
    if !isCallable b then none else
    match Signature.find? b.code with
    | none => none
    | some s => match s.parameterList with
      | [param] => told s param
      | _ => none := by
  rw [callBy]
  cases Signature.find? b.code with
  | none => rfl
  | some s =>
    simp only [Option.bind_some, onlyParameter?]
    cases s.parameterList with
    | nil => rfl
    | cons param rest => cases rest <;> rfl

lemma vertexCall?_eq (b : Block) : vertexCall? b = callBy (fun s param =>
    if s.returnType = "void".toList && param.holds "float3".toList then
      some (s.name ++ "(posOS);".toList) else none) b :=
  (callBy_eq _ b).symm

lemma fragmentCall?_eq (b : Block) : fragmentCall? settings b = callBy (fun s param =>
    if !param.startsWith settings.outputStruct then none
    else if s.returnType = "half4".toList || s.returnType = "float4".toList then
      some ("finalColor = ".toList ++ s.name ++ "(input);".toList)
    else if s.returnType = "half3".toList || s.returnType = "float3".toList then
      some ("finalColor = half4(".toList ++ s.name ++ "(input), 1.0);".toList)
    else if s.returnType = "void".toList then some (s.name ++ "(input);".toList)
    else none) b :=
  (callBy_eq _ b).symm

lemma onlyParameter?_respaced {s t : Signature} (h : s.Respaced t) :
    Option.Rel Text.Respaced (onlyParameter? s) (onlyParameter? t) := by
  have hparameters := h.parameterList
  rw [onlyParameter?, onlyParameter?]
  revert hparameters
  generalize s.parameterList = as, t.parameterList = bs
  rintro (_ | ⟨h, _ | _⟩)
  · exact .none
  · exact .some h
  · exact .none

/-- A function is called alike if nothing is told by the blanks in its head. -/
lemma callBy_dedent {told : Signature → Text → Option Text}
    (alike : ∀ {s t x y}, s.Respaced t → x.Respaced y → told s x = told t y) (b : Block) :
    callBy told { b with code := dedent b.code } = callBy told b := by
  have hcallable : isCallable { b with code := dedent b.code } = isCallable b := by
    rw [isCallable, isCallable, isDeclarationOnly_dedent]
  rw [callBy, callBy, hcallable]
  congr 1
  refine (bind_eq_of_rel (Signature.find?_dedent b.code) fun s t hst => ?_).symm
  exact bind_eq_of_rel (onlyParameter?_respaced hst) fun x y hxy => alike hst hxy

lemma vertexCall?_dedent (b : Block) :
    vertexCall? { b with code := dedent b.code } = vertexCall? b := by
  rw [vertexCall?_eq, vertexCall?_eq]
  refine callBy_dedent (fun {s t x y} hst hxy => ?_) b
  rw [hst.returnType, hst.name, hxy.holds_eq (by decide) (by decide)]

/-- The output struct must be looked for in one word. -/
lemma fragmentCall?_dedent (unbroken : ∀ c ∈ settings.outputStruct, isBlank c = false) (b : Block) :
    fragmentCall? settings { b with code := dedent b.code } = fragmentCall? settings b := by
  rw [fragmentCall?_eq, fragmentCall?_eq]
  refine callBy_dedent (fun {s t x y} hst hxy => ?_) b
  rw [hst.returnType, hst.name, hxy.startsWith_eq unbroken]

lemma block_dedent (pre : Text) (ps : List Property) (b : Block) :
    block pre ps { b with code := dedent b.code } = block pre ps b := by
  simp only [block, blockWith, isDeclarationOnly_dedent, body, dedent_dedent, paramsOf]

section
variable {bs cs : List Block} (same : bs.map (·.canonical) = cs.map (·.canonical))
include same

/-- What is told of a block as it is written is told of blocks of the same content alike. -/
lemma map_of_canonical {α : Type} {f : Block → α} (hf : ∀ b, f b.canonical = f b) :
    bs.map f = cs.map f := by
  have hmap := congrArg (List.map f) same
  rw [List.map_map, List.map_map] at hmap
  have hcanonical : f ∘ (fun b : Block => b.canonical) = f := funext hf
  rwa [hcanonical] at hmap

lemma filterMap_of_canonical {α : Type} {f : Block → Option α} (hf : ∀ b, f b.canonical = f b) :
    bs.filterMap f = cs.filterMap f := by
  have hmap := congrArg (List.filterMap id) (map_of_canonical same hf)
  rwa [List.filterMap_map, List.filterMap_map, Function.id_comp] at hmap

end

lemma program_sameContent (unbroken : ∀ c ∈ settings.outputStruct, isBlank c = false)
    (ps : List Property) (same : q.SameContent r p) :
    program settings r ps q = program settings r ps p := by
  have hstructs : structs settings (q.graph.getD (.ofRegistry r)) =
      structs settings (p.graph.getD (.ofRegistry r)) := by
    rcases same.graph with hgraph | hgraph
    · rw [hgraph]
    · exact structs_congr hgraph
  have hentry : ∀ {bs cs : List Block}, cs.filterMap vertexCall? = bs.filterMap vertexCall? →
      vertexEntry settings r (q.graph.getD (.ofRegistry r)) cs =
        vertexEntry settings r (p.graph.getD (.ofRegistry r)) bs := by
    intro bs cs calls
    rcases same.graph with hgraph | hgraph
    · rw [hgraph]
      exact vertexEntry_congr_calls calls
    · exact vertexEntry_congr hgraph.activeNames_eq (hgraph.distinct .input).2
        (hgraph.distinct .input).1 calls
  refine program_congr same.pragmas same.includes rfl hstructs fun s label => ?_
  exact inSection_congr (map_of_canonical (same.blocks s) (block_dedent _ ps))
    (filterMap_of_canonical (same.blocks s) vertexCall?_dedent)
    (filterMap_of_canonical (same.blocks s) (fragmentCall?_dedent unbroken)) hentry label

lemma pass_sameContent (unbroken : ∀ c ∈ settings.outputStruct, isBlank c = false)
    (ps : List Property) (same : p.SameContent r q) :
    pass settings r ps p = pass settings r ps q := by
  rw [pass, pass, program_sameContent unbroken ps same, same.isUsePass, same.usePassPath, same.name,
    same.lightMode, same.renderState]

end Writing

namespace Document

/-- The text is written from the content alone. Whether a block is written as a stub, and whether
and how it is called, is told from its code as from its dedented code. -/
theorem generate_sameContent (settings : Settings)
    (unbroken : ∀ c ∈ settings.outputStruct, isBlank c = false) (r : Registry) {d e : Document}
    (same : d.SameContent r e) :
    d.generate settings r = e.generate settings r ∧
      ∀ b : Block, isDeclarationOnly (dedent b.code) = isDeclarationOnly b.code ∧
        Writing.vertexCall? { b with code := dedent b.code } = Writing.vertexCall? b ∧
        Writing.fragmentCall? settings { b with code := dedent b.code } =
          Writing.fragmentCall? settings b := by
  refine ⟨?_, fun b => ⟨isDeclarationOnly_dedent b.code, Writing.vertexCall?_dedent b,
    Writing.fragmentCall?_dedent unbroken b⟩⟩
  have hpasses : d.passes.map (Writing.pass settings r d.properties) =
      e.passes.map (Writing.pass settings r d.properties) := by
    rw [← List.forall₂_eq_eq_eq, List.forall₂_map_left_iff, List.forall₂_map_right_iff]
    exact same.passes.imp fun _ _ => Writing.pass_sameContent unbroken d.properties
  rw [generate, generate, Writing.document, Writing.document, hpasses, same.properties,
    same.shaderName, same.globalSettings]

/-- Code indented with tabs, blocks in another order among those of other sections, a note on an
input that is not in use, and another place in another file. -/
theorem generate_sameContent_reindented :
    let tint : Block :=
      { title := "Tint".toList, inSection := .fragment, id := .fresh 1
        code := "half4 Tint(\n    Varyings input)\n\x7b\n    return _Tint;\n\x7d".toList }
    let bulge : Block :=
      { title := "Bulge".toList, inSection := .vertex, id := .fresh 2
        code := "void Bulge(inout float3 p) \x7b p *= 2; \x7d".toList }
    let tabbed : Block := { tint with
      code :=
        "\n\thalf4 Tint(\r\n\t    Varyings input)\r\n\t\x7b\r\n\t    return _Tint;\n\t\x7d\n".toList
      startLine := 3, endLine := 9, id := .fresh 7 }
    let p : Pass := { Pass.unlit .standard (.fresh 0) with blocks := [tint, bulge] }
    let noted : Graph :=
      ((Graph.ofRegistry .standard).annotate "uv2".toList .input "lightmap".toList).1
    let q : Pass := { p with blocks := [bulge, tabbed], graph := some noted, id := .fresh 5 }
    let d : Document := { passes := [p] }
    let e : Document := { d with
      passes := [q], filePath := "Lit.shader".toList, activeIndex := 3
      rawContent := "?".toList, isDirty := true }
    d.SameContent .standard e ∧ d.generate {} .standard = e.generate {} .standard := by
  intro tint bulge tabbed p noted q d e
  have same : d.SameContent .standard e := by
    refine ⟨rfl, rfl, rfl, .cons ⟨rfl, rfl, rfl, rfl, rfl, rfl, rfl,
      .inr ⟨fun stage => ?_, fun stage => ?_⟩, fun s => ?_⟩ .nil⟩
    · cases stage <;> decide
    · cases stage <;> decide
    · cases s <;> decide
  exact ⟨same, (generate_sameContent {} (by decide) .standard same).1⟩

end Document
end MarkedShader
