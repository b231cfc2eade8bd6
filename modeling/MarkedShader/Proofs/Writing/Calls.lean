import MarkedShader.Generated
import MarkedShader.Proofs.Layout
import MarkedShader.Proofs.Source.Entry
import MarkedShader.Proofs.Writing.Assignments
import MarkedShader.Proofs.Writing.Content

/-! Calls in the entry functions. A block that stands in the section of its first function is called
as that section calls its functions, once and nowhere else. Main statement:
`called_of_sectionOf`. -/
namespace MarkedShader.Writing
open Text Layout

variable {settings : Settings} {r : Registry} {d : Document} {p : Pass} {b : Block}
  {front back : List Block}

/-- All lines between the braces of the fragment entry. -/
def fragmentTexts (settings : Settings) (blocks : List Block) : List Text :=
  "half4 finalColor = half4(1,1,1,1);".toList ::
    (blocks.filterMap (fragmentCall? settings) ++ ["return finalColor;".toList])

/-- The lines of the vertex entry of a pass. -/
def vertBody (settings : Settings) (r : Registry) (p : Pass) : List Text :=
  vertexTexts settings r (p.graph.getD (.ofRegistry r)) (p.blocksIn .vertex)

/-- The lines of the fragment entry of a pass. -/
def fragBody (settings : Settings) (p : Pass) : List Text :=
  fragmentTexts settings (p.blocksIn .fragment)

lemma ne_nil_of_mem_vertexTexts {g : Graph} {blocks : List Block} :
    ∀ t ∈ vertexTexts settings r g blocks, t ≠ [] := by
  have hcalls : ∀ t ∈ blocks.filterMap vertexCall?, t ≠ [] := by
    intro t ht
    obtain ⟨b, -, hb⟩ := List.mem_filterMap.mp ht
    obtain ⟨w, -, rfl⟩ := vertexCall?_eq_some hb
    simp
  have htransforms : ∀ t ∈ (firstOfEachKey (g.edges r)).flatMap fun d =>
      transformLines d.transformCode, t ≠ [] := by
    intro t ht
    obtain ⟨d, -, ht⟩ := List.mem_flatMap.mp ht
    have hfilled := (List.mem_filter.mp ht).2
    rintro rfl
    contradiction
  have hif {c : Bool} {t u : Text} (hu : u ≠ []) (ht : t ∈ if c then [u] else []) : t ≠ [] := by
    split at ht
    · rwa [List.mem_singleton.mp ht]
    · contradiction
  intro t ht
  rw [vertexTexts, vertexBody, vertexLines] at ht
  simp only [List.mem_cons, List.mem_append, List.not_mem_nil, or_false] at ht
  rcases ht with rfl | ((((ht | ht) | ht) | ht) | ht) | rfl
  · simp
  · exact hif (by simp) ht
  · exact hcalls t ht
  · exact hif (by simp) ht
  · exact hif (by simp) ht
  · exact htransforms t ht
  · simp

lemma ne_nil_of_mem_fragmentTexts {blocks : List Block} :
    ∀ t ∈ fragmentTexts settings blocks, t ≠ [] := by
  intro t ht
  simp only [fragmentTexts, List.mem_cons, List.mem_append, List.not_mem_nil, or_false] at ht
  rcases ht with rfl | ht | rfl
  · simp
  · obtain ⟨b, -, hb⟩ := List.mem_filterMap.mp ht
    obtain ⟨w, hw, rfl | rfl | rfl⟩ := Source.fragmentCall?_eq_some hb <;> simp
  · simp

/-- A scope with these lines stands in the text of a document. -/
def Shows (settings : Settings) (r : Registry) (d : Document) (header : Text)
    (ts : List Text) : Prop :=
  ∃ above level below, (document settings r d).lines settings.indent 0 false =
    above ++ ((margin settings.indent level ++ (header ++ " \x7b".toList)) ::
      ts.map (margin settings.indent (level+1) ++ ·) ++
      [margin settings.indent level ++ ['\x7d']]) ++ below

lemma shows_entry (mem : p ∈ d.passes) (own : p.isUsePass = false) {s : Section} (label : Text)
    {header : Text} {ts : List Text} (written : (s, label) ∈ Section.layout)
    (filled : ∀ t ∈ ts, t ≠ [])
    (entry : entryAfter settings r (p.graph.getD (.ofRegistry r)) s (p.blocksIn s) =
      .scope header (.ofLines ts) ++ .blank) : Shows settings r d header ts := by
  have hprogram : (Layout.scope header (.ofLines ts)).Part (program settings r d.properties p) := by
    refine .left (.right (.concat (List.mem_map_of_mem written) ?_))
    simp only [inSection_eq, entry]
    exact .right (.left .self)
  have hpass : (Layout.scope header (.ofLines ts)).Part (pass settings r d.properties p) := by
    rw [pass, own]
    exact .right (.scope (.right hprogram))
  have hdocument : (Layout.scope header (.ofLines ts)).Part (document settings r d) :=
    .scope (.left (.right (.scope (.right (.concat (List.mem_map_of_mem mem) hpass)))))
  obtain ⟨above, level, before, below, hlines⟩ := hdocument.lines settings.indent 0 false
  rw [Layout.scope, lines_block_ofLines filled (by simp)] at hlines
  exact ⟨above, level, below, hlines⟩

lemma shows_vertBody (mem : p ∈ d.passes) (own : p.isUsePass = false) :
    Shows settings r d
      (settings.outputStruct ++ " vert(".toList ++ settings.inputStruct ++ " input)".toList)
      (vertBody settings r p) :=
  shows_entry mem own (s := .vertex) "Vertex".toList (by decide) ne_nil_of_mem_vertexTexts
    (vertexEntry_eq ..)

lemma shows_fragBody (mem : p ∈ d.passes) (own : p.isUsePass = false) :
    Shows settings r d ("half4 frag(".toList ++ settings.outputStruct ++
      " input) : SV_Target".toList) (fragBody settings p) :=
  shows_entry mem own (s := .fragment) "Fragment".toList (by decide) ne_nil_of_mem_fragmentTexts rfl

/-- What the entry functions have for a block: its lines in the vertex entry and its lines in the
fragment entry. -/
inductive Called (b : Block) : List Text → List Text → Prop
  | vertex {s} (placed : b.inSection = .vertex) (first : Signature.find? b.code = some s) :
      Called b [s.name ++ "(posOS);".toList] []
  | rgba {s} (placed : b.inSection = .fragment) (first : Signature.find? b.code = some s)
      (returns : s.returnType = "half4".toList ∨ s.returnType = "float4".toList) :
      Called b [] ["finalColor = ".toList ++ s.name ++ "(input);".toList]
  | rgb {s} (placed : b.inSection = .fragment) (first : Signature.find? b.code = some s)
      (returns : s.returnType = "half3".toList ∨ s.returnType = "float3".toList) :
      Called b [] ["finalColor = half4(".toList ++ s.name ++ "(input), 1.0);".toList]
  | noValue {s} (placed : b.inSection = .fragment) (first : Signature.find? b.code = some s)
      (returns : s.returnType = "void".toList) : Called b [] [s.name ++ "(input);".toList]
  | otherValue {s} (placed : b.inSection = .fragment) (first : Signature.find? b.code = some s)
      (notRgba : ¬ (s.returnType = "half4".toList ∨ s.returnType = "float4".toList))
      (notRgb : ¬ (s.returnType = "half3".toList ∨ s.returnType = "float3".toList))
      (value : s.returnType ≠ "void".toList) : Called b [] []
  | uncalled (placed : b.inSection ∈ [.helper, .constants, .unknown]) : Called b [] []

/-- The lines that a block adds where the blocks of a section are called. -/
def addedIn (s : Section) (call : Block → Option Text) (b : Block) : List Text :=
  if b.inSection = s then (call b).toList else []

lemma filterMap_split (s : Section) (call : Block → Option Text) (front back : List Block)
    (b : Block) : ((front ++ b :: back).filter fun b => b.inSection = s).filterMap call =
      (front.filter fun b => b.inSection = s).filterMap call ++ addedIn s call b ++
        (back.filter fun b => b.inSection = s).filterMap call := by
  rw [List.filter_append, List.filterMap_append, List.append_assoc, addedIn]
  congr 1
  split_ifs with h
  · rw [List.filter_cons_of_pos (by simpa using h)]
    cases hcall : call b with
    | none => rw [List.filterMap_cons_none hcall]; rfl
    | some call => rw [List.filterMap_cons_some hcall]; rfl
  · rw [List.filter_cons_of_neg (by simpa using h)]
    rfl

section
variable {s : Signature} {param : Text} (enabled : b.isEnabled)
  (defines : isDeclarationOnly b.code = false)
  (first : Signature.find? b.code = some s) (only : s.parameterList = [param])
include enabled defines first only

lemma callBy_of_only (told : Signature → Text → Option Text) : callBy told b = told s param := by
  have hcallable : isCallable b = true := by simp [isCallable, enabled, defines]
  rw [callBy, hcallable, first, Option.bind_some, onlyParameter?, only]
  rfl

lemma vertexCall?_of_only (returns : s.returnType = "void".toList)
    (position : param.holds "float3".toList) :
    vertexCall? b = some (s.name ++ "(posOS);".toList) := by
  rw [vertexCall?_eq, callBy_of_only enabled defines first only]
  exact if_pos (Bool.and_eq_true_iff.mpr ⟨decide_eq_true returns, position⟩)

lemma fragmentCall?_of_only (takes : param.startsWith settings.outputStruct) :
    fragmentCall? settings b =
      if s.returnType = "half4".toList || s.returnType = "float4".toList then
        some ("finalColor = ".toList ++ s.name ++ "(input);".toList)
      else if s.returnType = "half3".toList || s.returnType = "float3".toList then
        some ("finalColor = half4(".toList ++ s.name ++ "(input), 1.0);".toList)
      else if s.returnType = "void".toList then some (s.name ++ "(input);".toList) else none := by
  rw [fragmentCall?_eq, callBy_of_only enabled defines first only, if_neg (by rw [takes]; decide)]

end

/-- A block of code is placed by its first function as that function is called. -/
lemma called_added (enabled : b.isEnabled) (inferred : b.inSection = Generated.sectionOf b.code) :
    Called b (addedIn .vertex vertexCall? b) (addedIn .fragment (fragmentCall? {}) b) := by
  have outside (placed : b.inSection ∈ [.helper, .constants, .unknown]) :
      Called b (addedIn .vertex vertexCall? b) (addedIn .fragment (fragmentCall? {}) b) := by
    have hvertex : b.inSection ≠ .vertex := fun h => absurd (h ▸ placed) (by decide)
    have hfragment : b.inSection ≠ .fragment := fun h => absurd (h ▸ placed) (by decide)
    rw [addedIn, addedIn, if_neg hvertex, if_neg hfragment]
    exact .uncalled placed
  rw [Generated.sectionOf] at inferred
  split at inferred
  · exact outside (by rw [inferred]; decide)
  · rename_i hdefines
    rw [Bool.not_eq_true] at hdefines
    split at inferred
    · exact outside (by rw [inferred]; decide)
    · rename_i s first
      split at inferred
      · rename_i param only
        split_ifs at inferred with takes position
        · rw [addedIn, addedIn, if_neg (by rw [inferred]; decide), if_pos inferred,
            fragmentCall?_of_only enabled hdefines first only takes]
          split_ifs with hrgba hrgb hvoid
            <;> rw [Bool.or_eq_true, decide_eq_true_eq, decide_eq_true_eq] at *
          · exact .rgba inferred first hrgba
          · exact .rgb inferred first hrgb
          · exact .noValue inferred first hvoid
          · exact .otherValue inferred first hrgba hrgb hvoid
        · rw [Bool.and_eq_true, decide_eq_true_eq] at position
          rw [addedIn, addedIn, if_pos inferred, if_neg (by rw [inferred]; decide),
            vertexCall?_of_only enabled hdefines first only position.1 position.2]
          exact .vertex inferred first
        · exact outside (by rw [inferred]; decide)
      · exact outside (by rw [inferred]; decide)

/-- Lines that are there with a block and not without it. -/
def Adds (ls without withBlock : List Text) : Prop :=
  ∃ above below, without = above ++ below ∧ withBlock = above ++ ls ++ below

lemma adds_of_calls (body : List Block → List Text) {s : Section} {call : Block → Option Text}
    {first last : List Text} (written : ∀ bs, body bs = first ++ (bs.filterMap call ++ last))
    (front back : List Block) (b : Block) :
    Adds (addedIn s call b) (body ((front ++ back).filter fun b => b.inSection = s))
      (body ((front ++ b :: back).filter fun b => b.inSection = s)) := by
  refine ⟨first ++ (front.filter fun b => b.inSection = s).filterMap call,
    (back.filter fun b => b.inSection = s).filterMap call ++ last, ?_, ?_⟩
  · rw [written, List.filter_append, List.filterMap_append]
    simp only [List.append_assoc]
  · rw [written, filterMap_split]
    simp only [List.append_assoc]

lemma vertexTexts_of_calls (settings : Settings) (r : Registry) (g : Graph) :
    ∃ first last, ∀ bs, vertexTexts settings r g bs =
      first ++ (bs.filterMap vertexCall? ++ last) := by
  simp only [vertexTexts, vertexBody, vertexLines, List.append_assoc, ← List.cons_append]
  exact ⟨_, _, fun _ => rfl⟩

/-- With the default settings, a block that is in the section of its first function is called there,
as that function asks for, and its lines are all that it adds to the two entry functions of its
pass. -/
theorem called_of_sectionOf (r : Registry) (mem : p ∈ d.passes) (own : p.isUsePass = false)
    (blocks : p.blocks = front ++ b :: back) (enabled : b.isEnabled)
    (inferred : b.inSection = Generated.sectionOf b.code) :
    let without : Pass := { p with blocks := front ++ back }
    Shows {} r d "Varyings vert(Attributes input)".toList (vertBody {} r p) ∧
      Shows {} r d "half4 frag(Varyings input) : SV_Target".toList (fragBody {} p) ∧
      ∃ vert frag, Called b vert frag ∧ Adds vert (vertBody {} r without) (vertBody {} r p) ∧
        Adds frag (fragBody {} without) (fragBody {} p) := by
  intro without
  refine ⟨shows_vertBody mem own, shows_fragBody mem own, _, _,
    called_added enabled inferred, ?_, ?_⟩
  · obtain ⟨first, last, written⟩ := vertexTexts_of_calls {} r (p.graph.getD (.ofRegistry r))
    rw [vertBody, vertBody, Pass.blocksIn, Pass.blocksIn, blocks]
    exact adds_of_calls (vertexTexts {} r _) written front back b
  · rw [fragBody, fragBody, Pass.blocksIn, Pass.blocksIn, blocks]
    exact adds_of_calls (fragmentTexts {})
      (fun _ => List.cons_eq_append_iff.mpr (.inr ⟨[], rfl, rfl⟩)) front back b

/-- A function of three components that takes its parameter over two lines, between a function that
is not enabled and one of the vertex section. -/
theorem called_of_sectionOf_rim :
    let rim : Block :=
      { title := "Rim".toList, inSection := .fragment, id := .fresh 2
        code := "half3 Rim(Varyings\n    input) \x7b return 1; \x7d".toList }
    let tint : Block :=
      { title := "Tint".toList, inSection := .fragment, isEnabled := false, id := .fresh 1
        code := "half4 Tint(Varyings input) \x7b return 1; \x7d".toList }
    let bulge : Block :=
      { title := "Bulge".toList, inSection := .vertex, id := .fresh 3
        code := "void Bulge(inout float3 p) \x7b p *= 2; \x7d".toList }
    let p : Pass := { Pass.unlit .standard (.fresh 0) with blocks := [tint, rim, bulge] }
    (rim.isEnabled ∧ rim.inSection = Generated.sectionOf rim.code) ∧
      Shows {} .standard { passes := [p] } "half4 frag(Varyings input) : SV_Target".toList
        (fragBody {} p) ∧
      Adds ["finalColor = half4(Rim(input), 1.0);".toList]
        (fragBody {} { p with blocks := [tint, bulge] }) (fragBody {} p) := by
  intro rim tint bulge p
  have inferred : rim.inSection = Generated.sectionOf rim.code := by decide
  have hfirst : Signature.find? rim.code =
      some ⟨"half3".toList, "Rim".toList, "Varyings\n    input".toList⟩ := by
    decide
  have blocks : p.blocks = [tint] ++ rim :: [bulge] := rfl
  obtain ⟨-, shown, vert, frag, called, -, adds⟩ :=
    called_of_sectionOf (d := { passes := [p] }) .standard
    (List.mem_singleton_self p) rfl blocks rfl inferred
  refine ⟨⟨rfl, inferred⟩, shown, ?_⟩
  cases called with
  | vertex placed => contradiction
  | rgba _ first returns =>
    obtain rfl := Option.some.inj (hfirst.symm.trans first)
    exact absurd returns (by decide)
  | rgb _ first =>
    obtain rfl := Option.some.inj (hfirst.symm.trans first)
    exact adds
  | noValue _ first returns =>
    obtain rfl := Option.some.inj (hfirst.symm.trans first)
    exact absurd returns (by decide)
  | otherValue _ first _ notRgb =>
    obtain rfl := Option.some.inj (hfirst.symm.trans first)
    exact absurd (.inl rfl) notRgb
  | uncalled placed => exact absurd placed (by decide)

end MarkedShader.Writing
