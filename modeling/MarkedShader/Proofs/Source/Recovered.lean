import MarkedShader.Proofs.Source.Stable

/-! Well-formed documents are recovered from the text they are written in, unless the calls in the
entry functions of a pass are taken for the end of its program and for a stencil group after it. -/
namespace MarkedShader

/-- A text that has no sign of its own in a document: no quote, line break, brace, comment mark or
opening of a marker. -/
abbrev IsPlain (t : Text) : Prop := Plain ({} : Settings).tagPrefix t

/-- A property all of whose parts are written, and its bounds as they are read. -/
structure Property.WellFormed (p : Property) : Prop where
  legible : p.Legible
  normal : p.Normal
  complete : p.Complete
  own : p.rawDeclaration ≠ p.synthesize
  minValue : p.minValue =
    if p.kind = .range then Source.numberOr (.ofNat 0) p.minValue.plain else .ofNat 0
  maxValue : p.maxValue =
    if p.kind = .range then Source.numberOr (.ofNat 1) p.maxValue.plain else .ofNat 1

/-- A block whose code has no markers in it and, if it is enabled, closes the braces that it
opens. -/
structure Block.WellFormed (b : Block) : Prop where
  title : IsPlain b.title ∧ b.title ≠ []
  intent : IsPlain b.intent
  params : ∀ t ∈ b.referencedParams, IsPlain t ∧ t ≠ []
  distinct : b.referencedParams.Nodup
  code : ∀ l ∈ Text.codeLines b.code, ¬ Marker.opening ({} : Settings).tagPrefix <:+: l
  balanced : b.isEnabled → Source.BalancedFrom 0 (Text.codeLines b.code)

instance (b : Block) : Decidable b.WellFormed :=
  decidable_of_iff ((IsPlain b.title ∧ b.title ≠ []) ∧ IsPlain b.intent ∧
      (∀ t ∈ b.referencedParams, IsPlain t ∧ t ≠ []) ∧
      b.referencedParams.Nodup ∧
      (∀ l ∈ Text.codeLines b.code, ¬ Marker.opening ({} : Settings).tagPrefix <:+: l) ∧
      (b.isEnabled → Source.BalancedFrom 0 (Text.codeLines b.code)))
    ⟨fun ⟨title, intent, params, distinct, code, balanced⟩ =>
      ⟨title, intent, params, distinct, code, balanced⟩,
      fun h => ⟨h.title, h.intent, h.params, h.distinct, h.code, h.balanced⟩⟩

structure RenderState.WellFormed (st : RenderState) : Prop where
  legible : st.Legible ({} : Settings).tagPrefix
  hasOverrides : st.hasOverrides
  filled : ∀ key, st.get key ≠ some []

/-- A graph that grew from the standard registry and whose fields can be written as members of a
struct. -/
structure Graph.WellFormed (g : Graph) : Prop where
  standing : g.Standing .standard
  required : g.HasRequired .standard
  inputs : ∀ m ∈ Source.inputMembers g, m.Named
  outputs : ∀ m ∈ Source.outputMembers g, m.Named

/-- The graphs that calls lead to are well-formed as soon as their active fields are words. -/
lemma Graph.WellFormed.run (calls : List Graph.Call)
    (inputs : ∀ m ∈ Source.inputMembers (Graph.run .standard calls), m.Named)
    (outputs : ∀ m ∈ Source.outputMembers (Graph.run .standard calls), m.Named) :
    (Graph.run .standard calls).WellFormed :=
  ⟨.run standing_standard calls, .run hasRequired_standard calls, inputs, outputs⟩

/-- What is asked of a pass with a program of its own. -/
structure Pass.WellFormedOwn (p : Pass) : Prop where
  name : IsPlain p.name ∧ p.name ≠ []
  lightMode : IsPlain p.lightMode
  pragmas : ∀ t ∈ p.pragmas, Source.IsPragma t ∧ IsPlain t
  includes : ∀ t ∈ p.includes, IsPlain t ∧ t ≠ []
  renderState : ∀ st, p.renderState = some st → st.WellFormed
  graph : p.shownGraph.WellFormed
  blocks : ∀ b ∈ p.blocks, b.WellFormed

/-- A pass that only refers to another one has nothing else. -/
inductive Pass.WellFormed (p : Pass) : Prop
  | reference (path : Text) (eq : p = .usePass p.id path) (plain : IsPlain path) (named : path ≠ [])
  | program (own : p.isUsePass = false) (content : p.WellFormedOwn)

structure Document.WellFormed (d : Document) : Prop where
  shaderName : IsPlain d.shaderName ∧ d.shaderName ≠ []
  globalSettings : d.globalSettings.Legible
  properties : ∀ p ∈ d.properties, p.WellFormed
  names : (d.properties.map (·.name)).Nodup
  passes : ∀ p ∈ d.passes, p.WellFormed
  nonempty : d.passes ≠ []

/-- The blocks of a pass in the order in which they are written: by their sections, and in each as
they stand. -/
def Pass.arranged (p : Pass) : List Block := Section.layout.flatMap fun e => p.blocksIn e.1

/-- A block that has all of another one but its place. Code that only declares is not written. -/
structure Block.Recovers (b c : Block) : Prop where
  title : c.title = b.title
  inSection : c.inSection = b.inSection
  intent : isDeclarationOnly b.code = false → c.intent = b.intent
  referencedParams : isDeclarationOnly b.code = false → c.referencedParams = b.referencedParams
  isEnabled : isDeclarationOnly b.code = false → c.isEnabled = b.isEnabled
  code : isDeclarationOnly b.code = false → c.code = Text.dedent b.code

structure Pass.Recovers (p q : Pass) : Prop where
  name : q.name = p.name
  lightMode : q.lightMode = p.lightMode
  isUsePass : q.isUsePass = p.isUsePass
  usePassPath : p.isUsePass → q.usePassPath = p.usePassPath
  pragmas : q.pragmas = p.pragmas
  includes : q.includes = p.includes
  renderState : q.renderState = p.renderState
  activeNames : p.isUsePass = false → ∃ g, q.graph = some g ∧
    ∀ stage, g.activeNames stage = p.shownGraph.activeNames stage
  blocks : p.arranged.Forall₂ Block.Recovers q.blocks

structure Document.Recovers (d d' : Document) : Prop where
  shaderName : d'.shaderName = d.shaderName
  globalSettings : d'.globalSettings = d.globalSettings
  properties : d'.properties = d.properties
  passes : d.passes.Forall₂ Pass.Recovers d'.passes

namespace Source
open Text

lemma forall₂_of_map_eq {α β γ : Type} {f : α → γ} {g : β → γ} {R : α → β → Prop} {as : List α}
    {bs : List β} (h : bs.map g = as.map f) (each : ∀ a ∈ as, ∀ b, g b = f a → R a b) :
    as.Forall₂ R bs := by
  induction as generalizing bs with
  | nil =>
    rw [List.map_nil, List.map_eq_nil_iff] at h
    rw [h]
    exact .nil
  | cons a as ih =>
    obtain ⟨b, bs, rfl, hb, hbs⟩ := List.map_eq_cons_iff.mp h
    exact .cons (each a List.mem_cons_self b hb)
      (ih hbs fun a ha => each a (List.mem_cons_of_mem _ ha))

lemma property_recovered {p : Property} (h : p.WellFormed) : p.rewritten = p := by
  obtain ⟨hattributes, hstrip⟩ :=
    (propertyLines_rewritten_iff h.legible).mp ((complete_iff h.legible h.normal).mpr h.complete)
  have htexture := ((propertyAttributes_rewritten_iff p).mp hattributes).2
  have hmin : p.rewritten.minValue = p.minValue := h.minValue.symm
  have hmax : p.rewritten.maxValue = p.maxValue := h.maxValue.symm
  have hrest : p.rewritten = { p with rawDeclaration := p.rewritten.rawDeclaration } := by
    calc p.rewritten = { p with
          minValue := p.rewritten.minValue
          maxValue := p.rewritten.maxValue
          defaultTexture := p.rewritten.defaultTexture
          rawDeclaration := p.rewritten.rawDeclaration } := rfl
      _ = _ := by rw [hmin, hmax, htexture]
  have hsynthesize : p.rewritten.synthesize = p.synthesize := by
    rw [hrest]
    rfl
  have hread : p.rewritten.rawDeclaration = if strip p.declaration = p.rewritten.synthesize then []
    else strip p.declaration := rfl
  have hraw : p.rewritten.rawDeclaration = p.rawDeclaration := by
    rw [hread, hsynthesize, hstrip, Property.declaration]
    by_cases hnone : p.rawDeclaration = []
    · simp [hnone]
    · have hempty : ¬ p.rawDeclaration.isEmpty = true := by simpa using hnone
      rw [if_neg hempty, if_neg h.own]
  rw [hrest, hraw]

lemma readable {b : Block} (h : b.WellFormed) {ps : List Property}
    (hps : ∀ p ∈ ps, IsPlain p.role) :
    Readable ({} : Settings).tagPrefix (Writing.paramsOf ps b) b := by
  have hdefault : IsPlain "parameter".toList := by decide
  have hrole : ∀ t, IsPlain (Writing.roleOf ps t) := by
    intro t
    rw [Writing.roleOf]
    split
    · rename_i p hp
      split_ifs
      · exact hdefault
      · exact hps p (List.mem_of_find?_eq_some hp)
    · exact hdefault
  refine ⟨h.title.1, h.title.2,
    fun _ => ⟨h.title, h.intent, fun q hq => ?_, ?_, h.code, h.balanced⟩⟩
  · obtain ⟨t, ht, rfl⟩ := List.mem_map.mp hq
    exact ⟨(h.params t ht).1, (h.params t ht).2, hrole t⟩
  · rw [Writing.paramsOf, List.map_map]
    exact (List.map_id _).symm ▸ h.distinct

lemma block_recovered {b c : Block} (h : c.detached = b.rewritten) : b.Recovers c := by
  have hcode : isDeclarationOnly b.code = false →
      c.detached = { b.detached with code := dedent b.code } := by
    intro hd
    rw [h, Block.rewritten, if_neg (by simp [hd])]
  have hpart : ∀ {α : Type} (part : Block → α), part c.detached = part b.rewritten :=
    fun part => congrArg part h
  refine ⟨?_, ?_, fun hd => ?_, fun hd => ?_, fun hd => ?_, fun hd => ?_⟩
  · refine (hpart (·.title)).trans ?_
    rw [Block.rewritten]
    split_ifs <;> rfl
  · refine (hpart (·.inSection)).trans ?_
    rw [Block.rewritten]
    split_ifs <;> rfl
  · exact congrArg (·.intent) (hcode hd)
  · exact congrArg (·.referencedParams) (hcode hd)
  · exact congrArg (·.isEnabled) (hcode hd)
  · exact congrArg (·.code) (hcode hd)

lemma renderState_recovered {st : RenderState} (h : st.WellFormed) : st.rewritten = st := by
  have hvalue : ∀ key, st.value? key = st.get key := by
    intro key
    cases hv : st.get key with
    | none => rw [RenderState.value?, hv, Option.filter_none]
    | some v =>
      have hne : v ≠ [] := fun hnil => h.filled key (hnil ▸ hv)
      rw [RenderState.value?, hv]
      exact Option.filter_some_pos (by simpa using hne)
  simp only [RenderState.rewritten, hvalue]
  rfl

lemma written_of_wellFormed {p : Pass} {ps : List Property} (h : p.WellFormed)
    (hps : ∀ q ∈ ps, IsPlain q.role) (hcalls : Harmless true p.calls) : p.Written ps := by
  cases h with
  | reference path eq plain named =>
    rw [eq]
    exact .reference rfl ⟨plain, named⟩
  | program own h =>
    exact .program own {
      pragmas := h.pragmas
      includes := h.includes
      inputs := h.graph.inputs
      outputs := h.graph.outputs
      blocks := fun b hb => readable (h.blocks b hb) hps
      calls := hcalls
      name := h.name
      lightMode := h.lightMode
      renderState := fun st hst => (h.renderState st hst).legible }

lemma legible_of_wellFormed {d : Document} (h : d.WellFormed)
    (hcalls : ∀ p ∈ d.passes, Harmless true p.calls) : d.Legible where
  shaderName := h.shaderName
  globalSettings := h.globalSettings
  properties p hp := (h.properties p hp).legible
  names := h.names
  passes p hp := written_of_wellFormed (h.passes p hp)
    (fun q hq => (h.properties q hq).legible.role) (hcalls p hp)
  nonempty := h.nonempty

lemma rewrittenBlocks_eq (p : Pass) : p.rewrittenBlocks = p.arranged.map (·.rewritten) :=
  List.map_flatMap.symm

lemma pass_recovered {p q : Pass} (h : p.WellFormed) (hq : q.detached = p.rewritten) :
    p.Recovers q := by
  have hpart : ∀ {α : Type} (part : Pass → α), part q.detached = part p.rewritten :=
    fun part => congrArg part hq
  cases h with
  | reference path eq plain named =>
    have hrewritten : p.rewritten = { p with id := .fresh 0 } := by
      rw [eq]
      rfl
    rw [hrewritten] at hpart
    have hnone : p.blocks = [] := by
      rw [eq]
      rfl
    have huse : p.isUsePass = true := by
      rw [eq]
      rfl
    refine ⟨hpart (·.name), hpart (·.lightMode), hpart (·.isUsePass),
      fun _ => hpart (·.usePassPath), hpart (·.pragmas),
      hpart (·.includes), hpart (·.renderState),
      fun hown => absurd (huse.symm.trans hown) (by decide), ?_⟩
    have hblocks : q.blocks.map Block.detached = p.blocks := hpart (·.blocks)
    rw [hnone, List.map_eq_nil_iff] at hblocks
    have harranged : p.arranged = [] := by simp [Pass.arranged, Pass.blocksIn, hnone]
    rw [harranged, hblocks]
    exact .nil
  | program own h =>
    rw [Pass.rewritten, if_neg (by simp [own])] at hpart
    obtain ⟨hinputs, houtputs⟩ := members_ne_nil_of_standard h.graph.required
    refine ⟨hpart (·.name), hpart (·.lightMode), ?_,
      fun huse => absurd (own.symm.trans huse) (by decide), hpart (·.pragmas),
      hpart (·.includes), ?_, fun _ => ⟨_, hpart (·.graph),
        activeNames_graphOf h.graph.standing h.graph.required hinputs houtputs⟩, ?_⟩
    · rw [own]
      exact hpart (·.isUsePass)
    · refine (hpart (·.renderState)).trans ?_
      cases hst : p.renderState with
      | none => rfl
      | some st =>
        have hwell := h.renderState st hst
        rw [Option.map_some, renderState_recovered hwell]
        exact Option.filter_some_pos hwell.hasOverrides
    · exact forall₂_of_map_eq ((hpart (·.blocks)).trans (rewrittenBlocks_eq p))
        fun _ _ _ => block_recovered

lemma wellFormed_standard : (Graph.ofRegistry .standard).WellFormed :=
  .run [] (by decide) (by decide)

/-- A vertex function of a name. -/
def vertexFunction (name : String) : Block where
  title := name.toList
  code := "void ".toList ++ name.toList ++ "(float3 p) \x7b \x7d".toList
  inSection := .vertex
  id := .fresh 0

/-- A document with nothing but some blocks in a pass. -/
def documentOfBlocks (bs : List Block) : Document where
  passes := [{ graph := some (.ofRegistry .standard), blocks := bs, id := .fresh 0 }]

lemma wellFormed_documentOfBlocks {bs : List Block} (h : ∀ b ∈ bs, b.WellFormed) :
    (documentOfBlocks bs).WellFormed := by
  have hshader : IsPlain "AILab/NewShader".toList ∧ "AILab/NewShader".toList ≠ [] := by decide
  have hpass : IsPlain "NewPass".toList ∧ "NewPass".toList ≠ [] := by decide
  have hmode : IsPlain [] := by decide
  have hsettings : GlobalSettings.Legible {} := by decide
  have hnone : ∀ {α : Type} {holds : α → Prop}, ∀ a ∈ ([] : List α), holds a :=
    fun a ha => absurd ha List.not_mem_nil
  refine ⟨hshader, hsettings, hnone, List.nodup_nil, fun p hp => ?_, List.cons_ne_nil _ _⟩
  rw [List.mem_singleton.mp hp]
  exact .program rfl ⟨hpass, hmode, hnone, hnone,
    fun _ hst => absurd hst (Option.some_ne_none _).symm, wellFormed_standard, h⟩

def scale : Property where
  name := "_Scale".toList
  displayName := "Scale".toList
  kind := .range
  defaultValue := "0.5".toList

lemma wellFormed_scale : scale.WellFormed where
  legible := ⟨by decide, by decide, by decide, by decide, by decide, fun hne => absurd rfl hne⟩
  normal := ⟨rfl, fun hne => absurd rfl hne⟩
  complete :=
    ⟨fun _ => by decide +kernel, fun _ hkind => absurd hkind (by decide), fun _ _ => by decide⟩
  own := by decide
  minValue := by decide +kernel
  maxValue := by decide +kernel

lemma wellFormed_of_words {st : RenderState}
    (words : ∀ key ∈ StateKey.all, ∀ v ∈ st.get key, IsName v) (flat : st.stencil = none)
    (overrides : st.hasOverrides) : st.WellFormed := by
  have hword : ∀ {key v}, st.get key = some v → IsName v :=
    fun {key v} hv => words key (by cases key <;> decide) v hv
  refine ⟨⟨fun key v hv => ?_,
    fun _ hst => absurd (flat.symm.trans hst) (Option.some_ne_none _).symm⟩, overrides, ?_⟩
  · have hv := hword (Option.filter_eq_some_iff.mp hv).1
    refine ⟨⟨hv.1, .inl ⟨fun c hc => ?_, fun c hc => ?_⟩⟩, plain_name hv _⟩
    · exact isBlank_of_isWord (hv.2 c (List.mem_of_head? hc))
    · exact isBlank_of_isWord (hv.2 c (List.mem_of_getLast? hc))
  · exact fun key hnil => (hword hnil).1 rfl

/-- The pass that draws outlines is well-formed as it is made. -/
lemma wellFormed_outline (id : Identity) : (Pass.outline .standard id).WellFormed := by
  have hname : IsPlain "Outline".toList ∧ "Outline".toList ≠ [] := by decide
  have hmode : IsPlain "SRPDefaultUnlit".toList := by decide
  have hpragmas : ∀ t ∈ Pass.entryPragmas, IsPragma t ∧ IsPlain t := by
    have hplain : ∀ t ∈ Pass.entryPragmas, IsPlain t := by decide
    intro t ht
    refine ⟨?_, hplain t ht⟩
    simp only [Pass.entryPragmas, List.mem_cons, List.not_mem_nil, or_false] at ht
    rcases ht with rfl | rfl
    · exact ⟨[' '], "vertex vert".toList, by decide, by decide, by decide, by decide, by decide⟩
    · exact ⟨[' '], "fragment frag".toList, by decide, by decide, by decide, by decide, by decide⟩
  have hincludes : ∀ t ∈ [Pass.coreInclude], IsPlain t ∧ t ≠ [] := by decide +kernel
  have hstate : ∀ st, (Pass.outline .standard id).renderState = some st → st.WellFormed := by
    intro st hst
    rw [← Option.some.inj hst]
    exact wellFormed_of_words (by decide) rfl (by decide)
  have hgraph : (Pass.outline .standard id).shownGraph = .ofRegistry .standard := rfl
  have hblocks : ∀ b ∈ (Pass.outline .standard id).blocks, b.WellFormed :=
    fun b hb => absurd hb List.not_mem_nil
  exact .program rfl
    ⟨hname, hmode, hpragmas, hincludes, hstate, hgraph ▸ wellFormed_standard, hblocks⟩

/-- A document with properties, a program, render state, pragmas, includes and a reference. -/
def sampleDocument (bs : List Block) : Document where
  properties := [scale]
  passes := (documentOfBlocks bs).passes ++ [.outline .standard (.fresh 1), .depthOnly (.fresh 2)]

lemma wellFormed_sampleDocument {bs : List Block} (h : ∀ b ∈ bs, b.WellFormed) :
    (sampleDocument bs).WellFormed := by
  have hbare := wellFormed_documentOfBlocks h
  have hpath : IsPlain "Universal Render Pipeline/Lit/DepthOnly".toList := by decide
  refine ⟨hbare.shaderName, hbare.globalSettings, ?_, List.nodup_singleton _, ?_,
    List.cons_ne_nil _ _⟩
  · intro p hp
    rw [List.mem_singleton.mp hp]
    exact wellFormed_scale
  · intro p hp
    rcases List.mem_append.mp hp with hp | hp
    · exact hbare.passes p hp
    · simp only [List.mem_cons, List.not_mem_nil, or_false] at hp
      rcases hp with rfl | rfl
      · exact wellFormed_outline _
      · exact .reference _ rfl hpath (by decide)

/-- Well-formed documents are recovered from their text, without a warning. -/
theorem parse_recovers {d : Document} (h : d.WellFormed)
    (hcalls : ∀ p ∈ d.passes, Harmless true p.calls) :
    ∃ d', parse {} .standard (d.generate {} .standard) = .ok (d', []) ∧ d.Recovers d' := by
  obtain ⟨d', hread, hrewrites⟩ := parse_generate (legible_of_wellFormed h hcalls)
  refine ⟨d', hread, hrewrites.shaderName, hrewrites.globalSettings, ?_, ?_⟩
  · rw [hrewrites.properties]
    exact (List.map_congr_left fun p hp => property_recovered (h.properties p hp)).trans
      (List.map_id _)
  · exact forall₂_of_map_eq hrewrites.passes fun p hp _ => pass_recovered (h.passes p hp)

/-- Functions with the names of keywords, in an order that does no harm. -/
theorem parse_recovers_calls : ∃ d', parse {} .standard
    ((sampleDocument [vertexFunction "Stencil", vertexFunction "ENDHLSL"]).generate {} .standard) =
      .ok (d', []) ∧
        (sampleDocument [vertexFunction "Stencil", vertexFunction "ENDHLSL"]).Recovers d' :=
  parse_recovers (wellFormed_sampleDocument (by decide)) (by decide)

/-- A function with the name of the keyword that ends the program, called before one that has that
of a stencil group. -/
theorem parse_misreads_calls :
    (documentOfBlocks [vertexFunction "ENDHLSL", vertexFunction "Stencil"]).WellFormed ∧
    ¬ ∃ d', parse {} .standard ((documentOfBlocks
      [vertexFunction "ENDHLSL", vertexFunction "Stencil"]).generate {} .standard) =
      .ok (d', []) ∧
        (documentOfBlocks [vertexFunction "ENDHLSL", vertexFunction "Stencil"]).Recovers d' := by
  refine ⟨wellFormed_documentOfBlocks (by decide), ?_⟩
  rintro ⟨d', hparse, hrecovers⟩
  have hread : (parse {} .standard ((documentOfBlocks
      [vertexFunction "ENDHLSL", vertexFunction "Stencil"]).generate {} .standard)).toOption.map
      (fun r => r.1.passes.map (·.renderState)) = some [some { stencil := some {} }] := by
    decide +kernel
  obtain ⟨q, qs, hq, -, hpasses⟩ := List.forall₂_cons_left_iff.mp hrecovers.passes
  have hnone : q.renderState = none := hq.renderState
  rw [hparse, Except.toOption, Option.map_some, hpasses, List.map_cons, hnone] at hread
  exact absurd hread (by simp)

end Source

end MarkedShader
