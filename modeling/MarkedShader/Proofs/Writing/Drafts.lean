import MarkedShader.Draft.Lemmas
import MarkedShader.Draft.Writing
import MarkedShader.Proofs.Number.Exact
import MarkedShader.Proofs.Writing.Content

/-! The text of a draft that is a document is the text of the document, unless an integer that is to
be written has too many digits: the writer of drafts meets no other fault in it. Main statement:
`generate_ofDocument`. -/
namespace MarkedShader
open Text

/-- A stencil whose integers can be written in digits. -/
def Stencil.IsSpellable (st : Stencil) : Prop :=
  ∀ i ∈ [st.ref, st.readMask, st.writeMask], Numeral.isTooLong i = false

instance (st : Stencil) : Decidable st.IsSpellable := inferInstanceAs (Decidable (∀ i ∈ _, _))

/-- A property whose bounds can be written in digits, if it is a range. -/
def Property.IsSpellable (p : Property) : Prop :=
  p.kind = .range → p.minValue.toData.isTooLong = false ∧ p.maxValue.toData.isTooLong = false

instance (p : Property) : Decidable p.IsSpellable := inferInstanceAs (Decidable (_ → _))

def RenderState.IsSpellable (x : RenderState) : Prop := ∀ st ∈ x.stencil, st.IsSpellable

instance (x : RenderState) : Decidable x.IsSpellable :=
  inferInstanceAs (Decidable (∀ st ∈ x.stencil, _))

/-- A pass whose render state can be written. That of a use-pass is not. -/
def Pass.IsSpellable (p : Pass) : Prop := p.isUsePass = false → ∀ x ∈ p.renderState, x.IsSpellable

instance (p : Pass) : Decidable p.IsSpellable :=
  inferInstanceAs (Decidable (_ → ∀ x ∈ p.renderState, _))

/-- A document that can be written. -/
def Document.IsSpellable (d : Document) : Prop :=
  (∀ p ∈ d.properties, p.IsSpellable) ∧ ∀ p ∈ d.passes, p.IsSpellable

instance (d : Document) : Decidable d.IsSpellable := inferInstanceAs (Decidable (_ ∧ _))

namespace Draft

/-- The only fault in a draft that is a document. -/
abbrev tooLong : Fault := .value .integerTooLong

lemma ok_bind {α β : Type} (a : α) (next : α → Except Fault β) :
    (Except.ok a >>= next) = next a := rfl

lemma bind_ite {α β : Type} {P : Prop} [Decidable P] {e : Fault}
    (a : α) (next : α → Except Fault β) :
    ((if P then .ok a else .error e) >>= next) = if P then next a else .error e := by
  split_ifs <;> rfl

/-- Parts that are each written or at fault are written together, or at fault if one is. -/
lemma mapM_ite {α β : Type} {write : α → Except Fault β} {written : α → β} {P : α → Prop}
    [DecidablePred P] {e : Fault} (h : ∀ a, write a = if P a then .ok (written a) else .error e)
    (as : List α) : as.mapM write = if ∀ a ∈ as, P a then .ok (as.map written) else .error e := by
  induction as with
  | nil => rfl
  | cons a as ih =>
    rw [List.mapM_cons, h, bind_ite, ih, bind_ite]
    simp only [List.forall_mem_cons, ite_and]
    rfl

lemma mapM_ok {α β : Type} {write : α → Except Fault β} {written : α → β}
    (h : ∀ a, write a = .ok (written a)) (as : List α) : as.mapM write = .ok (as.map written) := by
  rw [mapM_ite (P := fun _ => True) (e := tooLong) fun a => by rw [if_pos trivial, h],
    if_pos fun _ _ => trivial]

lemma mapM_map_ok {α β γ : Type} {write : β → Except Fault γ} {part : α → β} {written : α → γ}
    (h : ∀ a, write (part a) = .ok (written a)) (as : List α) :
    (as.map part).mapM write = .ok (as.map written) := by
  rw [List.mapM_map]
  exact mapM_ok h as

variable {settings : Settings} {r : Registry} (s : Store)

lemma textIn_text (t : Text) : textIn s (.text t) = .ok t := rfl

lemma textIfTrue_text (t : Text) : textIfTrue s (.text t) = .ok t := by cases t <;> rfl

lemma spelledIfTrue_text (t : Text) : spelledIfTrue s (.text t) = .ok t := by cases t <;> rfl

lemma equal_text (t u : Text) : equal s (.text t) (.text u) = .ok (t == u) := by
  have hstep : ∀ depth, Store.equalWith s s true (depth+1) false (.text t) (.text u) =
      .ok (t == u) := fun depth => by
    simp only [Store.equalWith, Store.view, Data.equalWith]
    rfl
  exact congrArg (Except.mapError Fault.value) (hstep 939)

lemma bound_toData (kind : PropertyKind) (n : Number) : bound s kind n.toData =
    if kind = .range → n.toData.isTooLong = false then .ok (if kind = .range then n else .ofNat 0)
      else .error tooLong := by
  by_cases hkind : kind = .range
  · rw [bound, if_neg (by simpa using hkind), Number.spelled_toData, Data.numeral?_toData]
    simp only [hkind, forall_const, if_true]
    cases n.toData.isTooLong <;> rfl
  · rw [bound, if_pos hkind, if_pos fun h => absurd h hkind, if_neg hkind]

end Draft

/-- A property with the texts that are written for it. Bounds are written of a range only. -/
def Property.written (p : Property) : Property :=
  { p with
    minValue := if p.kind = .range then p.minValue else .ofNat 0
    maxValue := if p.kind = .range then p.maxValue else .ofNat 0
    rawDeclaration := p.declaration }

lemma Property.synthesize_written (p : Property) : p.written.synthesize = p.synthesize := by
  obtain ⟨name, label, kind, value, low, high, role, raw, texture⟩ := p
  cases kind <;> rfl

lemma Property.declaration_written (p : Property) : p.written.declaration = p.declaration := by
  rw [declaration, synthesize_written]
  split_ifs with hnone
  · rw [declaration]
    split_ifs with hraw
    · rfl
    · have hsame : p.written.rawDeclaration = p.rawDeclaration := if_neg hraw
      rw [hsame] at hnone
      exact absurd hnone hraw
  · rfl

namespace Draft

variable {settings : Settings} {r : Registry} (s : Store)

lemma settled_ofProperty (p : MarkedShader.Property) :
    (Property.ofProperty p).settled s = if p.IsSpellable then .ok p.written
      else .error tooLong := by
  have hspellable : p.IsSpellable ↔ (p.kind = .range → p.minValue.toData.isTooLong = false) ∧
      (p.kind = .range → p.maxValue.toData.isTooLong = false) := imp_and
  have hraw : s.isTrue (.text p.rawDeclaration) = !p.rawDeclaration.isEmpty := rfl
  simp only [Property.settled, Property.ofProperty, bound_toData, textIn_text, textIfTrue_text,
    spelled_text, bind_ite, hraw, ok_bind, hspellable, ite_and]
  congr 2
  by_cases hgiven : (!p.rawDeclaration.isEmpty) = true
  · have hdeclared : p.declaration = p.rawDeclaration := if_neg (by simpa using hgiven)
    rw [if_pos hgiven, MarkedShader.Property.written, hdeclared]
    rfl
  · have hdeclared : p.declaration = p.synthesize := if_pos (by simpa using hgiven)
    rw [if_neg hgiven, MarkedShader.Property.written, hdeclared, ← p.synthesize_written]
    by_cases hflat : p.kind = .texture2D
    · exact (if_pos hflat).trans rfl
    · exact (if_neg hflat).trans rfl

lemma findIdx?_map_ok {α β : Type} {f : β → Except Fault Bool} {part : α → β} {holds : α → Bool}
    (h : ∀ a, f (part a) = .ok (holds a)) (as : List α) :
    findIdx? f (as.map part) = .ok (as.findIdx? holds) := by
  induction as with
  | nil => rfl
  | cons a as ih =>
    rw [List.map_cons, findIdx?, h, ok_bind, List.findIdx?_cons, ih]
    cases holds a <;> rfl

lemma bind_findIdx? {α : Type} (holds : α → Bool) (as : List α) :
    (as.findIdx? holds).bind (as[·]?) = as.find? holds := by
  induction as with
  | nil => rfl
  | cons a as ih =>
    rw [List.findIdx?_cons, List.find?_cons, ← ih]
    cases holds a
    · rw [if_neg Bool.false_ne_true, Option.bind_map]
      rfl
    · rfl

lemma roleOf_ofProperty (ps : List MarkedShader.Property) (param : Text) :
    roleOf s (ps.map .ofProperty) (.text param) = .ok (.text (Writing.roleOf ps param)) := by
  let isNamed (p : MarkedShader.Property) : Bool := p.name = param
  have hnamed : ∀ p, equal s (Property.ofProperty p).name (.text param) = .ok (isNamed p) :=
    fun p => (equal_text s p.name param).trans (congrArg Except.ok (beq_eq_decide _ _))
  have hrole : (ps.findIdx? isNamed).bind ((ps.map Property.ofProperty)[·]?) =
      (ps.find? isNamed).map .ofProperty := by
    rw [← bind_findIdx?, Option.map_bind]
    simp only [List.getElem?_map]
    rfl
  rw [roleOf, findIdx?_map_ok (f := fun p : Property => equal s p.name (.text param)) hnamed,
    ok_bind, hrole, Writing.roleOf]
  cases ps.find? isNamed with
  | none => rfl
  | some p =>
    obtain ⟨_, _, _, _, _, _, role, _, _⟩ := p
    cases role <;> rfl

lemma heading_ofBlock (ps : List MarkedShader.Property) (b : MarkedShader.Block) :
    (Block.ofBlock b).heading s (ps.map .ofProperty) = .ok ⟨b.intent, Writing.paramsOf ps b⟩ := by
  have hparam : ∀ param : Text, paramWith s (ps.map .ofProperty) (.text param) =
      .ok (param, Writing.roleOf ps param) := by
    intro param
    simp only [paramWith, roleOf_ofProperty, ok_bind, textIn_text]
  have hitems : itemsIn s (Block.ofBlock b).referencedParams = .ok (b.referencedParams.map .text) :=
    rfl
  have hintent : textIfTrue s (Block.ofBlock b).intent = .ok b.intent := textIfTrue_text s _
  simp only [Block.heading, hitems, hintent, ok_bind, mapM_map_ok hparam]
  rfl

end Draft

/-- A block with what is written of it. A bare declaration has no header. -/
def Block.written (b : Block) : Block :=
  { title := b.title, code := b.code, inSection := b.inSection, isEnabled := b.isEnabled
    id := .fresh 0
    intent := if isDeclarationOnly b.code then [] else b.intent }

namespace Draft

variable {settings : Settings} {r : Registry} (s : Store)

lemma settled_ofBlock (ps : List MarkedShader.Property) (b : MarkedShader.Block) :
    (Block.ofBlock b).settled s (ps.map .ofProperty) =
      .ok (b.written, if isDeclarationOnly b.code then [] else Writing.paramsOf ps b) := by
  have hview : s.view (Block.ofBlock b).code = .text b.code := rfl
  have htitle : textIn s (Block.ofBlock b).title = .ok b.title := rfl
  simp only [Block.settled, hview, htitle, ok_bind, heading_ofBlock, MarkedShader.Block.written]
  split_ifs <;> rfl

/-- What is written of a block is written of it as it is settled. -/
lemma blockWith_written (pre : Text) (ps : List MarkedShader.Property) (b : MarkedShader.Block) :
    Writing.blockWith pre
      (if isDeclarationOnly b.code then [] else Writing.paramsOf ps b) b.written =
      Writing.block pre ps b := by
  simp only [Writing.block, Writing.blockWith, MarkedShader.Block.written]
  split_ifs <;> rfl

lemma activeFields_ofGraph (g : MarkedShader.Graph) (stage : Stage) :
    (Graph.ofGraph g).activeFields stage = (g.activeFields stage).map .ofField := by
  have hfields : (Graph.ofGraph g).fields stage = (g.fields stage).map .ofField := by
    cases stage <;> rfl
  rw [Graph.activeFields, hfields, List.filter_map]
  rfl

lemma structs_ofGraph (g : MarkedShader.Graph) :
    structs settings s (.ofGraph g) = .ok (Writing.structs settings g) := by
  let settled (f : MarkedShader.Field) : MarkedShader.Field :=
    { dataType := f.dataType, name := f.name, semantic := f.semantic, stage := f.stage }
  have hsettled : ∀ f, (Field.ofField f).settled s = .ok (settled f) := fun f => by
    simp only [Field.settled, Field.ofField, spelled_text, spelledIfTrue_text, ok_bind, settled]
  have hinputs : ((((g.activeFields .input).map Field.ofField).mapM fun f => do
      .ok (Writing.member (← spelled s f.dataType) (← spelled s f.name) (← spelled s f.semantic))) :
        Except Fault (List Text)) =
      .ok ((g.activeFields .input).map fun f => Writing.member f.dataType f.name f.semantic) := by
    apply mapM_map_ok
    exact fun _ => rfl
  have hwritten : ((g.activeFields .output).map settled).map MarkedShader.Field.written =
      (g.activeFields .output).map MarkedShader.Field.written := by
    rw [List.map_map]
    rfl
  simp only [structs, activeFields_ofGraph, hinputs, mapM_map_ok hsettled, ok_bind]
  rw [Writing.structs, Writing.withSemantics_congr hwritten]

lemma entry_ofGraph (g : MarkedShader.Graph) (bs : List MarkedShader.Block) (part : Section) :
    entry settings r (.ofGraph g) bs part = .ok (Writing.entryAfter settings r g part bs) := by
  have hedges : (Graph.ofGraph g).edges r = .ok (g.edges r) := by
    simp [Graph.edges, Graph.ask, settledOr]
  have hinput : ∀ name, (Graph.ofGraph g).isActiveInput name = g.isActiveInput name :=
    fun name => by
    simp only [Graph.isActiveInput, Graph.find?, Graph.ask, settledOr, graph?_ofGraph,
      MarkedShader.Graph.isActiveInput, Option.any_map]
    rfl
  cases part with
  | vertex =>
    simp only [entry, hedges, hinput, ok_bind]
    rfl
  | _ => rfl

lemma inSection_ofPass (ps : List MarkedShader.Property) (g : MarkedShader.Graph)
    (p : MarkedShader.Pass) (part : Section) (label : Text) :
    inSection settings r s (ps.map .ofProperty) (.ofGraph g) (.ofPass p) part label =
      .ok (Writing.inSection settings r ps g p part label) := by
  have hblocks : (Pass.ofPass p).blocksIn part = (p.blocksIn part).map .ofBlock :=
    List.filter_map ..
  have hlayouts : ((p.blocksIn part).map fun b => (b.written,
        if isDeclarationOnly b.code then [] else Writing.paramsOf ps b)).map
        (fun w => Writing.blockWith settings.tagPrefix w.2 w.1) =
      (p.blocksIn part).map (Writing.block settings.tagPrefix ps) := by
    rw [List.map_map]
    exact List.map_congr_left fun b _ => blockWith_written settings.tagPrefix ps b
  have hentry : Writing.entryAfter settings r g part ((p.blocksIn part).map (·.written)) =
      Writing.entryAfter settings r g part (p.blocksIn part) := by
    have hvertex : ∀ b : MarkedShader.Block, Writing.vertexCall? b.written =
        Writing.vertexCall? b := fun _ => rfl
    have hfragment : ∀ b : MarkedShader.Block, Writing.fragmentCall? settings b.written =
        Writing.fragmentCall? settings b := fun _ => rfl
    exact Writing.entryAfter_congr
      (Writing.vertexEntry_congr_calls (Writing.filterMap_map_of_same fun b _ => hvertex b))
      (Writing.filterMap_map_of_same fun b _ => hfragment b) part
  simp only [inSection, hblocks, mapM_map_ok (settled_ofBlock s ps), ok_bind,
    entry_ofGraph, hlayouts]
  rw [Writing.inSection_eq, List.map_map]
  exact congrArg (fun e => Except.ok (Writing.sectionWith settings part label _ e)) hentry

lemma stencilTexts_ofStencil (st : MarkedShader.Stencil) : stencilTexts s (.ofStencil st) =
      if st.IsSpellable then .ok (Writing.stencilTexts st)
        else .error (.value .integerTooLong) := by
  simp only [stencilTexts, Stencil.ofStencil, List.mapM_cons, List.mapM_nil, spelled_text,
    spelled_int, MarkedShader.Stencil.IsSpellable, Writing.stencilTexts, List.forall_mem_cons]
  generalize Numeral.isTooLong st.ref = ref
  generalize Numeral.isTooLong st.readMask = readMask
  generalize Numeral.isTooLong st.writeMask = writeMask
  cases ref <;> cases readMask <;> cases writeMask <;> simp <;> rfl

lemma stateValue_ofRenderState (x : MarkedShader.RenderState) (key : StateKey) :
    stateValue (.ofRenderState x) key = optional (x.get key) := by
  cases key <;> rfl

lemma states_ofRenderState (x : MarkedShader.RenderState) (keys : List StateKey) :
    ((keys.filter fun key => s.isTrue (stateValue (.ofRenderState x) key)).mapM fun key => do
      Except.ok (key, ← spelled s (stateValue (.ofRenderState x) key))) =
      .ok (keys.filterMap fun key => (x.value? key).map (key, ·)) := by
  simp only [stateValue_ofRenderState]
  induction keys with
  | nil => rfl
  | cons key keys ih =>
    cases hget : x.get key with
    | none =>
      have htrue : s.isTrue (optional none) = false := rfl
      rw [List.filter_cons_of_neg (by simp [hget, htrue]), ih, List.filterMap_cons_none]
      simp [RenderState.value?, hget]
    | some v =>
      have htrue : ∀ v, s.isTrue (optional (some v)) = !v.isEmpty := fun _ => rfl
      by_cases hv : v = []
      · rw [List.filter_cons_of_neg (by simp [hget, htrue, hv]), ih, List.filterMap_cons_none]
        simp [RenderState.value?, hget, hv]
      · rw [List.filter_cons_of_pos (by simp [hget, htrue, hv]),
          List.mapM_cons, ih, hget, List.filterMap_cons_some (b := (key, v))
          (by simp [MarkedShader.RenderState.value?, hget, hv])]
        rfl

/-- A render state is written unless an integer of its stencil has too many digits. -/
theorem renderState_ofRenderState (x : MarkedShader.RenderState) :
    renderState s (.ofRenderState x) =
      if ∀ st ∈ x.stencil, st.IsSpellable then .ok (Writing.renderState x)
        else .error (.value .integerTooLong) := by
  rw [renderState, states_ofRenderState]
  cases hst : x.stencil with
  | none =>
    have hnone : (RenderState.ofRenderState x).stencil = none := by
      simp [RenderState.ofRenderState, hst]
    rw [hnone, if_pos (by simp), Writing.renderState, hst]
    rfl
  | some st =>
    have hsome : (RenderState.ofRenderState x).stencil = some (.ofStencil st) := by
      simp [RenderState.ofRenderState, hst]
    rw [hsome, Option.mapM_some, stencilTexts_ofStencil]
    by_cases h : st.IsSpellable
    · rw [if_pos h, if_pos (by simpa using h), Writing.renderState, hst]
      rfl
    · rw [if_neg h, if_neg (by simpa using h)]
      rfl

lemma states_ofPass (p : MarkedShader.Pass) : (Pass.ofPass p).renderState.mapM (renderState s) =
    if ∀ x ∈ p.renderState, x.IsSpellable then .ok (p.renderState.map Writing.renderState)
      else .error tooLong := by
  rw [Pass.ofPass]
  cases p.renderState with
  | none => rfl
  | some x =>
    simp only [Option.map_some, Option.mapM_some, renderState_ofRenderState, Option.mem_def,
      Option.some.injEq, forall_eq', MarkedShader.RenderState.IsSpellable]
    split_ifs <;> rfl

lemma programWith_written (ps : List MarkedShader.Property)
    (pragmas includes : List Text) (structs sections : Layout) :
    Writing.programWith settings (ps.map (·.written)) pragmas includes structs sections =
      Writing.programWith settings ps pragmas includes structs sections := by
  rw [Writing.programWith, Writing.programWith,
    Writing.materialDeclarations_map (f := MarkedShader.Property.written)
      (fun _ => rfl) fun _ => rfl]

/-- A pass is written unless an integer of its stencil has too many digits. -/
lemma pass_ofPass (ps : List MarkedShader.Property) (p : MarkedShader.Pass) :
    pass settings r s (ps.map .ofProperty) (ps.map (·.written)) (.ofPass p) =
      if p.IsSpellable then .ok (Writing.pass settings r ps p) else .error tooLong := by
  by_cases huse : p.isUsePass
  · have hspellable : p.IsSpellable := fun h => absurd huse (by simp [h])
    have hdraft : (Pass.ofPass p).isUsePass = true := huse
    rw [if_pos hspellable, pass, if_pos hdraft, Writing.pass, if_pos huse]
    rfl
  · have hspellable : p.IsSpellable ↔ ∀ x ∈ p.renderState, x.IsSpellable :=
      imp_iff_right (by simpa using huse)
    have hdraft : (Pass.ofPass p).isUsePass = false := Bool.eq_false_of_not_eq_true huse
    have hgraph : (Pass.ofPass p).graph.getD (.ofGraph (.ofRegistry r)) =
        .ofGraph (p.graph.getD (.ofRegistry r)) := by
      rw [Pass.ofPass]
      cases p.graph <;> rfl
    have hname : textIn s (Pass.ofPass p).name = .ok p.name := rfl
    have hlightMode : textIn s (Pass.ofPass p).lightMode = .ok p.lightMode := rfl
    have hpragmas : (Pass.ofPass p).pragmas.mapM (spelledIfTrue s) = .ok p.pragmas :=
      (mapM_map_ok (spelledIfTrue_text s) p.pragmas).trans (congrArg Except.ok (List.map_id' _))
    have hincludes : (Pass.ofPass p).includes.mapM (spelled s) = .ok p.includes :=
      (mapM_map_ok (spelled_text s) p.includes).trans (congrArg Except.ok (List.map_id' _))
    have hsections : (Section.layout.mapM fun e =>
        inSection settings r s (ps.map .ofProperty) (.ofGraph (p.graph.getD (.ofRegistry r)))
          (.ofPass p) e.1 e.2) =
        .ok (Section.layout.map fun e =>
          Writing.inSection settings r ps (p.graph.getD (.ofRegistry r)) p e.1 e.2) :=
      mapM_ok (fun e : Section × Text => inSection_ofPass s ps _ p e.1 e.2) _
    rw [pass, hdraft]
    simp only [Bool.false_eq_true, if_false, hgraph, hname, hlightMode, states_ofPass, hpragmas,
      hincludes, structs_ofGraph, hsections, ok_bind, bind_ite, programWith_written, ← hspellable]
    rw [Writing.pass, if_neg huse, Writing.program]

lemma shader_written (name : Text) (ps : List MarkedShader.Property)
    (g : MarkedShader.GlobalSettings) (passes : List Layout) :
    Writing.shader settings name (ps.map (·.written)) g passes =
      Writing.shader settings name ps g passes := by
  have hattributes : ∀ p : MarkedShader.Property, Writing.propertyAttributes p.written =
      Writing.propertyAttributes p := by
    rintro ⟨name, label, kind, value, low, high, role, raw, texture⟩
    cases kind <;> rfl
  have hproperties :
      Writing.properties settings (ps.map (·.written)) = Writing.properties settings ps := by
    simp only [Writing.properties, List.flatMap_map, hattributes,
      MarkedShader.Property.declaration_written]
  rw [Writing.shader, Writing.shader, hproperties]

lemma isSpellable_of_hasWritableNumbers {d : Document} (h : (ofDocument d).hasWritableNumbers) :
    d.IsSpellable := by
  rw [hasWritableNumbers, Bool.and_eq_true, List.all_eq_true, List.all_eq_true, ofDocument] at h
  obtain ⟨hproperties, hpasses⟩ := h
  refine ⟨fun p hp hrange => ?_, fun p hp _ x hx st hst => ?_⟩
  · have hbounds := hproperties _ (List.mem_map_of_mem hp)
    simpa [Property.ofProperty, hrange] using hbounds
  · have hstencil := hpasses _ (List.mem_map_of_mem hp)
    have hdraft : (Pass.ofPass p).renderState.bind (·.stencil) = some (.ofStencil st) := by
      simp only [Option.mem_def] at hx hst
      simp [Pass.ofPass, hx, RenderState.ofRenderState, hst]
    simpa [hdraft, Stencil.isWritable, Stencil.ofStencil, Data.isTooLong,
      MarkedShader.Stencil.IsSpellable] using hstencil

lemma layout_ofDocument (d : Document) : layout settings r (ofDocument d) =
    if d.IsSpellable then .ok (Writing.document settings r d) else .error tooLong := by
  have hproperties : (ofDocument d).properties.mapM (·.settled (ofDocument d).store) =
      if ∀ p ∈ d.properties, p.IsSpellable then .ok (d.properties.map (·.written))
        else .error tooLong := by
    rw [ofDocument, List.mapM_map]
    exact mapM_ite (settled_ofProperty _) d.properties
  have hpasses :
      (ofDocument d).passes.mapM (pass settings r (ofDocument d).store (ofDocument d).properties
        (d.properties.map (·.written))) =
      if ∀ p ∈ d.passes, p.IsSpellable then
        .ok (d.passes.map (Writing.pass settings r d.properties)) else .error tooLong := by
    rw [ofDocument, List.mapM_map]
    exact mapM_ite (pass_ofPass _ d.properties) d.passes
  have hname : spelled (ofDocument d).store (ofDocument d).shaderName = .ok d.shaderName := rfl
  have hglobal :
      (ofDocument d).globalSettings.settled (ofDocument d).store = .ok d.globalSettings := rfl
  have hspellable :
      d.IsSpellable ↔ (∀ p ∈ d.properties, p.IsSpellable) ∧ ∀ p ∈ d.passes, p.IsSpellable := .rfl
  simp only [layout, hname, hproperties, hglobal, hpasses, ok_bind, bind_ite, shader_written,
    hspellable, ite_and]
  rfl

/-- A draft that is a document has the text of the document, unless a bound of a range or an integer
of a stencil that is to be written has too many digits. -/
theorem generate_ofDocument (settings : Settings) (r : Registry) (d : Document) :
    (ofDocument d).generate settings r =
      if d.IsSpellable then .ok (d.generate settings r) else .error (.value .integerTooLong) := by
  have hlayout : (do .ok ((← layout settings r (ofDocument d)).text settings.indent)) =
      if d.IsSpellable then .ok (d.generate settings r) else .error tooLong := by
    rw [layout_ofDocument, bind_ite, Document.generate]
  rw [generate]
  split_ifs with hwritable hspellable hspellable
  · exact ask_ofDocument ..
  · exact absurd (isSpellable_of_hasWritableNumbers hwritable) hspellable
  · exact hlayout.trans (if_pos hspellable)
  · exact hlayout.trans (if_neg hspellable)

end Draft
end MarkedShader
