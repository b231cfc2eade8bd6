import MarkedShader.Proofs.Source.Entry

/-! The sections of a program are read back from the lines they are written in, and the whole
program with them. -/
namespace MarkedShader

/-- The calls in the entry function that follows a section. -/
def Pass.callsIn (p : Pass) : Section → List Text
  | .vertex => (p.blocksIn .vertex).filterMap Writing.vertexCall?
  | .fragment => (p.blocksIn .fragment).filterMap (Writing.fragmentCall? {})
  | _ => []

/-- The calls in the entry functions of a pass. -/
def Pass.calls (p : Pass) : List Text := Section.layout.flatMap fun e => p.callsIn e.1

/-- The blocks that are read where those of a pass are written, section by section. -/
def Pass.rewrittenBlocks (p : Pass) : List Block :=
  Section.layout.flatMap fun e => (p.blocksIn e.1).map (·.rewritten)

namespace Source
open Text

variable {s : Progress}

def Progress.addBlocks (s : Progress) (bs : List Block) : Progress :=
  { s with found := { s.found with blocks := s.found.blocks ++ bs } }

lemma readsAt_blocks {ps : List Property} {bs : List Block}
    (h : ∀ b ∈ bs, Readable ({} : Settings).tagPrefix (Writing.paramsOf ps b) b ∧
      s.found.inSection = b.inSection) :
    ReadsAt 3 (.concat (bs.map (Writing.block ({} : Settings).tagPrefix ps))) s
      (s.addBlocks (bs.map (·.rewritten))) := by
  induction bs generalizing s with
  | nil =>
    have : s.addBlocks [] = s := by simp [Progress.addBlocks]
    rw [List.map_nil, List.map_nil, this]
    exact .empty (Reads.along {})
  | cons b bs ih =>
    obtain ⟨hb, hsection⟩ := h b List.mem_cons_self
    have hroles : b.referencedParams = (Writing.paramsOf ps b).map (·.1) := by
      simp [Writing.paramsOf, Function.comp_def]
    have hfirst := leads_blockWith isWord_tagPrefix (isMargin_marginAt 3) hb hroles hsection
    have hrest := ih (s := s.addBlock b.rewritten) fun b hb => h b (List.mem_cons_of_mem _ hb)
    have hall : (s.addBlock b.rewritten).addBlocks (bs.map (·.rewritten)) =
        s.addBlocks ((b :: bs).map (·.rewritten)) := by
      simp [Progress.addBlock, Progress.addBlocks]
    rw [hall] at hrest
    exact hfirst.append (Reads.along {}) hrest

lemma layout_labels : ∀ e ∈ Section.layout, Section.ofLabel e.2 = e.1 ∧ e.2 ≠ [] ∧
    ∀ c ∈ e.2, c ∉ ['"', '\n', '\r', '\x7b', '\x7d', '/', '['] := by decide

lemma plain_label {e : Section × Text} (he : e ∈ Section.layout) (pre : Text) : Plain pre e.2 :=
  plain_of_free fun c hc hmem => (layout_labels e he).2.2 c hmem hc

variable {p : Pass} {ps : List Property} {g : Graph}

/-- The entry function that follows the blocks of a section. -/
def entryOf (g : Graph) (p : Pass) : Section → Layout
  | .vertex => Writing.vertexEntry {} .standard g (p.blocksIn .vertex)
  | .fragment => Writing.fragmentEntry {} (p.blocksIn .fragment)
  | _ => .empty

lemma inSection_eq (inSection : Section) (label : Text) :
    Writing.inSection {} .standard ps g p inSection label = Writing.sectionWith {} inSection label
      ((p.blocksIn inSection).map (Writing.block ({} : Settings).tagPrefix ps))
      (entryOf g p inSection) := by
  cases inSection <;> rfl

variable {b : Bool}

lemma readsAt_entryOf {inSection : Section} (h : Harmless b (p.callsIn inSection)) :
    ReadsAt 3 (entryOf g p inSection) (s.within b)
      (s.within ((p.callsIn inSection).foldl programAfter b)) := by
  cases inSection with
  | vertex => exact readsAt_vertexEntry h
  | fragment => exact readsAt_fragmentEntry h
  | _ => exact .empty (Reads.along {})

lemma readsAt_section {e : Section × Text}
    (he : e ∈ Section.layout) (hcalls : Harmless b (p.callsIn e.1))
    (h : ∀ b ∈ p.blocks, Readable ({} : Settings).tagPrefix (Writing.paramsOf ps b) b) :
    ∃ inSection, ReadsAt 3 (Writing.inSection {} .standard ps g p e.1 e.2) (s.within b)
      (((s.enter inSection).addBlocks ((p.blocksIn e.1).map (·.rewritten))).within
        ((p.callsIn e.1).foldl programAfter b)) := by
  obtain ⟨hlabel, hne, -⟩ := layout_labels e he
  rw [inSection_eq, Writing.sectionWith]
  by_cases hempty :
    (((p.blocksIn e.1).map (Writing.block ({} : Settings).tagPrefix ps)).isEmpty && e.1 ≠ .vertex &&
      e.1 ≠ .fragment) = true
  · have hnil : p.blocksIn e.1 = [] := by
      simp only [Bool.and_eq_true, List.isEmpty_iff, List.map_eq_nil_iff] at hempty
      exact hempty.1.1
    have hstay :
        (s.enter s.found.inSection).addBlocks ((p.blocksIn e.1).map (·.rewritten)) = s := by
      rw [hnil]
      simp [Progress.enter, Progress.addBlocks]
    refine ⟨s.found.inSection, ?_⟩
    rw [if_pos hempty, hstay]
    refine ((Layout.Leads.empty (Reads.along {})).append (Reads.along {}) ?_).append
      (Reads.along {}) (readsAt_entryOf hcalls)
    rw [hnil]
    exact .empty (Reads.along {})
  · rw [if_neg hempty]
    have hmem : ∀ c ∈ p.blocksIn e.1, Readable ({} : Settings).tagPrefix (Writing.paramsOf ps c) c ∧
        e.1 = c.inSection := by
      intro c hc
      rw [Pass.blocksIn, List.mem_filter, decide_eq_true_eq] at hc
      exact ⟨h c hc.1, hc.2.symm⟩
    have hblocks := readsAt_blocks (s := (s.enter e.1).within b) hmem
    have hentry := readsAt_entryOf (g := g)
      (s := (s.enter e.1).addBlocks ((p.blocksIn e.1).map (·.rewritten))) hcalls
    refine ⟨e.1, ((Layout.Leads.line (Marker.format_ne_nil _ _ _)
      (t := (s.enter e.1).within b) ?_).append (Reads.along {})
      hblocks).append (Reads.along {}) hentry⟩
    have := Reads.sectionLabel (s := s.within b) isWord_tagPrefix (isMargin_marginAt 3)
      (plain_label he _) hne
    rwa [hlabel] at this

lemma readsAt_sections {es : List (Section × Text)}
    (hes : ∀ e ∈ es, e ∈ Section.layout) (hcalls : Harmless b (es.flatMap fun e => p.callsIn e.1))
    (h : ∀ b ∈ p.blocks, Readable ({} : Settings).tagPrefix (Writing.paramsOf ps b) b) :
    ∃ inSection, ReadsAt 3 (.concat
      (es.map fun (e, label) => Writing.inSection {} .standard ps g p e label)) (s.within b)
      (((s.enter inSection).addBlocks
        (es.flatMap fun e => (p.blocksIn e.1).map (·.rewritten))).within
        ((es.flatMap fun e => p.callsIn e.1).foldl programAfter b)) := by
  induction es generalizing s b with
  | nil =>
    have hstay : (s.enter s.found.inSection).addBlocks [] = s := by
      simp [Progress.enter, Progress.addBlocks]
    refine ⟨s.found.inSection, ?_⟩
    rw [List.flatMap_nil, hstay]
    exact .empty (Reads.along {})
  | cons e es ih =>
    rw [List.flatMap_cons, harmless_append] at hcalls
    obtain ⟨first, hfirst⟩ :=
      readsAt_section (g := g) (s := s) (hes e List.mem_cons_self) hcalls.1 h
    obtain ⟨last, hrest⟩ := ih (s := (s.enter first).addBlocks ((p.blocksIn e.1).map (·.rewritten)))
      (fun e he => hes e (List.mem_cons_of_mem _ he)) hcalls.2
    have hall :
        (((s.enter first).addBlocks ((p.blocksIn e.1).map (·.rewritten))).enter last).addBlocks
        (es.flatMap fun e => (p.blocksIn e.1).map (·.rewritten)) = (s.enter last).addBlocks
          ((e :: es).flatMap fun e => (p.blocksIn e.1).map (·.rewritten)) := by
      simp [Progress.enter, Progress.addBlocks]
    refine ⟨last, ?_⟩
    rw [List.flatMap_cons (f := fun e : Section × Text => p.callsIn e.1), List.foldl_append]
    exact hall ▸ hfirst.append (Reads.along {}) hrest

end Source

/-- The graph by which a pass is written. -/
def Pass.shownGraph (p : Pass) : Graph := p.graph.getD (.ofRegistry .standard)

/-- A pass whose program is read back under some properties. -/
structure Pass.LegibleProgram (ps : List Property) (p : Pass) : Prop where
  pragmas : ∀ t ∈ p.pragmas, Source.IsPragma t ∧ Plain ({} : Settings).tagPrefix t
  includes : ∀ t ∈ p.includes, Plain ({} : Settings).tagPrefix t ∧ t ≠ []
  inputs : ∀ m ∈ Source.inputMembers p.shownGraph, m.Named
  outputs : ∀ m ∈ Source.outputMembers p.shownGraph, m.Named
  blocks : ∀ b ∈ p.blocks, Source.Readable ({} : Settings).tagPrefix (Writing.paramsOf ps b) b
  calls : Source.Harmless true p.calls

namespace Source
open Text

lemma readsAt_program (h : p.LegibleProgram ps) (hps : ∀ q ∈ ps, IsName q.name) :
    ∃ inSection, ReadsAt 3 (Writing.program {} .standard ps p) s ⟨{ s.found with
      inSection
      blocks := s.found.blocks ++ p.rewrittenBlocks
      inputs := s.found.inputs ++ inputMembers p.shownGraph
      outputs := s.found.outputs ++ outputMembers p.shownGraph
      pragmas := s.found.pragmas ++ p.pragmas
      includes := s.found.includes ++ p.includes }, (· = false), s.depth⟩ := by
  have hstart : Unmarked {} (marginAt 3 ++ "HLSLPROGRAM".toList) := Idle.unmarked (by decide)
  have hend : Unmarked {} (marginAt 3 ++ "ENDHLSL".toList) := Idle.unmarked (by decide)
  have hfirst : ReadsAt 3 (.line "HLSLPROGRAM".toList) s { s with program := (· = true) } :=
    .line (by decide) (.starts hstart (by decide) (by decide))
  have hpragmas := readsAt_pragmas (s := { s with program := (· = true) }) h.pragmas fun _ hb => hb
  have hincludes := readsAt_includes (s := Progress.update { s with program := (· = true) } fun c =>
    { c with pragmas := c.pragmas ++ p.pragmas }) h.includes fun _ hb => hb
  have hindent : IsMargin ({} : Settings).indent := isMargin_of_spaces (by decide)
  have hstructs : ReadsAt 3 (Writing.structs {} p.shownGraph) _ _ :=
    leads_structs (s := Progress.update
      (Progress.update { s with program := (· = true) } fun c =>
        { c with pragmas := c.pragmas ++ p.pragmas })
      fun c => { c with includes := c.includes ++ p.includes }) hindent h.inputs h.outputs
  obtain ⟨inSection, hsections⟩ :=
      readsAt_sections (g := p.shownGraph) (s := { s with found := { s.found with
    inputs := s.found.inputs ++ inputMembers p.shownGraph
    outputs := s.found.outputs ++ outputMembers p.shownGraph
    pragmas := s.found.pragmas ++ p.pragmas
    includes := s.found.includes ++ p.includes } }) (fun _ he => he) h.calls h.blocks
  refine ⟨inSection, ?_⟩
  have hlast : ∀ t : Progress,
      ReadsAt 3 (.line "ENDHLSL".toList) t { t with program := (· = false) } :=
    fun t => .line (by decide) (.ends hend (by decide) (by decide) (by decide))
  exact (((((((hfirst.append (Reads.along {}) hpragmas).append
    (Reads.along {}) readsAt_blank).append (Reads.along {})
    hincludes).append (Reads.along {}) readsAt_blank).append (Reads.along {})
      (readsAt_materialDeclarations hps)).append
    (Reads.along {}) hstructs).append (Reads.along {}) hsections).append (Reads.along {}) (hlast _)

end Source
end MarkedShader
