import MarkedShader.Proofs.Source.Document
import MarkedShader.Proofs.Source.Normal
import MarkedShader.Proofs.Writing.Content

/-! Passes that are read back from their lines are written in the same lines again. -/
namespace MarkedShader

/-- Two blocks that are written alike and called alike, each among its properties. -/
structure Block.Alike (ps qs : List Property) (b c : Block) : Prop where
  layout : Writing.block ({} : Settings).tagPrefix qs c =
    Writing.block ({} : Settings).tagPrefix ps b
  vertex : Writing.vertexCall? c = Writing.vertexCall? b
  fragment : Writing.fragmentCall? {} c = Writing.fragmentCall? {} b

namespace Source
open Text

variable {ps : List Property} {b : Block}

lemma roleOf_rewritten (ps : List Property) (param : Text) :
    Writing.roleOf (ps.map Property.rewritten) param = Writing.roleOf ps param := by
  have hname : ((fun p : Property => decide (p.name = param)) ∘ Property.rewritten) = fun p =>
    decide (p.name = param) := rfl
  rw [Writing.roleOf, Writing.roleOf, List.find?_map, hname]
  cases ps.find? fun p => decide (p.name = param) <;> rfl

lemma paramsOf_rewritten (ps : List Property) (b : Block) :
    Writing.paramsOf (ps.map Property.rewritten) b = Writing.paramsOf ps b := by
  simp only [Writing.paramsOf, roleOf_rewritten]

lemma alike_detached (b : Block) : b.Alike ps ps b.detached := ⟨rfl, rfl, rfl⟩

/-- A block with dedented code is written again as it is read. -/
lemma alike_rewritten (h : dedent b.code = b.code) :
    b.Alike ps (ps.map Property.rewritten) b.rewritten := by
  have hroles : ∀ c : Block, Writing.block ({} : Settings).tagPrefix (ps.map Property.rewritten) c =
      Writing.block ({} : Settings).tagPrefix ps c :=
    fun c => by rw [Writing.block, paramsOf_rewritten, Writing.block]
  by_cases hd : isDeclarationOnly b.code = true
  · have hstub : isDeclarationOnly [] = true := by decide
    refine ⟨?_, ?_, ?_⟩
    · rw [hroles, Block.rewritten, if_pos hd, Writing.block, Writing.blockWith, if_pos hstub,
        Writing.block, Writing.blockWith, if_pos hd]
    · simp [Block.rewritten, hd, Writing.vertexCall?, Writing.isCallable, hstub]
    · simp [Block.rewritten, hd, Writing.fragmentCall?, Writing.isCallable, hstub]
  · have hcode : b.rewritten = b.detached := by
      rw [Block.rewritten, if_neg hd, h]
      rfl
    rw [hcode]
    exact ⟨hroles _, rfl, rfl⟩

lemma blocksIn_rewrittenBlocks (p : Pass) (s : Section) :
    (p.rewrittenBlocks.filter fun b => b.inSection = s) = (p.blocksIn s).map (·.rewritten) := by
  have hsection : ∀ b : Block, b.rewritten.inSection = b.inSection := fun b => by
    rw [Block.rewritten]
    split_ifs <;> rfl
  have hone : ∀ e : Section, (((p.blocksIn e).map (·.rewritten)).filter fun b => b.inSection = s) =
      if e = s then (p.blocksIn s).map (·.rewritten) else [] := by
    intro e
    split_ifs with he
    · rw [he, List.filter_eq_self]
      intro c hc
      obtain ⟨b, hb, rfl⟩ := List.mem_map.mp hc
      rw [hsection]
      exact (List.mem_filter.mp hb).2
    · rw [List.filter_eq_nil_iff]
      intro c hc
      obtain ⟨b, hb, rfl⟩ := List.mem_map.mp hc
      have hin : b.inSection = e := of_decide_eq_true (List.mem_filter.mp hb).2
      rw [hsection, hin]
      simpa using he
  rw [Pass.rewrittenBlocks, List.filter_flatMap]
  simp only [hone]
  cases s <;> simp [Section.layout]

lemma blocksIn_detached (p : Pass) (s : Section) :
    p.detached.blocksIn s = (p.blocksIn s).map (·.detached) := by
  rw [Pass.blocksIn, Pass.detached, List.filter_map, Pass.blocksIn]
  rfl

variable {qs : List Property} {p q : Pass} {g h : Graph} {f : Block → Block}

lemma inSection_alike {s : Section} (hblocks : q.blocksIn s = (p.blocksIn s).map f)
    (halike : ∀ b ∈ p.blocks, b.Alike ps qs (f b))
    (hentry : ∀ bs cs : List Block,
      cs.filterMap Writing.vertexCall? = bs.filterMap Writing.vertexCall? →
      Writing.vertexEntry {} .standard h cs = Writing.vertexEntry {} .standard g bs)
    (label : Text) :
    Writing.inSection {} .standard qs h q s label =
      Writing.inSection {} .standard ps g p s label := by
  have hmem : ∀ b ∈ p.blocksIn s, b ∈ p.blocks := fun b hb => (List.mem_filter.mp hb).1
  have hlayouts : (q.blocksIn s).map (Writing.block ({} : Settings).tagPrefix qs) =
      (p.blocksIn s).map (Writing.block ({} : Settings).tagPrefix ps) := by
    rw [hblocks, List.map_map]
    exact List.map_congr_left fun b hb => (halike b (hmem b hb)).layout
  have hvertex : (q.blocksIn s).filterMap Writing.vertexCall? =
      (p.blocksIn s).filterMap Writing.vertexCall? := by
    rw [hblocks]
    exact Writing.filterMap_map_of_same fun b hb => (halike b (hmem b hb)).vertex
  have hfragment : (q.blocksIn s).filterMap (Writing.fragmentCall? {}) =
      (p.blocksIn s).filterMap (Writing.fragmentCall? {}) := by
    rw [hblocks]
    exact Writing.filterMap_map_of_same fun b hb => (halike b (hmem b hb)).fragment
  exact Writing.inSection_congr hlayouts hvertex hfragment (hentry _ _) label

lemma structs_eq (g : Graph) : Writing.structs {} g =
    Writing.structsOf {} ((inputMembers g).map (·.written))
      ((outputMembers g).map (·.written)) := by
  rw [Writing.structs, inputMembers, outputMembers, List.map_map, List.map_map]
  rfl

lemma pass_detached (ps : List Property) (p : Pass) :
    Writing.pass {} .standard ps p.detached = Writing.pass {} .standard ps p := by
  have hprogram :
      Writing.program {} .standard ps p.detached = Writing.program {} .standard ps p := by
    refine Writing.program_congr rfl rfl rfl rfl fun s label => ?_
    exact inSection_alike (blocksIn_detached p s) (fun b _ => alike_detached b)
      (fun _ _ => Writing.vertexEntry_congr_calls) label
  rw [Writing.pass, hprogram, Writing.pass]
  rfl

lemma value?_rewritten (st : RenderState) (key : StateKey) :
    st.rewritten.value? key = st.value? key := by
  have hget : st.rewritten.get key = st.value? key := by cases key <;> rfl
  rw [RenderState.value?, hget, RenderState.value?, Option.filter_filter]
  simp

lemma renderState_rewritten (st : RenderState) :
    Writing.renderState st.rewritten = Writing.renderState st := by
  have hvalues : st.rewritten.value? = st.value? := funext (value?_rewritten st)
  rw [Writing.renderState, hvalues, Writing.renderState]
  rfl

lemma hasOverrides_rewritten (st : RenderState) : st.rewritten.hasOverrides = st.hasOverrides := by
  rw [RenderState.hasOverrides, RenderState.hasOverrides, funext (value?_rewritten st)]
  rfl

lemma standing_shownGraph (normal : p.Normal) :
    p.shownGraph.Standing .standard ∧ p.shownGraph.HasRequired .standard ∧
      p.shownGraph.Unnumbered := by
  rw [Pass.shownGraph]
  cases hg : p.graph with
  | none => exact ⟨Graph.standing_standard, Graph.hasRequired_standard, Graph.unnumbered_standard⟩
  | some g => exact normal.graph g hg

/-- The program of a pass that reading has left is written again as it is read: the structs declare
what they declared, and the blocks and the entry points are laid out alike. -/
lemma program_rewritten (normal : p.Normal) (own : ¬ p.isUsePass = true) (ps : List Property) :
    Writing.program {} .standard (ps.map Property.rewritten) p.rewritten =
      Writing.program {} .standard ps p := by
  obtain ⟨standing, required, unnumbered⟩ := standing_shownGraph normal
  obtain ⟨hinputs, houtputs⟩ := members_ne_nil_of_standard required
  have hshown : p.rewritten.shownGraph =
      graphOf .standard (inputMembers p.shownGraph) (outputMembers p.shownGraph) := by
    rw [Pass.rewritten, if_neg own]
    rfl
  have hread : p.rewritten.shownGraph.Standing .standard := by
    rw [hshown]
    exact (Graph.standing_standard.applyStruct .input _).applyStruct .output _
  have hmaterial : Writing.materialDeclarations {} (ps.map Property.rewritten) =
      Writing.materialDeclarations {} ps :=
    Writing.materialDeclarations_map (f := Property.rewritten) (fun _ => rfl) (fun _ => rfl) ps
  refine Writing.program_congr ?_ ?_ hmaterial ?_ fun s label => ?_
  · rw [Pass.rewritten, if_neg own]
  · rw [Pass.rewritten, if_neg own]
  · rw [structs_eq, structs_eq, ← Pass.shownGraph, ← Pass.shownGraph, hshown,
      inputMembers_graphOf standing required unnumbered,
      outputMembers_graphOf standing required unnumbered]
  · refine inSection_alike ?_ (fun b hb => alike_rewritten (normal.codes b hb))
      (fun bs cs hcalls => ?_) label
    · rw [Pass.rewritten, if_neg own]
      exact blocksIn_rewrittenBlocks p s
    · refine Writing.vertexEntry_congr (fun stage => ?_) (standing.distinct .input)
        (hread.distinct .input) hcalls
      rw [hshown]
      exact activeNames_graphOf standing required hinputs houtputs stage

/-- So is its state, which is none if it overrides nothing. -/
lemma stateLayout_rewritten (normal : p.Normal) (own : ¬ p.isUsePass = true) :
    (p.rewritten.renderState.map Writing.renderState).getD .empty =
      (p.renderState.map Writing.renderState).getD .empty := by
  rw [Pass.rewritten, if_neg own]
  cases hst : p.renderState with
  | none => rfl
  | some st =>
    have hover := normal.renderState st hst
    simp only [Option.map_some, Option.filter_some, hasOverrides_rewritten, hover, if_true,
      Option.getD_some, renderState_rewritten]

/-- A pass that reading has left is written again as it is read. -/
theorem pass_rewritten (normal : p.Normal) (ps : List Property) :
    Writing.pass {} .standard (ps.map Property.rewritten) p.rewritten =
      Writing.pass {} .standard ps p := by
  by_cases huse : p.isUsePass = true
  · rw [Pass.rewritten, if_pos huse, Writing.pass, Writing.pass, if_pos huse]
    rfl
  · rw [Writing.pass, program_rewritten normal huse, stateLayout_rewritten normal huse,
      Writing.pass, if_neg huse, Pass.rewritten, if_neg huse]
    rfl

end Source
end MarkedShader
