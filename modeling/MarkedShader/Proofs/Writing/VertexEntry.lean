import MarkedShader.Proofs.Code
import MarkedShader.Proofs.Firsts
import MarkedShader.Proofs.Graph.Calls
import MarkedShader.Proofs.Graph.Edges
import MarkedShader.Registry.Standard
import MarkedShader.Writing.Entry

/-! The helper locals of the vertex entry. Over the standard registry `vpi` is always declared
before it is used; `vni` is, exactly if the bitangent is not the only active output that is computed
from it. -/
namespace MarkedShader

namespace Graph

def IsActiveOutput (g : Graph) (name : String) : Prop :=
  ∃ f ∈ g.outputs, f.name = name.toList ∧ f.isActive

lemma isActiveInput_of_anchored {g : Graph} {name : Text} (h : g.Anchored name .input) :
    g.isActiveInput name := by
  obtain ⟨f, hf, -, ha⟩ := h
  simp [isActiveInput, hf, ha]

end Graph

namespace Writing
open Text

/-- Whether a line uses a local by its name. -/
def usesLocal (name : String) (line : Text) : Bool := (words line).contains name.toList

/-- Whether a line declares a local of a type. -/
def declaresLocal (type name : String) (line : Text) : Bool :=
  line.startsWith (type.toList ++ ' ' :: name.toList ++ " = ".toList)

/-- Every line of a dependency that uses a local stands after a line that declares it. -/
def DeclaredBeforeUse (type name : String) (edges : List Dependency) (body : List Text) : Prop :=
  ∀ (i : Nat) (line : Text), body[i]? = some line →
    (∃ d ∈ edges, line ∈ transformLines d.transformCode) → usesLocal name line →
    ∃ j < i, ∃ l, body[j]? = some l ∧ declaresLocal type name l

lemma mem_firstOfEachKey {ds : List Dependency} {d : Dependency}
    (h : d ∈ firstOfEachKey ds) : d ∈ ds :=
  Firsts.mem_of_mem h

/-- Each dependency has one of the same key among the first ones. -/
theorem exists_firstOfEachKey {ds : List Dependency} {d : Dependency} (h : d ∈ ds) :
    ∃ e ∈ firstOfEachKey ds, e.key = d.key := Firsts.exists_key_eq h

/-- Every line written for a dependency assigns a part of the result. -/
lemma transformLines_standard : ∀ e ∈ Registry.standardDependencies, ∀ d ∈ e.2,
    ∀ l ∈ transformLines d.transformCode, l.startsWith "output.".toList := by
  unfold Registry.standardDependencies Registry.computed transformLines
  simp only [List.map]
  repeat rw [String.toList_ofList]
  decide

lemma usesLocal_normal_standard : ∀ e ∈ Registry.standardDependencies, ∀ d ∈ e.2,
    ∀ l ∈ transformLines d.transformCode, usesLocal "vni" l →
      e.1 = "normalWS".toList ∨ e.1 = "tangentWS".toList ∨ e.1 = "bitangentWS".toList := by
  unfold Registry.standardDependencies Registry.computed transformLines usesLocal
  simp only [List.map]
  repeat rw [String.toList_ofList]
  decide

lemma holds_normalHelper_standard : ∀ e ∈ Registry.standardDependencies, ∀ d ∈ e.2,
    holds d.transformCode normalHelper ↔ e.1 = "normalWS".toList ∨ e.1 = "tangentWS".toList := by
  unfold Registry.standardDependencies Registry.computed normalHelper
  simp only [List.map]
  repeat rw [String.toList_ofList]
  decide

lemma key_injective_standard : ∀ e ∈ Registry.standardDependencies, ∀ d ∈ e.2,
    ∀ e' ∈ Registry.standardDependencies, ∀ d' ∈ e'.2, d.key = d'.key → d = d' := by
  unfold Registry.standardDependencies Registry.computed Dependency.key
  simp only [List.map]
  repeat rw [String.toList_ofList]
  decide

section Body

variable {g : Graph} {blocks : List Block} {edges : List Dependency}
  {hasPosition hasTangent : Bool} {l : Text}

lemma startsWith_iff {lead : Text} : l.startsWith lead ↔ ∃ r, l = lead ++ r := by
  rw [Text.startsWith, List.isPrefixOf_iff_prefix]
  exact exists_congr fun _ => eq_comm

/-- The call of a block is a word before its parenthesis. -/
theorem vertexCall?_eq_some {b : Block} (h : vertexCall? b = some l) :
    ∃ w, (∀ c ∈ w, isWord c) ∧ l = w ++ "(posOS);".toList := by
  unfold vertexCall? at h
  split at h
  · contradiction
  · split at h
    · contradiction
    · rename_i s hs
      split at h
      · split at h
        · exact ⟨s.name, (Signature.name_of_find? hs).2, (Option.some.inj h).symm⟩
        · contradiction
      · contradiction

/-- Words with another sign than a parenthesis after them begin no call. -/
lemma startsWith_call {w lead r : Text} {c : Char} (hw : ∀ c ∈ w, isWord c)
    (hlead : ∀ c ∈ lead, isWord c) (hc : isWord c = false) (hp : c ≠ '(') :
    (w ++ "(posOS);".toList).startsWith (lead ++ c :: r) = false := by
  rw [Bool.eq_false_iff]
  intro h
  obtain ⟨s, hs⟩ := startsWith_iff.mp h
  rw [String.toList_ofList, List.append_assoc, List.cons_append] at hs
  have hrun : ∀ (u v : Text) (d : Char), (∀ c ∈ u, isWord c) → isWord d = false →
      (u ++ d :: v).dropWhile isWord = d :: v := fun u v d hu hd => by
    rw [List.dropWhile_append_of_pos hu, List.dropWhile_cons_of_neg (by simp [hd])]
  have := congrArg (List.dropWhile isWord) hs
  rw [hrun _ _ _ hw (by decide), hrun _ _ _ hlead hc] at this
  exact hp (List.cons.inj this).1.symm

/-- The lines before those of the dependencies. -/
def vertexPrelude (edges : List Dependency) (hasPosition hasTangent : Bool)
    (blocks : List Block) : List Text :=
  let needs (helper : Text) := edges.any fun d => holds d.transformCode helper
  (if hasPosition then ["float3 posOS = input.positionOS.xyz;".toList] else []) ++
    blocks.filterMap vertexCall? ++
    (if needs positionHelper && hasPosition then
      ["VertexPositionInputs vpi = ".toList ++ positionHelper ++ "(posOS);".toList] else []) ++
    (if needs normalHelper then
      ["VertexNormalInputs vni = ".toList ++ normalHelper ++
        (if hasTangent then "(input.normalOS, input.tangentOS);" else "(input.normalOS);").toList]
          else [])

/-- The body of the vertex entry: declarations and calls, and then what each dependency writes. -/
theorem vertexLines_eq : vertexLines edges hasPosition hasTangent blocks =
    vertexPrelude edges hasPosition hasTangent blocks ++
      (firstOfEachKey edges).flatMap fun d => transformLines d.transformCode := rfl

/-- What a line of the prelude can be. -/
lemma mem_vertexPrelude (h : l ∈ vertexPrelude edges hasPosition hasTangent blocks) :
    l = "float3 posOS = input.positionOS.xyz;".toList ∨ (∃ b ∈ blocks, vertexCall? b = some l) ∨
      (∃ r, l = "VertexPositionInputs vpi = ".toList ++ r) ∨
      (∃ d ∈ edges, holds d.transformCode normalHelper) ∧
        ∃ r, l = "VertexNormalInputs vni = ".toList ++ r := by
  simp only [vertexPrelude, List.mem_append, List.mem_ite_nil_right, List.mem_singleton,
    List.mem_filterMap, List.append_assoc, Bool.and_eq_true, List.any_eq_true] at h
  rcases h with ⟨-, h⟩ | h | ⟨-, h⟩ | ⟨hn, h⟩
  · exact .inl h
  · exact .inr (.inl h)
  · exact .inr (.inr (.inl ⟨_, h⟩))
  · exact .inr (.inr (.inr ⟨hn, _, h⟩))

/-- No line before those of the dependencies assigns an output. -/
theorem not_output_of_mem_vertexPrelude
    (h : l ∈ vertexPrelude edges hasPosition hasTangent blocks) :
    l.startsWith "output.".toList = false := by
  rcases mem_vertexPrelude h with rfl | ⟨b, -, hb⟩ | ⟨r, rfl⟩ | ⟨-, r, rfl⟩
  · repeat rw [String.toList_ofList]
    decide
  · obtain ⟨w, hw, rfl⟩ := vertexCall?_eq_some hb
    have hlead : "output.".toList = ['o','u','t','p','u','t'] ++ '.' :: [] := String.toList_ofList
    rw [hlead]
    exact startsWith_call hw (by decide) (by decide) (by decide)
  · repeat rw [String.toList_ofList]
    rfl
  · repeat rw [String.toList_ofList]
    rfl

/-- It is enough that the prelude declares what a line of a dependency uses. -/
lemma declaredBeforeUse_of_prelude {type name : String} {after : List Text}
    (outputs : ∀ d ∈ edges, ∀ l ∈ transformLines d.transformCode, l.startsWith "output.".toList)
    (declared : ∀ d ∈ edges, ∀ l ∈ transformLines d.transformCode, usesLocal name l →
      ∃ l ∈ vertexPrelude edges hasPosition hasTangent blocks, declaresLocal type name l) :
    DeclaredBeforeUse type name edges
      (vertexPrelude edges hasPosition hasTangent blocks ++ after) := by
  rintro i line hi ⟨d, hd, hline⟩ huse
  have hlen : (vertexPrelude edges hasPosition hasTangent blocks).length ≤ i := by
    by_contra hlt
    rw [List.getElem?_append_left (Nat.lt_of_not_le hlt)] at hi
    have := not_output_of_mem_vertexPrelude (List.mem_of_getElem? hi)
    exact Bool.false_ne_true (this.symm.trans (outputs d hd line hline))
  obtain ⟨l, hl, hdecl⟩ := declared d hd line hline huse
  obtain ⟨j, hj, rfl⟩ := List.mem_iff_getElem.mp hl
  exact ⟨j, by omega, _, by rw [List.getElem?_append_left hj, List.getElem?_eq_getElem hj], hdecl⟩

lemma declaresLocal_position (h : ∃ d ∈ edges, holds d.transformCode positionHelper) :
    ∃ l ∈ vertexPrelude edges true hasTangent blocks,
      declaresLocal "VertexPositionInputs" "vpi" l := by
  have hn : edges.any (fun d => holds d.transformCode positionHelper) = true :=
    List.any_eq_true.mpr h
  refine ⟨"VertexPositionInputs vpi = ".toList ++ positionHelper ++ "(posOS);".toList, ?_, ?_⟩
  · refine List.mem_append_left _ (List.mem_append_right _ ?_)
    rw [if_pos (by rw [Bool.and_true]; exact hn)]
    exact List.mem_singleton_self _
  · unfold declaresLocal
    repeat rw [String.toList_ofList]
    exact startsWith_iff.mpr ⟨_, rfl⟩

/-- The prelude declares `vni` exactly if some edge's code calls the helper. -/
lemma declaresLocal_normal_iff : (∃ l ∈ vertexPrelude edges hasPosition hasTangent blocks,
    declaresLocal "VertexNormalInputs" "vni" l) ↔
      ∃ d ∈ edges, holds d.transformCode normalHelper := by
  have hlead : "VertexNormalInputs".toList ++ ' ' :: "vni".toList ++ " = ".toList =
      "VertexNormalInputs vni = ".toList := by
    repeat rw [String.toList_ofList]
    rfl
  unfold declaresLocal
  rw [hlead]
  constructor
  · rintro ⟨l, hl, hd⟩
    rcases mem_vertexPrelude hl with rfl | ⟨b, -, hb⟩ | ⟨r, rfl⟩ | ⟨hn, -⟩
    · repeat rw [String.toList_ofList] at hd
      exact absurd hd (by decide)
    · obtain ⟨w, hw, rfl⟩ := vertexCall?_eq_some hb
      have hvni : "VertexNormalInputs vni = ".toList =
          ['V','e','r','t','e','x','N','o','r','m','a','l','I','n','p','u','t','s'] ++ ' ' ::
            "vni = ".toList := by
        repeat rw [String.toList_ofList]
        rfl
      rw [hvni, startsWith_call hw (by decide) (by decide) (by decide)] at hd
      contradiction
    · repeat rw [String.toList_ofList] at hd
      contradiction
    · exact hn
  · intro h
    have hn : edges.any (fun d => holds d.transformCode normalHelper) = true :=
      List.any_eq_true.mpr h
    refine ⟨"VertexNormalInputs vni = ".toList ++ normalHelper ++
      (if hasTangent then "(input.normalOS, input.tangentOS);" else "(input.normalOS);").toList, ?_,
      startsWith_iff.mpr ⟨_, List.append_assoc _ _ _⟩⟩
    refine List.mem_append_right _ ?_
    rw [if_pos hn]
    exact List.mem_singleton_self _

end Body

section Standard

variable {g : Graph} {blocks : List Block}

lemma anchored_position (calls : List Graph.Call) :
    (Graph.run .standard calls).Anchored positionInput .input := by
  refine Graph.Anchored.run ?_ calls
  unfold Registry.standard Registry.standardInputs Registry.vertexInput positionInput
  repeat rw [String.toList_ofList]
  exact ⟨_, rfl, rfl, rfl⟩

lemma anchored_clipPosition (calls : List Graph.Call) :
    (Graph.run .standard calls).Anchored "positionCS".toList .output := by
  refine Graph.Anchored.run ?_ calls
  unfold Registry.standard Registry.standardOutputs Registry.interpolant
  repeat rw [String.toList_ofList]
  exact ⟨_, rfl, rfl, rfl⟩

/-- The clip position is computed by the position helper. -/
lemma exists_positionHelper (hc : g.Anchored "positionCS".toList .output)
    (hp : g.Anchored positionInput .input) :
    ∃ d ∈ g.edges .standard, holds d.transformCode positionHelper := by
  obtain ⟨f, hf, -, ha⟩ := hc
  have hname : f.name = "positionCS".toList := Field.name_of_find? hf
  have hdep : ∃ d ∈ Registry.standard.dependenciesOf "positionCS".toList,
      d.source = positionInput ∧ holds d.transformCode positionHelper := by
    unfold Registry.dependenciesOf Registry.standard Registry.standardDependencies Registry.computed
      positionInput positionHelper
    simp only [List.map]
    repeat rw [String.toList_ofList]
    decide
  obtain ⟨d, hd, hs, hh⟩ := hdep
  refine ⟨d, Graph.mem_edges.mpr ⟨f, List.mem_of_find?_eq_some hf, ha, hname ▸ hd, ?_⟩, hh⟩
  exact hs ▸ Graph.isActiveInput_of_anchored hp

/-- An edge is an entry of the standard table under the name of an active output. -/
lemma standard_of_mem_edges {d : Dependency} (h : d ∈ g.edges .standard) :
    ∃ out ∈ g.outputs, out.isActive ∧
      ∃ e ∈ Registry.standardDependencies, e.1 = out.name ∧ d ∈ e.2 := by
  obtain ⟨out, ho, ha, hd, -⟩ := Graph.mem_edges.mp h
  obtain ⟨ds, he, hd⟩ := Registry.mem_dependenciesOf hd
  exact ⟨out, ho, ha, (out.name, ds), he, rfl, hd⟩

lemma outputs_of_edges : ∀ d ∈ g.edges .standard, ∀ l ∈ transformLines d.transformCode,
    l.startsWith "output.".toList := by
  intro d hd
  obtain ⟨-, -, -, e, he, -, hde⟩ := standard_of_mem_edges hd
  exact transformLines_standard e he d hde

/-- Without issues the normal helper is called exactly if the normal or the tangent is active. -/
theorem exists_normalHelper_iff (sound : g.issues .standard = []) :
    (∃ d ∈ g.edges .standard, holds d.transformCode normalHelper) ↔
      g.IsActiveOutput "normalWS" ∨ g.IsActiveOutput "tangentWS" := by
  constructor
  · rintro ⟨d, hd, hh⟩
    obtain ⟨out, ho, ha, e, he, hname, hde⟩ := standard_of_mem_edges hd
    exact ((holds_normalHelper_standard e he d hde).mp hh).imp (fun h => ⟨out, ho, hname ▸ h, ha⟩)
      fun h => ⟨out, ho, hname ▸ h, ha⟩
  · have hdeps : ∀ name ∈ ["normalWS".toList, "tangentWS".toList],
        ∃ d ∈ Registry.standard.dependenciesOf name, holds d.transformCode normalHelper := by
      unfold Registry.dependenciesOf Registry.standard Registry.standardDependencies
        Registry.computed normalHelper
      simp only [List.map]
      repeat rw [String.toList_ofList]
      decide
    have hedge :
        ∀ name, name.toList ∈ ["normalWS".toList, "tangentWS".toList] → g.IsActiveOutput name →
        ∃ d ∈ g.edges .standard, holds d.transformCode normalHelper := by
      rintro name hn ⟨out, ho, hname, ha⟩
      obtain ⟨d, hd, hh⟩ := hdeps _ hn
      exact ⟨d, Graph.mem_edges_of_issues sound ho ha (hname ▸ hd), hh⟩
    rintro (h | h)
    · exact hedge _ List.mem_cons_self h
    · exact hedge _ (List.mem_cons_of_mem _ List.mem_cons_self) h

/-- An active bitangent has its line among those of the dependencies. -/
lemma bitangent_line (sound : g.issues .standard = []) (h : g.IsActiveOutput "bitangentWS") :
    ∃ d ∈ g.edges .standard, ∃ l ∈ transformLines d.transformCode, usesLocal "vni" l ∧
      l ∈ (firstOfEachKey (g.edges .standard)).flatMap fun d => transformLines d.transformCode := by
  obtain ⟨out, ho, hname, ha⟩ := h
  have hdep : ∃ d ∈ Registry.standard.dependenciesOf "bitangentWS".toList,
      ∃ l ∈ transformLines d.transformCode, usesLocal "vni" l := by
    unfold Registry.dependenciesOf Registry.standard Registry.standardDependencies Registry.computed
      transformLines usesLocal
    simp only [List.map]
    repeat rw [String.toList_ofList]
    decide
  obtain ⟨d, hd, l, hl, huse⟩ := hdep
  have hedge := Graph.mem_edges_of_issues sound ho ha (hname ▸ hd)
  obtain ⟨e, he, hkey⟩ := exists_firstOfEachKey hedge
  -- in the table the key determines the dependency
  obtain rfl : e = d := by
    obtain ⟨-, -, -, x, hx, -, hex⟩ := standard_of_mem_edges (mem_firstOfEachKey he)
    obtain ⟨-, -, -, y, hy, -, hdy⟩ := standard_of_mem_edges hedge
    exact key_injective_standard x hx e hex y hy d hdy hkey
  exact ⟨e, hedge, l, hl, huse, List.mem_flatMap.mpr ⟨e, he, hl⟩⟩

end Standard

/-- Over the standard registry, in every graph without issues: `vpi` is declared before it is used,
and `vni` is exactly if the bitangent is not active without normal and tangent. -/
theorem helperLocals_declared (calls : List Graph.Call) (blocks : List Block)
    (sound : (Graph.run .standard calls).issues .standard = []) :
    let g := Graph.run .standard calls
    DeclaredBeforeUse "VertexPositionInputs" "vpi" (g.edges .standard)
      (vertexBody .standard g blocks) ∧
      (DeclaredBeforeUse "VertexNormalInputs" "vni" (g.edges .standard)
        (vertexBody .standard g blocks) ↔
        (g.IsActiveOutput "bitangentWS" → g.IsActiveOutput "normalWS" ∨
          g.IsActiveOutput "tangentWS")) := by
  intro g
  have hp : g.Anchored positionInput .input := anchored_position calls
  have hbody : vertexBody .standard g blocks =
      vertexPrelude (g.edges .standard) true (g.isActiveInput tangentInput) blocks ++
        (firstOfEachKey (g.edges .standard)).flatMap fun d => transformLines d.transformCode := by
    rw [vertexBody, Graph.isActiveInput_of_anchored hp, vertexLines_eq]
  rw [hbody]
  refine ⟨?_, fun h hb => ?_, fun h => ?_⟩
  · exact declaredBeforeUse_of_prelude outputs_of_edges fun _ _ _ _ _ =>
      declaresLocal_position (exists_positionHelper (anchored_clipPosition calls) hp)
  · obtain ⟨d, hd, l, hl, huse, hm⟩ := bitangent_line sound hb
    obtain ⟨i, hi, rfl⟩ := List.mem_iff_getElem.mp (List.mem_append_right
      (vertexPrelude (g.edges .standard) true (g.isActiveInput tangentInput) blocks) hm)
    obtain ⟨j, -, l', hj, hdecl⟩ := h i _ (List.getElem?_eq_getElem hi) ⟨d, hd, hl⟩ huse
    have hmem :
        l' ∈ vertexPrelude (g.edges .standard) true (g.isActiveInput tangentInput) blocks := by
      refine (List.mem_append.mp (List.mem_of_getElem? hj)).resolve_right fun hafter => ?_
      -- the lines of the dependencies assign parts of the result and declare nothing
      obtain ⟨d', hd', hl'⟩ := List.mem_flatMap.mp hafter
      obtain ⟨r, rfl⟩ := startsWith_iff.mp (outputs_of_edges d' (mem_firstOfEachKey hd') l' hl')
      unfold declaresLocal at hdecl
      repeat rw [String.toList_ofList] at hdecl
      contradiction
    exact (exists_normalHelper_iff sound).mp (declaresLocal_normal_iff.mp ⟨l', hmem, hdecl⟩)
  · refine declaredBeforeUse_of_prelude outputs_of_edges fun d hd l hl huse => ?_
    refine declaresLocal_normal_iff.mpr ((exists_normalHelper_iff sound).mpr ?_)
    obtain ⟨out, ho, ha, e, he, hname, hde⟩ := standard_of_mem_edges hd
    rcases usesLocal_normal_standard e he d hde l hl huse with hn | hn | hn
    · exact .inl ⟨out, ho, hname ▸ hn, ha⟩
    · exact .inr ⟨out, ho, hname ▸ hn, ha⟩
    · exact h ⟨out, ho, hname ▸ hn, ha⟩

/-- A bitangent that is switched on alone has no issue, and uses `vni` undeclared. -/
theorem helperLocals_undeclared :
    let g := Graph.run .standard [.activate "bitangentWS".toList]
    g.issues .standard = [] ∧
      ¬ DeclaredBeforeUse "VertexNormalInputs" "vni" (g.edges .standard)
        (vertexBody .standard g []) := by
  intro g
  have sound : g.issues .standard = [] := by decide
  have alone : g.IsActiveOutput "bitangentWS" ∧ ¬ (g.IsActiveOutput "normalWS" ∨
      g.IsActiveOutput "tangentWS") := by
    unfold Graph.IsActiveOutput
    decide
  exact ⟨sound, fun h => alone.2 ((helperLocals_declared _ [] sound).2.mp h alone.1)⟩

end Writing
end MarkedShader
