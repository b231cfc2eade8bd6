import MarkedShader.Proofs.Graph.Standing

/-! The semantics in the output struct. Those that fields carry are written as they are, and the
others are numbered without a look at them. Main statement: `outputSemantics_nodup_iff`. -/
namespace MarkedShader.Writing

/-- The semantics of the members of the output struct, in order. -/
def outputSemantics (g : Graph) : List Text := (withSemantics 0 (g.activeFields .output)).map (·.2)

/-- The semantics that fields carry. -/
def ownSemantics (fs : List Field) : List Text := (fs.map (·.semantic)).filter (!·.isEmpty)

/-- How many fields carry no semantic. -/
def bareCount (fs : List Field) : Nat := fs.countP (·.semantic.isEmpty)

/-- The semantic that the field at a position among those without one is given. -/
def numbered (n : Nat) : Text := "TEXCOORD".toList ++ Decimal.natural n

lemma numbered_injective : Function.Injective numbered := by
  intro n m h
  have hdigits : Nat.toDigits 10 n = Nat.toDigits 10 m := List.append_cancel_left h
  have hvalue := congrArg (fun ds => Nat.ofDigitChars 10 ds 0) hdigits
  simpa only [Nat.ofDigitChars_ten_toDigits] using hvalue

/-- A member of the output struct is an active output with its semantic. -/
lemma structs_eq_zipWith (settings : Settings) (g : Graph) :
    structs settings g =
      structsOf settings ((g.activeFields .input).map fun f => member f.dataType f.name f.semantic)
      (List.zipWith (fun f semantic => member f.dataType f.name semantic) (g.activeFields .output)
        (outputSemantics g)) := by
  have hfields : g.activeFields .output = (withSemantics 0 (g.activeFields .output)).map (·.1) :=
    (Source.map_fst_withSemantics 0 _).symm
  rw [structs, outputSemantics]
  congr 1
  generalize withSemantics 0 (g.activeFields .output) = written at hfields
  rw [hfields, List.zipWith_map, List.zipWith_self]

/-- What is written is what the fields carry and a stretch of numbers, in some order. -/
lemma perm_withSemantics (next : Nat) (fs : List Field) :
    ((withSemantics next fs).map (·.2)).Perm
      (ownSemantics fs ++ (List.range' next (bareCount fs)).map numbered) := by
  induction fs generalizing next with
  | nil => exact .refl _
  | cons f fs ih =>
    rw [withSemantics]
    split_ifs with hbare
    · have hown : ownSemantics (f :: fs) = ownSemantics fs := by simp [ownSemantics, hbare]
      have hcount : bareCount (f :: fs) = bareCount fs + 1 := List.countP_cons_of_pos hbare
      rw [hown, hcount, List.range'_succ, List.map_cons, List.map_cons]
      exact ((ih (next + 1)).cons _).trans List.perm_middle.symm
    · have hown : ownSemantics (f :: fs) = f.semantic :: ownSemantics fs := by
        simp [ownSemantics, hbare]
      have hcount : bareCount (f :: fs) = bareCount fs := List.countP_cons_of_neg hbare
      rw [hown, hcount, List.map_cons]
      exact (ih next).cons _

/-- Two members share a semantic exactly if two fields carry one, or if a field carries a number
that is also assigned. -/
theorem outputSemantics_nodup_iff (g : Graph) :
    (outputSemantics g).Nodup ↔ (ownSemantics (g.activeFields .output)).Nodup ∧
        ∀ n < bareCount (g.activeFields .output),
          numbered n ∉ ownSemantics (g.activeFields .output) := by
  have hnumbers : ((List.range' 0 (bareCount (g.activeFields .output))).map numbered).Nodup :=
    List.Nodup.map numbered_injective List.nodup_range'
  rw [outputSemantics, (perm_withSemantics 0 _).nodup_iff, List.nodup_append_comm,
    List.nodup_append']
  constructor
  · rintro ⟨-, hown, hdisjoint⟩
    refine ⟨hown, fun n hn hmem => hdisjoint (List.mem_map_of_mem ?_) hmem⟩
    rw [List.mem_range'_1]
    omega
  · rintro ⟨hown, hfree⟩
    refine ⟨hnumbers, hown, fun s hs hmem => ?_⟩
    obtain ⟨n, hn, rfl⟩ := List.mem_map.mp hs
    rw [List.mem_range'_1] at hn
    exact hfree n (by omega) hmem

/-- A field that is added with the first number collides with an output without a semantic: the
struct has two members of one semantic. -/
theorem outputSemantics_collide :
    let glow : Field := .normalize
      { name := "glow".toList, dataType := "float".toList, semantic := "TEXCOORD0".toList
        stage := .output, isActive := true }
    let g := Graph.run .standard [.add glow, .activate "normalWS".toList]
    (ownSemantics (g.activeFields .output)).Nodup ∧ ¬ (outputSemantics g).Nodup ∧
      structs {} g = structsOf {}
        [member "float4".toList "positionOS".toList "POSITION".toList,
          member "float3".toList "normalOS".toList "NORMAL".toList]
        [member "float4".toList "positionCS".toList "SV_POSITION".toList,
          member "float3".toList "normalWS".toList "TEXCOORD0".toList,
          member "float".toList "glow".toList "TEXCOORD0".toList] := by
  intro glow g
  refine ⟨by decide, fun h => ?_, ?_⟩
  · exact ((outputSemantics_nodup_iff g).mp h).2 0 (by decide) (by decide)
  · exact (structs_eq_zipWith {} g).trans (by decide)

/-- Outputs none of which carries a number have no number in common with those that are given
one. -/
lemma outputSemantics_nodup_of_unnumbered {g : Graph} (unnumbered : g.Unnumbered)
    (distinct : (ownSemantics (g.activeFields .output)).Nodup) : (outputSemantics g).Nodup := by
  refine (outputSemantics_nodup_iff g).mpr ⟨distinct, fun n _ hmem => ?_⟩
  obtain ⟨f, hf, hsemantic⟩ := List.mem_map.mp (List.mem_filter.mp hmem).1
  have hnumber := unnumbered f (List.mem_filter.mp hf).1
  rw [hsemantic] at hnumber
  exact Bool.false_ne_true (hnumber.symm.trans (Source.isPositional_natural n))

/-- Reading drops the numbers, so that what was read is written without a collision. -/
theorem outputSemantics_nodup_graphOf (inputs outputs : List Source.Member)
    (distinct : (ownSemantics ((Source.graphOf .standard inputs outputs).activeFields
      .output)).Nodup) :
    (outputSemantics (Source.graphOf .standard inputs outputs)).Nodup :=
  outputSemantics_nodup_of_unnumbered
    ((Graph.unnumbered_standard.applyStruct .input inputs).applyStruct .output outputs) distinct

end MarkedShader.Writing
