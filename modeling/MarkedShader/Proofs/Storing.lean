import MarkedShader.Proofs.Editing

/-! Generated code that is stored in a document. What it changes is marked, but for parameters that
are recorded for code that a block has already. Main statement: `store_unmarked_iff`. -/
namespace MarkedShader

namespace Generated

variable {d e : Document} {b : Block} {code response : Text} {target : Target} {place : Position}

lemma length_addParam (b : Block) (param : Text) :
    (b.addParam param).referencedParams.length =
      b.referencedParams.length + if b.references param then 0 else 1 := by
  rw [Block.addParam]
  split_ifs <;> simp

lemma length_foldl_addParam (params : List Text) (b : Block) :
    b.referencedParams.length ≤ (params.foldl Block.addParam b).referencedParams.length := by
  induction params generalizing b with
  | nil => exact Nat.le_refl _
  | cons param params ih =>
    rw [List.foldl_cons]
    have := length_addParam b param
    exact Nat.le_trans (by omega) (ih _)

/-- Nothing is recorded exactly if all of it is recorded already. -/
lemma foldl_addParam_eq_self_iff {params : List Text} {b : Block} :
    params.foldl Block.addParam b = b ↔ ∀ param ∈ params, param ∈ b.referencedParams := by
  induction params with
  | nil => simp
  | cons param params ih =>
    rw [List.foldl_cons, List.forall_mem_cons]
    by_cases hknown : b.references param = true
    · have hmem : param ∈ b.referencedParams := List.contains_iff_mem.mp hknown
      rw [Block.addParam, if_pos hknown, ih, and_iff_right hmem]
    · have hmem : param ∉ b.referencedParams := fun h => hknown (List.contains_iff_mem.mpr h)
      refine iff_of_false (fun h => ?_) fun h => hmem h.1
      have hgrown := length_foldl_addParam params (b.addParam param)
      rw [h, length_addParam, if_neg hknown] at hgrown
      omega

lemma noteParams_ne_self_iff :
    noteParams d code b ≠ b ↔
      ∃ p ∈ d.properties, p.name ∈ Text.words code ∧ p.name ∉ b.referencedParams := by
  rw [ne_eq, noteParams, foldl_addParam_eq_self_iff]
  simp

/-- Code is not stored where there is no block or no pass for it, and not in a pass that holds no
blocks. -/
inductive Rejects (d : Document) : Target → EditError → Prop
  | unknownBlock {id} (none : d.findBlock? id = none) :
      Rejects d (.existing id) (.unknownBlock (nameOf id))
  | noActivePass {title inSection intent} (none : d.activePass? = none) :
      Rejects d (.new title inSection intent) (.noActivePass d.activeIndex)
  | usePass {title inSection intent p}
      (active : d.activePass? = some p) (references : p.isUsePass) :
      Rejects d (.new title inSection intent) (.usePass p.name "blocks".toList)

lemma store_eq_error_iff {x : EditError} :
    store d response target = .error x ↔ Rejects d target x := by
  cases target with
  | existing id =>
    cases hfound : d.findBlock? id with
    | none =>
      have hstore : store d response (.existing id) = .error (.unknownBlock (nameOf id)) := by
        simp only [store, hfound]
      rw [hstore]
      refine ⟨fun h => Except.error.inj h ▸ .unknownBlock hfound, fun rejects => ?_⟩
      cases rejects
      rfl
    | some place =>
      have hstore : ∃ e, store d response (.existing id) = .ok e := by
        simp only [store, hfound]; exact ⟨_, rfl⟩
      obtain ⟨e, hstore⟩ := hstore
      rw [hstore]
      refine ⟨fun h => by contradiction, fun rejects => ?_⟩
      cases rejects with
      | unknownBlock none => simp [hfound] at none
  | new title inSection intent =>
    rw [store]
    generalize noteParams d _ (newBlock _ _ _ _ _) = b
    have hrejects : Rejects d (.new title inSection intent) x ↔ d.Refuses (.addBlock b) x := by
      constructor
      · rintro (_ | ⟨none⟩ | ⟨active, references⟩)
        · exact .noActivePass none
        · exact .usePass active references
      · rintro (⟨none⟩ | ⟨active, references⟩)
        · exact .noActivePass none
        · exact .usePass active references
    rw [hrejects, ← Document.addBlock_eq_error_iff]
    cases d.addBlock b <;> simp [Except.map]

section
variable {before after : List Pass} {p : Pass} {front back : List Block}

/-- The code of a block is replaced, and the parameters are recorded that it names. -/
theorem store_existing (split : d.passes = before ++ p :: after)
    (blocks : p.blocks = front ++ b :: back)
    (found : d.findBlock? b.id = some ⟨before.length, front.length⟩) (response : Text) :
    let code := Text.dedent (Generated.code response)
    store d response (.existing b.id) = .ok
      ({ d with
          passes := before ++
            { p with blocks := front ++ noteParams d code { b with code } :: back } :: after
          isDirty := d.isDirty || b.code ≠ code }, ⟨before.length, front.length⟩) := by
  intro code
  simp only [store, found, Document.updateCode, Document.blockAt?_split split blocks,
    Option.any_some, decide_eq_true_eq]
  by_cases hcode : b.code = code
  · have hsame : { b with code } = b := by rw [← hcode]
    rw [if_pos hcode, Document.modifyBlock_split split blocks, hsame,
      decide_eq_false (not_not_intro hcode), Bool.or_false]
  · rw [if_neg hcode, Document.modifyBlock_split split blocks, Document.modifyBlock_split rfl rfl,
      decide_eq_true hcode, Bool.or_true]

/-- Only the parameters can change without a mark, and they do so where the code stays. -/
lemma unmarked_iff (split : d.passes = before ++ p :: after)
    (blocks : p.blocks = front ++ b :: back) (code : Text) :
    (before ++ { p with blocks := front ++ noteParams d code { b with code } :: back } :: after ≠
      d.passes ∧ (d.isDirty || b.code ≠ code) = false) ↔
    d.isDirty = false ∧ b.code = code ∧ ∃ q ∈ d.properties, q.name ∈ Text.words b.code ∧
      q.name ∉ b.referencedParams := by
  by_cases hcode : b.code = code
  · subst hcode
    rw [ne_eq, Document.passes_eq_iff_of_block split blocks, ← ne_eq, noteParams_ne_self_iff]
    simp [and_comm]
  · exact iff_of_false (fun h => by simp [hcode] at h) fun h => hcode h.2.1

end

/-- What is stored changes a document without marking it exactly if the document is not marked, the
code is that of the block it is stored in, and the block has not recorded all the properties that it
names. What is refused changes nothing. -/
theorem store_unmarked_iff (settings : Settings) (r : Registry) (d : Document) (response : Text)
    (target : Target) : (∀ x, store d response target = .error x ↔ Rejects d target x) ∧
    (∀ x, Rejects d target x → (Edit.store response target).apply settings r d = d) ∧
    ∀ e place, store d response target = .ok (e, place) →
      ((e.passes ≠ d.passes ∨ e.properties ≠ d.properties) ∧ e.isDirty = false ↔
        d.isDirty = false ∧ ∃ id b, target = .existing id ∧ (d.findBlock? id).bind d.blockAt? =
        some b ∧ b.code = Text.dedent (Generated.code response) ∧
          ∃ p ∈ d.properties, p.name ∈ Text.words b.code ∧ p.name ∉ b.referencedParams) := by
  refine ⟨fun x => store_eq_error_iff, fun x rejects => ?_, fun e place stored => ?_⟩
  · rw [Edit.apply, store_eq_error_iff.mpr rejects]
  · cases target with
    | new title inSection intent =>
      obtain ⟨f, added, heq⟩ := exists_of_map_eq_ok stored
      obtain ⟨rfl, -⟩ := Prod.mk.inj heq
      have hdirty := (Document.changes_of_addBlock added).isDirty
      simp [hdirty]
    | existing id =>
      cases hfound : d.findBlock? id with
      | none => simp [store, hfound] at stored
      | some place =>
        obtain ⟨before, p, after, front, b, back, split, blocks, rfl, rfl⟩ :=
          Document.split_of_findBlock? hfound
        rw [store_existing split blocks hfound] at stored
        obtain ⟨rfl, -⟩ := Prod.mk.inj (Except.ok.inj stored)
        have hat := Document.blockAt?_split split blocks
        refine (and_congr_left' (or_iff_left fun h => h rfl)).trans
          ((unmarked_iff split blocks _).trans ?_)
        refine and_congr_right fun _ => ⟨fun h => ⟨b.id, b, rfl, ?_, h⟩, ?_⟩
        · rw [hfound, Option.bind_some, hat]
        · rintro ⟨id, c, hid, hc, h⟩
          obtain rfl := Target.existing.inj hid
          rw [hfound, Option.bind_some, hat] at hc
          obtain rfl := Option.some.inj hc
          exact h

/-- The code of a block is stored again, after a property that it names has been declared and the
document saved. -/
theorem store_unmarked_iff_declared :
    let code : Text := "half4 Tint(Varyings input) \x7b return _Tint; \x7d".toList
    let tint : Block :=
      { title := "Tint".toList, code, inSection := .fragment, id := .given "b1".toList }
    let d : Document :=
      { passes := [{ Pass.empty {} (.fresh 0) "Lit".toList [] with blocks := [tint] }]
        properties := [{ name := "_Tint".toList, kind := .color }] }
    ∃ e place, store d code (.existing tint.id) = .ok (e, place) ∧
      (e.passes ≠ d.passes ∨ e.properties ≠ d.properties) ∧ e.isDirty = false := by
  intro code tint d
  have hcode : tint.code = Text.dedent (Generated.code code) := by decide
  have hnamed : "_Tint".toList ∈ Text.words tint.code := by decide
  obtain ⟨e, place, hstore⟩ :
    ∃ e place, store d code (.existing tint.id) = .ok (e, place) := ⟨_, _, rfl⟩
  refine ⟨e, place, hstore,
    ((store_unmarked_iff {} {} d code (.existing tint.id)).2.2 e place hstore).mpr ⟨rfl, ?_⟩⟩
  exact ⟨tint.id, tint, rfl, by decide, hcode, _, List.mem_singleton_self _, hnamed, by decide⟩

end Generated
end MarkedShader
