import MarkedShader.Proofs.Storing
import MarkedShader.Proofs.Text.Dedent
import MarkedShader.Proofs.Text.Words

/-! The block that code is stored in, and nothing else, is changed by storing it. Main statement:
`store_in_block`. -/
namespace MarkedShader

instance (w t : Text) : Decidable (Text.IsWordOf w t) :=
  decidable_of_iff ((Text.words t).contains w = true)
    (List.contains_iff_mem.trans Text.mem_words_iff)

namespace Generated

variable {d e : Document} {response : Text} {target : Target} {place : Position}

/-- The declared properties that stand in some code as words and are not known, in the order of the
document. -/
def newParams (d : Document) (code : Text) (known : List Text) : List Text :=
  ((d.properties.map (·.name)).filter fun name => Text.IsWordOf name code &&
    !known.contains name).eraseDups

/-- What is recorded is appended, each name where it is met first. -/
lemma foldl_addParam (params : List Text) (b : Block) : params.foldl Block.addParam b =
    { b with referencedParams :=
               b.referencedParams ++ (params.filter (· ∉ b.referencedParams)).eraseDups } := by
  induction params generalizing b with
  | nil => simp
  | cons param params ih =>
    rw [List.foldl_cons, ih]
    by_cases hknown : param ∈ b.referencedParams
    · have hadd : b.addParam param = b := if_pos (List.contains_iff_mem.mpr hknown)
      rw [hadd, List.filter_cons_of_neg (by simpa using hknown)]
    · have hadd : b.addParam param = { b with referencedParams := b.referencedParams ++ [param] } :=
        if_neg fun h => hknown (List.contains_iff_mem.mp h)
      have hfilter : (params.filter (· ∉ b.referencedParams ++ [param])) =
          (params.filter (· ∉ b.referencedParams)).filter fun q => !q == param := by
        rw [List.filter_filter]
        refine List.filter_congr fun q _ => ?_
        simp [and_comm, beq_eq_decide]
      rw [hadd, List.filter_cons_of_pos (by simpa using hknown), List.eraseDups_cons, hfilter,
        List.append_assoc]
      rfl

lemma noteParams_eq (d : Document) (code : Text) (b : Block) : noteParams d code b =
    { b with referencedParams := b.referencedParams ++ newParams d code b.referencedParams } := by
  rw [noteParams, foldl_addParam, List.filter_filter, newParams]
  congr 4
  funext name
  simp [Text.mem_words_iff, Bool.and_comm]

/-- What a document is after code has been stored in it, and in which block: one block has changed
or come, and otherwise only the mark. -/
inductive Stored (d : Document) (code : Text) : Target → Document → Position → Prop
  | existing {before p after front b back} (split : d.passes = before ++ p :: after)
      (blocks : p.blocks = front ++ b :: back) (only : ∀ c ∈ d.allBlocks, c.id = b.id → c = b) :
      Stored d code (.existing b.id) { d with
          passes := before ++ { p with
            blocks := front ++
              { b with code, referencedParams := b.referencedParams ++
                         newParams d code b.referencedParams } :: back } :: after
          isDirty := d.isDirty || b.code ≠ code } ⟨before.length, front.length⟩
  | new {before p after} (split : d.passes = before ++ p :: after)
      (active : d.activeIndex = before.length) (title : Text) (inSection : Option Section)
      (intent : Text) {id : Identity} (unlike : ∀ c ∈ d.allBlocks, c.id ≠ id) :
      Stored d code (.new title inSection intent) { d with
          passes := before ++ { p with
            blocks := p.blocks ++
              [{ title := if title = [] then titleOf code else title, code
                 inSection := inSection.getD (sectionOf code)
                 intent, referencedParams := newParams d code [], isEnabled := true, id }] } ::
                   after
          isDirty := true } ⟨before.length, p.blocks.length⟩

lemma store_new {before after : List Pass} {p : Pass} (split : d.passes = before ++ p :: after)
    (active : d.activeIndex = before.length) (own : p.isUsePass = false) (response title : Text)
    (inSection : Option Section)
    (intent : Text) :
    let code := Text.dedent (Generated.code response)
    store d response (.new title inSection intent) = .ok
      ({ d with
          passes := before ++ { p with
            blocks := p.blocks ++
              [noteParams d code (newBlock d.newBlockId code title inSection intent)] } :: after
          isDirty := true }, ⟨before.length, p.blocks.length⟩) := by
  intro code
  have hactive : d.activePass? = some p := by
    rw [Document.activePass?_of_index active split, getElem?_split]
  simp only [store, Document.addBlock_of_split split active, Pass.addBlock, own,
    Document.activePosition?_of_split split active, hactive]
  rfl

/-- Code is stored dedented. It replaces the code of the block that is meant, or comes in a new
block at the end of the active pass, and the parameters of that block go on with the declared
properties that the code names. -/
theorem store_in_block (distinct : (d.allBlocks.map (·.id)).Nodup)
    (stored : store d response target = .ok (e, place)) :
    let code := Text.dedent (Generated.code response)
    Text.dedent code = code ∧ Stored d code target e place := by
  intro code
  refine ⟨Text.dedent_dedent _, ?_⟩
  cases target with
  | existing id =>
    cases hfound : d.findBlock? id with
    | none => simp [store, hfound] at stored
    | some place =>
      obtain ⟨before, p, after, front, b, back, split, blocks, rfl, rfl⟩ :=
        Document.split_of_findBlock? hfound
      have only : ∀ c ∈ d.allBlocks, c.id = b.id → c = b := fun c hc hid =>
        List.inj_on_of_nodup_map distinct hc
          (Document.mem_of_blockAt? (Document.blockAt?_split split blocks)) hid
      rw [store_existing split blocks hfound, noteParams_eq] at stored
      obtain ⟨rfl, rfl⟩ := Prod.mk.inj (Except.ok.inj stored)
      exact .existing split blocks only
  | new title inSection intent =>
    obtain ⟨f, added, -⟩ := exists_of_map_eq_ok stored
    cases Document.changes_of_addBlock added with
    | addBlock split active own =>
      rw [store_new split active own, noteParams_eq] at stored
      obtain ⟨rfl, rfl⟩ := Prod.mk.inj (Except.ok.inj stored)
      have unlike : ∀ c ∈ d.allBlocks, c.id ≠ d.newBlockId := fun c hc hid =>
        Identity.unlike_not_mem _ (List.mem_map.mpr ⟨c, hc, hid⟩)
      have hstored : Stored d code _ _ _ := .new split active title inSection intent unlike
      simpa only [newBlock, List.nil_append, List.isEmpty_iff] using hstored

/-- Of two properties, the name of one a part of that of the other, only the longer one is named; a
third is known. -/
theorem store_in_block_tint :
    let tint : Block := { title := "Tint".toList, inSection := .fragment
                          referencedParams := ["_Glow".toList], isEnabled := false
                          id := .given "b1".toList }
    let d : Document :=
      { passes := [.depthOnly (.fresh 0),
          { Pass.empty {} (.fresh 1) "Lit".toList [] with blocks := [tint] }]
        properties := ["_Tint", "_Glow", "_TintColor"].map fun name => { name := name.toList } }
    let response : Text := "Here:\n```hlsl\n  half4 Tint(Varyings input) \x7b\n    return _TintColor*_Glow;\n  \x7d\n```".toList
    let code := Text.dedent (Generated.code response)
    ∃ e place, (d.allBlocks.map (·.id)).Nodup ∧ store d response (.existing tint.id) =
      .ok (e, place) ∧ (Text.dedent code = code ∧ Stored d code (.existing tint.id) e place) ∧
      newParams d code tint.referencedParams = ["_TintColor".toList] := by
  intro tint d response code
  have distinct : (d.allBlocks.map (·.id)).Nodup := by decide
  obtain ⟨e, place, hstore⟩ :
    ∃ e place, store d response (.existing tint.id) = .ok (e, place) := ⟨_, _, rfl⟩
  exact ⟨e, place, distinct, hstore, store_in_block distinct hstore, by decide⟩

end Generated
end MarkedShader
