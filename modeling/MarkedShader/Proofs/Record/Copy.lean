import MarkedShader.Proofs.Record.Leaves
import MarkedShader.Record.Write
import Mathlib.Control.Basic

/-! Copies of values and of drafts. A tree is copied as it is. Main statement: `toRecord_eq`: the
record of a draft is written as if its parts were copied first. -/
namespace MarkedShader

namespace Record

lemma isTree_entry (key : String) (d : Data) (es : List (Data × Data)) :
    (Data.mapping (entry key d :: es)).isTree = (d.isTree && (Data.mapping es).isTree) := rfl

end Record

namespace Store

variable (s : Store)

/-- A copy is made leaf by leaf, and a tree is copied as it is. -/
lemma copy_eq_replaceLeaves :
    ∃ f, (∀ d, s.copy d = Data.replaceLeaves f d) ∧ ∀ d : Data, d.isTree →
      d.replaceLeaves f = .ok d := by
  refine ⟨_, fun _ => rfl, Data.replaceLeaves_eq_self fun d hd => ?_⟩
  cases d with
  | set | shared => exact absurd hd Bool.false_ne_true
  | _ => rfl

lemma copy_of_isTree {d : Data} (h : d.isTree) : s.copy d = .ok d := by
  obtain ⟨f, hcopy, hsame⟩ := s.copy_eq_replaceLeaves
  rw [hcopy, hsame d h]

/-- The entries of a mapping are copied one by one. -/
lemma copy_mapping {es : List (Data × Data)} (keys : es.all (·.1.isTree) = true) :
    s.copy (.mapping es) = .mapping <$> es.mapM fun e => (e.1, ·) <$> s.copy e.2 := by
  obtain ⟨f, hcopy, hsame⟩ := s.copy_eq_replaceLeaves
  have entries : Data.replaceInEntries f es = es.mapM fun e => (e.1, ·) <$> s.copy e.2 := by
    induction es with
    | nil => rfl
    | cons e es ih =>
      obtain ⟨hkey, hkeys⟩ := Bool.and_eq_true_iff.mp keys
      have hkey : Data.replaceLeaves f e.1 = .ok e.1 := hsame e.1 hkey
      rw [Data.replaceInEntries, ih hkeys, List.mapM_cons, hcopy, hkey]
      cases Data.replaceLeaves f e.2 <;> rfl
  rw [hcopy, Data.replaceLeaves, entries]
  rfl

end Store

namespace Draft
variable (s : Store)

def Property.copied (p : Property) : Except Data.Fault Property := do
  return { name := ← s.copy p.name, displayName := ← s.copy p.displayName, kind := p.kind
           defaultValue := ← s.copy p.defaultValue, minValue := ← s.copy p.minValue
           maxValue := ← s.copy p.maxValue
           role := ← s.copy p.role, rawDeclaration := ← s.copy p.rawDeclaration
           defaultTexture := ← s.copy p.defaultTexture }

def Block.copied (b : Block) : Except Data.Fault Block := do
  return { title := ← s.copy b.title, code := ← s.copy b.code, inSection := b.inSection
           intent := ← s.copy b.intent
           referencedParams := ← s.copy b.referencedParams, isEnabled := ← s.copy b.isEnabled
           startLine := ← s.copy b.startLine, endLine := ← s.copy b.endLine, id := ← s.copy b.id }

def Stencil.copied (t : Stencil) : Except Data.Fault Stencil := do
  return { ref := ← s.copy t.ref, comp := ← s.copy t.comp, passOp := ← s.copy t.passOp
           failOp := ← s.copy t.failOp
           zfailOp := ← s.copy t.zfailOp, readMask := ← s.copy t.readMask
           writeMask := ← s.copy t.writeMask }

/-- A part that may be missing, copied if it is there. -/
def copiedOr {α : Type} (copied : α → Except Data.Fault α) : Option α → Except Data.Fault (Option α)
  | none => .ok none
  | some a => some <$> copied a

def RenderState.copied (r : RenderState) : Except Data.Fault RenderState := do
  return { cull := ← s.copy r.cull, blend := ← s.copy r.blend, zwrite := ← s.copy r.zwrite
           ztest := ← s.copy r.ztest
           colorMask := ← s.copy r.colorMask, stencil := ← copiedOr (·.copied s) r.stencil }

def GlobalSettings.copied (g : GlobalSettings) : Except Data.Fault GlobalSettings := do
  return { cull := ← s.copy g.cull, blend := ← s.copy g.blend, zwrite := ← s.copy g.zwrite
           renderType := ← s.copy g.renderType, renderQueue := ← s.copy g.renderQueue }

/-- A pass as a record holds it: blocks and render state are copies, the rest is the pass's own. -/
def Pass.copied (p : Pass) : Except Data.Fault Pass := do
  let renderState ← copiedOr (·.copied s) p.renderState
  let blocks ← p.blocks.mapM (·.copied s)
  return { p with renderState, blocks }

end Draft

def Draft.copied (d : Draft) : Except Data.Fault Draft := do
  let globalSettings ← d.globalSettings.copied d.store
  let properties ← d.properties.mapM (·.copied d.store)
  let passes ← d.passes.mapM (·.copied d.store)
  return { d with globalSettings, properties, passes }

namespace Draft
variable (s : Store)

lemma copy_property (p : Property) :
    s.copy (Record.property p) = Record.property <$> p.copied s := by
  refine (s.copy_mapping (by rfl)).trans ?_
  simp only [List.mapM_cons, List.mapM_nil, map_eq_pure_bind, bind_assoc,
    pure_bind, Property.copied]
  rfl

lemma copy_block (b : Block) : s.copy (Record.block b) = Record.block <$> b.copied s := by
  refine (s.copy_mapping (by rfl)).trans ?_
  simp only [List.mapM_cons, List.mapM_nil, map_eq_pure_bind, bind_assoc, pure_bind, Block.copied]
  rfl

lemma copy_stencil (t : Stencil) : s.copy (Record.stencil t) = Record.stencil <$> t.copied s := by
  refine (s.copy_mapping (by rfl)).trans ?_
  simp only [List.mapM_cons, List.mapM_nil, map_eq_pure_bind, bind_assoc, pure_bind, Stencil.copied]
  rfl

lemma copy_globalSettings (g : GlobalSettings) :
    s.copy (Record.globalSettings g) = Record.globalSettings <$> g.copied s := by
  refine (s.copy_mapping (by rfl)).trans ?_
  simp only [List.mapM_cons, List.mapM_nil, map_eq_pure_bind, bind_assoc, pure_bind,
    GlobalSettings.copied]
  rfl

lemma copy_orNull {α : Type} {write : α → Data} {copied : α → Except Data.Fault α}
    (h : ∀ a, s.copy (write a) = write <$> copied a) (a : Option α) :
    s.copy (Record.orNull write a) = Record.orNull write <$> copiedOr copied a := by
  cases a with
  | none => rfl
  | some a =>
    rw [copiedOr, Functor.map_map]
    exact h a

lemma copy_renderState (r : RenderState) :
    s.copy (Record.renderState r) = Record.renderState <$> r.copied s := by
  refine (s.copy_mapping (by rfl)).trans ?_
  simp only [List.mapM_cons, List.mapM_nil, map_eq_pure_bind, bind_assoc, pure_bind, Record.entry,
    RenderState.copied, copy_orNull s (copy_stencil s)]
  rfl

lemma mapM_eq_map_mapM {α β : Type} {f : α → Except Data.Fault β} {g : α → Except Data.Fault α}
    {h : α → β} (hf : ∀ a, f a = h <$> g a) (as : List α) :
    as.mapM f = List.map h <$> as.mapM g := by
  induction as with
  | nil => rfl
  | cons a as ih =>
    rw [List.mapM_cons, List.mapM_cons, hf, ih]
    simp only [map_eq_pure_bind, bind_assoc, pure_bind, List.map_cons]

lemma copy_pass (p : Pass) :
    Record.pass s.copy p = (fun p => Id.run (Record.pass pure p)) <$> p.copied s := by
  simp only [Record.pass, Pass.copied, copy_orNull s (copy_renderState s),
    mapM_eq_map_mapM (copy_block s), map_eq_pure_bind, bind_assoc, pure_bind]
  simp

theorem toRecord_eq (d : Draft) :
    d.toRecord = (fun d => Id.run (Record.draft pure d)) <$> d.copied := by
  simp only [toRecord, Record.draft, Draft.copied, copy_globalSettings,
    mapM_eq_map_mapM (copy_property _), mapM_eq_map_mapM (copy_pass _), map_eq_pure_bind,
    bind_assoc, pure_bind]
  simp

end Draft
end MarkedShader
