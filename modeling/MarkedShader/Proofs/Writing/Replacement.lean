import MarkedShader.Proofs.Marker
import MarkedShader.Proofs.Source.Block
import MarkedShader.Proofs.Source.Located
import MarkedShader.Proofs.Splice
import MarkedShader.Proofs.Writing.Content

/-! Replacing the code of one block in a generated text gives the text that is generated with the
new code. The text of a document goes on alike after a block whatever its code is, so only the lines
of the block's own body differ. -/
namespace MarkedShader
open Text

namespace Text

/-- The lines of a text, of lines that may hold line breaks. -/
def textLines (ls : List Text) : List Text := ls.flatMap (·.splitOn '\n')

/-- Lines, each with a line break. -/
def ended (ls : List Text) : Text := ls.flatMap (· ++ ['\n'])

lemma ended_append (ls ks : List Text) : ended (ls ++ ks) = ended ls ++ ended ks :=
  List.flatMap_append

lemma ended_cons (l : Text) (ls : List Text) : ended (l :: ls) = l ++ '\n' :: ended ls := by
  simp [ended]

lemma textLines_append (ls ks : List Text) : textLines (ls ++ ks) = textLines ls ++ textLines ks :=
  List.flatMap_append

lemma textLines_cons {l : Text} (h : '\n' ∉ l) (ls : List Text) :
    textLines (l :: ls) = l :: textLines ls := by
  rw [textLines, List.flatMap_cons, List.splitOn_eq_singleton h]
  rfl

lemma joinLines_append_nil (ls : List Text) : joinLines (ls ++ [[]]) = ended ls := by
  induction ls with
  | nil => rfl
  | cons l ls ih =>
    obtain ⟨k, ks, hk⟩ : ∃ k ks, ls ++ [[]] = k :: ks := List.exists_cons_of_ne_nil (by simp)
    rw [List.cons_append, hk, joinLines_cons_cons, ← hk, ih]
    simp [ended]

lemma joinLines_ended {ls : List Text} (hne : ls ≠ []) : joinLines ls ++ ['\n'] = ended ls := by
  rw [← joinLines_append_nil, joinLines_append_singleton hne]

@[simp] lemma ended_textLines (ls : List Text) : ended (textLines ls) = ended ls := by
  induction ls with
  | nil => rfl
  | cons l ls ih =>
    have hl : ended (l.splitOn '\n') = ended [l] := by
      rw [← joinLines_ended (List.splitOn_ne_nil _ _), joinLines_splitOn]
      simp [ended]
    rw [textLines, List.flatMap_cons, ended_append, hl]
    exact (congrArg (ended [l] ++ ·) ih).trans (ended_append [l] ls).symm

lemma lines_ended {ls : List Text} (h : '\r' ∉ ended ls) :
    lines (ended ls) = textLines ls ++ [[]] := by
  have hsplit : ended ls = joinLines (textLines ls ++ [[]]) := by
    rw [joinLines_append_nil, ended_textLines]
  rw [lines, unifyBreaks_of_not_mem h, hsplit]
  refine splitOn_joinLines (by simp) fun l hl => ?_
  rcases List.mem_append.mp hl with hl | hl
  · obtain ⟨k, -, hk⟩ := List.mem_flatMap.mp hl
    exact not_mem_of_mem_splitOn hk
  · rw [List.mem_singleton.mp hl]
    exact List.not_mem_nil

end Text

namespace Layout

/-- A scope that is still open. -/
def opened (header : Text) (body : Layout) : Layout :=
  line (header ++ " \x7b".toList) ++ indented body

/-- Layouts that all end as their beginnings do and then with the same lines, the first of which is
given. -/
def GoesOn {α : Type} (indent : Text) (level : Nat) (filled : Bool) (first : Text)
    (whole upTo : α → Layout) : Prop :=
  ∃ rest, ∀ a, (whole a).lines indent level filled =
    (upTo a).lines indent level filled ++ first :: rest

/-- The lines of a part, at some level, stand after lines that do not depend on it. -/
def EndsWith (indent : Text) (level deep : Nat) (filled : Bool) (upTo : Layout → Layout) : Prop :=
  ∃ above after, ∀ part, (upTo part).lines indent level filled =
    above ++ part.lines indent deep after

variable {α : Type} {indent : Text} {level deep : Nat} {filled : Bool} {first : Text}
  {whole upTo : α → Layout} {f : Layout → Layout}

lemma filledAfter_append_cons (filled : Bool) (ls ks : List Text) (l : Text) :
    filledAfter filled (ls ++ l :: ks) = filledAfter false (l :: ks) := by
  rw [filledAfter_append]
  simp only [filledAfter, List.getLast?_cons]

lemma lines_append_assoc (l m k : Layout) :
    (l ++ m ++ k).lines indent level filled = (l ++ (m ++ k)).lines indent level filled := by
  simp only [lines_append, filledAfter_append, List.append_assoc]

lemma lines_concat_append (ls ks : List Layout) :
    (concat (ls ++ ks)).lines indent level filled =
      (concat ls ++ concat ks).lines indent level filled := by
  induction ls generalizing filled with
  | nil => rfl
  | cons l ls ih =>
    rw [List.cons_append, concat, lines_append, ih, ← lines_append, concat, lines_append_assoc]

namespace GoesOn

lemma congr {whole' : α → Layout} (h : GoesOn indent level filled first whole upTo)
    (same : ∀ a, (whole' a).lines indent level filled = (whole a).lines indent level filled) :
    GoesOn indent level filled first whole' upTo := by
  obtain ⟨rest, h⟩ := h
  exact ⟨rest, fun a => (same a).trans (h a)⟩

lemma before (h : GoesOn indent level filled first whole upTo) (k : Layout) :
    GoesOn indent level filled first (fun a => whole a ++ k) upTo := by
  obtain ⟨rest, h⟩ := h
  refine ⟨rest ++ k.lines indent level (filledAfter false (first :: rest)), fun a => ?_⟩
  rw [lines_append, h, filledAfter_append_cons, List.append_assoc, List.cons_append]

lemma after (k : Layout)
    (h : GoesOn indent level (filledAfter filled (k.lines indent level filled)) first whole upTo) :
    GoesOn indent level filled first (fun a => k ++ whole a) (fun a => k ++ upTo a) := by
  obtain ⟨rest, h⟩ := h
  refine ⟨rest, fun a => ?_⟩
  rw [lines_append, lines_append, h, List.append_assoc]

/-- One of many layouts in a row goes on. -/
lemma concat (before after : List Layout)
    (h : ∀ filled, GoesOn indent level filled first whole upTo) :
    GoesOn indent level filled first (fun a => concat (before ++ whole a :: after))
      (fun a => concat before ++ upTo a) :=
  ((h _).before (Layout.concat after)).after (Layout.concat before) |>.congr fun _ =>
    lines_concat_append _ _

lemma indented (h : GoesOn indent (level+1) filled first whole upTo) :
    GoesOn indent level filled first (fun a => indented (whole a)) (fun a => indented (upTo a)) := h

lemma scope (header : Text) (h : ∀ filled, GoesOn indent (level+1) filled first whole upTo) :
    GoesOn indent level filled first (fun a => scope header (whole a))
      (fun a => opened header (upTo a)) :=
  before (after _ (indented (h _))) _

end GoesOn

namespace EndsWith

lemma part : EndsWith indent level level filled id := ⟨[], filled, fun _ => rfl⟩

lemma after (k : Layout)
    (h : EndsWith indent level deep (filledAfter filled (k.lines indent level filled)) f) :
    EndsWith indent level deep filled (fun part => k ++ f part) := by
  obtain ⟨above, inner, h⟩ := h
  refine ⟨k.lines indent level filled ++ above, inner, fun part => ?_⟩
  rw [lines_append, h, List.append_assoc]

lemma indented (h : EndsWith indent (level+1) deep filled f) :
    EndsWith indent level deep filled (fun part => indented (f part)) := h

lemma opened (header : Text) (h : ∀ filled, EndsWith indent (level+1) deep filled f) :
    EndsWith indent level deep filled (fun part => opened header (f part)) :=
  after _ (indented (h _))

end EndsWith
end Layout

/-- A block in a document, in a pass that has a program. -/
structure Site (d : Document) where
  place : Position
  pass : Pass
  block : Block
  pass_at : d.passes[place.pass]? = some pass
  block_at : pass.blocks[place.block]? = some block
  isOwn : pass.isUsePass = false

namespace Writing

variable (settings : Settings) (r : Registry)

/-- A block up to its end marker. -/
def opening (ps : List Property) (b : Block) : Layout :=
  .line (Marker.blockStart settings.tagPrefix b.title) ++
    .ofLines (header settings.tagPrefix b.intent (paramsOf ps b) b.isEnabled) ++
      .verbatim (body b.isEnabled b.code)

/-- Sections up to a block with an index, and then a part of that block. -/
def sectionsUpTo (ps : List Property) (g : Graph) (p : Pass) (index : Nat) (s : Section)
    (part : Layout) : List (Section × Text) → Layout
  | [] => part
  | q :: qs =>
    if q.1 = s then
      .line (Marker.sectionLabel settings.tagPrefix q.2) ++
        (.concat (((p.blocks.take index).filter fun b => b.inSection = q.1).map
          (block settings.tagPrefix ps)) ++ part)
    else inSection settings r ps g p q.1 q.2 ++ sectionsUpTo ps g p index s part qs

def programUpTo (ps : List Property) (p : Pass) (index : Nat) (s : Section)
    (part : Layout) : Layout :=
  let g := p.graph.getD (.ofRegistry r)
  .line "HLSLPROGRAM".toList ++ .ofLines p.pragmas ++ .blank ++
    .ofLines (p.includes.map fun path => "#include ".toList ++ inDoubleQuotes path) ++ .blank ++
    materialDeclarations settings ps ++ structs settings g ++
    sectionsUpTo settings r ps g p index s part Section.layout

def passUpTo (ps : List Property) (p : Pass) (index : Nat) (s : Section) (part : Layout) : Layout :=
  .blank ++
  .line (Marker.pass settings.tagPrefix
    [("name".toList, p.name), ("lightmode".toList, p.lightMode)]) ++
  .opened "Pass".toList (
    .line ("Name ".toList ++ inDoubleQuotes p.name) ++
    (if p.lightMode.isEmpty then .empty else .line (tags [("LightMode", p.lightMode)])) ++
    (p.renderState.map renderState).getD .empty ++ .blank ++
      programUpTo settings r ps p index s part)

def subshaderUpTo (g : GlobalSettings) (passes : List Layout) (part : Layout) : Layout :=
  .opened "SubShader".toList (
    .line (Marker.global settings.tagPrefix [
      ("cull".toList, g.cull), ("blend".toList, g.blend), ("zwrite".toList, g.zwrite),
      ("rendertype".toList, g.renderType), ("queue".toList, g.renderQueue)]) ++
    .line (tags [("RenderType", g.renderType), ("Queue", g.renderQueue),
      ("RenderPipeline", settings.renderPipeline)]) ++
    .line ("Cull ".toList ++ g.cull) ++
    (if g.blend = "Off".toList then .empty else .line ("Blend ".toList ++ g.blend)) ++
    .line ("ZWrite ".toList ++ g.zwrite) ++ (.concat passes ++ part))

/-- What is written of a document up to a block, and then a part of that block. -/
def documentUpTo {d : Document} (site : Site d) (part : Layout) : Layout :=
  .opened ("Shader ".toList ++ inDoubleQuotes d.shaderName) (
    properties settings d.properties ++
    subshaderUpTo settings d.globalSettings
      ((d.passes.take site.place.pass).map (pass settings r d.properties))
      (passUpTo settings r d.properties site.pass site.place.block site.block.inSection part))

end Writing

namespace Site

variable (settings : Settings) (r : Registry) {d : Document} (site : Site d)

/-- The text lines that are written before a part of a block that ends where the part does. -/
def linesUpTo (part : Layout) : List Text :=
  textLines ((Writing.documentUpTo settings r site part).lines settings.indent 0 false)

/-- The text line on which the start marker of a block is written. -/
def startLine : Nat := (site.linesUpTo settings r .empty).length

/-- The text line on which the end marker of a block is written. -/
def endLine : Nat :=
  (site.linesUpTo settings r (Writing.opening settings d.properties site.block)).length

end Site

/-- New code for a block, with nothing but its own lines to change. -/
structure Recoding (b : Block) where
  code : Text
  defines : isDeclarationOnly code = false
  head_eq : b.inSection = .vertex ∨ b.inSection = .fragment →
    Signature.find? code = Signature.find? b.code

namespace Recoding

variable {b : Block}

def apply (c : Recoding b) : Block := { b with code := c.code }

/-- The code that a block has. -/
def own (b : Block) (h : isDeclarationOnly b.code = false) : Recoding b := ⟨b.code, h, fun _ => rfl⟩

end Recoding

namespace Writing

variable {settings : Settings} {r : Registry} {ps : List Property} {b : Block}
  {level : Nat} {filled : Bool}

lemma lines_block (h : isDeclarationOnly b.code = false) :
    (block settings.tagPrefix ps b).lines settings.indent level filled =
      (opening settings ps b).lines settings.indent level filled ++
        [Layout.margin settings.indent level ++ Marker.blockEnd settings.tagPrefix, []] := by
  have hend : Marker.blockEnd settings.tagPrefix ≠ [] := Marker.format_ne_nil _ _ _
  rw [block, blockWith, if_neg (by simp [h])]
  rw [Layout.lines_append, Layout.lines_append, Layout.lines_line hend,
    Layout.lines_blank _ _ (by simp [hend]), List.append_assoc]
  rfl

/-- The calls of a block's functions do not depend on the rest of its code. -/
lemma call_recoded (settings : Settings) (c : Recoding b) (h : isDeclarationOnly b.code = false) :
    (b.inSection = .vertex → vertexCall? c.apply = vertexCall? b) ∧
      (b.inSection = .fragment → fragmentCall? settings c.apply = fragmentCall? settings b) := by
  have hcallable : isCallable c.apply = isCallable b := by
    simp [isCallable, Recoding.apply, c.defines, h]
  refine ⟨fun hs => ?_, fun hs => ?_⟩
  · rw [vertexCall?, vertexCall?, hcallable]
    simp only [Recoding.apply, c.head_eq (.inl hs)]
  · rw [fragmentCall?, fragmentCall?, hcallable]
    simp only [Recoding.apply, c.head_eq (.inr hs)]

end Writing

lemma modify_of_getElem? {α : Type} {as : List α} {i : Nat} {a : α} (h : as[i]? = some a)
    (f : α → α) : as.modify i f = as.take i ++ f a :: as.drop (i+1) := by
  obtain ⟨hi, rfl⟩ := List.getElem?_eq_some_iff.mp h
  exact List.modify_eq_take_cons_drop hi

/-- A pass with new code for one of its blocks. -/
def Pass.recoded (p : Pass) (index : Nat) (code : Text) : Pass :=
  { p with blocks := p.blocks.modify index fun b => { b with code } }

namespace Writing

variable {settings : Settings} {r : Registry} {ps : List Property} {g : Graph} {p : Pass}
  {b : Block} {index level : Nat} {filled : Bool}

/-- The code of a block does not change what follows the blocks of its section. -/
lemma entryAfter_recoded (c : Recoding b) (h : isDeclarationOnly b.code = false)
    (before after : List Block) : entryAfter settings r g b.inSection (before ++ c.apply :: after) =
      entryAfter settings r g b.inSection (before ++ b :: after) := by
  have hcalls : ∀ {call : Block → Option Text}, call c.apply = call b →
      (before ++ c.apply :: after).filterMap call = (before ++ b :: after).filterMap call := by
    intro call hcall
    rw [List.filterMap_append, List.filterMap_append, List.filterMap_cons,
      List.filterMap_cons, hcall]
  obtain ⟨hvertex, hfragment⟩ := call_recoded settings c h
  cases hs : b.inSection with
  | vertex => simp only [entryAfter, vertexEntry, vertexBody, vertexLines, hcalls (hvertex hs)]
  | fragment => simp only [entryAfter, fragmentEntry, hcalls (hfragment hs)]
  | _ => rfl

section
variable (at_index : p.blocks[index]? = some b)
include at_index

lemma blocksIn_recoded (c : Recoding b) : (p.recoded index c.code).blocksIn b.inSection =
    ((p.blocks.take index).filter fun a => a.inSection = b.inSection) ++
      c.apply :: (p.blocks.drop (index+1)).filter fun a => a.inSection = b.inSection := by
  rw [Pass.blocksIn, Pass.recoded, modify_of_getElem? at_index, List.filter_append]
  exact congrArg (_ ++ ·) (List.filter_cons_of_pos (by simp))

lemma blocksIn_recoded_of_ne (c : Recoding b) {s : Section} (hs : s ≠ b.inSection) :
    (p.recoded index c.code).blocksIn s = p.blocksIn s := by
  have hold : p.blocks = p.blocks.take index ++ b :: p.blocks.drop (index+1) := by
    have := modify_of_getElem? at_index id
    rwa [List.modify_id] at this
  rw [Pass.blocksIn, Pass.recoded, modify_of_getElem? at_index, Pass.blocksIn]
  conv_rhs => rw [hold]
  rw [List.filter_append, List.filter_append, List.filter_cons_of_neg (by simpa using Ne.symm hs),
    List.filter_cons_of_neg (by simpa using Ne.symm hs)]

lemma inSection_recoded_of_ne (c : Recoding b) {s : Section} (hs : s ≠ b.inSection) (label : Text) :
    inSection settings r ps g (p.recoded index c.code) s label =
      inSection settings r ps g p s label := by
  rw [inSection_eq, inSection_eq, blocksIn_recoded_of_ne at_index c hs]

/-- The section of a block goes on alike after it. -/
lemma goesOn_inSection (h : isDeclarationOnly b.code = false) (label : Text) :
    Layout.GoesOn settings.indent level filled
      (Layout.margin settings.indent level ++ Marker.blockEnd settings.tagPrefix)
      (fun c : Recoding b => inSection settings r ps g (p.recoded index c.code) b.inSection label)
      (fun c => .line (Marker.sectionLabel settings.tagPrefix label) ++
        (.concat (((p.blocks.take index).filter fun a => a.inSection = b.inSection).map
          (block settings.tagPrefix ps)) ++
          opening settings ps c.apply)) := by
  set before := (p.blocks.take index).filter fun a => a.inSection = b.inSection with hbefore
  set after := (p.blocks.drop (index+1)).filter fun a => a.inSection = b.inSection with hafter
  have hwhole :
      ∀ c : Recoding b, inSection settings r ps g (p.recoded index c.code) b.inSection label =
      .line (Marker.sectionLabel settings.tagPrefix label) ++
        .concat (before.map (block settings.tagPrefix ps) ++
          block settings.tagPrefix ps c.apply :: after.map (block settings.tagPrefix ps)) ++
        entryAfter settings r g b.inSection (before ++ b :: after) := by
    intro c
    rw [inSection_eq, blocksIn_recoded at_index c, entryAfter_recoded c h, sectionWith,
      if_neg (by simp), List.map_append, List.map_cons]
  have hblocks : ∀ filled, Layout.GoesOn settings.indent level filled
      (Layout.margin settings.indent level ++ Marker.blockEnd settings.tagPrefix)
      (fun c : Recoding b => block settings.tagPrefix ps c.apply)
        (fun c => opening settings ps c.apply) :=
    fun filled => ⟨[[]], fun c => lines_block c.defines⟩
  refine ((Layout.GoesOn.after (Layout.line (Marker.sectionLabel settings.tagPrefix label))
    (.concat (before.map (block settings.tagPrefix ps))
      (after.map (block settings.tagPrefix ps)) hblocks)).before
    (entryAfter settings r g b.inSection (before ++ b :: after))).congr fun c => ?_
  rw [hwhole]

/-- Of sections in a row, the one of the block goes on and the others stay as they are. -/
lemma goesOn_sections (h : isDeclarationOnly b.code = false) {qs : List (Section × Text)}
    (nodup : (qs.map (·.1)).Nodup) (mem : b.inSection ∈ qs.map (·.1)) :
    Layout.GoesOn settings.indent level filled
      (Layout.margin settings.indent level ++ Marker.blockEnd settings.tagPrefix)
      (fun c : Recoding b => .concat
        (qs.map fun q => inSection settings r ps g (p.recoded index c.code) q.1 q.2))
      (fun c => sectionsUpTo settings r ps g p index b.inSection (opening settings ps c.apply)
        qs) := by
  induction qs generalizing filled with
  | nil => contradiction
  | cons q qs ih =>
    rw [List.map_cons, List.nodup_cons] at nodup
    simp only [List.map_cons, Layout.concat, sectionsUpTo]
    by_cases hq : q.1 = b.inSection
    · -- no later section is the block's
      have hrest : ∀ c : Recoding b,
          (qs.map fun q => inSection settings r ps g (p.recoded index c.code) q.1 q.2) =
          qs.map fun q => inSection settings r ps g p q.1 q.2 := by
        refine fun c => List.map_congr_left fun q' hq' =>
          inSection_recoded_of_ne at_index c (fun he => ?_) q'.2
        exact nodup.1 (hq.trans he.symm ▸ List.mem_map_of_mem hq')
      simp only [hrest, if_pos hq]
      rw [hq]
      exact (goesOn_inSection at_index h q.2).before _
    · simp only [inSection_recoded_of_ne at_index _ hq, if_neg hq]
      exact .after _ (ih nodup.2 ((List.mem_cons.mp mem).resolve_left (Ne.symm hq)))

lemma goesOn_program (h : isDeclarationOnly b.code = false) :
    Layout.GoesOn settings.indent level filled
      (Layout.margin settings.indent level ++ Marker.blockEnd settings.tagPrefix)
      (fun c : Recoding b => program settings r ps (p.recoded index c.code))
      (fun c => programUpTo settings r ps p index b.inSection (opening settings ps c.apply)) := by
  have hlayout : b.inSection ∈ Section.layout.map (·.1) := by
    cases b.inSection <;> decide
  have hprogram : ∀ c : Recoding b, program settings r ps (p.recoded index c.code) =
      programWith settings ps p.pragmas p.includes (structs settings (p.graph.getD (.ofRegistry r)))
        (.concat (Section.layout.map fun q =>
          inSection settings r ps (p.graph.getD (.ofRegistry r))
            (p.recoded index c.code) q.1 q.2)) := fun _ => rfl
  simp only [hprogram, programWith, programUpTo]
  exact .before (.after _ (goesOn_sections at_index h (by decide) hlayout)) _

lemma goesOn_pass (h : isDeclarationOnly b.code = false) (isOwn : p.isUsePass = false) :
    Layout.GoesOn settings.indent level filled
      (Layout.margin settings.indent (level+1) ++ Marker.blockEnd settings.tagPrefix)
      (fun c : Recoding b => pass settings r ps (p.recoded index c.code))
      (fun c => passUpTo settings r ps p index b.inSection (opening settings ps c.apply)) := by
  have hpass : ∀ c : Recoding b, pass settings r ps (p.recoded index c.code) =
      passWith settings p.name p.lightMode ((p.renderState.map renderState).getD .empty)
        (program settings r ps (p.recoded index c.code)) :=
    fun c => if_neg (by simp [Pass.recoded, isOwn])
  simp only [hpass, passWith, passUpTo]
  exact .after _ (.scope _ fun _ => .after _ (goesOn_program at_index h))

end
end Writing

namespace Site

variable {settings : Settings} {r : Registry} {d : Document} (site : Site d)

/-- The document with new code for the block. -/
def recoded (code : Text) : Document := d.modifyBlock site.place fun b => { b with code }

lemma recoded_own : site.recoded site.block.code = d := by
  have hblocks :
      site.pass.blocks.modify site.place.block (fun b => { b with code := site.block.code }) =
        site.pass.blocks := by
    have := modify_of_getElem? site.block_at id
    rw [List.modify_id] at this
    rw [modify_of_getElem? site.block_at]
    exact this.symm
  have hpasses : d.passes.modify site.place.pass (fun p =>
      { p with blocks := p.blocks.modify site.place.block fun b =>
                 { b with code := site.block.code } }) = d.passes := by
    have := modify_of_getElem? site.pass_at id
    rw [List.modify_id] at this
    rw [modify_of_getElem? site.pass_at, hblocks]
    exact this.symm
  rw [recoded, Document.modifyBlock, Document.modifyPass, hpasses]

/-- The text of a document goes on alike after one of its blocks. -/
lemma goesOn_document (h : isDeclarationOnly site.block.code = false) :
    Layout.GoesOn settings.indent 0 false
      (Layout.margin settings.indent 3 ++ Marker.blockEnd settings.tagPrefix)
      (fun c : Recoding site.block => Writing.document settings r (site.recoded c.code)) (fun c =>
        Writing.documentUpTo settings r site (Writing.opening settings d.properties c.apply)) := by
  have hpasses : ∀ c : Recoding site.block, (site.recoded c.code).passes =
      d.passes.take site.place.pass ++ site.pass.recoded site.place.block c.code ::
        d.passes.drop (site.place.pass+1) :=
    fun c => modify_of_getElem? site.pass_at _
  have hdocument : ∀ c : Recoding site.block, Writing.document settings r (site.recoded c.code) =
      Writing.shader settings d.shaderName d.properties d.globalSettings
        ((site.recoded c.code).passes.map (Writing.pass settings r d.properties)) := fun _ => rfl
  simp only [hdocument, hpasses, List.map_append, List.map_cons, Writing.shader, Writing.subshader,
    Writing.documentUpTo, Writing.subshaderUpTo]
  exact .scope _ fun _ => .before (.after _ (.scope _ fun _ => .after _ (.concat _ _ fun _ =>
    Writing.goesOn_pass site.block_at h site.isOwn))) _

lemma endsWith_documentUpTo :
    Layout.EndsWith settings.indent 0 3 false (Writing.documentUpTo settings r site) := by
  have hsections : ∀ filled qs, Layout.EndsWith settings.indent 3 3 filled fun part =>
      Writing.sectionsUpTo settings r d.properties (site.pass.graph.getD (.ofRegistry r)) site.pass
        site.place.block site.block.inSection part qs := by
    intro filled qs
    induction qs generalizing filled with
    | nil => exact .part
    | cons q qs ih =>
      by_cases hq : q.1 = site.block.inSection
      · simp only [Writing.sectionsUpTo, if_pos hq]
        exact .after _ (.after _ .part)
      · simp only [Writing.sectionsUpTo, if_neg hq]
        exact .after _ (ih _)
  exact .opened _ fun _ =>
    .after _ (.opened _ fun _ => .after _ (.after _ (.after _ (.opened _ fun _ => .after _
    (.after _ (hsections _ _))))))

end Site

namespace Splice

variable {above inner below header body : List Text} {first last : Text}

/-- What stands between two lines is replaced, whatever stands between them. -/
theorem between_append {ls : List Text} (h : ls = above ++ first :: (inner ++ last :: below)) :
    between above.length (above ++ first :: inner).length header body ls =
      above ++ first :: (header.map (first.takeWhile isBlank ++ ·) ++
        body.map (addMargin (first.takeWhile isBlank))) ++
        last :: below := by
  have hfirst : ls[above.length]? = some first := by
    rw [h, List.getElem?_append_right (Nat.le_refl _), Nat.sub_self, List.getElem?_cons_zero]
  have htake : ls.take (above.length+1) = above ++ [first] := by
    rw [h, List.append_cons, List.take_left' (by simp)]
  have hdrop : ls.drop (above ++ first :: inner).length = last :: below := by
    rw [h, ← List.cons_append, ← List.append_assoc, List.drop_left]
  rw [between, hfirst, htake, hdrop]
  simp only [Option.getD_some, List.append_assoc, List.cons_append]
  rfl

end Splice

lemma Block.isCurrentIn_append {pre : Text} {b : Block} {above inner below ls : List Text}
    {first last : Text} (h : ls = above ++ first :: (inner ++ last :: below))
    (hfirst : b.startLine = above.length) (hlast : b.endLine = (above ++ first :: inner).length)
    (hstart : Marker.blockStart? pre first = some b.title) (hend : Marker.isBlockEnd pre last) :
    b.isCurrentIn pre ls := by
  have hlength : (above ++ first :: inner).length = above.length+1+inner.length := by
    simp only [List.length_append, List.length_cons]
    omega
  have hwhole : ls = (above ++ first :: inner) ++ last :: below := by
    rw [h, List.append_assoc, List.cons_append]
  have hlines : ls.length = above.length+1+inner.length+1+below.length := by
    rw [hwhole, List.length_append, hlength, List.length_cons]
    omega
  refine isCurrentIn_iff.mpr ⟨by omega, by omega, by omega, ?_, ?_⟩
  · rw [hfirst, Int.toNat_natCast, h, List.getElem?_append_right (Nat.le_refl _), Nat.sub_self]
    exact hstart
  · rw [hlast, Int.toNat_natCast, hwhole, List.getElem?_append_right (Nat.le_refl _), Nat.sub_self]
    exact hend

namespace Writing

variable {settings : Settings} {ps : List Property} {b : Block} {level : Nat} {filled : Bool}

/-- The lines of a block after its start marker and before its end marker. -/
def innerLines (settings : Settings) (ps : List Property) (margin : Text) (b : Block)
    (code : Text) : List Text :=
  (header settings.tagPrefix b.intent (paramsOf ps b) b.isEnabled).map (margin ++ ·) ++
    (body b.isEnabled code).map (addMargin margin)

lemma lines_opening : (opening settings ps b).lines settings.indent level filled =
    (Layout.margin settings.indent level ++ Marker.blockStart settings.tagPrefix b.title) ::
      innerLines settings ps (Layout.margin settings.indent level) b b.code := by
  have hstart : Marker.blockStart settings.tagPrefix b.title ≠ [] := Marker.format_ne_nil _ _ _
  rw [opening, Layout.lines_append, Layout.lines_append, Layout.lines_line hstart,
    Layout.lines_ofLines fun l hl => Source.ne_nil_of_mem_header l hl]
  rfl

end Writing

namespace Site

variable {settings : Settings} {r : Registry} {d : Document} (site : Site d)

/-- The line of the start marker. -/
def firstLine (settings : Settings) : Text :=
  Layout.margin settings.indent 3 ++ Marker.blockStart settings.tagPrefix site.block.title

/-- The lines of a document around the inside of a block, for every code of the block. -/
lemma lines_recoded (h : isDeclarationOnly site.block.code = false) : ∃ above below,
    site.startLine settings r = (textLines above).length ∧
    site.endLine settings r = (textLines above ++ textLines (site.firstLine settings ::
      Writing.innerLines settings d.properties
      (Layout.margin settings.indent 3) site.block site.block.code)).length ∧
    ∀ c : Recoding site.block,
      (Writing.document settings r (site.recoded c.code)).lines settings.indent 0 false =
      above ++ site.firstLine settings ::
        (Writing.innerLines settings d.properties
          (Layout.margin settings.indent 3) site.block c.code ++
          (Layout.margin settings.indent 3 ++ Marker.blockEnd settings.tagPrefix) :: below) := by
  obtain ⟨below, hwhole⟩ := site.goesOn_document (r := r) h
  obtain ⟨above, after, hupTo⟩ := site.endsWith_documentUpTo (r := r)
  refine ⟨above, below, ?_, ?_, fun c => ?_⟩
  · rw [startLine, linesUpTo, hupTo]
    simp [Layout.lines]
  · rw [endLine, linesUpTo, hupTo, Writing.lines_opening, textLines_append]
    rfl
  · rw [hwhole c, hupTo, Writing.lines_opening, List.append_assoc]
    rfl

lemma isBlank_margin (indents : ∀ c ∈ settings.indent, c = ' ' ∨ c = '\t') :
    '\n' ∉ Layout.margin settings.indent 3 ∧ ∀ c ∈ Layout.margin settings.indent 3, isBlank c := by
  have hmargin := Layout.isMargin_margin indents 3
  refine ⟨fun hc => ?_, fun c hc => ?_⟩
  · rcases hmargin _ hc with h | h <;> exact absurd h (by decide)
  · rcases hmargin c hc with rfl | rfl <;> decide

lemma firstLine_spec (indents : ∀ c ∈ settings.indent, c = ' ' ∨ c = '\t')
    (words : ∀ c ∈ settings.tagPrefix, isWord c) (titled : site.block.title ≠ [])
    (unquoted : '"' ∉ site.block.title) (flat : '\n' ∉ site.block.title) :
    '\n' ∉ site.firstLine settings ∧
      (site.firstLine settings).takeWhile isBlank = Layout.margin settings.indent 3 ∧
      Marker.blockStart? settings.tagPrefix (site.firstLine settings) = some site.block.title := by
  obtain ⟨hmargin, hblank⟩ := isBlank_margin indents
  have hquoted := Marker.inQuotes_eq unquoted flat
  have hstart : Marker.blockStart settings.tagPrefix site.block.title =
      Marker.format settings.tagPrefix .blockStart (Marker.inQuotes site.block.title) :=
    Marker.blockStart_eq_format titled
  refine ⟨fun hc => ?_, ?_, ?_⟩
  · rcases List.mem_append.mp hc with hc | hc
    · exact hmargin hc
    · rw [hstart] at hc
      refine Marker.not_mem_format words (by decide) (by decide) ?_ hc
      rw [hquoted]
      simpa using flat
  · rw [firstLine, List.takeWhile_append_of_pos hblank, hstart, Marker.format_eq, Marker.written_eq,
      List.takeWhile_cons_of_neg (by decide), List.append_nil]
  · rw [firstLine, hstart, Marker.blockStart?, Marker.search_margin Marker.needsTag_namedAt? hblank]
    exact search_of_reads (Marker.namedAt?_format unquoted flat titled)

lemma lastLine_spec (indents : ∀ c ∈ settings.indent, c = ' ' ∨ c = '\t')
    (words : ∀ c ∈ settings.tagPrefix, isWord c) :
    '\n' ∉ Layout.margin settings.indent 3 ++ Marker.blockEnd settings.tagPrefix ∧
      Marker.isBlockEnd settings.tagPrefix
        (Layout.margin settings.indent 3 ++ Marker.blockEnd settings.tagPrefix) := by
  obtain ⟨hmargin, hblank⟩ := isBlank_margin indents
  refine ⟨fun hc => ?_, ?_⟩
  · rcases List.mem_append.mp hc with hc | hc
    · exact hmargin hc
    · exact Marker.not_mem_format words (by decide) (by decide) List.not_mem_nil hc
  · rw [Marker.isBlockEnd, Marker.search_margin Marker.needsTag_plainAt? hblank, Marker.blockEnd,
      search_of_reads Marker.plainAt?_format]
    rfl

lemma found (unique : (d.allBlocks.filter fun b => b.id = site.block.id).length = 1) :
    (d.findBlock? site.block.id).bind d.blockAt? = some site.block := by
  have hmem : site.block ∈ d.allBlocks.filter fun b => b.id = site.block.id := by
    refine List.mem_filter.mpr ⟨List.mem_flatMap.mpr ⟨site.pass, ?_, ?_⟩, by simp⟩
    · exact List.mem_of_getElem? site.pass_at
    · exact List.mem_of_getElem? site.block_at
  obtain ⟨b, hb⟩ := List.length_eq_one_iff.mp unique
  rw [hb, List.mem_singleton] at hmem
  rw [Document.findBlock?, Document.blockAt?_findPosition?, ← List.head?_filter, hb, hmem]
  rfl

end Site

/-- Where the raw text is the generated one and the block's recorded lines are those it is written
on, replacing its code there gives the text that is generated with the new code. -/
theorem Document.replaceBlock_eq_generate {settings : Settings} {r : Registry} {d : Document}
    (site : Site d) (indents : ∀ c ∈ settings.indent, c = ' ' ∨ c = '\t')
    (words : ∀ c ∈ settings.tagPrefix, isWord c) (raw : d.rawContent = d.generate settings r)
    (unbroken : '\r' ∉ d.rawContent)
    (unique : (d.allBlocks.filter fun b => b.id = site.block.id).length = 1)
    (first : site.block.startLine = site.startLine settings r)
    (last : site.block.endLine = site.endLine settings r) (titled : site.block.title ≠ [])
    (unquoted : '"' ∉ site.block.title) (flat : '\n' ∉ site.block.title)
    (old : isDeclarationOnly site.block.code = false) (code : Text)
    (new : isDeclarationOnly code = false)
    (head : site.block.inSection = .vertex ∨ site.block.inSection = .fragment →
      Signature.find? code = Signature.find? site.block.code) :
    d.replaceBlock settings.tagPrefix site.block.id code =
      (d.modifyBlock site.place fun b => { b with code }).generate settings r := by
  obtain ⟨hplain, hmargin, hstart⟩ := site.firstLine_spec indents words titled unquoted flat
  obtain ⟨above, below, hfirst, hlast, hlines⟩ := site.lines_recoded (r := r) old
  set margin := Layout.margin settings.indent 3
  set inner := Writing.innerLines settings d.properties margin site.block with hinner
  set opener := site.firstLine settings
  set closer := margin ++ Marker.blockEnd settings.tagPrefix with hcloser
  have hgenerate : ∀ c : Recoding site.block, (site.recoded c.code).generate settings r =
      ended (above ++ opener :: (inner c.code ++ closer :: below)) := by
    intro c
    rw [Document.generate, Layout.text, hlines, joinLines_ended (by simp)]
  have hraw :
      d.rawContent = ended (above ++ opener :: (inner site.block.code ++ closer :: below)) := by
    have := hgenerate (.own site.block old)
    rwa [Recoding.own, site.recoded_own, ← raw] at this
  obtain ⟨hflat, hend⟩ := Site.lastLine_spec indents words
  have hls : lines d.rawContent = textLines above ++ opener :: (textLines (inner site.block.code) ++
      closer :: (textLines below ++ [[]])) := by
    rw [hraw] at unbroken ⊢
    rw [lines_ended unbroken, textLines_append, textLines_cons hplain, textLines_append,
      textLines_cons hflat]
    simp only [List.append_assoc, List.cons_append]
    rfl
  have hlast' : site.block.endLine =
      (textLines above ++ opener :: textLines (inner site.block.code)).length := by
    rw [last, hlast, textLines_cons hplain]
  have hcurrent := Block.isCurrentIn_append hls (first.trans (congrArg _ hfirst)) hlast' hstart hend
  have hsplice : site.block.spliceInto settings.tagPrefix d.properties code (lines d.rawContent) =
      textLines above ++ opener :: inner code ++ closer :: (textLines below ++ [[]]) := by
    rw [Block.spliceInto, first, hfirst, hlast', Int.toNat_natCast, Int.toNat_natCast,
      Splice.between_append hls, hmargin]
    rfl
  calc d.replaceBlock settings.tagPrefix site.block.id code =
    joinLines ((textLines above ++ opener :: inner code ++ closer :: textLines below) ++ [[]]) := by
        rw [Document.replaceBlock_of_current (site.found unique) hcurrent, hsplice]
        simp
    _ = ended (above ++ opener :: (inner code ++ closer :: below)) := by
        rw [joinLines_append_nil]
        simp [ended_append, ended_cons]
    _ = (d.modifyBlock site.place fun b => { b with code }).generate settings r :=
      (hgenerate ⟨code, new, head⟩).symm

/-- A vertex block that is written, with its lines, in a text without other blocks. -/
def liftBlock : Block := {
  title := "Lift".toList, code := "void Lift(float3 p) \x7b\x7d".toList, inSection := .vertex
  startLine := 24, endLine := 26
  id := .given "lift".toList }

def liftDocument : Document :=
  let d : Document :=
    { passes := [{ name := "Lit".toList, blocks := [liftBlock], id := .given "lit".toList }] }
  { d with rawContent := d.generate {} .standard }

def liftSite : Site liftDocument where
  place := ⟨0, 0⟩
  pass := { name := "Lit".toList, blocks := [liftBlock], id := .given "lit".toList }
  block := liftBlock
  pass_at := rfl
  block_at := rfl
  isOwn := rfl

theorem Document.replaceBlock_lift : liftDocument.replaceBlock "AILab".toList (.given "lift".toList)
    "void Lift(float3 p) \x7b\n    p.y += 1;\n\x7d".toList =
      (liftDocument.modifyBlock ⟨0, 0⟩ fun b =>
        { b with code := "void Lift(float3 p) \x7b\n    p.y += 1;\n\x7d".toList }).generate
        {} .standard :=
  replaceBlock_eq_generate liftSite (by decide) (by decide) rfl (by decide +kernel)
    (by decide) (by decide +kernel) (by decide +kernel) (by decide) (by decide) (by decide)
    (by decide) _ (by decide) fun _ => by decide

end MarkedShader
