import MarkedShader.Proofs.Source.Passes
import MarkedShader.Proofs.Source.Properties

/-! A document is read back from the text it is written in. -/
namespace MarkedShader

/-- Render defaults that are read back. -/
def GlobalSettings.Legible (g : GlobalSettings) : Prop :=
  ∀ t ∈ [g.cull, g.blend, g.zwrite, g.renderType, g.renderQueue], Plain ({} : Settings).tagPrefix t

instance (g : GlobalSettings) : Decidable g.Legible := inferInstanceAs (Decidable (∀ _ ∈ _, _))

namespace Source
open Text

variable {g : GlobalSettings} {ps : List Property}

def settingsAttributes (g : GlobalSettings) : Attributes := [
  ("cull".toList, g.cull), ("blend".toList, g.blend), ("zwrite".toList, g.zwrite),
  ("rendertype".toList, g.renderType),
  ("queue".toList, g.renderQueue)]

def settingsMarker (g : GlobalSettings) : Text :=
  marginAt 2 ++ Marker.global ({} : Settings).tagPrefix (settingsAttributes g)

def settingsTags (g : GlobalSettings) : Text :=
  Writing.tags [("RenderType", g.renderType), ("Queue", g.renderQueue),
  ("RenderPipeline", ({} : Settings).renderPipeline)]

/-- The lines of the render defaults below their marker. -/
def settingsLines (g : GlobalSettings) : List Text :=
  [marginAt 2 ++ settingsTags g, marginAt 2 ++ valueLine .cull g.cull] ++
    (if g.blend = "Off".toList then [] else [marginAt 2 ++ valueLine .blend g.blend]) ++
    [marginAt 2 ++ valueLine .zwrite g.zwrite]

lemma lines_subshader (g : GlobalSettings) (passes : List Layout) (filled : Bool) :
    (Writing.subshader {} g passes).lines ({} : Settings).indent 1 filled =
      (marginAt 1 ++ ("SubShader".toList ++ " \x7b".toList)) ::
        settingsMarker g :: settingsLines g ++
        (Layout.concat passes).lines ({} : Settings).indent 2 true ++ [marginAt 1 ++ ['\x7d']] := by
  have hmarker : Marker.global ({} : Settings).tagPrefix (settingsAttributes g) ≠ [] :=
    Marker.format_ne_nil _ _ _
  have htags : settingsTags g ≠ [] := by simp [settingsTags, tags_eq]
  have hvalue : ∀ key t, valueLine key t ≠ [] := by simp [valueLine]
  have hshape : Writing.subshader {} g passes = .scope "SubShader".toList (
      .line (Marker.global ({} : Settings).tagPrefix (settingsAttributes g)) ++
        .line (settingsTags g) ++
      .line (valueLine .cull g.cull) ++
        (if g.blend = "Off".toList then .empty else .line (valueLine .blend g.blend)) ++
      .line (valueLine .zwrite g.zwrite) ++ .concat passes) := by
    have hcull : ∀ t, "Cull ".toList ++ t = valueLine .cull t := fun t => by
      rw [valueLine, keyword_eq, String.toList_ofList]
      rfl
    have hblend : ∀ t, "Blend ".toList ++ t = valueLine .blend t := fun t => by
      rw [valueLine, keyword_eq, String.toList_ofList]
      rfl
    have hzwrite : ∀ t, "ZWrite ".toList ++ t = valueLine .zwrite t := fun t => by
      rw [valueLine, keyword_eq, String.toList_ofList]
      rfl
    rw [Writing.subshader, hcull, hblend, hzwrite]
    rfl
  have hblend : ∀ filled,
      (if g.blend = "Off".toList then Layout.empty else .line (valueLine .blend g.blend)).lines
      ({} : Settings).indent 2 filled = if g.blend = "Off".toList then []
        else [marginAt 2 ++ valueLine .blend g.blend] := by
    intro filled
    split_ifs
    · rfl
    · exact Layout.lines_line (hvalue _ _)
  have hopen : "SubShader".toList ++ " \x7b".toList ≠ [] := by decide
  have hindented : ∀ l filled, (Layout.indented l).lines ({} : Settings).indent 1 filled =
      l.lines ({} : Settings).indent 2 filled :=
    fun _ _ => rfl
  have hlast : marginAt 2 ++ valueLine .zwrite g.zwrite ≠ [] := by simp [hvalue]
  rw [hshape, Layout.scope, Layout.block, Layout.lines_append, Layout.lines_append,
    Layout.lines_line hopen, hindented, Layout.lines_append, Layout.lines_append,
    Layout.lines_append, Layout.lines_append, Layout.lines_append, Layout.lines_line hmarker,
    Layout.lines_line htags, Layout.lines_line (hvalue _ _), hblend, Layout.lines_line (hvalue _ _),
    Layout.lines_line (List.cons_ne_nil _ _), Layout.filledAfter_concat _ _ hlast]
  simp only [settingsLines, settingsMarker, List.append_assoc, List.cons_append, List.nil_append]

def headerLine (name : Text) : Text :=
  marginAt 0 ++ ("Shader ".toList ++ Writing.inDoubleQuotes name ++ " \x7b".toList)

def propertiesLine : Text := marginAt 1 ++ ("Properties".toList ++ " \x7b".toList)

def subshaderLine : Text := marginAt 1 ++ ("SubShader".toList ++ " \x7b".toList)

def fallbackLine : Text :=
  marginAt 1 ++ ("FallBack ".toList ++ Writing.inDoubleQuotes ({} : Settings).fallbackShader)

/-- The lines above the passes of a document. -/
def linesAbove (d : Document) : List Text :=
  headerLine d.shaderName :: propertiesLine :: d.properties.flatMap propertyLines ++
    (marginAt 1 ++ ['\x7d']) :: subshaderLine :: settingsMarker d.globalSettings ::
      settingsLines d.globalSettings

/-- The lines below the passes of a document. -/
def linesBelow : List Text := [marginAt 1 ++ ['\x7d'], fallbackLine, marginAt 0 ++ ['\x7d']]

def passesLines (d : Document) : List Text :=
  (Layout.concat (d.passes.map (Writing.pass {} .standard d.properties))).lines
    ({} : Settings).indent 2 true

/-- The lines of a document: those above its passes, those of the passes and those below. -/
theorem lines_document {d : Document} (h : ∀ p ∈ d.properties, p.declaration ≠ []) :
    (Writing.document {} .standard d).lines ({} : Settings).indent 0 false =
      linesAbove d ++ passesLines d ++ linesBelow := by
  have hopen : "Shader ".toList ++ Writing.inDoubleQuotes d.shaderName ++ " \x7b".toList ≠ [] := by
    simp [Writing.inDoubleQuotes]
  have hfallback :
      "FallBack ".toList ++ Writing.inDoubleQuotes ({} : Settings).fallbackShader ≠ [] := by
    decide
  have hproperties :
      ∀ filled, (Writing.properties {} d.properties).lines ({} : Settings).indent 1 filled =
      propertiesLine :: d.properties.flatMap propertyLines ++ [marginAt 1 ++ ['\x7d']] :=
    fun filled => lines_properties h _ 1 filled
  have hindented : ∀ l filled, (Layout.indented l).lines ({} : Settings).indent 0 filled =
      l.lines ({} : Settings).indent 1 filled :=
    fun _ _ => rfl
  rw [Writing.document, Writing.shader, Layout.scope, Layout.block, Layout.lines_append,
    Layout.lines_append, Layout.lines_line hopen, hindented, Layout.lines_append,
    Layout.lines_append, hproperties, lines_subshader, Layout.lines_line hfallback,
    Layout.lines_line (List.cons_ne_nil _ _)]
  simp only [linesAbove, linesBelow, passesLines, headerLine, subshaderLine, fallbackLine,
    List.append_assoc, List.cons_append, List.nil_append]

/-- A line in which nothing is found but by the passes. -/
structure Inert (l : Text) : Prop extends Outside l, Silent ({} : Settings).tagPrefix l

instance (l : Text) : Decidable (Inert l) :=
  decidable_of_iff ((Marker.sectionLabel? ({} : Settings).tagPrefix l = none ∧
    Marker.blockStart? ({} : Settings).tagPrefix l = none ∧
    struct? ({} : Settings).inputStruct ({} : Settings).outputStruct l = none ∧
    usePass? l = none ∧ opensPass l = false) ∧
    IsLine l ∧ Marker.property? ({} : Settings).tagPrefix l = none ∧
    Marker.global? ({} : Settings).tagPrefix l = none)
    ⟨fun ⟨⟨ha, hb, hc, hd, he⟩, hf, hg, hh⟩ => ⟨⟨ha, hb, hc, hd, he⟩, ⟨hf, hg, hh⟩⟩,
      fun ⟨⟨ha, hb, hc, hd, he⟩, ⟨hf, hg, hh⟩⟩ => ⟨⟨ha, hb, hc, hd, he⟩, hf, hg, hh⟩⟩

/-- A line without a marker that begins like no pass. -/
lemma inert_of_head {margin : Text} (hm : ∀ c ∈ margin, c = ' ') {c : Char} {t : Text}
    (hc : isBlank c = false) (hne : c ≠ 'U' ∧ c ≠ 'P') (h : Unmarked {} (margin ++ c :: t)) :
    Inert (margin ++ c :: t) where
  noLabel := (Marker.lacks_of_not_infix h.noMarker).sectionLabel?
  noStart := (Marker.lacks_of_not_infix h.noMarker).blockStart?
  noStruct := h.noStruct
  noUsePass := usePass?_of_head (isBlank_of_spaces hm) hc hne.1
  noPass := opensPass_of_head (isBlank_of_spaces hm) hc hne.2
  toSilent := h.silent

lemma inert_headerLine {name : Text} (h : Plain ({} : Settings).tagPrefix name) :
    Inert (headerLine name) := by
  have hline : headerLine name = marginAt 0 ++ 'S' ::
      (['h', 'a', 'd', 'e', 'r', ' ', '"'] ++ (name ++ ['"', ' ', '\x7b'])) := by
    delta headerLine Writing.inDoubleQuotes
    rw [String.toList_ofList, String.toList_ofList]
    simp
  have hspace : ∀ {c}, c ≠ ' ' → c ∉ marginAt 0 := not_mem_of_spaces (spaces_marginAt 0)
  have hstructs : (({} : Settings).inputStruct ≠ [] ∧ ∀ c ∈ ({} : Settings).inputStruct, isWord c) ∧
      ({} : Settings).outputStruct ≠ [] ∧ ∀ c ∈ ({} : Settings).outputStruct, isWord c := by decide
  rw [hline]
  refine inert_of_head (spaces_marginAt 0) rfl (by decide) ⟨⟨?_, ?_⟩, ?_, ?_⟩
  · simp [h.newline, hspace]
  · rw [show marginAt 0 ++ 'S' ::
      (['h', 'a', 'd', 'e', 'r', ' ', '"'] ++ (name ++ ['"', ' ', '\x7b'])) =
      (marginAt 0 ++ 'S' :: (['h', 'a', 'd', 'e', 'r', ' ', '"'] ++ (name ++ ['"', ' ']))) ++
      ['\x7b'] by simp, List.getLast?_concat]
    decide
  · rw [show marginAt 0 ++ 'S' :: (['h', 'a', 'd', 'e', 'r', ' ', '"'] ++
      (name ++ ['"', ' ', '\x7b'])) = (marginAt 0 ++ ['S', 'h', 'a', 'd', 'e', 'r', ' ', '"']) ++
      (name ++ '"' :: [' ', '\x7b']) by simp]
    refine not_infix_append (by simp [hspace]) ?_
    exact not_infix_between isWord_tagPrefix h.marker
      (not_infix_of_not_mem (by decide)) isWord_quote (by decide)
  · rw [show marginAt 0 ++
      'S' :: (['h', 'a', 'd', 'e', 'r', ' ', '"'] ++ (name ++ ['"', ' ', '\x7b'])) = (marginAt 0 ++
      ['S', 'h', 'a', 'd', 'e', 'r', ' ', '"'] ++ name) ++ '"' :: [' '] ++ '\x7b' :: [] by simp]
    exact struct?_of_stop hstructs.1 hstructs.2 (by simp [h.opens, hspace]) List.not_mem_nil
      (by decide) (by decide)

lemma inert_valueLine (key : StateKey) {t : Text} (h : Plain ({} : Settings).tagPrefix t) :
    Inert (marginAt 2 ++ valueLine key t) := by
  have hu := unmarked_valueLine (isMargin_marginAt 2) key h
  obtain ⟨c, r, hline, hc, -⟩ := valueLine_head key t
  have hhead : ∀ c ∈ ['C', 'B', 'Z'], isBlank c = false ∧ c ≠ 'U' ∧ c ≠ 'P' := by decide
  rw [hline] at hu ⊢
  exact inert_of_head (spaces_marginAt 2) (hhead c hc).1 (hhead c hc).2 hu

lemma inert_settingsTags (htype : Plain ({} : Settings).tagPrefix g.renderType)
    (hqueue : Plain ({} : Settings).tagPrefix g.renderQueue) :
    Inert (marginAt 2 ++ settingsTags g) := by
  have hkeys :
      ∀ k ∈ ["RenderType", "Queue", "RenderPipeline"], ∀ c ∈ ['[', '\x7b', '\n'], c ∉ k.toList := by
    decide
  have hpipeline : Plain ({} : Settings).tagPrefix ({} : Settings).renderPipeline :=
    plain_of_free (by decide)
  have hu : Unmarked {} (marginAt 2 ++ settingsTags g) := by
    refine unmarked_tags isWord_tagPrefix (spaces_marginAt 2) (fun q hq => hkeys q.1 ?_) ?_
    · exact List.mem_map_of_mem (f := Prod.fst) hq
    · simpa only [List.forall_mem_cons, List.not_mem_nil, false_implies, implies_true, and_true]
        using ⟨htype, hqueue, hpipeline⟩
  rw [settingsTags, tags_eq] at hu ⊢
  exact inert_of_head (spaces_marginAt 2) rfl (by decide) hu

lemma inert_settingsLines (h : g.Legible) : ∀ l ∈ settingsLines g, Inert l := by
  simp only [GlobalSettings.Legible, List.forall_mem_cons] at h
  obtain ⟨hcull, hblend, hzwrite, htype, hqueue, -⟩ := h
  intro l hl
  simp only [settingsLines, List.mem_append, List.mem_cons, List.not_mem_nil, or_false] at hl
  rcases hl with ((rfl | rfl) | hl) | rfl
  · exact inert_settingsTags htype hqueue
  · exact inert_valueLine .cull hcull
  · split_ifs at hl
    · exact absurd hl List.not_mem_nil
    · rw [List.mem_singleton.mp hl]
      exact inert_valueLine .blend hblend
  · exact inert_valueLine .zwrite hzwrite

lemma inert_fixed : ∀ l ∈ [propertiesLine, subshaderLine, fallbackLine, marginAt 0 ++ ['\x7d'],
    marginAt 1 ++ ['\x7d'], []], Inert l := by
  decide

lemma isKey_settingsAttributes : ∀ q ∈ settingsAttributes g, Attributes.IsKey q.1 := by
  have hkeys :
      ∀ k ∈ ["cull", "blend", "zwrite", "rendertype", "queue"], Attributes.IsKey k.toList := by
    decide
  simpa only [settingsAttributes, List.forall_mem_cons, List.not_mem_nil, false_implies,
    implies_true] using hkeys

lemma plain_settingsAttributes (h : g.Legible) :
    ∀ q ∈ settingsAttributes g, Plain ({} : Settings).tagPrefix q.2 := by
  simpa only [settingsAttributes, GlobalSettings.Legible, List.forall_mem_cons, List.not_mem_nil,
    false_implies, implies_true] using h

lemma nodup_settingsAttributes (g : GlobalSettings) : ((settingsAttributes g).map (·.1)).Nodup :=
  show (["cull", "blend", "zwrite", "rendertype", "queue"].map String.toList).Nodup by decide

lemma settingsMarker_spec (h : g.Legible) : Outside (settingsMarker g) ∧ IsLine (settingsMarker g) ∧
    Marker.property? ({} : Settings).tagPrefix (settingsMarker g) = none ∧
    Marker.global? ({} : Settings).tagPrefix (settingsMarker g) =
      some (settingsAttributes g).write := by
  have hplain := plain_settingsAttributes h
  have hquotable : ∀ q ∈ settingsAttributes g, Quotable ({} : Settings).tagPrefix q.2 :=
    fun q hq => (hplain q hq).quotable
  have hkeys := Attributes.isName_of_isKey (isKey_settingsAttributes (g := g))
  have hb := not_infix_write isWord_tagPrefix hkeys hquotable
  refine ⟨outside_marker (spaces_marginAt 2) (by decide) hb ?_, ⟨?_, ?_⟩, ?_, ?_⟩
  · exact not_mem_write hkeys hquotable (by decide) (by decide) fun q hq => (hplain q hq).opens
  · refine not_mem_marker isWord_tagPrefix (isMargin_marginAt 2) (by decide) (by decide) ?_
    exact not_mem_write hkeys hquotable (by decide) (by decide) fun q hq => (hplain q hq).newline
  · rw [settingsMarker, Marker.global, Marker.getLast?_format]
    decide
  · exact (Marker.lacks_format isWord_tagPrefix (isBlank_of_spaces (spaces_marginAt 2)) hb
      (by decide)).property?
  · exact search_attributes isWord_tagPrefix (isBlank_of_spaces (spaces_marginAt 2))
      (List.cons_ne_nil _ _) hkeys hquotable

lemma takeGlobal_settingsMarker (h : g.Legible) (old : GlobalSettings) :
    takeGlobal ({} : Settings).tagPrefix old (settingsMarker g) = g := by
  have hn := nodup_settingsAttributes g
  have hplain := plain_settingsAttributes h
  have hread : Attributes.read (settingsAttributes g).write = settingsAttributes g :=
    Attributes.read_write isKey_settingsAttributes
      (fun q hq => ⟨(hplain q hq).quote, (hplain q hq).newline⟩) hn
  have hvalue : ∀ (k : String) (t : Text), (k.toList, t) ∈ settingsAttributes g → ∀ default,
      (settingsAttributes g).getD k default = t :=
    fun k t hk default => Entries.getD_of_mem hn hk default
  have hcull := hvalue "cull" g.cull (by simp only [settingsAttributes, List.mem_cons, true_or])
  have hblend :=
    hvalue "blend" g.blend (by simp only [settingsAttributes, List.mem_cons, true_or, or_true])
  have hzwrite :=
    hvalue "zwrite" g.zwrite (by simp only [settingsAttributes, List.mem_cons, true_or, or_true])
  have htype := hvalue "rendertype" g.renderType
    (by simp only [settingsAttributes, List.mem_cons, true_or, or_true])
  have hqueue := hvalue "queue" g.renderQueue
    (by simp only [settingsAttributes, List.mem_cons, true_or, or_true])
  simp only [takeGlobal, (settingsMarker_spec h).2.2.2, hread, hcull, hblend,
    hzwrite, htype, hqueue]

lemma foldl_takeGlobal {pre : Text} {ls : List Text} (h : ∀ l ∈ ls, Marker.global? pre l = none)
    (old : GlobalSettings) : ls.foldl (takeGlobal pre) old = old := by
  induction ls generalizing old with
  | nil => rfl
  | cons l ls ih =>
    have hl : takeGlobal pre old l = old := by simp [takeGlobal, h l List.mem_cons_self]
    rw [List.foldl_cons, hl, ih fun l hl => h l (List.mem_cons_of_mem _ hl)]

lemma shaderName?_headerLine {name : Text} (h : Plain ({} : Settings).tagPrefix name)
    (hne : name ≠ []) (rest : Text) : shaderName? (headerLine name ++ rest) = some name := by
  have hline : headerLine name ++ rest = ['S', 'h', 'a', 'd', 'e', 'r'] ++ ' ' :: '"' ::
      (name ++ '"' :: (' ' :: '\x7b' :: rest)) := by
    delta headerLine Writing.inDoubleQuotes
    rw [String.toList_ofList, String.toList_ofList]
    simp [Layout.margin]
  have hafter : ∀ t : Text, after? ['S', 'h', 'a', 'd', 'e', 'r']
      ('S' :: 'h' :: 'a' :: 'd' :: 'e' :: 'r' :: t) = some t :=
    fun _ => rfl
  have hblanks : ∀ t, blanks? (' ' :: '"' :: t) = some ('"' :: t) := fun _ => rfl
  have hskip : ∀ t, skipBlanks ('S' :: t) = 'S' :: t := fun _ => rfl
  have hread : keywordName? "Shader" (headerLine name ++ rest) = some name := by
    rw [hline]
    delta keywordName?
    simp only [List.cons_append, List.nil_append, hskip]
    rw [String.toList_ofList]
    simp only [hafter, Option.bind_eq_bind, Option.bind_some, hblanks,
      quotedName?_append h.quote hne]
  rw [shaderName?]
  rw [hline] at hread ⊢
  rw [List.cons_append] at hread ⊢
  simp only [shaderNameFrom, hread, if_true]

end Source

/-- A document that is read back. -/
structure Document.Legible (d : Document) : Prop where
  shaderName : Plain ({} : Settings).tagPrefix d.shaderName ∧ d.shaderName ≠ []
  globalSettings : d.globalSettings.Legible
  properties : ∀ p ∈ d.properties, p.Legible
  names : (d.properties.map (·.name)).Nodup
  passes : ∀ p ∈ d.passes, p.Written d.properties
  nonempty : d.passes ≠ []

/-- A document is what another one is rewritten to. -/
structure Document.Rewrites (d d' : Document) : Prop where
  shaderName : d'.shaderName = d.shaderName
  globalSettings : d'.globalSettings = d.globalSettings
  properties : d'.properties = d.properties.map Property.rewritten
  passes : d'.passes.map Pass.detached = d.passes.map Pass.rewritten

namespace Source
open Text

variable {d : Document}

lemma outside_propertyLines (h : ∀ p ∈ d.properties, p.Legible) :
    ∀ l ∈ d.properties.flatMap propertyLines,
    Outside l ∧ IsLine l ∧ Marker.global? ({} : Settings).tagPrefix l = none := by
  intro l hl
  obtain ⟨p, hp, hl⟩ := List.mem_flatMap.mp hl
  simp only [propertyLines, List.mem_cons, List.not_mem_nil, or_false] at hl
  rcases hl with rfl | rfl
  · exact outside_propertyMarker (h p hp)
  · have hdeclares := declares_declaration (h p hp)
    have hsilent := hdeclares.silent (spaces_marginAt 2)
    exact ⟨hdeclares.outside (spaces_marginAt 2), hsilent.isLine, hsilent.noGlobal⟩

lemma mem_linesAbove (h : d.Legible) {l : Text} (hl : l ∈ linesAbove d) :
    Inert l ∨ l ∈ d.properties.flatMap propertyLines ∨ l = settingsMarker d.globalSettings := by
  have hfixed := inert_fixed
  simp only [List.forall_mem_cons] at hfixed
  obtain ⟨hproperties, hsubshader, -, -, hcloser, -⟩ := hfixed
  simp only [linesAbove, List.mem_append, List.mem_cons] at hl
  rcases hl with (rfl | rfl | hl) | rfl | rfl | rfl | hl
  · exact .inl (inert_headerLine h.shaderName.1)
  · exact .inl hproperties
  · exact .inr (.inl hl)
  · exact .inl hcloser
  · exact .inl hsubshader
  · exact .inr (.inr rfl)
  · exact .inl (inert_settingsLines h.globalSettings l hl)

lemma inert_linesBelow : ∀ l ∈ linesBelow ++ [[]], Inert l := by
  intro l hl
  simp only [linesBelow, List.mem_append, List.mem_cons, List.not_mem_nil, or_false] at hl
  refine inert_fixed l ?_
  rcases hl with (rfl | rfl | rfl) | rfl <;> simp

lemma outside_linesAbove (h : d.Legible) : ∀ l ∈ linesAbove d, Outside l ∧ IsLine l := by
  intro l hl
  rcases mem_linesAbove h hl with hl | hl | rfl
  · exact ⟨hl.toOutside, hl.isLine⟩
  · exact ⟨(outside_propertyLines h.properties l hl).1,
      (outside_propertyLines h.properties l hl).2.1⟩
  · exact ⟨(settingsMarker_spec h.globalSettings).1, (settingsMarker_spec h.globalSettings).2.1⟩

lemma stretches_passesLines (h : d.Legible) :
    Stretches (passesLines d) (d.passes.map Pass.rewritten) :=
  stretches_passes (fun p hp => (h.properties p hp).name) h.passes true

lemma Stretches.silent {ls : List Text} {qs : List Pass} (h : Stretches ls qs) :
    ∀ l ∈ ls, Silent ({} : Settings).tagPrefix l := by
  induction h with
  | nil => exact fun _ hl => absurd hl List.not_mem_nil
  | cons hfirst _ ih =>
    intro l hl
    exact (List.mem_append.mp hl).elim (hfirst.silent l) (ih l)

/-- No line of a legible document has a break in it. -/
theorem isLine_document (h : d.Legible) :
    ∀ l ∈ linesAbove d ++ passesLines d ++ linesBelow, IsLine l := by
  intro l hl
  simp only [List.mem_append] at hl
  rcases hl with (hl | hl) | hl
  · exact (outside_linesAbove h l hl).2
  · exact ((stretches_passesLines h).silent l hl).isLine
  · exact (inert_linesBelow l (List.mem_append_left _ hl)).isLine

/-- The lines of a document are read as they are written. -/
lemma lines_generate (h : d.Legible) :
    lines (d.generate {} .standard) = linesAbove d ++ passesLines d ++ (linesBelow ++ [[]]) := by
  have hdeclaration : ∀ p ∈ d.properties, p.declaration ≠ [] :=
    fun p hp => (declares_declaration (h.properties p hp)).ne_nil
  rw [Document.generate, Layout.text, lines_document hdeclaration,
    lines_joinLines (by simp [linesAbove]) (isLine_document h), List.append_assoc]

lemma properties_generate (h : d.Legible) :
    properties ({} : Settings).tagPrefix (linesAbove d ++ passesLines d ++ (linesBelow ++ [[]])) =
    (d.properties.map Property.rewritten, []) := by
  have hafter :
      ∀ l ∈ (marginAt 1 ++ ['\x7d']) :: subshaderLine :: settingsMarker d.globalSettings ::
      settingsLines d.globalSettings ++ passesLines d ++ (linesBelow ++ [[]]),
      Marker.property? ({} : Settings).tagPrefix l = none := by
    have hfixed := inert_fixed
    simp only [List.forall_mem_cons] at hfixed
    obtain ⟨-, hsubshader, -, -, hcloser, -⟩ := hfixed
    intro l hl
    rw [List.mem_append, List.mem_append, List.mem_cons, List.mem_cons, List.mem_cons] at hl
    rcases hl with ((rfl | rfl | rfl | hl) | hl) | hl
    · exact hcloser.noProperty
    · exact hsubshader.noProperty
    · exact (settingsMarker_spec h.globalSettings).2.2.1
    · exact (inert_settingsLines h.globalSettings l hl).noProperty
    · exact ((stretches_passesLines h).silent l hl).noProperty
    · exact (inert_linesBelow l hl).noProperty
  have hheader : ∀ l ∈ [headerLine d.shaderName, propertiesLine],
      Marker.property? ({} : Settings).tagPrefix l = none := by
    intro l hl
    simp only [List.mem_cons, List.not_mem_nil, or_false] at hl
    rcases hl with rfl | rfl
    · exact (inert_headerLine h.shaderName.1).noProperty
    · exact (inert_fixed _ List.mem_cons_self).noProperty
  have hlines : linesAbove d ++ passesLines d ++ (linesBelow ++ [[]]) =
      [headerLine d.shaderName, propertiesLine] ++
      (d.properties.flatMap propertyLines ++
        ((marginAt 1 ++ ['\x7d']) :: subshaderLine :: settingsMarker d.globalSettings ::
        settingsLines d.globalSettings ++ passesLines d ++ (linesBelow ++ [[]]))) := by
    simp only [linesAbove, List.append_assoc, List.cons_append, List.nil_append]
  rw [properties, hlines, propertiesFrom_skip hheader]
  exact propertiesFrom_written h.properties h.names (fun _ _ => List.not_mem_nil) hafter _

lemma globalSettings_generate (h : d.Legible) :
    globalSettings ({} : Settings).tagPrefix
      (linesAbove d ++ passesLines d ++ (linesBelow ++ [[]])) = d.globalSettings := by
  have hbefore :
      ∀ l ∈ headerLine d.shaderName :: propertiesLine :: d.properties.flatMap propertyLines ++
      [marginAt 1 ++ ['\x7d'], subshaderLine],
        Marker.global? ({} : Settings).tagPrefix l = none := by
    have hfixed := inert_fixed
    simp only [List.forall_mem_cons] at hfixed
    obtain ⟨hproperties, hsubshader, -, -, hcloser, -⟩ := hfixed
    intro l hl
    simp only [List.mem_append, List.mem_cons, List.not_mem_nil, or_false] at hl
    rcases hl with (rfl | rfl | hl) | rfl | rfl
    · exact (inert_headerLine h.shaderName.1).noGlobal
    · exact hproperties.noGlobal
    · exact (outside_propertyLines h.properties l hl).2.2
    · exact hcloser.noGlobal
    · exact hsubshader.noGlobal
  have hafter : ∀ l ∈ settingsLines d.globalSettings ++ passesLines d ++ (linesBelow ++ [[]]),
      Marker.global? ({} : Settings).tagPrefix l = none := by
    intro l hl
    rw [List.mem_append, List.mem_append] at hl
    rcases hl with (hl | hl) | hl
    · exact (inert_settingsLines h.globalSettings l hl).noGlobal
    · exact ((stretches_passesLines h).silent l hl).noGlobal
    · exact (inert_linesBelow l hl).noGlobal
  have hlines : linesAbove d ++ passesLines d ++ (linesBelow ++ [[]]) =
      (headerLine d.shaderName :: propertiesLine :: d.properties.flatMap propertyLines ++
        [marginAt 1 ++ ['\x7d'], subshaderLine]) ++
        settingsMarker d.globalSettings ::
          (settingsLines d.globalSettings ++ passesLines d ++ (linesBelow ++ [[]])) := by
    simp only [linesAbove, List.append_assoc, List.cons_append, List.nil_append]
  rw [globalSettings, hlines, List.foldl_append, foldl_takeGlobal hbefore, List.foldl_cons,
    takeGlobal_settingsMarker h.globalSettings, foldl_takeGlobal hafter]

lemma shaderName?_generate (h : d.Legible) :
    shaderName? (d.generate {} .standard) = some d.shaderName := by
  have hdeclaration : ∀ p ∈ d.properties, p.declaration ≠ [] :=
    fun p hp => (declares_declaration (h.properties p hp)).ne_nil
  rw [Document.generate, Layout.text, lines_document hdeclaration, linesAbove]
  simp only [List.cons_append, joinLines_cons_cons, List.append_assoc]
  exact shaderName?_headerLine h.shaderName.1 h.shaderName.2 _

lemma allBlank_generate (h : d.Legible) : allBlank (d.generate {} .standard) = false := by
  have hdeclaration : ∀ p ∈ d.properties, p.declaration ≠ [] :=
    fun p hp => (declares_declaration (h.properties p hp)).ne_nil
  have hfirst : allBlank (headerLine d.shaderName) = false := by
    have : allBlank "Shader ".toList = false := by decide
    rw [headerLine, List.append_assoc, allBlank_append, allBlank_append, this,
      Bool.false_and, Bool.and_false]
  rw [Document.generate, Layout.text, lines_document hdeclaration, linesAbove]
  simp only [List.cons_append, joinLines_cons_cons, List.append_assoc]
  rw [allBlank_append, hfirst, Bool.false_and]

/-- Nothing is found in the text of a document but what it holds. -/
lemma documentOf_generate (h : d.Legible) :
    ∃ d', documentOf {} .standard (d.generate {} .standard) = (d', []) ∧ d.Rewrites d' := by
  have habove : ∀ l ∈ linesAbove d, Outside l := fun l hl => (outside_linesAbove h l hl).1
  have hbelow : ∀ l ∈ linesBelow ++ [[]], Outside l := fun l hl => (inert_linesBelow l hl).toOutside
  obtain ⟨es, hfound, ⟨ps, hread, hpasses⟩, hgaps⟩ :=
    (stretches_passesLines h).passesFrom hbelow (Nat.zero_le (linesAbove d).length) habove
  have hextents : extents (linesAbove d ++ passesLines d ++ (linesBelow ++ [[]])) = (es, []) := by
    rw [List.append_assoc, List.drop_left] at hfound
    rw [extents, List.append_assoc, extentsFrom_outside habove, Nat.zero_add, hfound]
  have hes : es.isEmpty = false := by
    rw [List.isEmpty_eq_false_iff]
    rintro rfl
    rw [readPasses, Prod.mk.injEq] at hread
    rw [← hread.1, List.map_nil] at hpasses
    exact h.nonempty (List.map_eq_nil_iff.mp hpasses.symm)
  have houtside : partsOutside {} (linesAbove d ++ passesLines d ++ (linesBelow ++ [[]])) es = {} :=
    foldl_clearGaps hgaps {}
  have hattach : Parts.attach {} ps = (ps, []) := rfl
  refine ⟨{
    shaderName := d.shaderName
    globalSettings := d.globalSettings
    properties := d.properties.map Property.rewritten
    passes := ps
    activeIndex := (ps.findIdx? fun p => !p.isUsePass).getD 0
    rawContent := d.generate {} .standard }, ?_, rfl, rfl, rfl, hpasses⟩
  rw [documentOf]
  simp only [lines_generate h, properties_generate h, passExtents, hextents, hes,
    houtside, hread, hattach, globalSettings_generate h, shaderName?_generate h, Option.getD_some,
    Bool.false_eq_true, if_false, List.append_nil]

/-- The text of a document is read without a warning. -/
theorem parse_generate (h : d.Legible) :
    ∃ d', parse {} .standard (d.generate {} .standard) = .ok (d', []) ∧ d.Rewrites d' := by
  obtain ⟨d', hread, hrewrites⟩ := documentOf_generate h
  refine ⟨d', ?_, hrewrites⟩
  rw [parse, allBlank_generate h, hread]
  rfl

end Source
end MarkedShader
