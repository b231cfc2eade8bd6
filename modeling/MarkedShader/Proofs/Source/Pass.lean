import MarkedShader.Proofs.Source.Sections
import MarkedShader.Source.Parse

/-! A pass is read back from the lines it is written in. -/
namespace MarkedShader

/-- A pass that is read back under some properties. -/
structure Pass.Legible (ps : List Property) (p : Pass) : Prop extends p.LegibleProgram ps where
  name : Plain ({} : Settings).tagPrefix p.name ∧ p.name ≠ []
  lightMode : Plain ({} : Settings).tagPrefix p.lightMode
  renderState : ∀ st, p.renderState = some st → st.Legible ({} : Settings).tagPrefix

namespace Source
open Text

variable {p : Pass} {ps : List Property}

/-- What stands between the braces of a pass. -/
def insideOf (ps : List Property) (p : Pass) : Layout :=
  .line ("Name ".toList ++ Writing.inDoubleQuotes p.name) ++
    (if p.lightMode.isEmpty then .empty else .line (Writing.tags [("LightMode", p.lightMode)])) ++
    (p.renderState.map Writing.renderState).getD .empty ++ .blank ++
      Writing.program {} .standard ps p

/-- What is found inside a pass, but for the section that its last block is in. -/
def contentOfPass (inSection : Section) (p : Pass) : Content where
  inSection
  blocks := p.rewrittenBlocks
  inputs := inputMembers p.shownGraph
  outputs := outputMembers p.shownGraph
  name := some p.name
  lightMode := if p.lightMode.isEmpty then none else some p.lightMode
  renderState := (p.renderState.map (·.rewritten)).getD {}
  pragmas := p.pragmas
  includes := p.includes

lemma readsAt_insideOf (h : p.Legible ps) (hps : ∀ q ∈ ps, IsName q.name) (depth : Nat) :
    ∃ inSection, ReadsAt 3 (insideOf ps p) ⟨{}, (· = false), depth⟩
      ⟨contentOfPass inSection p, (· = false), depth⟩ := by
  have hname :
      ReadsAt 3 (.line ("Name ".toList ++ Writing.inDoubleQuotes p.name)) ⟨{}, (· = false), depth⟩
      ⟨{ name := some p.name }, (· = false), depth⟩ :=
    .line (by simp [Writing.inDoubleQuotes])
      (Reads.name isWord_tagPrefix (spaces_marginAt 3) h.name.1 (fun _ hb => hb) rfl)
  have hmode : ReadsAt 3
      (if p.lightMode.isEmpty then .empty else .line (Writing.tags [("LightMode", p.lightMode)]))
      ⟨{ name := some p.name }, (· = false), depth⟩
      ⟨{ name := some p.name, lightMode := if p.lightMode.isEmpty then none else some p.lightMode },
        (· = false), depth⟩ := by
    split_ifs
    · exact .empty (Reads.along {})
    · exact .line (by simp [tags_lightMode])
        (Reads.lightMode isWord_tagPrefix (spaces_marginAt 3) h.lightMode (fun _ hb => hb) rfl)
  have hstate : ∀ c : Content, c.renderState = {} →
      ReadsAt 3 ((p.renderState.map Writing.renderState).getD .empty)
      ⟨c, (· = false), depth⟩ ⟨{ c with renderState := (p.renderState.map (·.rewritten)).getD {} },
        (· = false), depth⟩ := by
    intro c hc
    cases hst : p.renderState with
    | none =>
      have :
          { c with renderState := (Option.map (·.rewritten) (none : Option RenderState)).getD {} } =
            c := by
        rw [Option.map_none, Option.getD_none, ← hc]
      rw [this]
      exact .empty (Reads.along {})
    | some st => exact readsAt_renderState (h.renderState st hst) (fun _ hb => hb) hc
  let before : Content := {
    name := some p.name
    lightMode := if p.lightMode.isEmpty then none else some p.lightMode
    renderState := (p.renderState.map (·.rewritten)).getD {} }
  obtain ⟨inSection, hprogram⟩ :=
    readsAt_program (s := ⟨before, (· = false), depth⟩) h.toLegibleProgram hps
  exact ⟨inSection, (((hname.append (Reads.along {}) hmode).append (Reads.along {})
    (hstate _ rfl)).append (Reads.along {}) readsAt_blank).append (Reads.along {}) hprogram⟩

def passHeader : Text := marginAt 2 ++ ("Pass".toList ++ " \x7b".toList)

def passCloser : Text := marginAt 2 ++ ['\x7d']

/-- The lines of a pass from its opening brace to its closing one. -/
def passLines (ps : List Property) (p : Pass) (filled : Bool) : List Text :=
  passHeader :: (insideOf ps p).lines ({} : Settings).indent 3 filled ++ [passCloser]

lemma isHeader_pass : IsHeader 2 "Pass".toList := by decide

lemma reads_passLines (h : p.Legible ps) (hps : ∀ q ∈ ps, IsName q.name) (filled : Bool) :
    ∃ inSection, Reads {} ⟨{}, (· = false), 0⟩ (passLines ps p filled)
      ⟨contentOfPass inSection p, (· = false), 0⟩ := by
  obtain ⟨inSection, hinside⟩ := readsAt_insideOf h hps 1
  have hcloser := Reads.closer (s := ⟨contentOfPass inSection p, (· = false), 0⟩) 2
  exact ⟨inSection, (Reads.along {}).append
    ((Reads.along {}).append (Reads.header isHeader_pass) (hinside filled)) hcloser⟩

lemma contentOf_passLines (h : p.Legible ps) (hps : ∀ q ∈ ps, IsName q.name)
    (first : Nat) (filled : Bool) :
    ∃ inSection, (contentOf {} first (passLines ps p filled)).detached =
      contentOfPass inSection p := by
  obtain ⟨inSection, hreads⟩ := reads_passLines h hps filled
  obtain ⟨c, hc, hwalk⟩ := hreads.walked first {} [] ⟨rfl, rfl⟩
  rw [List.append_nil, walk] at hwalk
  exact ⟨inSection, by rw [contentOf, hwalk]; exact hc.1⟩

lemma closingLine?_passLines (h : p.Legible ps) (hps : ∀ q ∈ ps, IsName q.name)
    (filled : Bool) (rest : List Text) :
    closingLine? 0 false (passLines ps p filled ++ rest) =
      some ((passLines ps p filled).length-1) := by
  obtain ⟨inSection, hinside⟩ := readsAt_insideOf h hps 0
  have hopen : braceDelta passHeader = 1 := isHeader_pass.2.1
  have hclose : braceDelta passCloser = -1 := braceDelta_closer 2
  have hlast : closingLine? 1 true (passCloser :: rest) = some 0 := by
    rw [closingLine?, hclose]
    rfl
  have hrest := (hinside filled).closed (passCloser :: rest)
  rw [show ((0 : Nat) : Int) + 1 = 1 from rfl, hlast] at hrest
  rw [passLines, List.append_assoc, List.cons_append, closingLine?, hopen, List.singleton_append]
  generalize (insideOf ps p).lines ({} : Settings).indent 3 filled = inner at hrest ⊢
  simp [hrest]

lemma extentsFrom_passLines (h : p.Legible ps) (hps : ∀ q ∈ ps, IsName q.name) (filled : Bool)
    (i : Nat) (rest : List Text) : extentsFrom i (passLines ps p filled ++ rest) =
      (⟨i, i + ((passLines ps p filled).length-1), none⟩ ::
        (extentsFrom (i + (passLines ps p filled).length) rest).1,
        (extentsFrom (i + (passLines ps p filled).length) rest).2) := by
  have hclosing := closingLine?_passLines h hps filled rest
  have huse : usePass? passHeader = none := by decide
  have hopens : opensPass passHeader = true := by decide
  rw [passLines, List.append_assoc, List.cons_append] at hclosing ⊢
  generalize (insideOf ps p).lines ({} : Settings).indent 3 filled = inner at hclosing ⊢
  have hdrop : (inner ++ ([passCloser] ++ rest)).drop (inner.length+1) = rest := by
    rw [← List.append_assoc, List.drop_left' (by simp)]
  have hn : (passHeader :: inner ++ [passCloser]).length - 1 = inner.length+1 := by simp
  rw [extentsFrom, huse]
  simp only [hopens, if_true, hclosing, hn, hdrop]
  simp [Nat.add_assoc]

def passAttributesOf (p : Pass) : Attributes :=
  [("name".toList, p.name), ("lightmode".toList, p.lightMode)]

def passMarker (p : Pass) : Text := Marker.pass ({} : Settings).tagPrefix (passAttributesOf p)

lemma isKey_passAttributes : ∀ q ∈ passAttributesOf p, Attributes.IsKey q.1 := by
  have : Attributes.IsKey "name".toList ∧ Attributes.IsKey "lightmode".toList := by decide
  simpa [passAttributesOf] using this

lemma plain_passAttributes (h : p.Legible ps) :
    ∀ q ∈ passAttributesOf p, Plain ({} : Settings).tagPrefix q.2 := by
  simpa [passAttributesOf] using ⟨h.name.1, h.lightMode⟩

lemma strip_margin {margin t : Text} (hm : ∀ c ∈ margin, c = ' ')
    (hfirst : ∀ c ∈ t.head?, isBlank c = false) (hlast : ∀ c ∈ t.getLast?, isBlank c = false) :
    strip (margin ++ t) = t := by
  have hdrop : (margin ++ t).dropWhile isBlank = t := by
    rw [List.dropWhile_append_of_pos (isBlank_of_spaces hm), dropWhile_of_stop hfirst]
  rw [strip, trimBoth, hdrop, trimEnd_eq_self_iff.mpr hlast]

lemma format_head (pre : Text) (kind : MarkerKind) (body : Text) :
    (Marker.format pre kind body).head? = some '/' := by
  rw [Marker.format_eq, Marker.written_eq]
  rfl

lemma strip_format {margin : Text} (hm : ∀ c ∈ margin, c = ' ') (pre : Text)
    (kind : MarkerKind) (body : Text) :
    strip (margin ++ Marker.format pre kind body) = Marker.format pre kind body := by
  have hlast := Marker.getLast?_format pre kind [] body
  rw [List.nil_append] at hlast
  refine strip_margin hm ?_ ?_
  · rw [format_head]
    decide
  · rw [hlast]
    decide

lemma passAttributes_passMarker (h : p.Legible ps) (above : List Text) :
    passAttributes ({} : Settings).tagPrefix ((marginAt 2 ++ passMarker p) :: above) =
      passAttributesOf p := by
  have hplain := plain_passAttributes h
  have hread : Marker.pass? ({} : Settings).tagPrefix ([] ++ passMarker p) =
      some (passAttributesOf p).write :=
    search_attributes isWord_tagPrefix
      (fun _ hc => absurd hc List.not_mem_nil) (List.cons_ne_nil _ _)
      (Attributes.isName_of_isKey isKey_passAttributes) fun q hq => (hplain q hq).quotable
  rw [passAttributes, passMarker, Marker.pass, strip_format (spaces_marginAt 2), ← Marker.pass,
    ← passMarker, ← List.nil_append (passMarker p), hread]
  exact Attributes.read_write isKey_passAttributes
    (fun q hq => ⟨(hplain q hq).quote, (hplain q hq).newline⟩)
    (show ["name".toList, "lightmode".toList].Nodup by decide)

end Source

/-- A pass without what ties it to a text. -/
def Pass.detached (p : Pass) : Pass :=
  { p with blocks := p.blocks.map (·.detached), id := .fresh 0 }

/-- The pass that is read where a pass is written. -/
def Pass.rewritten (p : Pass) : Pass :=
  if p.isUsePass then .usePass (.fresh 0) p.usePassPath
  else
    { name := p.name
      lightMode := p.lightMode
      blocks := p.rewrittenBlocks
      graph := some (Source.graphOf .standard (Source.inputMembers p.shownGraph)
        (Source.outputMembers p.shownGraph))
      pragmas := p.pragmas
      includes := p.includes
      renderState := (p.renderState.map (·.rewritten)).filter (·.hasOverrides)
      id := .fresh 0 }

namespace Source
open Text

/-- A line that says nothing outside the passes. -/
structure Outside (l : Text) : Prop where
  noLabel : Marker.sectionLabel? ({} : Settings).tagPrefix l = none
  noStart : Marker.blockStart? ({} : Settings).tagPrefix l = none
  noStruct : struct? ({} : Settings).inputStruct ({} : Settings).outputStruct l = none
  noUsePass : usePass? l = none
  noPass : opensPass l = false

/-- Lines that a pass is read from: those of the pass itself, and others above them. -/
structure Stretch (above body : List Text) (q : Pass) : Prop where
  outside : ∀ l ∈ above, Outside l
  silent : ∀ l ∈ above ++ body, Silent ({} : Settings).tagPrefix l
  nonempty : body ≠ []
  read : ∃ path, (∀ i rest, extentsFrom i (body ++ rest) =
      (⟨i, i + (body.length-1), path⟩ :: (extentsFrom (i + body.length) rest).1,
        (extentsFrom (i + body.length) rest).2)) ∧
    ∀ before after : List Text, ∀ cursor ≤ before.length, ∃ p,
      readPass {} .standard (before ++ above ++ body ++ after) cursor
      ⟨before.length + above.length, before.length + above.length + (body.length-1), path⟩ =
        (p, []) ∧ p.detached = q

section
variable {before above body after : List Text}

lemma between_body (hne : body ≠ []) :
    between (before ++ above ++ body ++ after) (before.length + above.length)
    (before.length + above.length + (body.length-1)) = body := by
  have hlength : 0 < body.length := List.length_pos_iff.mpr hne
  have htake :
      (before ++ above ++ body ++ after).take (before.length + above.length + (body.length-1) + 1) =
      before ++ above ++ body := by
    rw [List.take_left' (by simp; omega)]
  rw [between, htake, List.drop_left' (by simp)]

lemma above_body {cursor : Nat} (h : cursor ≤ before.length) :
    (((before ++ above ++ body ++ after).take (before.length + above.length)).drop cursor).reverse =
      above.reverse ++ (before.drop cursor).reverse := by
  rw [List.append_assoc, List.take_left' (by simp), List.drop_append_of_le_length h,
    List.reverse_append]

end

lemma readPass_passLines (h : p.Legible ps) (hps : ∀ q ∈ ps, IsName q.name)
    (huse : p.isUsePass = false) (filled : Bool) {blanks before after : List Text} {cursor : Nat}
    (hcursor : cursor ≤ before.length) :
    ∃ q, readPass {} .standard
      (before ++ (blanks ++ [marginAt 2 ++ passMarker p]) ++ passLines ps p filled ++ after) cursor
      ⟨before.length + (blanks ++ [marginAt 2 ++ passMarker p]).length,
        before.length + (blanks ++ [marginAt 2 ++ passMarker p]).length +
        ((passLines ps p filled).length-1), none⟩ = (q, []) ∧
      q.detached = p.rewritten := by
  obtain ⟨inSection, hcontent⟩ := contentOf_passLines h hps
    (before.length + (blanks ++ [marginAt 2 ++ passMarker p]).length) filled
  simp only [readPass, between_body (show passLines ps p filled ≠ [] from List.cons_ne_nil _ _),
    above_body hcursor, List.reverse_append, List.reverse_singleton, List.cons_append,
    passAttributes_passMarker h]
  generalize contentOf {} _ (passLines ps p filled) = c at hcontent ⊢
  obtain ⟨⟨cs, blocks, inputs, outputs, structLines, warnings⟩, inProgram, name, mode, state,
    pragmas, includes⟩ := c
  simp only [Content.detached, contentOfPass, Content.mk.injEq, Parts.mk.injEq] at hcontent
  obtain ⟨⟨-, hblocks, rfl, rfl, -, rfl⟩, -, rfl, rfl, rfl, rfl, rfl⟩ := hcontent
  have hname : (passAttributesOf p).get? "name" = some p.name :=
    List.lookup_cons_self
  have hmode : (passAttributesOf p).get? "lightmode" = some p.lightMode := by
    have hne : ("lightmode".toList == "name".toList) = false := by decide
    rw [Entries.get?, passAttributesOf, List.lookup_cons, hne]
    exact List.lookup_cons_self
  refine ⟨_, rfl, ?_⟩
  rw [hname, hmode]
  have hfirst : ∀ (t : Option Text), firstNonEmpty [some p.name, t] "NewPass".toList = p.name := by
    intro t
    simp [firstNonEmpty, h.name.2]
  have hsecond :
      firstNonEmpty [some p.lightMode, if p.lightMode.isEmpty then none else some p.lightMode]
        [] = p.lightMode := by
    cases hl : p.lightMode <;> simp [firstNonEmpty]
  have hstate : (if ((p.renderState.map RenderState.rewritten).getD {}).hasOverrides = true then
      some ((p.renderState.map RenderState.rewritten).getD {}) else none) =
      (p.renderState.map RenderState.rewritten).filter (·.hasOverrides) := by
    cases p.renderState with
    | none => rfl
    | some st => simp [Option.filter]
  simp only [Pass.detached, Pass.rewritten, huse, hblocks, hfirst, hsecond, hstate,
    Bool.false_eq_true, if_false]

lemma lines_pass (ps : List Property) (huse : p.isUsePass = false) (filled : Bool) :
    ∃ blanks, (∀ l ∈ blanks, l = []) ∧
    (Writing.pass {} .standard ps p).lines ({} : Settings).indent 2 filled =
      (blanks ++ [marginAt 2 ++ passMarker p]) ++ passLines ps p true := by
  have hmarker : passMarker p ≠ [] := Marker.format_ne_nil _ _ _
  have hopen : "Pass".toList ++ " \x7b".toList ≠ [] := by decide
  have hshape : Writing.pass {} .standard ps p =
      .blank ++ .line (passMarker p) ++ .scope "Pass".toList (insideOf ps p) := by
    rw [Writing.pass, if_neg (by simp [huse])]
    rfl
  have hfilled : ∀ filled, Layout.filledAfter filled [passHeader] = true := by decide
  have hscope :
      ∀ filled, (Layout.scope "Pass".toList (insideOf ps p)).lines ({} : Settings).indent 2 filled =
      passLines ps p true := by
    intro filled
    rw [Layout.scope, Layout.block, Layout.lines_append, Layout.lines_append,
      Layout.lines_line hopen, Layout.lines_line (List.cons_ne_nil _ _), ← passHeader, hfilled]
    rfl
  refine ⟨Layout.blank.lines ({} : Settings).indent 2 filled, ?_, ?_⟩
  · cases filled <;> simp [Layout.blank, Layout.lines]
  · rw [hshape, Layout.lines_append, Layout.lines_append, Layout.lines_line hmarker, hscope]

lemma outside_nil : Outside [] := by
  refine ⟨?_, ?_, ?_, ?_, ?_⟩ <;> decide

/-- A marker that neither labels a section nor starts a block says nothing outside the passes. -/
theorem outside_marker {margin body : Text} {kind : MarkerKind} (hm : ∀ c ∈ margin, c = ' ')
    (hk : .sectionLabel ≠ kind ∧ .blockStart ≠ kind)
    (hb : ¬ Marker.opening ({} : Settings).tagPrefix <:+: body) (ho : '\x7b' ∉ body) :
    Outside (margin ++ Marker.format ({} : Settings).tagPrefix kind body) := by
  have hblank := isBlank_of_spaces hm
  obtain ⟨t, ht⟩ := List.head?_eq_some_iff.mp (format_head ({} : Settings).tagPrefix kind body)
  refine ⟨(Marker.lacks_format isWord_tagPrefix hblank hb hk.1).sectionLabel?,
    (Marker.lacks_format isWord_tagPrefix hblank hb hk.2).blockStart?,
    struct?_of_not_mem ?_, ?_, ?_⟩
  · exact not_mem_marker isWord_tagPrefix (isMargin_of_spaces hm) (by decide) (by decide) ho
  · rw [ht]
    exact usePass?_of_head hblank rfl (by decide)
  · rw [ht]
    exact opensPass_of_head hblank rfl (by decide)

lemma outside_passMarker (h : p.Legible ps) : Outside (marginAt 2 ++ passMarker p) ∧
    Silent ({} : Settings).tagPrefix (marginAt 2 ++ passMarker p) := by
  have hplain := plain_passAttributes h
  have hquotable : ∀ q ∈ passAttributesOf p, Quotable ({} : Settings).tagPrefix q.2 :=
    fun q hq => (hplain q hq).quotable
  have hkeys := Attributes.isName_of_isKey (isKey_passAttributes (p := p))
  have hb := not_infix_write isWord_tagPrefix hkeys hquotable
  refine ⟨outside_marker (spaces_marginAt 2) (by decide) hb ?_,
    silent_marker isWord_tagPrefix (isMargin_marginAt 2) (by decide) ?_ hb⟩
  · exact not_mem_write hkeys hquotable (by decide) (by decide) fun q hq => (hplain q hq).opens
  · exact not_mem_write hkeys hquotable (by decide) (by decide) fun q hq => (hplain q hq).newline

lemma stretch_pass (h : p.Legible ps) (hps : ∀ q ∈ ps, IsName q.name)
    (huse : p.isUsePass = false) (filled : Bool) :
    ∃ above body, (Writing.pass {} .standard ps p).lines ({} : Settings).indent 2 filled =
      above ++ body ∧
      Stretch above body p.rewritten := by
  obtain ⟨blanks, hblanks, hlines⟩ := lines_pass ps huse filled
  obtain ⟨inSection, hreads⟩ := reads_passLines h hps true
  refine ⟨_, _, hlines, ?_, ?_, List.cons_ne_nil _ _, none, extentsFrom_passLines h hps true, ?_⟩
  · intro l hl
    rcases List.mem_append.mp hl with hl | hl
    · rw [hblanks l hl]
      exact outside_nil
    · rw [List.mem_singleton.mp hl]
      exact (outside_passMarker h).1
  · intro l hl
    rw [List.mem_append, List.mem_append, List.mem_singleton] at hl
    rcases hl with (hl | rfl) | hl
    · rw [hblanks l hl]
      exact silent_of_not_mem List.not_mem_nil ⟨List.not_mem_nil, by simp⟩
    · exact (outside_passMarker h).2
    · exact hreads.silent l hl
  · intro before after cursor hcursor
    exact readPass_passLines h hps huse true hcursor

lemma usePassLine_eq (path : Text) : "UsePass ".toList ++ Writing.inDoubleQuotes path =
    ['U', 's', 'e', 'P', 'a', 's', 's', ' '] ++ '"' :: (path ++ ['"']) := by
  rw [String.toList_ofList]
  rfl

lemma usePass?_usePassLine {path : Text} (hquote : '"' ∉ path) (hne : path ≠ []) :
    usePass? (marginAt 2 ++ ("UsePass ".toList ++ Writing.inDoubleQuotes path)) = some path := by
  have hblank := isBlank_of_spaces (spaces_marginAt 2)
  have hafter : ∀ t : Text, after? ['U', 's', 'e', 'P', 'a', 's', 's']
    ('U' :: 's' :: 'e' :: 'P' :: 'a' :: 's' :: 's' :: t) =
    some t := fun _ => rfl
  have hblanks : blanks? (' ' :: '"' :: (path ++ ['"'])) = some ('"' :: (path ++ ['"'])) := rfl
  rw [usePassLine_eq]
  delta usePass? keywordName?
  simp only [List.cons_append, List.nil_append,
    skipBlanks_margin hblank (show isBlank 'U' = false from rfl)]
  rw [String.toList_ofList]
  simp only [hafter, Option.bind_eq_bind, Option.bind_some, hblanks, quotedName?_append hquote hne]

/-- A reference is read back from its line. -/
theorem stretch_usePass {path : Text} (h : Plain ({} : Settings).tagPrefix path)
    (hne : path ≠ []) (filled : Bool) :
    ∃ above body, (Writing.usePass path).lines ({} : Settings).indent 2 filled = above ++ body ∧
      Stretch above body (.usePass (.fresh 0) path) := by
  have hunmarked :
      Unmarked {} (marginAt 2 ++ ("UsePass ".toList ++ Writing.inDoubleQuotes path)) := by
    rw [usePassLine_eq]
    exact unmarked_quoted isWord_tagPrefix (spaces_marginAt 2) h (by decide)
  have hblanks : ∀ l ∈ Layout.blank.lines ({} : Settings).indent 2 filled, l = [] := by
    cases filled <;> simp [Layout.blank, Layout.lines]
  refine ⟨Layout.blank.lines ({} : Settings).indent 2 filled,
    [marginAt 2 ++ ("UsePass ".toList ++ Writing.inDoubleQuotes path)], ?_, ?_, ?_,
    List.cons_ne_nil _ _, some path, ?_, ?_⟩
  · rw [Writing.usePass, Layout.lines_append, Layout.lines_line (by simp [Writing.inDoubleQuotes])]
  · intro l hl
    rw [hblanks l hl]
    exact outside_nil
  · intro l hl
    rcases List.mem_append.mp hl with hl | hl
    · rw [hblanks l hl]
      exact silent_of_not_mem List.not_mem_nil ⟨List.not_mem_nil, by simp⟩
    · rw [List.mem_singleton.mp hl]
      exact hunmarked.silent
  · intro i rest
    rw [List.singleton_append, extentsFrom, usePass?_usePassLine h.quote hne]
    rfl
  · exact fun before after cursor _ => ⟨_, rfl, rfl⟩

end Source
end MarkedShader
