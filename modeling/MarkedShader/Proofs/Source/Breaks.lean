import MarkedShader.Proofs.Source.Located
import MarkedShader.Proofs.Splice

/-! A source whose line feeds all have carriage returns before them is read as the one without: only
the shader's name is looked for in the raw text, and it goes over the breaks as over other blanks.

Main statement: `parse_crlf`. -/
namespace MarkedShader

namespace Text

/-- The text with a carriage return before every line feed. -/
def crlf (t : Text) : Text := t.flatMap fun c => if c = '\n' then ['\r', '\n'] else [c]

variable {c : Char} {lead t : Text}

@[simp] lemma crlf_newline (t : Text) : crlf ('\n' :: t) = '\r' :: '\n' :: crlf t := rfl

@[simp] lemma crlf_cons (h : c ≠ '\n') (t : Text) : crlf (c :: t) = c :: crlf t := by
  rw [crlf, List.flatMap_cons, if_neg h]
  rfl

lemma crlf_of_not_mem (h : '\n' ∉ t) : crlf t = t := by
  induction t with
  | nil => rfl
  | cons c t ih =>
    obtain ⟨hc, ht⟩ := List.ne_and_not_mem_of_not_mem_cons h
    rw [crlf_cons hc.symm, ih ht]

/-- Induction that tells line feeds from the other characters. -/
@[elab_as_elim]
lemma newline_induction {motive : Text → Prop} (nil : motive [])
    (newline : ∀ t, motive t → motive ('\n' :: t))
    (cons : ∀ c t, c ≠ '\n' → motive t → motive (c :: t)) (t : Text) : motive t := by
  induction t with
  | nil => exact nil
  | cons c t ih =>
    by_cases hc : c = '\n'
    · exact hc ▸ newline t ih
    · exact cons c t hc ih

lemma head?_crlf_ne (t : Text) : (crlf t).head? ≠ some '\n' := by
  induction t using newline_induction with
  | nil => nofun
  | newline => simp
  | cons c t hc => simp [hc]

lemma unifyBreaks_crlf (t : Text) : unifyBreaks (crlf t) = t := by
  induction t using newline_induction with
  | nil => rfl
  | newline t ih => rw [crlf_newline, unifyBreaks, ih]
  | cons c t hc ih => rw [crlf_cons hc, unifyBreaks_cons fun _ => head?_crlf_ne t, ih]

lemma lines_crlf (h : '\r' ∉ t) : lines (crlf t) = lines t := by
  rw [lines, lines, unifyBreaks_crlf, unifyBreaks_of_not_mem h]

lemma allBlank_crlf (t : Text) : allBlank (crlf t) = allBlank t := by
  induction t using newline_induction with
  | nil => rfl
  | newline t ih => exact ih
  | cons c t hc ih =>
    rw [crlf_cons hc]
    exact congrArg (isBlank c && ·) ih

lemma skipBlanks_crlf (t : Text) : skipBlanks (crlf t) = crlf (skipBlanks t) := by
  induction t using newline_induction with
  | nil => rfl
  | newline t ih => exact ih
  | cons c t hc ih =>
    rw [crlf_cons hc, skipBlanks, skipBlanks, List.dropWhile_cons, List.dropWhile_cons]
    split_ifs
    · exact ih
    · rw [crlf_cons hc]

lemma blanks?_crlf (t : Text) : blanks? (crlf t) = (blanks? t).map crlf := by
  induction t using newline_induction with
  | nil => rfl
  | newline t => exact congrArg some (skipBlanks_crlf t)
  | cons c t hc =>
    rw [crlf_cons hc, blanks?, blanks?]
    split_ifs
    · exact congrArg some (skipBlanks_crlf t)
    · rfl

lemma after?_crlf (hn : '\n' ∉ lead) (hr : '\r' ∉ lead) (t : Text) :
    after? lead (crlf t) = (after? lead t).map crlf := by
  induction lead generalizing t with
  | nil => rfl
  | cons l lead ih =>
    obtain ⟨hln, hn⟩ := List.ne_and_not_mem_of_not_mem_cons hn
    obtain ⟨hlr, hr⟩ := List.ne_and_not_mem_of_not_mem_cons hr
    have hstep : ∀ (d : Char) (u : Text), after? (l :: lead) (d :: u) = if l == d then after? lead u
      else none := fun _ _ => rfl
    induction t using newline_induction with
    | nil => rfl
    | newline t =>
      rw [crlf_newline, hstep, hstep, if_neg (by simpa using hlr.symm),
        if_neg (by simpa using hln.symm)]
      rfl
    | cons c t hc =>
      rw [crlf_cons hc, hstep, hstep]
      split_ifs
      · exact ih hn hr t
      · rfl

lemma upTo?_crlf {d : Char} (hn : d ≠ '\n') (hr : d ≠ '\r') (t : Text) :
    upTo? d (crlf t) = (upTo? d t).map fun p => (crlf p.1, crlf p.2) := by
  induction t using newline_induction with
  | nil => rfl
  | newline t ih =>
    rw [crlf_newline, upTo?, if_neg hr.symm, upTo?, if_neg hn.symm, ih, upTo?, if_neg hn.symm,
      Option.map_map, Option.map_map, Option.map_map]
    rfl
  | cons c t hc ih =>
    rw [crlf_cons hc, upTo?, upTo?]
    split_ifs
    · rfl
    · rw [ih, Option.map_map, Option.map_map]
      congr 1
      funext p
      simp [hc]

lemma quoted?_crlf (t : Text) :
    quoted? (crlf t) = (quoted? t).map fun p => (crlf p.1, crlf p.2) := by
  induction t using newline_induction with
  | nil => rfl
  | newline t => rfl
  | cons c t hc =>
    rw [crlf_cons hc]
    by_cases hquote : c = '"'
    · subst hquote
      exact upTo?_crlf (by decide) (by decide) t
    · simp [quoted?, hquote]

lemma quotedName?_crlf (t : Text) :
    quotedName? (crlf t) = (quotedName? t).map fun p => (crlf p.1, crlf p.2) := by
  have hempty : ∀ u : Text, (crlf u).isEmpty = u.isEmpty := by
    intro u
    induction u using newline_induction with
    | nil => rfl
    | newline => simp
    | cons c u hc => simp [hc]
  rw [quotedName?, quotedName?, quoted?_crlf, Option.filter_map]
  simp only [Function.comp_def, hempty]

end Text

namespace Source
open Text

lemma keywordName?_crlf {keyword : String} (hn : '\n' ∉ keyword.toList) (hr : '\r' ∉ keyword.toList)
    (t : Text) : keywordName? keyword (crlf t) = (keywordName? keyword t).map crlf := by
  simp only [keywordName?, skipBlanks_crlf, after?_crlf hn hr, Option.bind_eq_bind, Option.bind_map,
    Option.map_bind, Function.comp_def, blanks?_crlf, quotedName?_crlf]
  rfl

lemma shaderNameFrom_crlf (atStart : Bool) (t : Text) :
    shaderNameFrom atStart (crlf t) = (shaderNameFrom atStart t).map crlf := by
  have hread : ∀ t, keywordName? "Shader" (crlf t) = (keywordName? "Shader" t).map crlf :=
    keywordName?_crlf (by decide) (by decide)
  induction t using newline_induction generalizing atStart with
  | nil => rfl
  | newline t ih =>
    -- neither a carriage return nor its line feed begins a line before the line feed does
    have hhere := hread ('\n' :: t)
    rw [crlf_newline] at hhere ⊢
    rw [shaderNameFrom, shaderNameFrom, shaderNameFrom, hhere]
    cases atStart <;> cases keywordName? "Shader" ('\n' :: t) <;> simp [ih]
  | cons c t hc ih =>
    have hhere := hread (c :: t)
    rw [crlf_cons hc] at hhere ⊢
    rw [shaderNameFrom, shaderNameFrom, hhere]
    cases atStart <;> cases keywordName? "Shader" (c :: t) <;> simp [ih]

variable {settings : Settings} {r : Registry} {s : Text}

lemma documentOf_crlf (unbroken : '\r' ∉ s) (named : ∀ name ∈ shaderName? s, '\n' ∉ name) :
    documentOf settings r (crlf s) =
      ({ (documentOf settings r s).1 with rawContent := crlf s }, (documentOf settings r s).2) := by
  have hname : shaderName? (crlf s) = shaderName? s := by
    refine (shaderNameFrom_crlf true s).trans ?_
    change (shaderName? s).map crlf = shaderName? s
    cases hs : shaderName? s with
    | none => rfl
    | some name => exact congrArg some (crlf_of_not_mem (named name hs))
  simp only [documentOf, lines_crlf unbroken, hname]

lemma documentOf_id (settings : Settings) (r : Registry) (content : Text) :
    ∀ b ∈ (documentOf settings r content).1.allBlocks, b.id = .fresh b.startLine.toNat :=
  HoldsOfRead.documentOf fun _ _ _ _ _ => rfl

/-- Each block of a source is the one that its identity stands for. -/
lemma blockAt?_findBlock?_id {content : Text} {b : Block}
    (hb : b ∈ (documentOf settings r content).1.allBlocks) :
    ((documentOf settings r content).1.findBlock? b.id).bind
      (documentOf settings r content).1.blockAt? = some b := by
  obtain ⟨hexact, hapart, -⟩ := documentOf_located settings r content
  have hids := documentOf_id settings r content
  rw [Document.findBlock?, Document.blockAt?_findPosition?]
  have hsome : ((documentOf settings r content).1.allBlocks.find? fun c => c.id = b.id).isSome :=
    List.find?_isSome.mpr ⟨b, hb, by simp⟩
  obtain ⟨c, hc⟩ := Option.isSome_iff_exists.mp hsome
  have hmem := List.mem_of_find?_eq_some hc
  have hid : c.id = b.id := by simpa using List.find?_some hc
  rw [hids c hmem, hids b hb, Identity.fresh.injEq] at hid
  have hstart : c.startLine = b.startLine := by
    have := (hexact c hmem).1.startLine_eq
    have := (hexact b hb).1.startLine_eq
    omega
  have honly :
      c ∈ (documentOf settings r content).1.allBlocks.filter fun c => c.startLine = b.startLine :=
    List.mem_filter.mpr ⟨hmem, decide_eq_true hstart⟩
  rw [filter_startLine (fun b hb => (hexact b hb).1) hapart hb, List.mem_singleton] at honly
  rw [hc, honly]

lemma isCurrentIn_of_isClosedIn {pre : Text} {ls : List Text} {b : Block} (exact : b.IsExact pre ls)
    (closed : b.isClosedIn pre ls) : b.isCurrentIn pre ls := by
  rw [Block.isClosedIn, Bool.and_eq_true, decide_eq_true_eq] at closed
  exact Block.isCurrentIn_iff.mpr ⟨exact.start.1, closed.1, exact.inside, exact.start.2, closed.2⟩

/-- New code for a block with an end always goes into the lines of its source, however their breaks
are written. -/
lemma replaceBlock_of_closed {content raw : Text} {b : Block} (hraw : lines raw = lines content)
    (hb : b ∈ (documentOf settings r content).1.allBlocks)
    (closed : b.isClosedIn settings.tagPrefix (lines content)) (code : Text) :
    { (documentOf settings r content).1 with rawContent := raw }.replaceBlock
      settings.tagPrefix b.id code =
      joinLines (b.spliceInto settings.tagPrefix (documentOf settings r content).1.properties code
        (lines content)) := by
  have hcurrent :=
    isCurrentIn_of_isClosedIn ((documentOf_located settings r content).1 b hb).1 closed
  have hfound : ({ (documentOf settings r content).1 with rawContent := raw }.findBlock? b.id).bind
      { (documentOf settings r content).1 with rawContent := raw }.blockAt? = some b :=
    blockAt?_findBlock?_id hb
  rw [Document.replaceBlock_of_current hfound (hraw.symm ▸ hcurrent), hraw]

/-- Carriage returns before the line feeds change neither what is read nor what is warned of, nor
the text with new code for a block that has an end. -/
theorem parse_crlf (settings : Settings) (r : Registry) {s : Text} (unbroken : '\r' ∉ s)
    (nonblank : allBlank s = false) (named : ∀ name ∈ shaderName? s, '\n' ∉ name) :
    ∃ d ws, parse settings r s = .ok (d, ws) ∧
      parse settings r (crlf s) = .ok ({ d with rawContent := crlf s }, ws) ∧
      ∀ b ∈ d.allBlocks, b.isClosedIn settings.tagPrefix (lines s) → ∀ code,
        { d with rawContent := crlf s }.replaceBlock settings.tagPrefix b.id code =
          d.replaceBlock settings.tagPrefix b.id code := by
  refine ⟨(documentOf settings r s).1, (documentOf settings r s).2, ?_, ?_,
    fun b hb closed code => ?_⟩
  · rw [parse, nonblank]
    rfl
  · rw [parse, allBlank_crlf, nonblank, documentOf_crlf unbroken named]
    rfl
  · have hplain :
        { (documentOf settings r s).1 with rawContent := s } = (documentOf settings r s).1 := rfl
    rw [replaceBlock_of_closed (lines_crlf unbroken) hb closed,
      ← replaceBlock_of_closed (rfl : lines s = lines s) hb closed, hplain]

/-- A block with an end, below a name that stands on a line of its own. -/
def namedBelow : Text :=
  "Shader\n\"A\"\n\t// [AILab_Block_Start: \"B\"]\n\tfloat a;\n\t// [AILab_Block_End]\n".toList

theorem parse_crlf_namedBelow :
    shaderName? (crlf namedBelow) = some ['A'] ∧
    ∃ d ws, parse {} .standard namedBelow = .ok (d, ws) ∧
      parse {} .standard (crlf namedBelow) = .ok ({ d with rawContent := crlf namedBelow }, ws) ∧
      ∃ b ∈ d.allBlocks, b.isClosedIn "AILab".toList (lines namedBelow) ∧
        { d with rawContent := crlf namedBelow }.replaceBlock "AILab".toList b.id "half a;".toList =
          d.replaceBlock "AILab".toList b.id "half a;".toList := by
  have hparse : parse {} .standard namedBelow = .ok (documentOf {} .standard namedBelow) :=
    if_neg (by decide)
  obtain ⟨d, ws, hd, hcrlf, hreplace⟩ :=
    parse_crlf {} .standard (s := namedBelow) (by decide) (by decide) (by decide)
  rw [hparse, Except.ok.injEq] at hd
  have hclosed : ((documentOf {} .standard namedBelow).1.allBlocks.any fun b =>
      b.isClosedIn "AILab".toList (lines namedBelow)) = true := by decide +kernel
  rw [hd] at hclosed
  obtain ⟨b, hb, hclosed⟩ := List.any_eq_true.mp hclosed
  exact ⟨by decide, d, ws, hd ▸ hparse, hcrlf, b, hb, hclosed, hreplace b hb hclosed _⟩

end Source
end MarkedShader
