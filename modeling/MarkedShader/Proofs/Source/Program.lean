import MarkedShader.Proofs.Source.Stencil
import MarkedShader.Proofs.Source.Struct

/-! The pragmas and includes of a program are read back from the lines they are written in, and its
material declarations are passed over. -/
namespace MarkedShader.Source
open Text

variable {settings : Settings} {margin : Text} {s t : Progress}

/-- A pragma that is read back: the keyword, blanks, and nothing or a text without blanks at its
ends. -/
def IsPragma (t : Text) : Prop :=
  ∃ blanks rest, t = "#pragma".toList ++ blanks ++ rest ∧ blanks ≠ [] ∧
  (∀ c ∈ blanks, isBlank c) ∧ (∀ c ∈ rest.head?, isBlank c = false) ∧
    ∀ c ∈ rest.getLast?, isBlank c = false

lemma IsPragma.head {t : Text} (h : IsPragma t) : ∃ r, t = '#' :: 'p' :: r := by
  obtain ⟨blanks, rest, rfl, -⟩ := h
  rw [String.toList_ofList]
  exact ⟨_, rfl⟩

section
variable (hm : ∀ c ∈ margin, c = ' ')
include hm

lemma pragma?_written {t : Text} (h : IsPragma t) : pragma? (margin ++ t) = some t := by
  obtain ⟨blanks, rest, rfl, hne, hblanks, hfirst, hlast⟩ := h
  have hskip : skipBlanks (margin ++ ("#pragma".toList ++ blanks ++ rest)) =
      "#pragma".toList ++ (blanks ++ rest) := by
    rw [String.toList_ofList]
    exact (skipBlanks_margin (isBlank_of_spaces hm) rfl).trans (by simp)
  have hpass : blanks? (blanks ++ rest) = some rest := by
    obtain ⟨c, blanks, rfl⟩ := List.exists_cons_of_ne_nil hne
    obtain ⟨hc, hblanks⟩ := List.forall_mem_cons.mp hblanks
    rw [List.cons_append, blanks?, if_pos hc, skipBlanks_append hblanks, skipBlanks_of_stop hfirst]
  have htake : (blanks ++ rest).takeWhile isBlank = blanks := by
    rw [List.takeWhile_append_of_pos hblanks, takeWhile_of_stop hfirst, List.append_nil]
  have hstrip : stripEnd rest = rest := trimEnd_eq_self_iff.mpr hlast
  delta pragma?
  simp only [hskip, after?_append, Option.bind_eq_bind, Option.bind_some, hpass, htake, hstrip]

lemma Reads.pragma {t : Text} (ht : IsPragma t) (h : Plain settings.tagPrefix t)
    (hs : ∀ b, s.program b → b = true) :
    Reads settings s [margin ++ t] (s.update fun c => { c with pragmas := c.pragmas ++ [t] }) := by
  obtain ⟨r, hr⟩ := ht.head
  have hfree : ∀ {c}, c ≠ ' ' → c ∉ t → c ∉ margin ++ t := by
    intro c hne hc
    simp [not_mem_of_spaces hm hne, hc]
  have hunmarked : Unmarked settings (margin ++ t) :=
    ⟨isLine_of_not_mem (hfree (by decide) h.newline) (hfree (by decide) h.carriage),
      not_infix_append (not_mem_of_spaces hm (by decide)) h.marker,
      struct?_of_not_mem (hfree (by decide) h.opens)⟩
  have hblank := isBlank_of_spaces hm
  refine .programLine hunmarked ?_
    (braceDelta_of_not_mem (hfree (by decide) h.opens) (hfree (by decide) h.closes)) hs
    (fun c => ?_) fun c => ⟨rfl, rfl⟩
  · rw [hr]
    exact ⟨startsProgram_of_head hblank rfl (by decide), endsProgram_of_head hblank rfl (by decide)⟩
  · have hinclude : include? (margin ++ t) = none := by
      delta include? keywordName?
      rw [hr, skipBlanks_margin hblank rfl, String.toList_ofList]
      rfl
    simp only [Content.takeProgramLine, hinclude, pragma?_written hm ht]

lemma Reads.include (hpre : ∀ c ∈ settings.tagPrefix, isWord c) {path : Text}
    (h : Plain settings.tagPrefix path) (hne : path ≠ []) (hs : ∀ b, s.program b → b = true) :
    Reads settings s [margin ++ ("#include ".toList ++ Writing.inDoubleQuotes path)]
      (s.update fun c => { c with includes := c.includes ++ [path] }) := by
  have hblank := isBlank_of_spaces hm
  have hline : "#include ".toList ++ Writing.inDoubleQuotes path =
      ['#', 'i', 'n', 'c', 'l', 'u', 'd', 'e', ' '] ++ '"' :: (path ++ ['"']) := by
    rw [String.toList_ofList]
    rfl
  have hread : include? (margin ++
      (['#', 'i', 'n', 'c', 'l', 'u', 'd', 'e', ' '] ++ '"' :: (path ++ ['"']))) = some path := by
    have hafter : ∀ t : Text, after? ['#', 'i', 'n', 'c', 'l', 'u', 'd', 'e']
      ('#' :: 'i' :: 'n' :: 'c' :: 'l' :: 'u' :: 'd' :: 'e' :: t) = some t := fun _ => rfl
    have hblanks : blanks? (' ' :: '"' :: (path ++ ['"'])) = some ('"' :: (path ++ ['"'])) := rfl
    delta include? keywordName?
    simp only [List.cons_append, List.nil_append,
      skipBlanks_margin hblank (show isBlank '#' = false from rfl)]
    rw [String.toList_ofList]
    simp only [hafter, Option.bind_eq_bind, Option.bind_some, hblanks,
      quotedName?_append h.quote hne]
  rw [hline]
  refine .programLine (unmarked_quoted hpre hm h (by decide)) ?_ ?_ hs (fun c => ?_)
    fun c => ⟨rfl, rfl⟩
  · exact ⟨startsProgram_of_head hblank rfl (by decide), endsProgram_of_head hblank rfl (by decide)⟩
  · refine braceDelta_of_not_mem ?_ ?_
    · simp [not_mem_of_spaces hm, h.opens]
    · simp [not_mem_of_spaces hm, h.closes]
  · simp only [Content.takeProgramLine, hread]

end

lemma readsAt_pragmas {ts : List Text}
    (h : ∀ t ∈ ts, IsPragma t ∧ Plain ({} : Settings).tagPrefix t)
    (hs : ∀ b, s.program b → b = true) :
    ReadsAt 3 (.ofLines ts) s (s.update fun c => { c with pragmas := c.pragmas ++ ts }) := by
  induction ts generalizing s with
  | nil =>
    have : (s.update fun c => { c with pragmas := c.pragmas ++ [] }) = s := by
      simp [Progress.update]
    rw [this]
    exact .empty (Reads.along {})
  | cons t ts ih =>
    obtain ⟨ht, hplain⟩ := h t List.mem_cons_self
    obtain ⟨r, hr⟩ := ht.head
    have hfirst :=
      Layout.Leads.line (by simp [hr]) (Reads.pragma (s := s) (spaces_marginAt 3) ht hplain hs)
    have hrest := ih (s := s.update fun c => { c with pragmas := c.pragmas ++ [t] })
      (fun t ht => h t (List.mem_cons_of_mem _ ht)) hs
    have hall : ((s.update fun c => { c with pragmas := c.pragmas ++ [t] }).update fun c =>
        { c with pragmas := c.pragmas ++ ts }) = s.update fun c =>
          { c with pragmas := c.pragmas ++ t :: ts } := by
      simp [Progress.update]
    exact hall ▸ hfirst.append (Reads.along {}) hrest

lemma readsAt_includes {ts : List Text} (h : ∀ t ∈ ts, Plain ({} : Settings).tagPrefix t ∧ t ≠ [])
    (hs : ∀ b, s.program b → b = true) :
    ReadsAt 3 (.ofLines (ts.map fun path => "#include ".toList ++ Writing.inDoubleQuotes path)) s
      (s.update fun c => { c with includes := c.includes ++ ts }) := by
  induction ts generalizing s with
  | nil =>
    have : (s.update fun c => { c with includes := c.includes ++ [] }) = s := by
      simp [Progress.update]
    rw [this]
    exact .empty (Reads.along {})
  | cons t ts ih =>
    obtain ⟨hplain, hne⟩ := h t List.mem_cons_self
    have hfirst := Layout.Leads.line (by simp [Writing.inDoubleQuotes])
      (Reads.include (s := s) (spaces_marginAt 3) isWord_tagPrefix hplain hne hs)
    have hrest := ih (s := s.update fun c => { c with includes := c.includes ++ [t] })
      (fun t ht => h t (List.mem_cons_of_mem _ ht)) hs
    have hall : ((s.update fun c => { c with includes := c.includes ++ [t] }).update fun c =>
        { c with includes := c.includes ++ ts }) = s.update fun c =>
          { c with includes := c.includes ++ t :: ts } := by
      simp [Progress.update]
    exact hall ▸ hfirst.append (Reads.along {}) hrest

/-- Characters that can give a line a meaning wherever they stand in it. -/
def telling : List Char := ['"', '\x7b', '\x7d', '\n', '\r', '[']

lemma isWord_of_mem_telling : ∀ d ∈ telling, isWord d = false := by decide

/-- A character that no line with a meaning begins with. -/
def BeginsQuietly (c : Char) : Prop :=
  isBlank c = false ∧ c ∉ ['#', 'N', 'C', 'B', 'Z', 'H', 'E', 'S']

instance (c : Char) : Decidable (BeginsQuietly c) := inferInstanceAs (Decidable (_ ∧ _))

/-- An idle line that keeps to what is known of whether the program has begun. -/
structure Quiet (settings : Settings) (program : Bool → Prop) (l : Text) : Prop where
  idle : Idle settings l
  flat : braceDelta l = 0
  starts : startsProgram l → program true
  ends : endsProgram l → program false
  stencil : opensStencil l → ∀ b, program b → b = true

variable {program : Bool → Prop} {l : Text}

lemma Quiet.reads (h : Quiet settings s.program l) : Reads settings s [l] s :=
  .idle h.idle h.flat h.starts h.ends h.stencil

lemma quiet_of_keeps
    (h : Idle settings l ∧ braceDelta l = 0 ∧ startsProgram l = false ∧ endsProgram l = false ∧
    opensStencil l = false) : Quiet settings program l :=
  ⟨h.1, h.2.1, by simp [h.2.2.1], by simp [h.2.2.2.1], by simp [h.2.2.2.2]⟩

lemma quiet_of_head (hm : ∀ c ∈ margin, c = ' ') {c : Char} {t : Text} (hc : BeginsQuietly c)
    (hfree : ∀ d ∈ telling, d ∉ c :: t) : Quiet settings program (margin ++ c :: t) := by
  have hmem : ∀ d ∈ telling, d ∉ margin ++ c :: t := by
    intro d hd
    rw [List.mem_append, not_or]
    refine ⟨not_mem_of_spaces hm ?_, hfree d hd⟩
    rintro rfl
    revert hd
    decide
  obtain ⟨hc, hhead⟩ := hc
  simp only [List.mem_cons, List.not_mem_nil, or_false, not_or] at hhead
  obtain ⟨h1, h2, h3, h4, h5, h6, h7, h8⟩ := hhead
  have hblank := isBlank_of_spaces hm
  refine quiet_of_keeps ⟨idle_of_head hblank hc (by simp [h1, h2, h3, h4, h5])
    (not_infix_of_not_mem (hmem _ (by decide))) (fun d hd => hmem d (by revert d; decide))
    (fun hl => hmem '\r' (by decide) (List.mem_of_getLast? hl)),
    braceDelta_of_not_mem (hmem _ (by decide)) (hmem _ (by decide)),
    startsProgram_of_head hblank hc ⟨h6, h3⟩,
    endsProgram_of_head hblank hc h7, opensStencil_of_head hblank hc h8⟩

/-- A word in a line of which only the word is not known. -/
theorem quiet_around (hm : ∀ c ∈ margin, c = ' ') {c : Char} {before w after : Text} (hw : IsName w)
    (hc : BeginsQuietly c) (hfree : ∀ d ∈ telling, d ∉ c :: (before ++ after)) :
    Quiet settings program (margin ++ c :: (before ++ w ++ after)) := by
  refine quiet_of_head hm hc fun d hd => ?_
  have hn : d ∉ w := hw.not_mem (isWord_of_mem_telling d hd)
  have hrest := hfree d hd
  simp only [List.mem_cons, List.mem_append, not_or] at hrest ⊢
  exact ⟨hrest.1, ⟨hrest.2.1, hn⟩, hrest.2.2⟩

lemma readsAt_quiet {level : Nat} {ts : List Text}
    (h : ∀ t ∈ ts, t ≠ [] ∧ Quiet {} s.program (marginAt level ++ t)) :
    ReadsAt level (.ofLines ts) s s :=
  Layout.Leads.ofLines_stay (Reads.along {}) fun t ht => ⟨(h t ht).1, (h t ht).2.reads⟩

lemma readsAt_blank {level : Nat} : ReadsAt level .blank s s := .blank (Reads.along {}) Reads.blank

/-- What is decided of the line that opens a scope. -/
def IsHeader (level : Nat) (header : Text) : Prop :=
  Idle {} (marginAt level ++ (header ++ " \x7b".toList)) ∧
    braceDelta (marginAt level ++ (header ++ " \x7b".toList)) = 1 ∧
    startsProgram (marginAt level ++ (header ++ " \x7b".toList)) = false ∧
    endsProgram (marginAt level ++ (header ++ " \x7b".toList)) = false ∧
    opensStencil (marginAt level ++ (header ++ " \x7b".toList)) = false

instance (level : Nat) (header : Text) : Decidable (IsHeader level header) :=
  inferInstanceAs (Decidable (_ ∧ _))

/-- A header that opens a brace is passed over and leads one brace deeper. -/
theorem Reads.header {level : Nat} {header : Text} (h : IsHeader level header) :
    Reads {} s [marginAt level ++ (header ++ " \x7b".toList)] { s with depth := s.depth+1 } := by
  obtain ⟨hidle, hdelta, hstart, hend, hstencil⟩ := h
  exact .idle_depth hidle (fun h => absurd (hstart.symm.trans h) Bool.false_ne_true)
    (fun h => absurd (hend.symm.trans h) Bool.false_ne_true)
    (fun h => absurd (hstencil.symm.trans h) Bool.false_ne_true) (by rw [hdelta]; rfl)

lemma braceDelta_closer (level : Nat) : braceDelta (marginAt level ++ ['\x7d']) = -1 := by
  rw [braceDelta_margin (isMargin_marginAt level)]
  rfl

/-- A closing brace is passed over and leads one brace back. -/
theorem Reads.closer (level : Nat) :
    Reads {} { s with depth := s.depth+1 } [marginAt level ++ ['\x7d']] s := by
  have hblank := isBlank_of_spaces (spaces_marginAt level)
  have hspace : ∀ {c}, c ≠ ' ' → c ∉ marginAt level := not_mem_of_spaces (spaces_marginAt level)
  have hidle : Idle {} (marginAt level ++ ['\x7d']) :=
    idle_of_head hblank rfl (by decide) (not_infix_of_not_mem (by simp [hspace]))
      (by simp [hspace]) (by simp)
  refine .idle_depth hidle ?_ ?_ ?_ (by simp only [braceDelta_closer]; omega)
  · simp [startsProgram_of_head (t := []) hblank (show isBlank '\x7d' = false from rfl) (by decide)]
  · simp [endsProgram_of_head (t := []) hblank (show isBlank '\x7d' = false from rfl) (by decide)]
  · simp [opensStencil_of_head (t := []) hblank (show isBlank '\x7d' = false from rfl) (by decide)]

lemma readsAt_scope {level : Nat} {header : Text} {body : Layout} (h : IsHeader level header)
    (hbody : ReadsAt (level+1) body { s with depth := s.depth+1 } { t with depth := t.depth+1 }) :
    ReadsAt level (.scope header body) s t := by
  have hne : header ++ " \x7b".toList ≠ [] := by
    rw [String.toList_ofList]
    simp
  exact ((Layout.Leads.line hne (.header h)).append (Reads.along {}) (.indented hbody)).append
    (Reads.along {}) (.line (List.cons_ne_nil _ _) (.closer level))

lemma quiet_texture {macroName name : Text}
    (hmacroName : ∃ kind, Writing.textureMacro? kind = some macroName) (hname : IsName name)
    (hm : ∀ c ∈ margin, c = ' ') :
    Quiet settings program (margin ++
      (macroName ++ '(' :: name ++ "); SAMPLER(sampler".toList ++ name ++ ");".toList)) := by
  obtain ⟨t, rfl, hfree⟩ : ∃ t, macroName = 'T' :: t ∧ ∀ d ∈ telling, d ∉ t := by
    obtain ⟨kind, hkind⟩ := hmacroName
    cases kind <;> simp only [Writing.textureMacro?, Option.some.injEq, reduceCtorEq] at hkind <;>
      (subst hkind; rw [String.toList_ofList]; exact ⟨_, rfl, by decide⟩)
  rw [String.toList_ofList, String.toList_ofList]
  simp only [List.cons_append]
  refine quiet_of_head hm (by decide) fun d hd => ?_
  have hn := hname.not_mem (isWord_of_mem_telling d hd)
  have ht := hfree d hd
  simp only [telling, List.mem_cons, List.not_mem_nil, or_false] at hd
  rcases hd with rfl | rfl | rfl | rfl | rfl | rfl <;> simp [hn, ht]

lemma quiet_constant {p : Property} {t : Text} (ht : Writing.constant? p = some t)
    (hname : IsName p.name) (hm : ∀ c ∈ margin, c = ' ') :
    t ≠ [] ∧ Quiet settings program (margin ++ t) := by
  obtain ⟨c, before, after, rfl, hhead, hfree⟩ :
      ∃ c before after, t = c :: (before ++ p.name ++ after) ∧
      BeginsQuietly c ∧ ∀ d ∈ telling, d ∉ c :: (before ++ after) := by
    cases hkind : p.kind
      <;> simp only [Writing.constant?, hkind, Option.some.injEq, reduceCtorEq] at ht <;> subst ht
    all_goals first
      | exact ⟨'f', ['l', 'o', 'a', 't', ' '],
        [';'], by rw [String.toList_ofList]; rfl, by decide, by decide⟩
      | exact ⟨'i', ['n', 't', ' '], [';'], by rw [String.toList_ofList]; rfl, by decide, by decide⟩
      | exact ⟨'f', ['l', 'o', 'a', 't', '4', ' '],
        [';'], by rw [String.toList_ofList]; rfl, by decide, by decide⟩
      | exact ⟨'f', ['l', 'o', 'a', 't', '4', ' '], ['_', 'S', 'T', ';'],
          by rw [String.toList_ofList, String.toList_ofList]; rfl, by decide, by decide⟩
  exact ⟨List.cons_ne_nil _ _, quiet_around hm hname hhead hfree⟩

lemma readsAt_materialDeclarations {ps : List Property} (h : ∀ p ∈ ps, IsName p.name) :
    ReadsAt 3 (Writing.materialDeclarations {} ps) s s := by
  have hopen : Quiet {} s.program
      (marginAt 3 ++ ("CBUFFER_START(".toList ++ ({} : Settings).cbufferName ++ [')'])) :=
    quiet_of_keeps (by decide)
  have hclose : Quiet {} s.program (marginAt 3 ++ "CBUFFER_END".toList) :=
    quiet_of_keeps (by decide)
  have htextures : ReadsAt 3 (.ofLines (ps.filterMap fun p =>
      (Writing.textureMacro? p.kind).map fun macroName =>
        macroName ++ '(' :: p.name ++ "); SAMPLER(sampler".toList ++ p.name ++
          ");".toList)) s s := by
    refine readsAt_quiet fun t ht => ?_
    obtain ⟨p, hp, hmap⟩ := List.mem_filterMap.mp ht
    obtain ⟨macroName, hmacroName, rfl⟩ := Option.map_eq_some_iff.mp hmap
    exact ⟨by simp, quiet_texture ⟨_, hmacroName⟩ (h p hp) (spaces_marginAt 3)⟩
  have hconstants : ReadsAt 4 (.ofLines (ps.filterMap Writing.constant?)) s s := by
    refine readsAt_quiet fun t ht => ?_
    obtain ⟨p, hp, hconstant⟩ := List.mem_filterMap.mp ht
    exact quiet_constant hconstant (h p hp) (spaces_marginAt 4)
  refine (htextures.append (Reads.along {}) readsAt_blank).append (Reads.along {}) ?_
  dsimp only
  split_ifs
  · exact .empty (Reads.along {})
  · have hfirst := Layout.Leads.line (by simp) hopen.reads
    have hlast := Layout.Leads.line (by decide) hclose.reads
    exact ((hfirst.append (Reads.along {}) (.indented hconstants)).append
      (Reads.along {}) hlast).append (Reads.along {}) readsAt_blank

end MarkedShader.Source
