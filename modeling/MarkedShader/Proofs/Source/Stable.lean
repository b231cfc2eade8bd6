import MarkedShader.Proofs.Source.Rewriting

/-! When the text of a document that was read is what it is rewritten to. All of it is but for the
lines of properties: a flat texture that names none and a value that ends in a blank are written
once more before they stay as they are. -/
namespace MarkedShader

/-- A property that is written with all that is read of it: its bounds are read back, and if it has
no declaration of its own, a flat texture has a name and a value does not end in a blank. -/
structure Property.Complete (p : Property) : Prop where
  bounds : p.kind = .range →
    (Source.numberOr (.ofNat 0) p.minValue.plain).plain = p.minValue.plain ∧
    (Source.numberOr (.ofNat 1) p.maxValue.plain).plain = p.maxValue.plain
  texture : p.rawDeclaration = [] → p.kind = .texture2D → p.defaultTexture ≠ []
  value : p.rawDeclaration = [] → p.kind.isTexture = false →
    p.defaultValue ≠ [] ∧ ∀ c ∈ p.defaultValue.getLast?, Text.isBlank c = false

namespace Source
open Text

variable {p : Property}

lemma defaultTexture?_plain {declaration texture : Text}
    (h : defaultTexture? declaration = some texture) (pre : Text) : Plain pre texture := by
  have hword : ∀ c ∈ texture, isWord c := by
    obtain ⟨t, -, ht⟩ := exists_of_search h
    simp only [Option.bind_eq_bind, Option.bind_eq_some_iff] at ht
    obtain ⟨_, -, r, -, _, -, _, -, _, -, hr⟩ := ht
    obtain rfl := Option.some.inj hr
    exact fun c hc => List.mem_takeWhile_imp hc
  have hfree : ∀ c ∈ ['"', '\n', '\r', '\x7b', '\x7d', '/', '['], isWord c = false := by decide
  exact plain_of_free fun c hc => Marker.not_mem_of_isWord hword (hfree c hc)

/-- Behind a text without quotes a quoted word is looked for at the first quote, if only blanks come
before it. -/
lemma after?_quote {s u : Text} (hs : '"' ∉ s) :
    after? ['"'] (skipBlanks (s ++ '"' :: u)) = none ∨
      after? ['"'] (skipBlanks (s ++ '"' :: u)) = some u := by
  induction s with
  | nil => exact .inr rfl
  | cons c s ih =>
    rw [List.mem_cons, not_or] at hs
    by_cases hc : isBlank c = true
    · have hskip : skipBlanks (c :: s ++ '"' :: u) = skipBlanks (s ++ '"' :: u) :=
        skipBlanks_append (m := [c]) (by simpa using hc) _
      rw [hskip]
      exact ih hs.2
    · have hskip : skipBlanks (c :: s ++ '"' :: u) = c :: s ++ '"' :: u :=
        skipBlanks_of_stop (by simpa using hc)
      rw [hskip]
      exact .inl (after?_of_head_ne hs.1 _)

lemma after?_equals {c : Char} (t : Text) (hc : c ≠ '=') : after? ['='] (c :: t) = none :=
  after?_of_head_ne (Ne.symm hc) []

lemma defaultTexture?_append {l t : Text} (h : '=' ∉ l) :
    defaultTexture? (l ++ t) = defaultTexture? t := by
  refine search_append fun a b hab hb => ?_
  cases b with
  | nil => contradiction
  | cons c b =>
    have hc : c ≠ '=' := by
      rintro rfl
      exact h (hab ▸ List.mem_append_right a List.mem_cons_self)
    simp only [List.cons_append, after?_equals _ hc, Option.bind_eq_bind, Option.bind_none]

/-- A label names no texture: behind an equality sign in it the next quote is the one that closes
it, and no word follows. -/
lemma defaultTexture?_append_label {s : Text} (h : '"' ∉ s) (t : Text) :
    defaultTexture? (s ++ '"' :: ',' :: t) = defaultTexture? ('"' :: ',' :: t) := by
  refine search_append fun a b hab hb => ?_
  cases b with
  | nil => contradiction
  | cons c b =>
    by_cases hc : c = '='
    · have hb : '"' ∉ b :=
        fun hmem => h (hab ▸ List.mem_append_right a (List.mem_cons_of_mem _ hmem))
      have hfirst : after? ['='] (c :: (b ++ '"' :: ',' :: t)) = some (b ++ '"' :: ',' :: t) :=
        hc ▸ after?_append ['='] _
      have hcomma : after? ['"'] ((',' :: t).dropWhile isWord) = none := by
        rw [dropWhile_of_stop (by simp [show isWord ',' = false by decide])]
        rfl
      simp only [List.cons_append, hfirst, Option.bind_eq_bind, Option.bind_some]
      rcases after?_quote (u := ',' :: t) hb with h | h <;> rw [h]
      · rfl
      · simp only [Option.bind_some, hcomma, Option.bind_none]
    · simp only [List.cons_append, after?_equals _ hc, Option.bind_eq_bind, Option.bind_none]

/-- A word in quotes behind an equality sign is a texture. -/
lemma defaultTexture?_quoted {texture : Text} (h : ∀ c ∈ texture, isWord c) :
    defaultTexture? ('=' :: ' ' :: '"' :: (texture ++ ['"', ' ', '\x7b', '\x7d'])) =
      some texture := by
  have hstop : ∀ c ∈ (['"', ' ', '\x7b', '\x7d'] : Text).head?, isWord c = false := by decide
  refine search_of_reads ?_
  have hopen : after? ['='] ('=' :: ' ' :: '"' :: (texture ++ ['"', ' ', '\x7b', '\x7d'])) =
    some (' ' :: '"' :: (texture ++ ['"', ' ', '\x7b', '\x7d'])) := after?_append ['='] _
  have hquote : after? ['"'] (skipBlanks (' ' :: '"' :: (texture ++ ['"', ' ', '\x7b', '\x7d']))) =
    some (texture ++ ['"', ' ', '\x7b', '\x7d']) := rfl
  have hclose : ∀ t : Text, after? ['"'] ('"' :: t) = some t := after?_append ['"']
  simp only [hopen, hquote, Option.bind_eq_bind, Option.bind_some,
    List.dropWhile_append_of_pos h, dropWhile_of_stop hstop, hclose, List.takeWhile_append_of_pos h,
    takeWhile_of_stop hstop, List.append_nil]
  rfl

/-- The texture that a declaration with a word for one names. -/
lemma defaultTexture?_labelled (hname : IsName p.name) (hdisplay : '"' ∉ p.displayName)
    {kind texture : Text} (hkind : ∀ c ∈ kind, isWord c) (htexture : ∀ c ∈ texture, isWord c) :
    defaultTexture? (labelled p (textured kind texture)) = some texture := by
  have hshape : labelled p (textured kind texture) = (p.name ++ ['(', '"']) ++ (p.displayName ++
      '"' :: ',' :: ([' '] ++ kind ++ [')', ' '] ++ '=' :: ' ' :: '"' ::
        (texture ++ ['"', ' ', '\x7b', '\x7d']))) := by
    simp [labelled, textured]
  have hequals : isWord '=' = false := by decide
  have hfirst : '=' ∉ p.name ++ ['(', '"'] := by simp [hname.not_mem hequals]
  have hlast : '=' ∉ '"' :: ',' :: ([' '] ++ kind ++ [')', ' ']) := by
    simp [Marker.not_mem_of_isWord hkind hequals]
  rw [hshape, defaultTexture?_append hfirst, defaultTexture?_append_label hdisplay]
  exact (defaultTexture?_append hlast).trans (defaultTexture?_quoted htexture)

/-- What is synthesized for a property that is no texture ends with its value. -/
theorem synthesize_of_value (h : p.kind.isTexture = false) :
    ∃ front, p.synthesize = labelled p (front ++ ' ' :: p.defaultValue) := by
  have hvalue : ∀ k : PropertyKind, p.name ++ "(\"".toList ++ p.displayName ++
      "\", ".toList ++ k.name ++ ") = ".toList ++
      p.defaultValue =
        labelled p ((", ".toList ++ k.name ++ ") =".toList) ++ ' ' :: p.defaultValue) := by
    intro k
    simp [labelled]
  delta Property.synthesize
  revert h
  cases p.kind with
  | range =>
    refine fun _ =>
      ⟨", Range(".toList ++ p.minValue.plain ++ ',' :: p.maxValue.plain ++ ")) =".toList, ?_⟩
    simp [labelled]
  | float => exact fun _ => ⟨_, hvalue .float⟩
  | color => exact fun _ => ⟨_, hvalue .color⟩
  | vector => exact fun _ => ⟨_, hvalue .vector⟩
  | int => exact fun _ => ⟨_, hvalue .int⟩
  | _ => exact fun h => absurd h (by decide)

lemma synthesize_of_texture (h : p.kind.isTexture) : ∃ kind, (∀ c ∈ kind, isWord c) ∧ p.synthesize =
    labelled p (textured kind (if p.kind = .texture2D ∧ p.defaultTexture = [] then "white".toList
      else p.defaultTexture)) := by
  have htextured :
      ∀ kind texture : Text, p.name ++ "(\"".toList ++ p.displayName ++ "\", ".toList ++ kind ++
      ") = \"".toList ++ texture ++ "\" \x7b\x7d".toList = labelled p (textured kind texture) := by
    intro kind texture
    simp [labelled, textured]
  delta Property.synthesize
  revert h
  cases p.kind with
  | texture2D =>
    refine fun _ => ⟨"2D".toList, by decide, (htextured _ _).trans ?_⟩
    simp
  | texture3D =>
    refine fun _ => ⟨"3D".toList, by decide, (htextured _ _).trans ?_⟩
    simp
  | cubemap =>
    refine fun _ => ⟨"Cube".toList, by decide, (htextured _ _).trans ?_⟩
    simp
  | _ => exact fun h => absurd h (by decide)

lemma strip_eq_self_iff {t : Text} (hfirst : ∀ c ∈ t.head?, isBlank c = false) :
    strip t = t ↔ ∀ c ∈ t.getLast?, isBlank c = false := by
  rw [strip, trimBoth, dropWhile_of_stop hfirst]
  exact trimEnd_eq_self_iff

lemma strip_synthesize_of_value (hname : IsName p.name) (h : p.kind.isTexture = false) :
    strip p.synthesize = p.synthesize ↔
      p.defaultValue ≠ [] ∧ ∀ c ∈ p.defaultValue.getLast?, isBlank c = false := by
  obtain ⟨front, hfront⟩ := synthesize_of_value h
  have hshape : p.synthesize = (p.name ++ '(' :: '"' :: (p.displayName ++ '"' :: front)) ++ ' ' ::
      p.defaultValue := by
    rw [hfront]
    simp [labelled]
  rw [strip_eq_self_iff (by rw [hfront]; exact hname.head_not_blank _), hshape,
    List.getLast?_append_of_ne_nil _ (List.cons_ne_nil _ _)]
  cases hvalue : p.defaultValue with
  | nil => simp [show isBlank ' ' = true by decide]
  | cons c t => simp

lemma strip_textured (hname : IsName p.name) (kind texture : Text) :
    strip (labelled p (textured kind texture)) = labelled p (textured kind texture) := by
  have hshape : labelled p (textured kind texture) =
      (p.name ++ '(' :: '"' :: (p.displayName ++ '"' :: ([',', ' '] ++ kind ++
      [')', ' ', '=', ' '] ++ '"' :: (texture ++ ['"', ' ', '\x7b'])))) ++ ['\x7d'] := by
    simp [labelled, textured]
  have hlast : ∀ c ∈ (labelled p (textured kind texture)).getLast?, isBlank c = false := by
    rw [hshape, List.getLast?_concat]
    decide
  exact (strip_eq_self_iff (hname.head_not_blank _)).mpr hlast

lemma strip_synthesize_of_texture (hname : IsName p.name) (h : p.kind.isTexture) :
    strip p.synthesize = p.synthesize := by
  obtain ⟨kind, -, heq⟩ := synthesize_of_texture h
  rw [heq, strip_textured hname]

/-- Where a property has no texture, its synthesized declaration has a white one or none. -/
theorem defaultTexture?_synthesize (hname : IsName p.name) (hdisplay : '"' ∉ p.displayName)
    (hkind : p.kind.isTexture) (hnone : p.defaultTexture = []) :
    defaultTexture? p.synthesize = some (if p.kind = .texture2D then "white".toList else []) := by
  obtain ⟨kind, hword, heq⟩ := synthesize_of_texture hkind
  rw [hnone] at heq
  simp only [and_true] at heq
  rw [heq]
  refine defaultTexture?_labelled hname hdisplay hword ?_
  split_ifs <;> decide

/-- Of the textures without a name only a flat one gets another when its declaration is read. -/
lemma defaultTexture_synthesize_iff (h : p.Legible) (hkind : p.kind.isTexture) :
    (if p.kind.isTexture && p.defaultTexture.isEmpty then
      (defaultTexture? (strip p.synthesize)).getD []
      else p.defaultTexture) = p.defaultTexture ↔
        (p.kind = .texture2D → p.defaultTexture ≠ []) := by
  by_cases hnone : p.defaultTexture = []
  · have hwhite : "white".toList ≠ [] := by decide
    rw [strip_synthesize_of_texture h.name hkind,
      defaultTexture?_synthesize h.name h.displayName.quote hkind hnone, hkind, hnone]
    by_cases hflat : p.kind = .texture2D
    · simp [hflat]
    · simp [hflat]
  · simp [hnone]

lemma strip_declaration_ne_nil (h : p.Legible) : strip p.declaration ≠ [] := by
  intro he
  have hstripped := (declares_declaration h).stripped
  rw [he] at hstripped
  exact absurd hstripped (by decide)

lemma declaration_rewritten (h : p.Legible) : p.rewritten.declaration = strip p.declaration := by
  have hraw : p.rewritten.rawDeclaration =
      if strip p.declaration = p.rewritten.synthesize then [] else strip p.declaration := rfl
  rw [Property.declaration, hraw]
  split_ifs with hsame hempty hempty
  · exact hsame.symm
  · exact absurd rfl hempty
  · exact absurd (List.isEmpty_iff.mp hempty) (strip_declaration_ne_nil h)
  · rfl

/-- The attributes are the same at the second writing exactly if the bounds of a range and the
texture are. -/
theorem propertyAttributes_rewritten_iff (p : Property) :
    Writing.propertyAttributes p.rewritten = Writing.propertyAttributes p ↔
      (p.kind = .range → (numberOr (.ofNat 0) p.minValue.plain).plain = p.minValue.plain ∧
        (numberOr (.ofNat 1) p.maxValue.plain).plain = p.maxValue.plain) ∧
          p.rewritten.defaultTexture = p.defaultTexture := by
  have hmin : p.kind = .range → p.rewritten.minValue = numberOr (.ofNat 0) p.minValue.plain :=
    fun hr => by
    simp [Property.rewritten, hr]
  have hmax : p.kind = .range → p.rewritten.maxValue = numberOr (.ofNat 1) p.maxValue.plain :=
    fun hr => by
    simp [Property.rewritten, hr]
  have hkind : p.rewritten.kind = p.kind := rfl
  constructor
  · intro h
    refine ⟨fun hr => ⟨?_, ?_⟩, ?_⟩
    · have := congrArg (Entries.getD · "min" []) h
      simp only [getD_min, hkind, hr, if_true] at this
      rwa [hmin hr] at this
    · have := congrArg (Entries.getD · "max" []) h
      simp only [getD_max, hkind, hr, if_true] at this
      rwa [hmax hr] at this
    · have := congrArg (Entries.getD · "texture" []) h
      simpa only [getD_texture] using this
  · rintro ⟨hbounds, htexture⟩
    have hrange : (if p.rewritten.kind = .range then
        [("min".toList, p.rewritten.minValue.plain), ("max".toList, p.rewritten.maxValue.plain)]
          else []) =
        if p.kind = .range then
          [("min".toList, p.minValue.plain), ("max".toList, p.maxValue.plain)] else [] := by
      rw [hkind]
      split_ifs with hr
      · rw [hmin hr, hmax hr, (hbounds hr).1, (hbounds hr).2]
      · rfl
    rw [Writing.propertyAttributes, hrange, htexture]
    rfl

/-- All that is read of a property but for its declaration can stand in a marker. -/
lemma legible_rewritten (h : p.Legible) :
    Property.Legible { p.rewritten with rawDeclaration := [] } where
  name := h.name
  displayName := h.displayName
  defaultValue := h.defaultValue
  role := h.role
  defaultTexture := by
    change Plain _ (if p.kind.isTexture && p.defaultTexture.isEmpty then
      (defaultTexture? (strip p.declaration)).getD []
      else p.defaultTexture)
    split_ifs
    · cases hread : defaultTexture? (strip p.declaration) with
      | none => exact plain_of_free (by decide)
      | some texture => exact defaultTexture?_plain hread _
    · exact h.defaultTexture
  rawDeclaration hne := absurd rfl hne

/-- The lines of a property are the same at the second writing exactly if its attributes are and its
declaration has no blanks at its ends. -/
theorem propertyLines_rewritten_iff (h : p.Legible) : propertyLines p.rewritten = propertyLines p ↔
    Writing.propertyAttributes p.rewritten = Writing.propertyAttributes p ∧
      strip p.declaration = p.declaration := by
  have hmarker : propertyMarker p.rewritten = propertyMarker p ↔
      Writing.propertyAttributes p.rewritten = Writing.propertyAttributes p := by
    constructor
    · intro heq
      have hread : Marker.property? ({} : Settings).tagPrefix (propertyMarker p.rewritten) =
          some (Writing.propertyAttributes p.rewritten).write :=
        property?_propertyMarker (p := { p.rewritten with rawDeclaration := [] })
          (legible_rewritten h)
      rw [heq, property?_propertyMarker h, Option.some.injEq] at hread
      have hattributes : Attributes.read (Writing.propertyAttributes p.rewritten).write =
          Writing.propertyAttributes p.rewritten :=
        read_propertyAttributes (p := { p.rewritten with rawDeclaration := [] })
          (legible_rewritten h).markable
      rw [← hattributes, ← hread, read_propertyAttributes h.markable]
    · intro heq
      rw [propertyMarker, heq, ← propertyMarker]
  rw [propertyLines, propertyLines, declaration_rewritten h, List.cons.injEq, List.cons.injEq,
    hmarker, List.append_cancel_left_eq]
  simp

lemma not_mem_propertyLines_rewritten {ps : List Property} (h : ∀ p ∈ ps, p.Legible) :
    ∀ l ∈ (ps.map Property.rewritten).flatMap propertyLines, '\n' ∉ l := by
  intro l hl
  obtain ⟨q, hq, hl⟩ := List.mem_flatMap.mp hl
  obtain ⟨p, hp, rfl⟩ := List.mem_map.mp hq
  simp only [propertyLines, List.mem_cons, List.not_mem_nil, or_false] at hl
  rcases hl with rfl | rfl
  · exact (outside_propertyMarker (legible_rewritten (h p hp))).2.1.1
  · rw [declaration_rewritten (h p hp), List.mem_append, not_or]
    refine ⟨not_mem_of_spaces (spaces_marginAt 2) (by decide), fun hn => ?_⟩
    exact (declares_declaration (h p hp)).isLine.1
      ((List.dropWhile_sublist _).subset ((prefix_trimEnd _ _).subset hn))

/-- A property that reading has left is written again as it is read exactly if it is written with
all that is read of it. -/
theorem complete_iff (h : p.Legible) (normal : p.Normal) :
    propertyLines p.rewritten = propertyLines p ↔ p.Complete := by
  have htexture : p.rewritten.defaultTexture = if p.kind.isTexture && p.defaultTexture.isEmpty then
    (defaultTexture? (strip p.declaration)).getD [] else p.defaultTexture := rfl
  rw [propertyLines_rewritten_iff h, propertyAttributes_rewritten_iff, htexture, and_assoc]
  by_cases hraw : p.rawDeclaration = []
  · have hdeclaration : p.declaration = p.synthesize := by rw [Property.declaration, hraw]; rfl
    rw [hdeclaration]
    by_cases hkind : p.kind.isTexture = true
    · have hsame := defaultTexture_synthesize_iff h hkind
      have hstrip := strip_synthesize_of_texture h.name hkind
      constructor
      · rintro ⟨hbounds, htext, -⟩
        exact ⟨hbounds, fun _ => hsame.mp htext,
          fun _ hvalue => absurd (hkind.symm.trans hvalue) (by decide)⟩
      · exact fun hc => ⟨hc.bounds, hsame.mpr (hc.texture hraw), hstrip⟩
    · rw [Bool.not_eq_true] at hkind
      have hflat : p.kind ≠ .texture2D := by
        intro hk
        rw [hk] at hkind
        exact absurd hkind (by decide)
      rw [hkind, strip_synthesize_of_value h.name hkind]
      constructor
      · rintro ⟨hbounds, -, hvalue⟩
        exact ⟨hbounds, fun _ hk => absurd hk hflat, fun _ _ => hvalue⟩
      · exact fun hc => ⟨hc.bounds, rfl, hc.value hraw hkind⟩
  · have hdeclaration : p.declaration = p.rawDeclaration := by
      rw [Property.declaration, if_neg (by simpa using hraw)]
    rw [hdeclaration, normal.stripped]
    have hsame : (if p.kind.isTexture && p.defaultTexture.isEmpty then
      (defaultTexture? p.rawDeclaration).getD []
        else p.defaultTexture) = p.defaultTexture := by
      split_ifs with hempty
      · rw [Bool.and_eq_true, List.isEmpty_iff] at hempty
        rw [normal.texture hraw hempty.1 hempty.2, hempty.2]
      · rfl
    constructor
    · exact fun hc => ⟨hc.1, fun h => absurd h hraw, fun h => absurd h hraw⟩
    · exact fun hc => ⟨hc.bounds, hsame, rfl⟩

lemma flatMap_propertyLines_iff (ps : List Property) :
    (ps.map Property.rewritten).flatMap propertyLines = ps.flatMap propertyLines ↔
      ∀ p ∈ ps, propertyLines p.rewritten = propertyLines p := by
  induction ps with
  | nil => simp
  | cons p ps ih =>
    rw [List.map_cons, List.flatMap_cons, List.flatMap_cons, List.forall_mem_cons, ← ih]
    constructor
    · exact fun h => List.append_inj h rfl
    · rintro ⟨hp, hps⟩
      rw [hp, hps]

variable {d d' : Document}

/-- The passes that are read are written in the lines they were read from. -/
lemma passes_rewrites (rewrites : d.Rewrites d') (normal : ∀ p ∈ d.passes, p.Normal) :
    d'.passes.map (Writing.pass {} .standard d'.properties) =
      d.passes.map (Writing.pass {} .standard d.properties) := by
  calc d'.passes.map (Writing.pass {} .standard d'.properties)
      = (d'.passes.map Pass.detached).map (Writing.pass {} .standard d'.properties) := by
        rw [List.map_map]
        exact List.map_congr_left fun p _ => (pass_detached _ p).symm
    _ = d.passes.map fun p => Writing.pass {} .standard
        (d.properties.map Property.rewritten) p.rewritten := by
        rw [rewrites.passes, rewrites.properties, List.map_map]
        rfl
    _ = d.passes.map (Writing.pass {} .standard d.properties) :=
        List.map_congr_left fun p hp => pass_rewritten (normal p hp) d.properties

lemma generate_rewrites_iff (h : d.Legible) (rewrites : d.Rewrites d')
    (normal : ∀ p ∈ d.passes, p.Normal) :
    d'.generate {} .standard = d.generate {} .standard ↔
      ∀ p ∈ d.properties, propertyLines p.rewritten = propertyLines p := by
  have hdeclaration : ∀ p ∈ d.properties, p.declaration ≠ [] :=
    fun p hp => (declares_declaration (h.properties p hp)).ne_nil
  have hdeclaration' : ∀ p ∈ d'.properties, p.declaration ≠ [] := by
    rw [rewrites.properties]
    intro q hq
    obtain ⟨p, hp, rfl⟩ := List.mem_map.mp hq
    rw [declaration_rewritten (h.properties p hp)]
    exact strip_declaration_ne_nil (h.properties p hp)
  have hpasses : passesLines d' = passesLines d := by
    rw [passesLines, passes_rewrites rewrites normal, ← passesLines]
  have habove : linesAbove d' = headerLine d.shaderName :: propertiesLine ::
      (d.properties.map Property.rewritten).flatMap propertyLines ++
        (marginAt 1 ++ ['\x7d']) :: subshaderLine :: settingsMarker d.globalSettings ::
          settingsLines d.globalSettings := by
    rw [linesAbove, rewrites.shaderName, rewrites.globalSettings, rewrites.properties]
  have hline := isLine_document h
  have hline' : ∀ l ∈ linesAbove d' ++ passesLines d' ++ linesBelow, '\n' ∉ l := by
    intro l hl
    by_cases hmem : l ∈ (d.properties.map Property.rewritten).flatMap propertyLines
    · exact not_mem_propertyLines_rewritten h.properties l hmem
    · refine (hline l ?_).1
      rw [hpasses, habove] at hl
      simp only [linesAbove, List.mem_append, List.mem_cons] at hl ⊢
      tauto
  rw [Document.generate, Document.generate, Layout.text, Layout.text, lines_document hdeclaration,
    lines_document hdeclaration', List.append_cancel_right_eq, ← flatMap_propertyLines_iff]
  constructor
  · intro htext
    have hlines := congrArg (List.splitOn '\n') htext
    rw [splitOn_joinLines (by simp [linesAbove]) hline',
      splitOn_joinLines (by simp [linesAbove]) fun l hl => (hline l hl).1, hpasses,
      List.append_cancel_right_eq, List.append_cancel_right_eq, habove, linesAbove] at hlines
    exact List.append_cancel_right (List.cons.inj (List.cons.inj hlines).2).2
  · intro hlines
    rw [hpasses, habove, hlines, ← linesAbove]

/-- A document that is read from a source is written to a text that is read without a warning, and
the document that is read from it is written to the same text exactly if every property is written
with all that is read of it. -/
theorem parse_stable_iff {source : Text} {ws : List Warning}
    (h : parse {} .standard source = .ok (d, ws)) (legible : d.Legible) :
    ∃ d', parse {} .standard (d.generate {} .standard) = .ok (d', []) ∧
      (d'.generate {} .standard = d.generate {} .standard ↔ ∀ p ∈ d.properties, p.Complete) := by
  obtain ⟨d', hread, hrewrites⟩ := parse_generate legible
  have hd : d = (documentOf {} .standard source).1 := by
    unfold parse at h
    split_ifs at h
    exact congrArg Prod.fst (Except.ok.inj h).symm
  obtain ⟨hproperties, hpasses⟩ := normal_documentOf {} source
  rw [← hd] at hproperties hpasses
  refine ⟨d', hread, ?_⟩
  rw [generate_rewrites_iff legible hrewrites hpasses]
  exact forall₂_congr fun p hp => complete_iff (legible.properties p hp) (hproperties p hp)

/-- A marker of a flat texture without a name, and nothing else. -/
def bareTexture : Text := "// [AILab_Property: name=\"T\" type=\"2D\"]\n".toList

def bareDocument : Document where
  properties := [{ name := ['T'], kind := .texture2D }]
  passes := [{ graph := some (.ofRegistry .standard), id := .fresh 0 }]
  rawContent := bareTexture

lemma legible_bareDocument : bareDocument.Legible where
  shaderName := by decide
  globalSettings := by decide
  properties := by
    intro p hp
    rw [List.mem_singleton.mp hp]
    exact ⟨by decide, by decide, by decide, by decide, by decide, fun hne => absurd rfl hne⟩
  names := by decide
  passes := by
    intro p hp
    rw [List.mem_singleton.mp hp]
    refine .program rfl
      ⟨⟨?_, by decide, by decide, by decide, ?_, by decide⟩, by decide, by decide, ?_⟩
    · exact fun _ ht => absurd ht List.not_mem_nil
    · exact fun _ hb => absurd hb List.not_mem_nil
    · exact fun _ hst => absurd hst (Option.some_ne_none _).symm
  nonempty := List.cons_ne_nil _ _

/-- The texture is white from the second reading on, so the text changes once more. -/
theorem parse_stable_iff_bareTexture : ∃ d d', parse {} .standard bareTexture = .ok (d, []) ∧
    parse {} .standard (d.generate {} .standard) = .ok (d', []) ∧
      d'.generate {} .standard ≠ d.generate {} .standard := by
  have hparse : parse {} .standard bareTexture = .ok (bareDocument, []) := by decide +kernel
  obtain ⟨d', hread, hstable⟩ := parse_stable_iff hparse legible_bareDocument
  exact ⟨bareDocument, d', hparse, hread,
    fun hsame => (hstable.mp hsame _ List.mem_cons_self).texture rfl rfl rfl⟩

end Source
end MarkedShader
