import MarkedShader.Proofs.Source.State

/-! A stencil group is read back from the lines it is written in. -/
namespace MarkedShader

namespace Text

variable {α : Type} {reader : Option Char → Text → Option (α × Nat)} {before : Option Char}

lemma scan_cons_of_none {c : Char} {t : Text} (h : reader before (c :: t) = none) :
    scan reader before 0 (c :: t) = scan reader (some c) 0 t := by
  simp only [scan, h]

/-- What is taken is passed over, up to a character at which nothing is read. -/
lemma scan_skip {c : Char} {t : Text} (h : ∀ before, reader before (c :: t) = none) (u : Text) :
    scan reader before u.length (u ++ c :: t) = scan reader (some c) 0 t := by
  induction u generalizing before with
  | nil => exact scan_cons_of_none (h before)
  | cons d u ih => exact ih

end Text

namespace Source
open Text

variable {margin : Text}

/-- A keyword of a group with what its value changes and the value. -/
abbrev StencilEntry : Type := (Text × (Text → Stencil → Stencil)) × Text

def StencilEntry.line (e : StencilEntry) : Text := e.1.1 ++ ' ' :: e.2

lemma stencil_keywords : (stencilEntries.map (·.1)).Nodup ∧
    (∀ k ∈ stencilEntries.map (·.1), ∀ j ∈ stencilEntries.map (·.1), j <+: k → j = k) ∧
    ∀ k ∈ stencilEntries.map (·.1), k ≠ [] ∧ ∀ c ∈ k, isWord c := by
  have hkeys : stencilEntries.map (·.1) =
      [['R', 'e', 'f'], ['C', 'o', 'm', 'p'], ['P', 'a', 's', 's'], ['F', 'a', 'i', 'l'],
      ['Z', 'F', 'a', 'i', 'l'], ['R', 'e', 'a', 'd', 'M', 'a', 's', 'k'],
      ['W', 'r', 'i', 't', 'e', 'M', 'a', 's', 'k']] := by
    decide
  rw [hkeys]
  decide

lemma after?_keyword {k : Text} (hk : k ∈ stencilEntries.map (·.1)) {j : Text}
    (hj : j ∈ stencilEntries.map (·.1)) (hne : j ≠ k) (t : Text) :
    after? j (k ++ ' ' :: t) = none := by
  obtain ⟨-, hapart, hword⟩ := stencil_keywords
  rw [after?_eq_none_iff]
  intro hp
  have hspace : ' ' ∉ j := (hword j hj |> fun h => IsName.not_mem h (by decide))
  exact hne (hapart k hk j hj (prefix_of_prefix_append_cons hspace hp))

/-- An entry is read where its line begins. -/
lemma stencilEntry?_line {e : StencilEntry} (he : e.1 ∈ stencilEntries)
    (hv : IsName e.2) (rest : Text) :
    stencilEntry? none (e.line ++ ' ' :: rest) = some (e.1.2 e.2, e.line.length) := by
  obtain ⟨⟨k, change⟩, v⟩ := e
  obtain ⟨earlier, later, hsplit⟩ := List.append_of_mem he
  have hk : k ∈ stencilEntries.map (·.1) := List.mem_map_of_mem (f := (·.1)) he
  have hnodup := stencil_keywords.1
  rw [hsplit, List.map_append, List.map_cons] at hnodup
  have hword : word? (v ++ ' ' :: rest) = some (v, ' ' :: rest) :=
    word?_append hv.1 hv.2 (by simp [show isWord ' ' = false from by decide])
  have hblanks : blanks? (' ' :: (v ++ ' ' :: rest)) = some (v ++ ' ' :: rest) :=
    congrArg some (skipBlanks_of_stop (hv.head_not_blank _))
  have hline :
      StencilEntry.line ((k, change), v) ++ ' ' :: rest = k ++ ' ' :: (v ++ ' ' :: rest) := by
    simp [StencilEntry.line]
  rw [hline, stencilEntry?, if_neg (by simp), List.findSome?_eq_some_iff]
  refine ⟨earlier, (k, change), later, hsplit, ?_, ?_⟩
  · simp only [after?_append, Option.bind_eq_bind, Option.bind_some, hblanks, hword]
    rw [← hline, List.length_append, Nat.add_sub_cancel]
  · rintro ⟨j, _⟩ hj
    have hmem : j ∈ stencilEntries.map (·.1) := by
      rw [hsplit, List.map_append]
      exact List.mem_append_left _ (List.mem_map_of_mem (f := (·.1)) hj)
    have hne : j ≠ k := by
      rintro rfl
      exact (List.nodup_append.mp hnodup).2.2 j
        (List.mem_map_of_mem (f := (·.1)) hj) j List.mem_cons_self rfl
    simp [after?_keyword hk hmem hne]

lemma stencilEntry?_of_not_isWord {c : Char} (hc : isWord c = false) (before : Option Char)
    (t : Text) : stencilEntry? before (c :: t) = none := by
  rw [ stencilEntry?]
  split_ifs
  · rfl
  · rw [List.findSome?_eq_none_iff]
    rintro ⟨k, _⟩ hk
    obtain ⟨hne, hword⟩ := stencil_keywords.2.2 k (List.mem_map_of_mem (f := (·.1)) hk)
    cases k with
    | nil => contradiction
    | cons d k =>
      have hd : d ≠ c := by
        rintro rfl
        rw [hword d List.mem_cons_self] at hc
        contradiction
      simp [after?_of_head_ne hd]

/-- After any character that is not of a word an entry can begin as at the start. -/
lemma scan_before {c : Char} (hc : isWord c = false) (t : Text) :
    scan stencilEntry? (some c) 0 t = scan stencilEntry? none 0 t := by
  have hread : ∀ t, stencilEntry? (some c) t = stencilEntry? none t :=
    fun t => by simp [ stencilEntry?, hc]
  cases t with
  | nil => rfl
  | cons d t => simp only [scan, hread]

lemma scan_not_isWord {c : Char} (hc : isWord c = false) (t : Text) :
    scan stencilEntry? none 0 (c :: t) = scan stencilEntry? none 0 t := by
  rw [scan_cons_of_none (stencilEntry?_of_not_isWord hc _ _), scan_before hc]

lemma scan_margin (hm : IsMargin margin) (t : Text) :
    scan stencilEntry? none 0 (margin ++ t) = scan stencilEntry? none 0 t := by
  induction margin with
  | nil => rfl
  | cons c margin ih =>
    obtain ⟨hc, hrest⟩ := List.forall_mem_cons.mp hm
    rw [List.cons_append, scan_not_isWord (by rcases hc with rfl | rfl <;> decide), ih hrest]

lemma scan_entries (hm : IsMargin margin) {es : List StencilEntry}
    (hes : ∀ e ∈ es, e.1 ∈ stencilEntries ∧ IsName e.2) (rest : Text) :
    scan stencilEntry? none 0 (es.flatMap (fun e => margin ++ e.line ++ [' ']) ++ rest) =
      es.map (fun e => e.1.2 e.2) ++ scan stencilEntry? none 0 rest := by
  induction es with
  | nil => rfl
  | cons e es ih =>
    obtain ⟨he, hv⟩ := hes e List.mem_cons_self
    have hread := stencilEntry?_line he hv (es.flatMap (fun e => margin ++ e.line ++ [' ']) ++ rest)
    obtain ⟨c, line, hline⟩ :=
      List.exists_cons_of_ne_nil (show e.line ≠ [] by simp [StencilEntry.line])
    have hspace : isWord ' ' = false := by decide
    rw [List.flatMap_cons, List.append_assoc, List.append_assoc, List.append_assoc, scan_margin hm,
      List.singleton_append]
    rw [hline, List.cons_append, List.length_cons] at hread
    rw [hline, List.cons_append, List.map_cons, List.cons_append,
      ← ih fun e he => hes e (List.mem_cons_of_mem _ he)]
    rw [scan, hread]
    refine congrArg _ ((scan_skip
      (fun before => stencilEntry?_of_not_isWord hspace before _) line).trans ?_)
    exact scan_before hspace _

/-- What a keyword is in the lines of a group. -/
lemma stencilOf_written (hm : IsMargin margin) {inner : Text} (hi : IsMargin inner)
    {es : List StencilEntry} (hes : ∀ e ∈ es, e.1 ∈ stencilEntries ∧ IsName e.2) :
    stencilOf ((margin ++ ("Stencil".toList ++ " \x7b".toList)) ::
      es.map (fun e => inner ++ e.line) ++ [margin ++ ['\x7d']]) =
      (es.map fun e => e.1.2 e.2).foldl (fun s change => change s) {} := by
  have hjoin : ∀ first last : Text,
      List.intercalate [' '] (first :: es.map (fun e => inner ++ e.line) ++ [last]) =
      first ++ ' ' :: (es.flatMap (fun e => inner ++ e.line ++ [' ']) ++ last) := by
    intro first last
    induction es generalizing first with
    | nil => simp [List.intercalate_cons_cons]
    | cons e es ih =>
      rw [List.map_cons, List.cons_append, List.cons_append, List.intercalate_cons_cons]
      have := ih (fun e he => hes e (List.mem_cons_of_mem _ he)) (inner ++ e.line)
      rw [List.cons_append] at this
      rw [this]
      simp
  have hsearch : ∀ t : Text, search (after? ['S', 't', 'e', 'n', 'c', 'i', 'l'])
      (margin ++ (['S', 't', 'e', 'n', 'c', 'i', 'l'] ++ t)) = some t := by
    intro t
    rw [search_append]
    · exact search_of_reads (after?_append _ t)
    · intro a b hab hne
      obtain ⟨c, b, rfl⟩ := List.exists_cons_of_ne_nil hne
      rcases hm c (hab ▸ List.mem_append_right a List.mem_cons_self) with rfl | rfl <;> rfl
  have hskip : ∀ t : Text, scan stencilEntry? none 0 (' ' :: '\x7b' :: ' ' :: t) =
      scan stencilEntry? none 0 t := by
    intro t
    rw [scan_not_isWord (by decide), scan_not_isWord (by decide), scan_not_isWord (by decide)]
  have hend : scan stencilEntry? none 0 ['\x7d'] = [] := scan_not_isWord (by decide) []
  have hname : "Stencil".toList = ['S', 't', 'e', 'n', 'c', 'i', 'l'] := String.toList_ofList
  have hbrace : " \x7b".toList = [' ', '\x7b'] := String.toList_ofList
  rw [stencilOf, hjoin, hname, hbrace, List.append_assoc, List.append_assoc, hsearch]
  simp only [Option.getD_some, List.cons_append, List.nil_append, hskip]
  rw [scan_entries hi hes, scan_margin hm, hend, List.append_nil]

/-- An integer that is read back from its numeral. -/
def IsShort (i : Int) : Prop := ∃ n : Nat, i = n ∧ (Decimal.natural n).length ≤ Numeral.digitLimit

lemma IsShort.natural {i : Int} (h : IsShort i) :
    IsName (Decimal.integer i) ∧ ∀ old, integerOr old (Decimal.integer i) = i := by
  obtain ⟨n, rfl, hn⟩ := h
  have hi : Decimal.integer n = Decimal.natural n := by
    rw [Decimal.integer, if_neg (by omega)]
    rfl
  refine ⟨hi ▸ Numeral.isName_natural n, fun old => ?_⟩
  rw [hi, integerOr, Numeral.integer_natural hn]

end Source

/-- A stencil that is read back: its tests and operations are words. -/
structure Stencil.Legible (st : Stencil) : Prop where
  ref : Source.IsShort st.ref
  comp : Text.IsName st.comp
  passOp : Text.IsName st.passOp
  failOp : Text.IsName st.failOp
  zfailOp : Text.IsName st.zfailOp
  readMask : Source.IsShort st.readMask
  writeMask : Source.IsShort st.writeMask

namespace Source
open Text

/-- The entries that a stencil is written in. -/
def entriesOf (st : Stencil) : List StencilEntry := stencilEntries.zip (Writing.stencilTexts st)

lemma entriesOf_legible {st : Stencil} (h : st.Legible) :
    ∀ e ∈ entriesOf st, e.1 ∈ stencilEntries ∧ IsName e.2 := by
  intro e he
  refine ⟨List.of_mem_zip he |>.1, ?_⟩
  have hv := (List.of_mem_zip he).2
  simp only [Writing.stencilTexts, List.mem_cons, List.not_mem_nil, or_false] at hv
  rcases hv with hv | hv | hv | hv | hv | hv | hv <;> rw [hv]
  · exact h.ref.natural.1
  · exact h.comp
  · exact h.passOp
  · exact h.failOp
  · exact h.zfailOp
  · exact h.readMask.natural.1
  · exact h.writeMask.natural.1

lemma foldl_entriesOf {st : Stencil} (h : st.Legible) :
    ((entriesOf st).map fun e => e.1.2 e.2).foldl (fun s change => change s) {} = st := by
  simp only [entriesOf, stencilEntries, Writing.stencilTexts, List.zip_cons_cons, List.map_cons,
    List.foldl_cons, h.ref.natural.2, h.readMask.natural.2, h.writeMask.natural.2]
  rfl

section
variable {settings : Settings} {s : Progress} {margin inner : Text} (hm : IsMargin margin)
  (hi : IsMargin inner)

/-- The lines of a group with the given margins outside and inside. -/
def stencilLines (margin inner : Text) (st : Stencil) : List Text :=
  (margin ++ ("Stencil".toList ++ " \x7b".toList)) ::
    (entriesOf st).map (fun e => inner ++ e.line) ++ [margin ++ ['\x7d']]

include hi in
lemma not_mem_entryLine {st : Stencil} (h : st.Legible) {c : Char} (hc : isWord c = false)
    (hne : c ∉ [' ', '\t']) : ∀ l ∈ (entriesOf st).map (fun e => inner ++ e.line), c ∉ l := by
  intro l hl
  obtain ⟨e, he, rfl⟩ := List.mem_map.mp hl
  obtain ⟨hk, hv⟩ := entriesOf_legible h e he
  have hword := (stencil_keywords.2.2 e.1.1 (List.mem_map_of_mem (f := (·.1)) hk))
  simp only [StencilEntry.line, List.mem_append, List.mem_cons, not_or]
  exact ⟨hi.not_mem hne, IsName.not_mem hword hc,
    fun e => hne (e ▸ List.mem_cons_self), hv.not_mem hc⟩

include hm

lemma braceDelta_stencilLine :
    braceDelta (margin ++ ("Stencil".toList ++ " \x7b".toList)) = 1 ∧
      braceDelta (margin ++ ['\x7d']) = -1 := by
  rw [braceDelta_margin hm, braceDelta_margin hm]
  decide

include hi

lemma stencilExtent_lines {st : Stencil} (h : st.Legible) (rest : List Text) :
    stencilExtent 0 false (stencilLines margin inner st ++ rest) =
      ((stencilLines margin inner st).length, true) := by
  obtain ⟨hopen, hclose⟩ := braceDelta_stencilLine hm
  have hbrace : (margin ++ ("Stencil".toList ++ " \x7b".toList)).contains '\x7b' = true := by
    rw [String.toList_ofList, String.toList_ofList]
    simp
  have hinner : ∀ ls : List Text, (∀ l ∈ ls, braceDelta l = 0) →
      stencilExtent 1 true (ls ++ (margin ++ ['\x7d']) :: rest) = (ls.length+1, true) := by
    intro ls hls
    induction ls with
    | nil => simp [stencilExtent, hclose]
    | cons l ls ih =>
      rw [List.cons_append, stencilExtent, hls l List.mem_cons_self, Int.add_zero, if_neg (by simp),
        Bool.true_or, ih fun l hl => hls l (List.mem_cons_of_mem _ hl)]
      rfl
  have hflat : ∀ l ∈ (entriesOf st).map (fun e => inner ++ e.line), braceDelta l = 0 := fun l hl =>
    braceDelta_of_not_mem (not_mem_entryLine hi h (by decide) (by decide) l hl)
      (not_mem_entryLine hi h (by decide) (by decide) l hl)
  rw [stencilLines, List.append_assoc, List.cons_append, stencilExtent, hopen, hbrace,
    if_neg (by simp), List.singleton_append, Int.zero_add, Bool.or_true, hinner _ hflat]
  simp

lemma balanced_stencil {st : Stencil} (h : st.Legible) :
    BalancedFrom 0 (stencilLines margin inner st) := by
  obtain ⟨hopen, hclose⟩ := braceDelta_stencilLine hm
  exact balancedFrom_braced hopen hclose fun l hl => braceDelta_of_not_mem
    (not_mem_entryLine hi h (by decide) (by decide) l hl)
      (not_mem_entryLine hi h (by decide) (by decide) l hl)

omit hi in
/-- The line that opens a group. -/
lemma stencilLine_eq (settings : Settings) :
    ∃ t, margin ++ ("Stencil".toList ++ " \x7b".toList) = margin ++ 'S' :: t ∧
    Unmarked settings (margin ++ 'S' :: t) ∧ '"' ∉ margin ++ 'S' :: t ∧
      opensStencil (margin ++ 'S' :: t) = true := by
  have hspace : ∀ {c}, c ∉ [' ', '\t'] → c ∉ margin := hm.not_mem
  refine ⟨['t', 'e', 'n', 'c', 'i', 'l', ' ', '\x7b'], ?_, ?_, by simp [hspace], ?_⟩
  · rw [String.toList_ofList, String.toList_ofList]
    rfl
  · have hshape : margin ++ 'S' :: ['t', 'e', 'n', 'c', 'i', 'l', ' ', '\x7b'] =
        margin ++ ['S', 't', 'e', 'n', 'c', 'i', 'l', ' '] ++ '\x7b' :: [] := by simp
    rw [hshape]
    refine ⟨⟨by simp [hspace], by simp⟩, not_infix_of_not_mem (by simp [hspace]), ?_⟩
    refine struct?_of_not_infix (by simp [hspace]) (by simp) fun hinfix => ?_
    have hr : 'r' ∈ margin ++ ['S', 't', 'e', 'n', 'c', 'i', 'l', ' '] := hinfix.subset (by decide)
    simp [hspace] at hr
  · delta opensStencil hasKeyword
    rw [skipBlanks_margin hm.isBlank rfl, String.toList_ofList]
    decide

/-- Outside the program the lines of a group are taken in one step. -/
lemma step_stencilLines {st : Stencil} (h : st.Legible) {c : Content}
    (outside : c.inProgram = false) (i : Nat) (rest : List Text) :
    Content.step settings i c (margin ++ ("Stencil".toList ++ " \x7b".toList))
      ((entriesOf st).map (fun e => inner ++ e.line) ++ (margin ++ ['\x7d']) :: rest) =
      ({ c with renderState := { c.renderState with stencil := some st } },
        ((entriesOf st).map (fun e => inner ++ e.line)).length+1) := by
  obtain ⟨t, ht, hunmarked, hquote, hopens⟩ := stencilLine_eq hm settings
  have hblank := hm.isBlank
  have hstart : startsProgram (margin ++ 'S' :: t) = false :=
    startsProgram_of_head hblank rfl (by decide)
  have hend : endsProgram (margin ++ 'S' :: t) = false := endsProgram_of_head hblank rfl (by decide)
  have hpass : passName? (margin ++ 'S' :: t) = none := passName?_of_head hblank rfl (by decide)
  have hmode : lightMode? (margin ++ 'S' :: t) = none := lightMode?_of_not_mem hquote
  have hstate : renderState? (margin ++ 'S' :: t) = none :=
    renderState?_of_head hblank rfl (by decide)
  have hextent := stencilExtent_lines hm hi h rest
  have hread : stencilOf
      ((stencilLines margin inner st ++ rest).take (stencilLines margin inner st).length) = st := by
    rw [List.take_left]
    exact (stencilOf_written hm hi (entriesOf_legible h)).trans (foldl_entriesOf h)
  have hlength : (stencilLines margin inner st).length = (entriesOf st).length+2 := by
    simp [stencilLines]
  have hlines : stencilLines margin inner st ++ rest = (margin ++ 'S' :: t) ::
      ((entriesOf st).map (fun e => inner ++ e.line) ++ (margin ++ ['\x7d']) :: rest) := by
    rw [stencilLines, ht, List.append_assoc, List.cons_append, List.singleton_append]
  rw [hlength, hlines] at hextent hread
  rw [ht]
  simp only [Content.step, hunmarked.take?, hstart, hend, outside, Bool.false_eq_true,
    if_false, Content.takeStateLine, hpass, hmode, hstate, hopens, if_true, hextent, hread,
    List.append_nil, List.length_map]
  rfl

lemma walk_stencilLines {st : Stencil} (h : st.Legible) {c : Content}
    (outside : c.inProgram = false) (i : Nat) (rest : List Text) :
    walk (Content.step settings) i c (stencilLines margin inner st ++ rest) =
      walk (Content.step settings) (i + (stencilLines margin inner st).length)
        { c with renderState := { c.renderState with stencil := some st } } rest :=
  walk_of_step (step_stencilLines hm hi h outside i rest)

/-- A group is read from its lines. -/
lemma Reads.stencil {st : Stencil} (h : st.Legible) (hs : ∀ b, s.program b → b = false) :
    Reads settings s (stencilLines margin inner st)
      (s.update fun c => { c with renderState := { c.renderState with stencil := some st } }) := by
  obtain ⟨t, ht, hunmarked, -⟩ := stencilLine_eq hm settings
  refine .of_step (fun i c rest hc => ?_) (balanced_stencil hm hi h) rfl
    (List.forall_mem_append.mpr ⟨?_, ?_⟩)
  · refine ⟨{ c with renderState := { c.renderState with stencil := some st } }, ⟨?_, hc.2⟩,
      step_stencilLines hm hi h (hs _ hc.2) i rest⟩
    rw [Progress.update, ← hc.1]
    rfl
  · refine List.forall_mem_cons.mpr ⟨ht ▸ hunmarked.silent, fun l hl => ?_⟩
    exact silent_of_not_mem (not_mem_entryLine hi h (by decide) (by decide) l hl)
      (isLine_of_not_mem (not_mem_entryLine hi h (by decide) (by decide) l hl)
        (not_mem_entryLine hi h (by decide) (by decide) l hl))
  · exact List.forall_mem_singleton.mpr
      (silent_of_not_mem (hm.not_mem_append (by decide) (by decide)) (hm.isLine_append (by decide)))

end

end Source

namespace RenderState

/-- The state that is read where a state is written: an empty text is the same as none. -/
def rewritten (s : RenderState) : RenderState :=
  { cull := s.value? .cull, blend := s.value? .blend, zwrite := s.value? .zwrite
    ztest := s.value? .ztest
    colorMask := s.value? .colorMask, stencil := s.stencil }

/-- A state that is read back. -/
structure Legible (pre : Text) (s : RenderState) : Prop where
  values : ∀ key v, s.value? key = some v → Source.IsValue v ∧ Plain pre v
  stencil : ∀ st, s.stencil = some st → st.Legible

/-- The single values that are written. -/
def values (s : RenderState) : List (StateKey × Text) :=
  StateKey.all.filterMap fun key => (s.value? key).map (key, ·)

lemma foldl_values (s : RenderState) :
    s.values.foldl (fun t p => t.set p.2 p.1) ⟨none, none, none, none, none, none⟩ =
      { s.rewritten with stencil := none } := by
  have hvalue : ∀ key, s.value? key = none ∨ ∃ v, s.value? key = some v := fun key => by
    cases s.value? key <;> simp
  rcases hvalue .cull with h | ⟨v, h⟩ <;> rcases hvalue .blend with h' | ⟨v', h'⟩ <;>
    rcases hvalue .zwrite with h₂ | ⟨v₂, h₂⟩ <;> rcases hvalue .ztest with h₃ | ⟨v₃, h₃⟩ <;>
    rcases hvalue .colorMask with h₄ | ⟨v₄, h₄⟩ <;>
    simp [values, StateKey.all, rewritten, h, h', h₂, h₃, h₄, set]

end RenderState

namespace Source
open Text

/-- The lines of a stencil: its entries, one in a line, between braces. -/
theorem lines_stencil (indent : Text) (level : Nat) (filled : Bool) (st : Stencil) :
    (Layout.scope "Stencil".toList (.ofLines ((entriesOf st).map (·.line)))).lines indent level
      filled =
      stencilLines (Layout.margin indent level) (Layout.margin indent (level+1)) st := by
  rw [Layout.scope, Layout.lines_block_ofLines, List.map_map, stencilLines]
  · rfl
  · intro t ht
    obtain ⟨e, -, rfl⟩ := List.mem_map.mp ht
    simp [StencilEntry.line]
  · decide

lemma readsAt_values {program : Bool → Prop} {st : RenderState}
    (h : st.Legible ({} : Settings).tagPrefix) (hs : ∀ b, program b → b = false) (depth : Nat)
    (found : Content) :
    ReadsAt 3 (.ofLines (st.values.map fun p => valueLine p.1 p.2)) ⟨found, program, depth⟩
      ⟨{ found with renderState := st.values.foldl (fun t p => t.set p.2 p.1) found.renderState },
        program, depth⟩ := by
  have hvalues : ∀ p ∈ st.values, IsValue p.2 ∧ Plain ({} : Settings).tagPrefix p.2 := by
    intro p hp
    obtain ⟨key, -, hkey⟩ := List.mem_filterMap.mp hp
    obtain ⟨v, hv, rfl⟩ := Option.map_eq_some_iff.mp hkey
    exact h.values key v hv
  have hfold : ∀ (ps : List (StateKey × Text)) (c : Content),
      ps.foldl (fun c p => { c with renderState := c.renderState.set p.2 p.1 }) c =
        { c with renderState := ps.foldl (fun t p => t.set p.2 p.1) c.renderState } := by
    intro ps
    induction ps with
    | nil => exact fun _ => rfl
    | cons p ps ih => exact fun c => ih _
  rw [← hfold]
  refine readsAt_ofLines (fun p : StateKey × Text => valueLine p.1 p.2) _ ?_ ?_ found
  · intro p _
    obtain ⟨c, t, ht, -⟩ := valueLine_head p.1 p.2
    rw [ht]
    exact List.cons_ne_nil _ _
  · intro p hp found
    obtain ⟨hv, hplain⟩ := hvalues p hp
    exact Reads.value (isMargin_marginAt 3) hv hplain hs

/-- A render state is read from its lines. -/
theorem readsAt_renderState {st : RenderState}
    {s : Progress} (h : st.Legible ({} : Settings).tagPrefix) (hs : ∀ b, s.program b → b = false)
    (hnone : s.found.renderState = {}) :
    ReadsAt 3 (Writing.renderState st) s
      (s.update fun c => { c with renderState := st.rewritten }) := by
  obtain ⟨found, program, depth⟩ := s
  have hvalues := readsAt_values h hs depth found
  rw [show found.renderState = ⟨none, none, none, none, none, none⟩ from hnone,
    st.foldl_values] at hvalues
  refine Layout.Leads.append (Reads.along {}) hvalues ?_
  cases hst : st.stencil with
  | none =>
    have hrest : { st.rewritten with stencil := none } = st.rewritten := by
      rw [RenderState.rewritten, hst]
    rw [hrest]
    exact Layout.Leads.empty (Reads.along {})
  | some stencil =>
    have hread : ∀ base : RenderState, Reads {} ⟨{ found with renderState := base }, program, depth⟩
        (stencilLines (marginAt 3) (marginAt 4) stencil)
        ⟨{ found with renderState := { base with stencil := some stencil } }, program, depth⟩ :=
      fun base =>
        Reads.stencil (isMargin_marginAt 3) (isMargin_marginAt 4) (h.stencil stencil hst) hs
    have hrest : { st.rewritten with stencil := some stencil } = st.rewritten := by
      rw [RenderState.rewritten, hst]
    have hlast := hread { st.rewritten with stencil := none }
    rw [show { st.rewritten with stencil := some stencil } = st.rewritten from hrest] at hlast
    intro filled
    exact (lines_stencil _ 3 filled stencil).symm ▸ hlast

end Source
end MarkedShader
