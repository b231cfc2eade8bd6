import MarkedShader.Proofs.Source.Located

/-! Which blocks of a source are kept. Without a warning a start marker is passed over only where
its line also names a section or refers to another pass, or is taken by a struct, a stencil group or
the block before it. -/
namespace MarkedShader.Source
open Text

variable {settings : Settings} {r : Registry} {ls all : List Text} {es : List Extent}

/-- Why a line that starts a block is passed over. -/
inductive Hidden (settings : Settings) (ls : List Text) (k : Nat) : Prop
  | label {l label : Text} (line : ls[k]? = some l)
      (names : Marker.sectionLabel? settings.tagPrefix l = some label)
  | reference {e : Extent} (pass : e ∈ (passExtents ls).1) (other : e.usePath.isSome)
      (on : e.first = k)
  | taken {t : Stop} (stop : t ∈ sourceStops settings ls (passExtents ls).1) (after : t.line < k)
      (upto : k ≤ t.last)

lemma not_reference_of_stop (h : Ordered 0 ls.length es)
    {t : Stop} (ht : t ∈ sourceStops settings ls es) {e : Extent} (he : e ∈ es)
    (huse : e.usePath.isSome) : ¬ (e.first ≤ t.line ∧ t.line ≤ e.last) := by
  have hfills := gaps_fill h
  rcases List.mem_append.mp ht with ht | ht
  · obtain ⟨g, hg, ht⟩ := List.mem_flatMap.mp ht
    have hin :=
      (gapStops_tile settings (hfills.inside g hg).2.1 (hfills.inside g hg).2.2).inside t ht
    have := hfills.clear g hg e he
    simp only [Stop.last] at hin
    omega
  · obtain ⟨e', he', ht⟩ := List.mem_flatMap.mp ht
    have hin := passStops_inside settings (h.inside e' he').2.1 (h.inside e' he').2.2 t ht
    have hne : e ≠ e' := by
      rintro rfl
      rw [passStops, if_pos huse] at ht
      contradiction
    simp only [Stop.last] at hin
    obtain ⟨i, hi, rfl⟩ := List.mem_iff_getElem.mp he
    obtain ⟨j, hj, rfl⟩ := List.mem_iff_getElem.mp he'
    rcases Nat.lt_trichotomy i j with hij | rfl | hij
    · have := List.pairwise_iff_getElem.mp h.apart i j hi hj hij
      omega
    · contradiction
    · have := List.pairwise_iff_getElem.mp h.apart j i hj hi hij
      omega

/-- A walk stops at a line exactly if the line refers to no other pass and no stop before it takes
it. -/
lemma exists_stop_iff (h : Ordered 0 ls.length es)
    (huse : ∀ e ∈ es, e.usePath.isSome → e.last = e.first) {k : Nat} (hk : k < ls.length) :
    (∃ t ∈ sourceStops settings ls es, t.line = k) ↔
      (¬ ∃ e ∈ es, e.usePath.isSome ∧ e.first = k) ∧ ¬ ∃ t ∈ sourceStops settings ls es, t.line <
        k ∧ k ≤ t.last := by
  constructor
  · rintro ⟨t, ht, rfl⟩
    refine ⟨?_, ?_⟩
    · rintro ⟨e, he, hsome, hfirst⟩
      exact not_reference_of_stop h ht he hsome ⟨hfirst.le, by rw [huse e he hsome, hfirst]⟩
    · rintro ⟨s, hs, hlt, hle⟩
      have hne : s ≠ t := by
        rintro rfl
        exact lt_irrefl _ hlt
      have : Std.Symm Stop.Apart := ⟨fun _ _ => Or.symm⟩
      have := (sourceStops_apart settings h).forall hs ht hne
      simp only [Stop.Apart, Stop.last] at this hle
      omega
  · rintro ⟨href, htaken⟩
    rcases sourceStops_cover settings h hk with ⟨e, he, hsome, hfirst,
      hlast⟩ | ⟨t, ht, hline, hlast⟩
    · rw [huse e he hsome] at hlast
      exact absurd ⟨e, he, hsome, le_antisymm hfirst hlast⟩ href
    · refine ⟨t, ht, ?_⟩
      by_contra hne
      exact htaken ⟨t, ht, lt_of_le_of_ne hline hne, hlast⟩

/-- At most one stop is at a line. -/
lemma length_stops_at (h : Ordered 0 ls.length es) (p : Stop → Bool) (k : Nat) :
    (((sourceStops settings ls es).filter p).filter fun t => t.line = k).length = 1 ↔
      ∃ t ∈ sourceStops settings ls es, p t ∧ t.line = k := by
  have hapart := ((sourceStops_apart settings h).filter p).filter fun t => t.line = k
  have hmem : ∀ t, t ∈ ((sourceStops settings ls es).filter p).filter (fun t => t.line = k) ↔
      t ∈ sourceStops settings ls es ∧ p t ∧ t.line = k := by
    intro t
    rw [List.mem_filter, List.mem_filter, decide_eq_true_eq, and_assoc]
  generalize ((sourceStops settings ls es).filter p).filter
    (fun t => t.line = k) = ts at hapart hmem
  constructor
  · intro hone
    obtain ⟨t, rfl⟩ := List.length_eq_one_iff.mp hone
    obtain ⟨ht, hp, hline⟩ := (hmem t).mp (List.mem_singleton_self t)
    exact ⟨t, ht, hp, hline⟩
  · rintro ⟨t, ht⟩
    cases ts with
    | nil => exact absurd ((hmem t).mpr ht) List.not_mem_nil
    | cons s ts =>
      cases ts with
      | nil => rfl
      | cons s' ts =>
        have hs := ((hmem s).mp List.mem_cons_self).2.2
        have hs' := ((hmem s').mp (List.mem_cons_of_mem _ List.mem_cons_self)).2.2
        have := (List.pairwise_cons.mp hapart).1 s' List.mem_cons_self
        simp only [Stop.Apart, Stop.last] at this
        omega

/-- If nothing is amiss, no block stands outside the passes. -/
lemma attach_perm {outside : Parts} {passes : List Pass} (h : (outside.attach passes).2 = []) :
    ((outside.attach passes).1.flatMap (·.blocks)).Perm
      (outside.blocks ++ passes.flatMap (·.blocks)) := by
  have hnone : ∀ target, outside.attachWarnings target = [] → outside.blocks = [] := by
    intro target hw
    rw [Parts.attachWarnings, List.append_eq_nil_iff] at hw
    exact List.map_eq_nil_iff.mp hw.1
  unfold Parts.attach at h ⊢
  split_ifs at h ⊢ with hempty
  · simp only [Parts.isEmpty, Bool.and_eq_true, List.isEmpty_iff] at hempty
    rw [hempty.1.1, List.nil_append]
  · split at h
    · rw [hnone none h, List.nil_append]
    · rename_i i hi
      exact perm_flatMap_modify (List.findIdx?_eq_some_iff_getElem.mp hi).1

lemma allBlocks_perm {content : Text} (h : (documentOf settings r content).2 = []) :
    (documentOf settings r content).1.allBlocks.Perm
      (foundBlocks settings r (lines content) (passExtents (lines content)).1) := by
  refine attach_perm ?_
  simp only [documentOf, List.append_eq_nil_iff] at h
  exact h.2

lemma length_filter_span (bs : List Block) (k : Nat) :
    (bs.filter fun b => b.startLine = (k : Int)).length =
      ((bs.map Block.span).filter fun s => s.1 = (k : Int)).length := by
  rw [List.filter_map, List.length_map]
  rfl

/-- Without a warning, the blocks that start at a line are the stops there that open one. -/
lemma length_blocks_at (settings : Settings) (r : Registry) (content : Text)
    (h : (documentOf settings r content).2 = []) (k : Nat) :
    ((documentOf settings r content).1.allBlocks.filter fun b => b.startLine = (k : Int)).length =
      (((sourceStops settings (lines content) (passExtents (lines content)).1).filter
        (Stop.opens settings (lines content))).filter fun t => t.line = k).length := by
  rw [((allBlocks_perm h).filter _).length_eq, length_filter_span, foundBlocks_spans,
    List.filter_map, List.length_map]
  exact congrArg List.length (List.filter_congr fun t _ => decide_eq_decide.mpr Int.ofNat_inj)

/-- A stop at a line with a start marker opens a block, unless the line names a section. -/
lemma exists_opens_iff {ts : List Stop} {k : Nat} {l title : Text} (hl : ls[k]? = some l)
    (ht : Marker.blockStart? settings.tagPrefix l = some title) :
    (∃ t ∈ ts, Stop.opens settings ls t ∧ t.line = k) ↔
      Marker.sectionLabel? settings.tagPrefix l = none ∧ ∃ t ∈ ts, t.line = k := by
  have hline : ∀ t : Stop, t.line = k →
      (Stop.opens settings ls t ↔ Marker.sectionLabel? settings.tagPrefix l = none) := by
    rintro t rfl
    rw [Stop.opens, hl, Option.bind_some, opening?]
    cases Marker.sectionLabel? settings.tagPrefix l <;> simp [ht]
  constructor
  · rintro ⟨t, htm, hopen, hat⟩
    exact ⟨(hline t hat).mp hopen, t, htm, hat⟩
  · rintro ⟨hlabel, t, htm, hat⟩
    exact ⟨t, htm, (hline t hat).mpr hlabel, hat⟩

/-- What takes some of the lines that follow a line. -/
inductive Takes (settings : Settings) (l : Text) (rest : List Text) (n : Nat) : Prop
  | nothing (none : n = 0)
  | block {start : Nat} {title : Text} {inSection : Section}
      (opens : opening? settings l = some title)
    (taken : (readBlock settings.tagPrefix start title inSection rest).2.1 = n)
  | struct {start : Nat} {isInput : Bool}
      (opens : struct? settings.inputStruct settings.outputStruct l = some isInput)
    (taken : (readStruct start rest).2.1 = n)
  | stencil (opens : opensStencil l) (taken : (stencilExtent 0 false (l :: rest)).1-1 = n)

lemma Stepped.takes {i n : Nat} {p q : Parts} {l : Text} {rest : List Text}
    (h : Stepped settings i p l rest q n) : Takes settings l rest n := by
  cases h with
  | left unlabelled unstarted left =>
    cases left with
    | nothing => exact .nothing rfl
    | stencil opens extent => exact .stencil opens (by rw [extent])
  | taken taken =>
    cases taken with
    | label => exact .nothing rfl
    | block unlabelled starts read =>
      exact .block (by rw [opening?, unlabelled]; exact starts) (by rw [read])
    | struct unlabelled unstarted opens read => exact .struct opens (by rw [read])

lemma mem_stops {σ : Type} {step : Nat → σ → Text → List Text → σ × Nat} {i : Nat} {s : σ}
    {ks : List Text} (inside : ks <+: all.drop i) {t : Stop} (ht : t ∈ stops step i s ks) :
    ∃ s' l rest, l :: rest <+: all.drop t.line ∧ t.taken = (step t.line s' l rest).2 := by
  induction i, s, ks using stops.induct step with
  | case1 => simp [stops] at ht
  | case2 i s l rest next taken hstep ih =>
    rw [stops, hstep] at ht
    rcases List.mem_cons.mp ht with rfl | ht
    · exact ⟨s, l, rest, inside, by rw [hstep]⟩
    · exact ih (drop_prefix_drop inside taken) ht

/-- A stop of a walk over a pass stands at a line of the source and takes some of those below. -/
theorem passStops_takes {e : Extent} {t : Stop} (ht : t ∈ passStops settings ls e) :
    ∃ l rest, l :: rest <+: ls.drop t.line ∧ Takes settings l rest t.taken := by
  rw [passStops] at ht
  split_ifs at ht
  · exact absurd ht List.not_mem_nil
  · obtain ⟨c, l, rest, hprefix, htaken⟩ := mem_stops (prefix_between ls e.first e.last) ht
    exact ⟨l, rest, hprefix, htaken ▸ (stepped_content settings t.line c l rest).takes⟩

lemma sourceStops_takes {t : Stop} (ht : t ∈ sourceStops settings ls es) :
    ∃ l rest, l :: rest <+: ls.drop t.line ∧ Takes settings l rest t.taken := by
  rcases List.mem_append.mp ht with ht | ht
  · obtain ⟨g, -, ht⟩ := List.mem_flatMap.mp ht
    obtain ⟨p, l, rest, hprefix, htaken⟩ := mem_stops (prefix_between ls g.1 g.2) ht
    exact ⟨l, rest, hprefix, htaken ▸ (stepped_parts settings t.line p l rest).takes⟩
  · obtain ⟨e, -, ht⟩ := List.mem_flatMap.mp ht
    exact passStops_takes ht

/-- A struct takes lines up to the first with a closing brace. -/
lemma readStruct_open (start : Nat) (rest : List Text) {n : Nat}
    (h : n + 1 < (readStruct start rest).2.1) : ∀ l ∈ rest[n]?, '\x7d' ∉ l := by
  have hn : n < (rest.takeWhile fun l => !l.contains '\x7d').length := by
    simp only [readStruct] at h
    split_ifs at h <;> simp only at h <;> omega
  intro l hl
  simpa using holds_of_takeWhile hn l hl

lemma endsBody_of_takeWhile {rest : List Text} {n : Nat}
    (h : n < (rest.takeWhile fun l => !endsBody settings.tagPrefix l).length) :
    ∀ l ∈ rest[n]?, endsBody settings.tagPrefix l = false := by
  intro l hl
  simpa using holds_of_takeWhile h l hl

/-- A block takes no line with a marker of a block but the one that ends it. -/
lemma readBlock_open {start n : Nat} {title : Text} {inSection : Section} {rest : List Text}
    (h : n < (readBlock settings.tagPrefix start title inSection rest).2.1) :
    ∀ l ∈ rest[n]?, endsBody settings.tagPrefix l = false ∨
      Marker.isBlockEnd settings.tagPrefix l := by
  intro l hl
  rcases readBlock_cases settings.tagPrefix start title inSection rest with ⟨htaken, hlast⟩ | htaken
    <;> rw [htaken] at h
  · rcases Nat.lt_succ_iff_lt_or_eq.mp h with hn | rfl
    · exact .inl (endsBody_of_takeWhile hn l hl)
    · rw [hl] at hlast
      exact .inr hlast
  · exact .inl (endsBody_of_takeWhile h l hl)

/-- Before the last line that it takes, a block takes no line with a marker of a block. -/
lemma readBlock_body {start n : Nat} {title : Text} {inSection : Section} {rest : List Text}
    (h : n + 1 < (readBlock settings.tagPrefix start title inSection rest).2.1) :
    ∀ l ∈ rest[n]?, endsBody settings.tagPrefix l = false := by
  refine endsBody_of_takeWhile ?_
  rcases readBlock_cases settings.tagPrefix start title inSection rest with ⟨htaken, -⟩ | htaken
    <;> rw [htaken] at h <;> omega

lemma stencilExtent_append (depth : Int) (opened : Bool) (ks more : List Text) :
    (stencilExtent depth opened ks).1 ≤ (stencilExtent depth opened (ks ++ more)).1 := by
  induction ks generalizing depth opened with
  | nil => exact Nat.zero_le _
  | cons l ks ih =>
    simp only [List.cons_append, stencilExtent]
    split_ifs
    · exact le_rfl
    · exact Nat.succ_le_succ (ih _ _)

/-- What a line lies in that an earlier one takes along: a block that was begun there and has not
been ended since, a struct that was opened there and has had no closing brace since, or a stencil
group that was. -/
inductive LiesIn (settings : Settings) (ls : List Text) (j k : Nat) : Prop
  | block {l title : Text} (line : ls[j]? = some l) (opens : opening? settings l = some title)
    (unended : ∀ i, j < i → i < k → ∀ l ∈ ls[i]?, endsBody settings.tagPrefix l = false)
    (upto : ∀ l ∈ ls[k]?, endsBody settings.tagPrefix l = false ∨
        Marker.isBlockEnd settings.tagPrefix l)
  | struct {l : Text} {isInput : Bool} (line : ls[j]? = some l)
    (opens : struct? settings.inputStruct settings.outputStruct l = some isInput)
    (unclosed : ∀ i, j < i → i < k → ∀ l ∈ ls[i]?, '\x7d' ∉ l)
  | stencil {l : Text} (line : ls[j]? = some l) (opens : opensStencil l)
    (unclosed : k < j + (stencilExtent 0 false (ls.drop j)).1)

lemma liesIn_of_takes {j k n : Nat} {l : Text} {rest : List Text} (inside : l :: rest <+: ls.drop j)
    (htakes : Takes settings l rest n) (after : j < k) (upto : k ≤ j + n) :
    LiesIn settings ls j k := by
  obtain ⟨hl, -⟩ := getElem?_of_prefix_drop inside
  have hrest : ∀ i, j < i → i - j - 1 < rest.length → ls[i]? = rest[i-j-1]? := by
    intro i hi hlt
    rw [← getElem?_of_rest inside hlt, show j+(i-j-1)+1 = i by omega]
  cases htakes with
  | nothing hnone => omega
  | block opens htaken =>
    rename_i start title inSection
    have hfits := readBlock_taken settings.tagPrefix start title inSection rest
    refine .block hl opens (fun i hi hik => ?_) ?_
    · rw [hrest i hi (by omega)]
      exact @readBlock_body _ start (i-j-1) title inSection rest (by omega)
    · rw [hrest k after (by omega)]
      exact @readBlock_open _ start (k-j-1) title inSection rest (by omega)
  | struct opens htaken =>
    rename_i start isInput
    have hfits := (endings_readStruct start rest).2
    refine .struct hl opens fun i hi hik => ?_
    rw [hrest i hi (by omega)]
    exact readStruct_open start rest (by omega)
  | stencil opens htaken =>
    refine .stencil hl opens ?_
    obtain ⟨tail, htail⟩ := inside
    have := stencilExtent_append 0 false (l :: rest) tail
    rw [htail] at this
    omega

/-- A line with a start marker that is taken by an earlier one lies in a struct that was opened
there and has had no closing brace since, or in a stencil group that was, or it ends the block that
was started there as well. -/
inductive TakenBy (settings : Settings) (ls : List Text) (j k : Nat) : Prop
  | struct {l : Text} {isInput : Bool} (line : ls[j]? = some l)
    (opens : struct? settings.inputStruct settings.outputStruct l = some isInput)
    (unclosed : ∀ i, j < i → i < k → ∀ l ∈ ls[i]?, '\x7d' ∉ l)
  | stencil {l : Text} (line : ls[j]? = some l) (opens : opensStencil l)
    (unclosed : k < j + (stencilExtent 0 false (ls.drop j)).1)
  | block {l title : Text} (line : ls[j]? = some l) (opens : opening? settings l = some title)
    (ends : ls[k]?.any (Marker.isBlockEnd settings.tagPrefix))

lemma takenBy_of_stop {t : Stop} (ht : t ∈ sourceStops settings ls es) {k : Nat}
    (after : t.line < k) (upto : k ≤ t.last)
    (hk : (ls[k]?.bind (Marker.blockStart? settings.tagPrefix)).isSome) :
    TakenBy settings ls t.line k := by
  obtain ⟨l, rest, hprefix, htakes⟩ := sourceStops_takes ht
  cases liesIn_of_takes hprefix htakes after upto with
  | struct line opens unclosed => exact .struct line opens unclosed
  | stencil line opens unclosed => exact .stencil line opens unclosed
  | block line opens _ hends =>
    refine .block line opens ?_
    obtain ⟨title, hstart⟩ := Option.isSome_iff_exists.mp hk
    obtain ⟨m, hm, hstart⟩ := Option.bind_eq_some_iff.mp hstart
    rcases hends m hm with hfree | hend
    · simp [endsBody, hstart] at hfree
    · rw [hm]
      exact hend

/-- Without a warning, a line with a start marker starts exactly one block of the document, unless
it is hidden: it names a section or refers to another pass, or lies in a struct, a stencil group or
at the end of a block that was begun before. -/
theorem parse_keeps_iff {content : Text}
    {d : Document} (h : parse settings r content = .ok (d, [])) {k : Nat} {title : Text}
    (hk : (lines content)[k]?.bind (Marker.blockStart? settings.tagPrefix) = some title) :
    ((d.allBlocks.filter fun b => b.startLine = (k : Int)).length =
      1 ↔ ¬ Hidden settings (lines content) k) ∧
      ∀ t ∈ sourceStops settings (lines content) (passExtents (lines content)).1, t.line < k →
        k ≤ t.last →
        TakenBy settings (lines content) t.line k := by
  refine ⟨?_, fun t ht after upto => takenBy_of_stop ht after upto (by rw [hk]; rfl)⟩
  obtain ⟨l, hl, ht⟩ := Option.bind_eq_some_iff.mp hk
  have hlength : k < (lines content).length := (List.getElem?_eq_some_iff.mp hl).1
  have hordered := passExtents_ordered (lines_ne_nil content)
  have huse : ∀ e ∈ (passExtents (lines content)).1, e.usePath.isSome → e.last = e.first := by
    intro e he hsome
    obtain ⟨path, hpath⟩ := Option.isSome_iff_exists.mp hsome
    exact (passExtents_usePass e he path hpath).1
  have hdoc := documentOf_of_parse h
  have hcount := length_blocks_at settings r content (by rw [hdoc]) k
  rw [hdoc] at hcount
  rw [hcount, length_stops_at hordered, exists_opens_iff hl ht,
    exists_stop_iff hordered huse hlength]
  constructor
  · rintro ⟨hlabel, href, htaken⟩ (⟨hl', hnames⟩ | ⟨he, hsome, hon⟩ | ⟨hstop, hafter, hupto⟩)
    · rw [hl] at hl'
      rw [← Option.some.inj hl', hlabel] at hnames
      contradiction
    · exact href ⟨_, he, hsome, hon⟩
    · exact htaken ⟨_, hstop, hafter, hupto⟩
  · intro hidden
    refine ⟨?_, ?_, ?_⟩
    · rw [Option.eq_none_iff_forall_ne_some]
      exact fun label hlabel => hidden (.label hl hlabel)
    · rintro ⟨e, he, hsome, hon⟩
      exact hidden (.reference he hsome hon)
    · rintro ⟨t, hstop, hafter, hupto⟩
      exact hidden (.taken hstop hafter hupto)

/-- A struct that is closed on its own line goes on to the next closing brace. -/
def oneLineStruct : Text :=
  joinLines ["Shader \"A/B\" \x7b".toList, "    SubShader \x7b".toList, "        Pass \x7b".toList,
  "            Name \"P\"".toList, "            HLSLPROGRAM".toList,
  "            struct Attributes \x7b float4 positionOS : POSITION; \x7d;".toList,
  "            // [AILab_Block_Start: \"A\"]".toList,
  "            float A() \x7b return 1; \x7d".toList,
  "            // [AILab_Block_End]".toList, "            ENDHLSL".toList, "        \x7d".toList,
  "    \x7d".toList, ['\x7d'], []]

/-- A block below a struct on one line is lost, and nothing is said of it. -/
theorem parse_loses_block : ∃ d, parse {} .standard oneLineStruct = .ok (d, []) ∧
    (lines oneLineStruct)[6]?.bind (Marker.blockStart? ({} : Settings).tagPrefix) =
      some "A".toList ∧
    (d.allBlocks.filter fun b => b.startLine = ((6 : Nat) : Int)).length ≠ 1 := by
  have hwarnings : (documentOf {} .standard oneLineStruct).2 = [] := by decide +kernel
  have hparse :
      parse {} .standard oneLineStruct = .ok ((documentOf {} .standard oneLineStruct).1, []) := by
    rw [parse, if_neg (by decide), ← hwarnings]
  have hstart : (lines oneLineStruct)[6]?.bind (Marker.blockStart? ({} : Settings).tagPrefix) =
      some "A".toList := by
    decide +kernel
  have hstop :
      ⟨5, 2⟩ ∈ sourceStops {} (lines oneLineStruct) (passExtents (lines oneLineStruct)).1 := by
    decide +kernel
  refine ⟨_, hparse, hstart, fun hone => (parse_keeps_iff hparse hstart).1.mp hone ?_⟩
  exact .taken hstop (show 5 < 6 by decide) (show 6 ≤ 5+2 by decide)

end MarkedShader.Source
