import MarkedShader.Proofs.Source.Stops

/-! The passes of a source and the gaps between them share out its lines, and so do the stops of the
walks over them. -/
namespace MarkedShader.Source
open Text

/-- Passes that lie one after the other between two lines. -/
structure Ordered (first total : Nat) (es : List Extent) : Prop where
  inside : ∀ e ∈ es, first ≤ e.first ∧ e.first ≤ e.last ∧ e.last < total
  apart : es.Pairwise fun e e' => e.last < e'.first

lemma Ordered.cons {first next total : Nat} {e : Extent} {es : List Extent}
    (h : Ordered next total es) (hfirst : first ≤ e.first) (hlast : e.first ≤ e.last)
    (hnext : e.last < next) (htotal : e.last < total) : Ordered first total (e :: es) where
  inside := by
    intro e' he
    rcases List.mem_cons.mp he with rfl | he
    · exact ⟨hfirst, hlast, htotal⟩
    · have := h.inside e' he
      omega
  apart := List.pairwise_cons.mpr ⟨fun e' he => lt_of_lt_of_le hnext (h.inside e' he).1, h.apart⟩

lemma Ordered.mono {first next total : Nat} {es : List Extent} (h : Ordered next total es)
    (hle : first ≤ next) : Ordered first total es :=
  ⟨fun e he => ⟨hle.trans (h.inside e he).1, (h.inside e he).2⟩, h.apart⟩

section
variable {first total : Nat} {e : Extent} {es : List Extent}

lemma Ordered.tail (h : Ordered first total (e :: es)) : Ordered (e.last+1) total es :=
  have ⟨hafter, hapart⟩ := List.pairwise_cons.mp h.apart
  ⟨fun e' he => ⟨hafter e' he, (h.inside e' (List.mem_cons_of_mem _ he)).2⟩, hapart⟩

lemma Ordered.gapsFrom_cons (h : Ordered first total (e :: es)) :
    gapsFrom first total (e :: es) = gapUpTo first e.first ++ gapsFrom (e.last+1) total es := by
  obtain ⟨hfirst, hlast, -⟩ := h.inside e List.mem_cons_self
  exact Source.gapsFrom_cons (by omega)

end

lemma closingLine?_lt {depth : Int} {opened : Bool} {ls : List Text} {n : Nat}
    (h : closingLine? depth opened ls = some n) : n < ls.length := by
  induction ls generalizing depth opened n with
  | nil => contradiction
  | cons l ls ih =>
    simp only [closingLine?] at h
    split_ifs at h
    · rw [← Option.some.inj h]
      exact Nat.succ_pos _
    · obtain ⟨m, hm, rfl⟩ := Option.map_eq_some_iff.mp h
      exact Nat.succ_lt_succ (ih hm)

section
variable {i n : Nat} {l path : Text} {ls : List Text}

/-- A reference to a pass is an extent of one line. -/
theorem extentsFrom_reference (h : usePass? l = some path) : extentsFrom i (l :: ls) =
    (⟨i, i, some path⟩ :: (extentsFrom (i+1) ls).1, (extentsFrom (i+1) ls).2) := by
  rw [extentsFrom, h]

/-- A pass that is closed extends up to its closing line. -/
theorem extentsFrom_closed (h : usePass? l = none) (opens : opensPass l)
    (closes : closingLine? 0 false (l :: ls) = some n) :
    extentsFrom i (l :: ls) = (⟨i, i+n, none⟩ :: (extentsFrom (i+n+1) (ls.drop n)).1,
      (extentsFrom (i+n+1) (ls.drop n)).2) := by
  rw [extentsFrom, h]
  simp only [opens, if_true, closes]

/-- A pass that is never closed extends to the last line, with a warning. -/
theorem extentsFrom_unclosed (h : usePass? l = none) (opens : opensPass l)
    (never : closingLine? 0 false (l :: ls) = none) :
    extentsFrom i (l :: ls) = ([⟨i, i+ls.length, none⟩], [⟨i, .passNotClosed⟩]) := by
  rw [extentsFrom, h]
  simp only [opens, if_true, never]

/-- Any other line is skipped. -/
theorem extentsFrom_other (h : usePass? l = none) (other : ¬ opensPass l) :
    extentsFrom i (l :: ls) = extentsFrom (i+1) ls := by
  rw [extentsFrom, h]
  simp only [other]
  rfl

end

lemma extentsFrom_ordered (i : Nat) (ls : List Text) :
    Ordered i (i + ls.length) (extentsFrom i ls).1 := by
  induction i, ls using extentsFrom.induct with
  | case1 i =>
    rw [extentsFrom]
    exact ⟨fun _ he => absurd he List.not_mem_nil, .nil⟩
  | case2 i l ls path huse found ws hrest ih =>
    rw [extentsFrom_reference huse]
    rw [show i + 1 + ls.length = i + (l :: ls).length by rw [List.length_cons]; omega] at ih
    exact ih.cons le_rfl le_rfl (Nat.lt_succ_self _) (by simp)
  | case3 i l ls huse hopens n hclosing found ws hrest ih =>
    have hlt := closingLine?_lt hclosing
    rw [List.length_cons] at hlt
    rw [show i + n + 1 + (ls.drop n).length = i + (l :: ls).length by
      rw [List.length_drop, List.length_cons]; omega] at ih
    rw [extentsFrom_closed huse hopens hclosing]
    exact ih.cons le_rfl (Nat.le_add_right _ _) (Nat.lt_succ_self _) (by simp; omega)
  | case4 i l ls huse hopens hclosing =>
    rw [extentsFrom_unclosed huse hopens hclosing]
    refine ⟨fun e he => ?_, List.pairwise_singleton _ _⟩
    rw [List.mem_singleton.mp he]
    simp
  | case5 i l ls huse hopens ih =>
    rw [show i + 1 + ls.length = i + (l :: ls).length by rw [List.length_cons]; omega] at ih
    rw [extentsFrom_other huse hopens]
    exact ih.mono (Nat.le_succ _)

/-- A reference to the pass of another shader is a single line. -/
theorem extentsFrom_usePass {all : List Text} {i : Nat} {ls : List Text}
    (inside : ls <+: all.drop i) :
    ∀ e ∈ (extentsFrom i ls).1, ∀ path ∈ e.usePath, e.last = e.first ∧
      all[e.first]?.bind usePass? = some path := by
  induction i, ls using extentsFrom.induct with
  | case1 i =>
    rw [extentsFrom]
    exact fun _ he => absurd he List.not_mem_nil
  | case2 i l ls path huse found ws hrest ih =>
    obtain ⟨hget, -⟩ := getElem?_of_prefix_drop inside
    rw [extentsFrom_reference huse]
    intro e he path' hpath
    rcases List.mem_cons.mp he with rfl | he
    · refine ⟨rfl, ?_⟩
      rw [hget]
      exact huse.trans hpath
    · exact ih (drop_prefix_drop inside 0) e he path' hpath
  | case3 i l ls huse hopens n hclosing found ws hrest ih =>
    rw [extentsFrom_closed huse hopens hclosing]
    intro e he path hpath
    rcases List.mem_cons.mp he with rfl | he
    · contradiction
    · exact ih (drop_prefix_drop inside n) e he path hpath
  | case4 i l ls huse hopens hclosing =>
    rw [extentsFrom_unclosed huse hopens hclosing]
    intro e he path hpath
    rw [List.mem_singleton.mp he] at hpath
    contradiction
  | case5 i l ls huse hopens ih =>
    rw [extentsFrom_other huse hopens]
    exact ih (drop_prefix_drop inside 0)

lemma passExtents_eq (ls : List Text) : (passExtents ls).1 =
    if (extentsFrom 0 ls).1.isEmpty then [⟨0, ls.length-1, none⟩] else (extentsFrom 0 ls).1 := rfl

/-- The passes of a source lie one after the other within it. -/
theorem passExtents_ordered {ls : List Text} (hne : ls ≠ []) :
    Ordered 0 ls.length (passExtents ls).1 := by
  have hpos := List.length_pos_iff.mpr hne
  have hordered := extentsFrom_ordered 0 ls
  rw [Nat.zero_add] at hordered
  rw [passExtents_eq]
  split_ifs
  · refine ⟨fun e he => ?_, List.pairwise_singleton _ _⟩
    rw [List.mem_singleton.mp he]
    simp only
    omega
  · exact hordered

lemma passExtents_usePass {ls : List Text} :
    ∀ e ∈ (passExtents ls).1, ∀ path ∈ e.usePath, e.last = e.first ∧
      ls[e.first]?.bind usePass? = some path := by
  have hfound := extentsFrom_usePass (List.prefix_refl (ls.drop 0))
  rw [passExtents_eq]
  split_ifs
  · intro e he path hpath
    rw [List.mem_singleton.mp he] at hpath
    contradiction
  · exact hfound

/-- Stretches of lines that lie one after the other and leave out no line but those of some
passes. -/
structure Fills (first total : Nat) (es : List Extent) (gs : List (Nat × Nat)) : Prop where
  inside : ∀ g ∈ gs, first ≤ g.1 ∧ g.1 ≤ g.2 ∧ g.2 < total
  apart : gs.Pairwise fun g g' => g.2 < g'.1
  clear : ∀ g ∈ gs, ∀ e ∈ es, g.2 < e.first ∨ e.last < g.1
  cover : ∀ k, first ≤ k → k < total → (∃ e ∈ es, e.first ≤ k ∧ k ≤ e.last) ∨
    ∃ g ∈ gs, g.1 ≤ k ∧ k ≤ g.2

lemma pairwise_gapUpTo (cursor next : Nat) :
    (gapUpTo cursor next).Pairwise fun g g' => g.2 < g'.1 := by
  unfold gapUpTo
  split_ifs
  · exact List.pairwise_singleton _ _
  · exact .nil

namespace Fills

variable {cursor total : Nat} {e : Extent} {es : List Extent} {gs : List (Nat × Nat)}

lemma upTo (cursor total : Nat) : Fills cursor total [] (gapUpTo cursor total) where
  inside g hg := by
    obtain ⟨hlt, rfl⟩ := mem_gapUpTo.mp hg
    simp only
    omega
  apart := pairwise_gapUpTo cursor total
  clear _ _ _ he := absurd he List.not_mem_nil
  cover k hk hkt :=
    .inr ⟨(cursor, total-1), mem_gapUpTo.mpr ⟨by omega, rfl⟩, hk, by simp only; omega⟩

/-- The stretch up to the first pass, and what fills the lines after it. -/
lemma cons (h : Fills (e.last+1) total es gs) (ordered : Ordered cursor total (e :: es)) :
    Fills cursor total (e :: es) (gapUpTo cursor e.first ++ gs) := by
  obtain ⟨hfirst, hlast, htotal⟩ := ordered.inside e List.mem_cons_self
  have hafter := fun e' he => (ordered.tail.inside e' he).1
  have hbefore : ∀ g ∈ gapUpTo cursor e.first, g.1 = cursor ∧ g.1 ≤ g.2 ∧ g.2 < e.first := by
    intro g hg
    obtain ⟨hlt, rfl⟩ := mem_gapUpTo.mp hg
    exact ⟨rfl, Nat.le_sub_one_of_lt hlt, Nat.sub_one_lt_of_lt hlt⟩
  refine ⟨List.forall_mem_append.mpr ⟨fun g hg => ?_, fun g hg => ?_⟩, ?_,
    List.forall_mem_append.mpr ⟨fun g hg => ?_, fun g hg => ?_⟩, fun k hk hkt => ?_⟩
  · have := hbefore g hg
    omega
  · have := h.inside g hg
    omega
  · refine List.pairwise_append.mpr
      ⟨pairwise_gapUpTo cursor e.first, h.apart, fun g hg g' hg' => ?_⟩
    have := hbefore g hg
    have := h.inside g' hg'
    omega
  · have := hbefore g hg
    refine List.forall_mem_cons.mpr ⟨.inl this.2.2, fun e' he => .inl ?_⟩
    have := hafter e' he
    omega
  · exact List.forall_mem_cons.mpr ⟨.inr (h.inside g hg).1, h.clear g hg⟩
  · rcases Nat.lt_or_ge k e.first with hb | hb
    · have hgap : (cursor, e.first-1) ∈ gapUpTo cursor e.first := mem_gapUpTo.mpr ⟨by omega, rfl⟩
      exact .inr ⟨_, List.mem_append_left _ hgap, hk, by simp only; omega⟩
    · rcases Nat.lt_or_ge e.last k with hin | hin
      · rcases h.cover k hin hkt with ⟨e', he, hk⟩ | ⟨g, hg, hk⟩
        · exact .inl ⟨e', List.mem_cons_of_mem _ he, hk⟩
        · exact .inr ⟨g, List.mem_append_right _ hg, hk⟩
      · exact .inl ⟨e, List.mem_cons_self, hb, hin⟩

end Fills

lemma gapsFrom_fills {cursor total : Nat} {es : List Extent} (h : Ordered cursor total es) :
    Fills cursor total es (gapsFrom cursor total es) := by
  induction es generalizing cursor with
  | nil => exact .upTo cursor total
  | cons e es ih =>
    rw [h.gapsFrom_cons]
    exact (ih h.tail).cons h

/-- The gaps fill what the passes leave. -/
theorem gaps_fill {ls : List Text} {es : List Extent} (h : Ordered 0 ls.length es) :
    Fills 0 ls.length es (gaps ls es) :=
  gapsFrom_fills h

lemma length_between {ls : List Text} {first last : Nat} (hle : first ≤ last)
    (hlast : last < ls.length) : first + (between ls first last).length = last+1 := by
  rw [between, List.length_drop, List.length_take]
  omega

variable (settings : Settings) (ls : List Text) (es : List Extent)

def passStops (e : Extent) : List Stop :=
  if e.usePath.isSome then []
    else stops (Content.step settings) e.first {} (between ls e.first e.last)

def gapStops (g : Nat × Nat) : List Stop := stops (Parts.step settings) g.1 {} (between ls g.1 g.2)

/-- The stops of the walks over the gaps and over the passes. -/
def sourceStops : List Stop :=
  (gaps ls es).flatMap (gapStops settings ls) ++ es.flatMap (passStops settings ls)

variable {settings ls es}

lemma passStops_inside (settings : Settings) {e : Extent} (hle : e.first ≤ e.last)
    (hlast : e.last < ls.length) :
    ∀ t ∈ passStops settings ls e, e.first ≤ t.line ∧ t.last ≤ e.last := by
  intro t ht
  rw [passStops] at ht
  split_ifs at ht
  · exact absurd ht List.not_mem_nil
  · have := (stops_tile (finds_content settings).fits _ _ _).inside t ht
    rw [length_between hle hlast] at this
    exact ⟨this.1, Nat.le_of_lt_succ this.2⟩

lemma passStops_eq (settings : Settings) {e : Extent} (hpass : e.usePath = none) :
    passStops settings ls e =
    stops (Content.step settings) e.first {} (between ls e.first e.last) := by
  rw [passStops, hpass]
  rfl

/-- The stops of a walk over a pass lie one after the other and leave out no line. -/
theorem passStops_tile (settings : Settings) {e : Extent} (hpass : e.usePath = none)
    (hle : e.first ≤ e.last) (hlast : e.last < ls.length) :
    Tiles e.first (e.last+1) (passStops settings ls e) := by
  have := stops_tile (finds_content settings).fits e.first {} (between ls e.first e.last)
  rwa [length_between hle hlast, ← passStops_eq settings hpass] at this

/-- The stops of a walk over a gap lie one after the other and leave out no line. -/
theorem gapStops_tile (settings : Settings) {g : Nat × Nat} (hle : g.1 ≤ g.2)
    (hlast : g.2 < ls.length) : Tiles g.1 (g.2+1) (gapStops settings ls g) := by
  have := stops_tile (finds_parts settings).fits g.1 {} (between ls g.1 g.2)
  rwa [length_between hle hlast] at this

/-- No line belongs to two stops. -/
def Stop.Apart (s t : Stop) : Prop := s.last < t.line ∨ t.last < s.line

/-- No two stops of the walks over a source take the same line. -/
theorem sourceStops_apart (settings : Settings) (h : Ordered 0 ls.length es) :
    (sourceStops settings ls es).Pairwise Stop.Apart := by
  have hfills := gaps_fill h
  have hgap : ∀ g ∈ gaps ls es, Tiles g.1 (g.2+1) (gapStops settings ls g) := fun g hg =>
    gapStops_tile settings (hfills.inside g hg).2.1 (hfills.inside g hg).2.2
  have hpass : ∀ e ∈ es, ∀ t ∈ passStops settings ls e, e.first ≤ t.line ∧ t.last ≤ e.last :=
    fun e he => passStops_inside settings (h.inside e he).2.1 (h.inside e he).2.2
  refine List.pairwise_append.mpr
    ⟨List.pairwise_flatMap.mpr ⟨?_, ?_⟩, List.pairwise_flatMap.mpr ⟨?_, ?_⟩, ?_⟩
  · exact fun g hg => (hgap g hg).apart.imp Or.inl
  · refine hfills.apart.imp_of_mem fun {g g'} hg hg' hlt s hs t ht => .inl ?_
    have := (hgap g hg).inside s hs
    have := (hgap g' hg').inside t ht
    omega
  · intro e _
    rw [passStops]
    split_ifs
    · exact .nil
    · exact (stops_tile (finds_content settings).fits _ _ _).apart.imp Or.inl
  · refine h.apart.imp_of_mem fun {e e'} he he' hlt s hs t ht => .inl ?_
    have := hpass e he s hs
    have := hpass e' he' t ht
    omega
  · intro s hs t ht
    obtain ⟨g, hg, hs⟩ := List.mem_flatMap.mp hs
    obtain ⟨e, he, ht⟩ := List.mem_flatMap.mp ht
    have := (hgap g hg).inside s hs
    have := hpass e he t ht
    have := hfills.clear g hg e he
    rw [Stop.Apart]
    omega

/-- Every line belongs to a stop, but for references to passes of other shaders. -/
theorem sourceStops_cover (settings : Settings) (h : Ordered 0 ls.length es)
    {k : Nat} (hk : k < ls.length) :
    (∃ e ∈ es, e.usePath.isSome ∧ e.first ≤ k ∧ k ≤ e.last) ∨
      ∃ t ∈ sourceStops settings ls es, t.line ≤ k ∧ k ≤ t.last := by
  have hfills := gaps_fill h
  rcases hfills.cover k (Nat.zero_le k) hk with ⟨e, he, hfirst, hlast⟩ | ⟨g, hg, hfirst, hlast⟩
  · obtain ⟨-, hle, htotal⟩ := h.inside e he
    by_cases huse : e.usePath.isSome = true
    · exact .inl ⟨e, he, huse, hfirst, hlast⟩
    · have htile := passStops_tile settings (Option.not_isSome_iff_eq_none.mp huse) hle htotal
      obtain ⟨t, ht, hin⟩ := htile.cover k hfirst (Nat.lt_succ_of_le hlast)
      exact .inr ⟨t, List.mem_append_right _ (List.mem_flatMap.mpr ⟨e, he, ht⟩), hin⟩
  · obtain ⟨-, hle, htotal⟩ := hfills.inside g hg
    obtain ⟨t, ht, hin⟩ :=
      (gapStops_tile settings hle htotal).cover k hfirst (Nat.lt_succ_of_le hlast)
    exact .inr ⟨t, List.mem_append_left _ (List.mem_flatMap.mpr ⟨g, hg, ht⟩), hin⟩

/-- Outside the passes it does not matter for the stops what has been found before. -/
lemma step_taken (settings : Settings) (i : Nat) (p q : Parts) (l : Text) (rest : List Text) :
    (Parts.step settings i p l rest).2 = (Parts.step settings i q l rest).2 := by
  simp only [Parts.step, Parts.take?]
  split
  · rfl
  · split
    · rfl
    · cases struct? settings.inputStruct settings.outputStruct l <;> rfl

lemma stops_parts (i : Nat) (p q : Parts) (ls : List Text) :
    stops (Parts.step settings) i p ls = stops (Parts.step settings) i q ls := by
  induction hn : ls.length using Nat.strong_induction_on generalizing i p q ls with
  | _ n ih =>
    subst hn
    cases ls with
    | nil => rw [stops, stops]
    | cons l ls =>
      have htaken := step_taken settings i p q l ls
      rw [stops, stops]
      simp only [htaken]
      exact congrArg _ (ih (ls.drop _).length
        (Nat.lt_succ_of_le (List.drop_sublist _ ls).length_le) _ _ _ _ rfl)

lemma partsOutside_spans : (partsOutside settings ls es).blocks.map Block.span =
    (((gaps ls es).flatMap (gapStops settings ls)).filter
      (Stop.opens settings ls)).map Stop.span := by
  have hwalks : ∀ (gs : List (Nat × Nat)) (p : Parts),
      (gs.foldl (fun p g => walk (Parts.step settings) g.1 p (between ls g.1 g.2)) p).blocks.map
        Block.span = p.blocks.map Block.span ++
        ((gs.flatMap (gapStops settings ls)).filter (Stop.opens settings ls)).map Stop.span := by
    intro gs
    induction gs with
    | nil => intro p; simp
    | cons g gs ih =>
      intro p
      have hone := (finds_parts settings).spans (s := p) (prefix_between ls g.1 g.2)
      rw [stops_parts _ p {}] at hone
      rw [List.foldl_cons, ih, List.flatMap_cons, List.filter_append, List.map_append,
        ← List.append_assoc]
      exact congrArg (· ++ _) hone
  exact hwalks (gaps ls es) {}

variable {r : Registry}

/-- The blocks that are read from a pass span what the stops of its walk do that open blocks. -/
theorem readPass_spans (settings : Settings) (r : Registry) (ls : List Text) (cursor : Nat)
    (e : Extent) : (readPass settings r ls cursor e).1.blocks.map Block.span =
    ((passStops settings ls e).filter (Stop.opens settings ls)).map Stop.span := by
  rw [readPass, passStops]
  cases e.usePath with
  | some path => rfl
  | none => exact (finds_content settings).spans (prefix_between ls e.first e.last)

lemma readPasses_spans (cursor : Nat) :
    ((readPasses settings r ls cursor es).1.flatMap (·.blocks)).map Block.span =
    ((es.flatMap (passStops settings ls)).filter (Stop.opens settings ls)).map Stop.span := by
  induction es generalizing cursor with
  | nil => rfl
  | cons e es ih =>
    rw [readPasses]
    simp only [List.flatMap_cons, List.map_append, List.filter_append, ih, readPass_spans]

/-- The blocks that are found outside the passes, and those that are found in them. -/
def foundBlocks (settings : Settings) (r : Registry) (ls : List Text)
    (es : List Extent) : List Block :=
  (partsOutside settings ls es).blocks ++ (readPasses settings r ls 0 es).1.flatMap (·.blocks)

/-- The blocks that are found in a source span what the stops of its walks do that open blocks. -/
theorem foundBlocks_spans : (foundBlocks settings r ls es).map Block.span =
    ((sourceStops settings ls es).filter (Stop.opens settings ls)).map Stop.span := by
  rw [foundBlocks, sourceStops, List.map_append, partsOutside_spans, readPasses_spans,
    List.filter_append, List.map_append]

lemma exact_empty (pre : Text) (all : List Text) : ({} : Parts).Exact pre all :=
  ⟨fun _ hb => absurd hb List.not_mem_nil, rfl⟩

lemma partsOutside_exact (settings : Settings) (ls : List Text) (es : List Extent) :
    (partsOutside settings ls es).Exact settings.tagPrefix ls := by
  refine List.foldlRecOn (gaps ls es) _ (motive := fun p : Parts => p.Exact settings.tagPrefix ls)
    (exact_empty _ _) fun p hp g _ => ?_
  exact (finds_parts settings).exact (prefix_between ls g.1 g.2) hp

lemma readPass_exact (settings : Settings) (r : Registry)
    (ls : List Text) (cursor : Nat) (e : Extent) :
    (∀ b ∈ (readPass settings r ls cursor e).1.blocks, b.IsExact settings.tagPrefix ls) ∧
      endings (readPass settings r ls cursor e).2 =
        ((readPass settings r ls cursor e).1.blocks.filter fun b =>
          !b.isClosedIn settings.tagPrefix ls).map Block.ending := by
  rw [readPass]
  cases e.usePath with
  | some path => exact ⟨fun _ hb => absurd hb List.not_mem_nil, rfl⟩
  | none =>
    have := (finds_content settings).exact (prefix_between ls e.first e.last) (s := ({} : Content))
      (exact_empty settings.tagPrefix ls)
    exact ⟨this.blocks, this.endings⟩

lemma readPasses_exact (settings : Settings) (r : Registry) (ls : List Text)
    (es : List Extent) (cursor : Nat) :
    (∀ b ∈ (readPasses settings r ls cursor es).1.flatMap (·.blocks),
      b.IsExact settings.tagPrefix ls) ∧
      endings (readPasses settings r ls cursor es).2 =
        (((readPasses settings r ls cursor es).1.flatMap (·.blocks)).filter
        fun b => !b.isClosedIn settings.tagPrefix ls).map Block.ending := by
  induction es generalizing cursor with
  | nil => exact ⟨fun _ hb => absurd hb List.not_mem_nil, rfl⟩
  | cons e es ih =>
    obtain ⟨hblocks, hends⟩ := readPass_exact settings r ls cursor e
    obtain ⟨hmore, hmoreEnds⟩ := ih (e.last+1)
    rw [readPasses]
    simp only [List.flatMap_cons]
    refine ⟨fun b hb => (List.mem_append.mp hb).elim (hblocks b) (hmore b), ?_⟩
    rw [endings_append, hends, hmoreEnds, List.filter_append, List.map_append]

lemma foundBlocks_exact (settings : Settings) (r : Registry) (ls : List Text) (es : List Extent) :
    (∀ b ∈ foundBlocks settings r ls es, b.IsExact settings.tagPrefix ls) ∧
    endings ((partsOutside settings ls es).warnings ++ (readPasses settings r ls 0 es).2) =
      ((foundBlocks settings r ls es).filter fun b => !b.isClosedIn settings.tagPrefix ls).map
        Block.ending := by
  have houtside := partsOutside_exact settings ls es
  obtain ⟨hblocks, hends⟩ := readPasses_exact settings r ls es 0
  refine ⟨fun b hb => (List.mem_append.mp hb).elim (houtside.blocks b) (hblocks b), ?_⟩
  rw [endings_append, houtside.endings, hends, foundBlocks, List.filter_append, List.map_append]

end MarkedShader.Source
