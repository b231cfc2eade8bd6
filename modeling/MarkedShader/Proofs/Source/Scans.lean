import MarkedShader.Proofs.Source.Kept

/-! The walks over a source go over each of its lines once. The passes and the gaps between them
share out the lines, and after each line a walk goes on at a later one, at most the one behind the
lines that it goes over.

Main statement: `scans_share_lines`. -/
namespace MarkedShader.Source
open Text

/-- The numbers of the lines from `first` up to `next`, which is not among them. -/
def linesUpTo (first next : Nat) : List Nat := List.range' first (next-first)

def Stop.lines (s : Stop) : List Nat := linesUpTo s.line (s.last+1)

def Extent.lines (e : Extent) : List Nat := linesUpTo e.first (e.last+1)

def gapLines (g : Nat × Nat) : List Nat := linesUpTo g.1 (g.2+1)

lemma linesUpTo_append {first mid next : Nat} (hfirst : first ≤ mid) (hnext : mid ≤ next) :
    linesUpTo first mid ++ linesUpTo mid next = linesUpTo first next := by
  obtain ⟨n, rfl⟩ := Nat.exists_eq_add_of_le hfirst
  obtain ⟨m, rfl⟩ := Nat.exists_eq_add_of_le hnext
  rw [linesUpTo, linesUpTo, linesUpTo, Nat.add_sub_cancel_left, Nat.add_sub_cancel_left,
    Nat.add_assoc, Nat.add_sub_cancel_left, List.range'_append_1]

lemma linesUpTo_self (first : Nat) : linesUpTo first first = [] := by
  rw [linesUpTo, Nat.sub_self, List.range'_zero]

lemma flatMap_gapUpTo {cursor next : Nat} (hle : cursor ≤ next) :
    (gapUpTo cursor next).flatMap gapLines = linesUpTo cursor next := by
  unfold gapUpTo
  split_ifs with hlt
  · simp [gapLines, Nat.sub_add_cancel (Nat.one_le_of_lt hlt)]
  · rw [le_antisymm hle (not_lt.mp hlt), linesUpTo_self]
    rfl

/-- Passes that lie one after the other and the gaps between them share out the lines. -/
lemma lines_perm {cursor total : Nat} {es : List Extent}
    (h : Ordered cursor total es) (hle : cursor ≤ total) :
    (es.flatMap Extent.lines ++ (gapsFrom cursor total es).flatMap gapLines).Perm
      (linesUpTo cursor total) := by
  induction es generalizing cursor with
  | nil =>
    rw [gapsFrom_nil, flatMap_gapUpTo hle]
    exact .refl _
  | cons e es ih =>
    obtain ⟨hfirst, hlast, htotal⟩ := h.inside e List.mem_cons_self
    have hrest := ih h.tail htotal
    rw [h.gapsFrom_cons, List.flatMap_cons, List.flatMap_append, flatMap_gapUpTo hfirst]
    refine (List.perm_append_comm_assoc _ _ _).trans ?_
    rw [List.append_assoc, ← linesUpTo_append hfirst (hlast.trans htotal.le),
      ← linesUpTo_append (hlast.trans (Nat.le_succ _)) htotal]
    exact (hrest.append_left _).append_left _

section
variable {σ : Type} (step : Nat → σ → Text → List Text → σ × Nat)

/-- A step that also notes where the walk is and what is taken there. -/
def noting (i : Nat) (s : σ × List Stop) (l : Text) (rest : List Text) : (σ × List Stop) × Nat :=
  let (next, taken) := step i s.1 l rest
  ((next, s.2 ++ [⟨i, taken⟩]), taken)

/-- To note the stops does not change what a walk finds. -/
lemma walk_noting (i : Nat) (s : σ) (ts : List Stop) (ls : List Text) :
    walk (noting step) i (s, ts) ls = (walk step i s ls, ts ++ stops step i s ls) := by
  induction i, s, ls using stops.induct step generalizing ts with
  | case1 i s => simp [walk, stops]
  | case2 i s l rest next taken hstep ih =>
    have hnoting : noting step i (s, ts) l rest = ((next, ts ++ [⟨i, taken⟩]), taken) := by
      rw [noting, hstep]
    rw [walk, hnoting, walk, hstep, stops, hstep]
    simp only
    rw [ih, List.append_assoc, List.singleton_append]

variable {step}

/-- A walk whose steps take no more lines than there are goes over its lines in order, over each at
one stop. -/
lemma stops_lines (fits : ∀ i s l rest, (step i s l rest).2 ≤ rest.length) (i : Nat) (s : σ)
    (ls : List Text) : (stops step i s ls).flatMap Stop.lines = linesUpTo i (i + ls.length) := by
  induction i, s, ls using stops.induct step with
  | case1 i s =>
    rw [stops, List.length_nil, Nat.add_zero, linesUpTo_self]
    rfl
  | case2 i s l rest next taken hstep ih =>
    have hfits : taken ≤ rest.length := by simpa [hstep] using fits i s l rest
    have hnext : i + taken + 1 + (rest.drop taken).length = i + (l :: rest).length := by
      rw [List.length_drop, List.length_cons]
      omega
    rw [stops, hstep]
    simp only [List.flatMap_cons, ih, hnext, Stop.lines, Stop.last]
    exact linesUpTo_append (by omega) (by rw [List.length_cons]; omega)

end

variable (settings : Settings) (ls : List Text) (es : List Extent)

/-- What the walks over the gaps find, and their stops. -/
def notedOutside : Parts × List Stop :=
  (gaps ls es).foldl (fun s (first, last) =>
    walk (noting (Parts.step settings)) first s (between ls first last)) ({}, [])

/-- What the walk over a pass finds, and its stops. -/
def notedIn (e : Extent) : Content × List Stop :=
  walk (noting (Content.step settings)) e.first ({}, []) (between ls e.first e.last)

/-- Where the lines of a pass are gone over. A reference to the pass of another shader is a line of
its own. -/
def handled (e : Extent) : List Stop :=
  if e.usePath.isSome then [⟨e.first, 0⟩] else (notedIn settings ls e).2

lemma notedIn_eq (e : Extent) :
    notedIn settings ls e = (contentOf settings e.first (between ls e.first e.last),
    stops (Content.step settings) e.first {} (between ls e.first e.last)) :=
  walk_noting _ _ _ _ _

lemma notedOutside_eq : notedOutside settings ls es =
    (partsOutside settings ls es, (gaps ls es).flatMap (gapStops settings ls)) := by
  have hwalks : ∀ (gs : List (Nat × Nat)) (p : Parts) (ts : List Stop),
      gs.foldl (fun s g => walk (noting (Parts.step settings)) g.1 s (between ls g.1 g.2)) (p, ts) =
        (gs.foldl (fun p g => walk (Parts.step settings) g.1 p (between ls g.1 g.2)) p,
          ts ++ gs.flatMap (gapStops settings ls)) := by
    intro gs
    induction gs with
    | nil => simp
    | cons g gs ih =>
      intro p ts
      -- the stops of a walk do not hang on what the walks before it have found
      rw [List.foldl_cons, walk_noting, stops_parts _ p {}, ih, List.foldl_cons, List.flatMap_cons,
        List.append_assoc]
      rfl
  exact hwalks (gaps ls es) {} []

variable {settings ls es}

lemma gapStops_lines {g : Nat × Nat} (hle : g.1 ≤ g.2) (hlast : g.2 < ls.length) :
    (gapStops settings ls g).flatMap Stop.lines = gapLines g := by
  rw [gapStops, stops_lines (finds_parts settings).fits, length_between hle hlast, gapLines]

lemma handled_lines {e : Extent} (hle : e.first ≤ e.last) (hlast : e.last < ls.length)
    (huse : e.usePath.isSome → e.last = e.first) :
    (handled settings ls e).flatMap Stop.lines = e.lines := by
  rw [handled]
  split_ifs with hsome
  · rw [List.flatMap_singleton, Stop.lines, Extent.lines, huse hsome]
    rfl
  · rw [notedIn_eq, stops_lines (finds_content settings).fits,
      length_between hle hlast, Extent.lines]

/-- The line at which a walk goes on: the next one, or the one behind a block, a struct or a stencil
group that begins where it is. -/
inductive GoesOn (settings : Settings) (i : Nat) (l : Text) (rest : List Text) (next : Nat) : Prop
  | line (behind : next = i+1)
  | block {title : Text} {inSection : Section} (opens : opening? settings l = some title)
    (behind : (next : Int) = (readBlock settings.tagPrefix i title inSection rest).1.endLine + 1)
  | struct {isInput : Bool}
      (opens : struct? settings.inputStruct settings.outputStruct l = some isInput)
    (behind : next = i + 1 + (readStruct i rest).2.1)
  | stencil (opens : opensStencil l) (behind : next = i + (stencilExtent 0 false (l :: rest)).1)

lemma stencilExtent_pos (depth : Int) (opened : Bool) (l : Text) (rest : List Text) :
    0 < (stencilExtent depth opened (l :: rest)).1 := by
  rw [stencilExtent]
  split_ifs
  · exact Nat.one_pos
  · exact Nat.succ_pos _

lemma Takes.goesOn {l : Text} {rest : List Text} {n : Nat} (h : Takes settings l rest n) (i : Nat) :
    GoesOn settings i l rest (i+n+1) := by
  cases h with
  | nothing hnone => exact .line (by rw [hnone, Nat.add_zero])
  | block opens htaken =>
    rename_i start title inSection
    refine @GoesOn.block _ _ _ _ _ title inSection opens ?_
    rw [readBlock_endLine settings.tagPrefix i, ← htaken]
    rfl
  | struct opens htaken =>
    rename_i start isInput
    refine .struct opens ?_
    have hsame : (readStruct i rest).2.1 = (readStruct start rest).2.1 := by
      simp only [readStruct]
      split_ifs <;> rfl
    omega
  | stencil opens htaken =>
    refine .stencil opens ?_
    have := stencilExtent_pos 0 false l rest
    omega

lemma goesOn_parts (i : Nat) (p : Parts) (l : Text) (rest : List Text) :
    GoesOn settings i l rest (i + (Parts.step settings i p l rest).2 + 1) :=
  (stepped_parts settings i p l rest).takes.goesOn i

lemma goesOn_content (i : Nat) (c : Content) (l : Text) (rest : List Text) :
    GoesOn settings i l rest (i + (Content.step settings i c l rest).2 + 1) :=
  (stepped_content settings i c l rest).takes.goesOn i

lemma length_le_lines (ts : List Stop) : ts.length ≤ (ts.flatMap Stop.lines).length := by
  induction ts with
  | nil => exact le_rfl
  | cons t ts ih =>
    have hpos : 0 < t.lines.length := by
      rw [Stop.lines, linesUpTo, List.length_range', Stop.last]
      omega
    rw [List.flatMap_cons, List.length_append, List.length_cons]
    omega

/-- How the walks over a source share out its lines, if its passes lie at `es`. -/
structure SharesLines (settings : Settings) (ls : List Text) (es : List Extent) : Prop where
  ordered : Ordered 0 ls.length es
  /-- The passes and the gaps have every line of the source, and each once. -/
  regions : (es.flatMap Extent.lines ++ (gaps ls es).flatMap gapLines).Perm (List.range ls.length)
  /-- Whatever has been found before a gap, the walk goes over its lines in order, over each at one
  stop. -/
  gap : ∀ g ∈ gaps ls es, ∀ p : Parts,
    (walk (noting (Parts.step settings)) g.1 (p, []) (between ls g.1 g.2)).2.flatMap Stop.lines =
      gapLines g
  pass : ∀ e ∈ es, (handled settings ls e).flatMap Stop.lines = e.lines
  /-- The walks find what is read of the source. -/
  found : (notedOutside settings ls es).1 = partsOutside settings ls es ∧
    ∀ e, (notedIn settings ls e).1 = contentOf settings e.first (between ls e.first e.last)
  /-- The stops of all walks have every line of the source, and each once. -/
  once :
    (((notedOutside settings ls es).2 ++ es.flatMap (handled settings ls)).flatMap Stop.lines).Perm
    (List.range ls.length)
  bounded : ((notedOutside settings ls es).2 ++ es.flatMap (handled settings ls)).length ≤ ls.length

lemma sharesLines (h : Ordered 0 ls.length es)
    (huse : ∀ e ∈ es, e.usePath.isSome → e.last = e.first) : SharesLines settings ls es := by
  have hfills := gaps_fill h
  have hregions :
      (es.flatMap Extent.lines ++ (gaps ls es).flatMap gapLines).Perm (List.range ls.length) := by
    rw [List.range_eq_range']
    exact lines_perm h (Nat.zero_le _)
  have hgap : ∀ g ∈ gaps ls es, (gapStops settings ls g).flatMap Stop.lines = gapLines g :=
    fun g hg => gapStops_lines (hfills.inside g hg).2.1 (hfills.inside g hg).2.2
  have hpass : ∀ e ∈ es, (handled settings ls e).flatMap Stop.lines = e.lines := fun e he =>
    handled_lines (h.inside e he).2.1 (h.inside e he).2.2 (huse e he)
  have honce : (((notedOutside settings ls es).2 ++ es.flatMap (handled settings ls)).flatMap
      Stop.lines).Perm (List.range ls.length) := by
    rw [notedOutside_eq, List.flatMap_append, List.flatMap_assoc, List.flatMap_assoc,
      List.flatMap_congr hgap, List.flatMap_congr hpass]
    exact List.perm_append_comm.trans hregions
  refine ⟨h, hregions, fun g hg p => ?_, hpass,
    ⟨by rw [notedOutside_eq], fun e => by rw [notedIn_eq]⟩, honce, ?_⟩
  · rw [walk_noting, List.nil_append, stops_parts _ p {}]
    exact hgap g hg
  · refine (length_le_lines _).trans ?_
    rw [honce.length_eq, List.length_range]

/-- Whatever the lines are, the passes that are found lie one after the other, they and the gaps
between them share out the lines, and so do the stops of the walks over them; the same holds of a
source, which is one pass if none is found. Each step of a walk goes on behind what it has read, at
a later line, and at most at the one behind the last of its lines. -/
theorem scans_share_lines (settings : Settings) (ls : List Text) :
    SharesLines settings ls (extents ls).1 ∧
    (∀ content, SharesLines settings (lines content) (passExtents (lines content)).1) ∧
    (∀ i c l rest, let next := i + (Content.step settings i c l rest).2 + 1
      GoesOn settings i l rest next ∧ i < next ∧ next ≤ i + 1 + rest.length) ∧
    ∀ i p l rest, let next := i + (Parts.step settings i p l rest).2 + 1
      GoesOn settings i l rest next ∧ i < next ∧ next ≤ i + 1 + rest.length := by
  refine ⟨sharesLines ?_ fun e he huse => ?_,
    fun content => sharesLines (passExtents_ordered (lines_ne_nil content)) ?_,
    fun i c l rest => ⟨goesOn_content i c l rest, by omega, ?_⟩,
    fun i p l rest => ⟨goesOn_parts i p l rest, by omega, ?_⟩⟩
  · have hordered := extentsFrom_ordered 0 ls
    rwa [Nat.zero_add] at hordered
  · obtain ⟨path, hpath⟩ := Option.isSome_iff_exists.mp huse
    exact (extentsFrom_usePass (List.prefix_refl (ls.drop 0)) e he path hpath).1
  · intro e he huse
    obtain ⟨path, hpath⟩ := Option.isSome_iff_exists.mp huse
    exact (passExtents_usePass e he path hpath).1
  · have := (finds_content settings).fits i c l rest
    omega
  · have := (finds_parts settings).fits i p l rest
    omega

end MarkedShader.Source
