import MarkedShader.Proofs.Source.Spans

/-! Where the walks over a source stop: at which lines, and how many of the lines after them they
take along. The stops of a walk cover each of its lines once, and the blocks that it finds are its
stops at lines that start a block. -/
namespace MarkedShader

/-- The lines that a block is recorded to stand on. -/
def Block.span (b : Block) : Int × Int := (b.startLine, b.endLine)

/-- Whether the last line of a block ends it. A block without an end reaches up to where another one
starts, or the lines that are read come to their end. -/
def Block.isClosedIn (pre : Text) (ls : List Text) (b : Block) : Bool :=
  b.startLine < b.endLine && ls[b.endLine.toNat]?.any (Marker.isBlockEnd pre)

/-- A block whose recorded lines are those it was read from. -/
structure Block.IsExact (pre : Text) (ls : List Text) (b : Block) : Prop where
  start : 0 ≤ b.startLine ∧ ls[b.startLine.toNat]?.bind (Marker.blockStart? pre) = some b.title
  order : b.startLine ≤ b.endLine
  inside : b.endLine < ls.length
  clear : b.HoldsNoMarker pre ls

/-- The warning that a block without an end gives. -/
def Block.ending (b : Block) : Warning := ⟨b.startLine.toNat, .blockNotEnded b.title⟩

def Warning.isEnding (w : Warning) : Bool :=
  match w.problem with
  | .blockNotEnded _ => true
  | _ => false

/-- The warnings of blocks without an end. -/
def endings (ws : List Warning) : List Warning := ws.filter Warning.isEnding

lemma endings_append (ws vs : List Warning) : endings (ws ++ vs) = endings ws ++ endings vs :=
  List.filter_append ..

namespace Source
open Text

/-- A line that a walk comes to, and how many of the lines after it are taken with it. -/
structure Stop where
  line : Nat
  taken : Nat
  deriving DecidableEq, Repr

def Stop.last (s : Stop) : Nat := s.line + s.taken

def Stop.span (s : Stop) : Int × Int := (s.line, s.last)

def stops {σ : Type} (step : Nat → σ → Text → List Text → σ × Nat) (i : Nat) (state : σ) :
    List Text → List Stop
  | [] => []
  | l :: ls =>
    let (next, taken) := step i state l ls
    ⟨i, taken⟩ :: stops step (i+taken+1) next (ls.drop taken)
termination_by ls => ls.length
decreasing_by simp only [List.length_cons, List.length_drop]; omega

/-- Stops that lie one after the other and leave out no line from one line up to another. -/
structure Tiles (first next : Nat) (ts : List Stop) : Prop where
  inside : ∀ t ∈ ts, first ≤ t.line ∧ t.last < next
  apart : ts.Pairwise fun s t => s.last < t.line
  cover : ∀ k, first ≤ k → k < next → ∃ t ∈ ts, t.line ≤ k ∧ k ≤ t.last

section
variable {σ : Type} {step : Nat → σ → Text → List Text → σ × Nat}

/-- A walk whose steps take no more lines than there are tiles the lines that it goes over. -/
theorem stops_tile (fits : ∀ i s l rest, (step i s l rest).2 ≤ rest.length) (i : Nat) (state : σ)
    (ls : List Text) : Tiles i (i + ls.length) (stops step i state ls) := by
  induction i, state, ls using stops.induct step with
  | case1 i state =>
    rw [stops]
    refine ⟨fun _ ht => absurd ht List.not_mem_nil, .nil, fun k hk hlt => ?_⟩
    rw [List.length_nil] at hlt
    omega
  | case2 i state l rest next taken hstep ih =>
    have hfits : taken ≤ rest.length := by simpa [hstep] using fits i state l rest
    have hnext : i + taken + 1 + (rest.drop taken).length = i + (l :: rest).length := by
      rw [List.length_drop, List.length_cons]
      omega
    rw [hnext] at ih
    rw [stops, hstep]
    refine ⟨?_, ?_, ?_⟩
    · intro t ht
      rcases List.mem_cons.mp ht with rfl | ht
      · simp only [Stop.last, List.length_cons]
        omega
      · have := ih.inside t ht
        omega
    · refine List.pairwise_cons.mpr ⟨fun t ht => ?_, ih.apart⟩
      have := (ih.inside t ht).1
      simp only [Stop.last]
      omega
    · intro k hk hlt
      by_cases hhere : k ≤ i + taken
      · exact ⟨_, List.mem_cons_self, hk, hhere⟩
      · obtain ⟨t, ht, h⟩ := ih.cover k (by omega) hlt
        exact ⟨t, List.mem_cons_of_mem _ ht, h⟩

end

variable {settings : Settings} {pre : Text} {all : List Text}

lemma getElem?_of_prefix_drop {line : Text} {rest : List Text} {i : Nat}
    (inside : line :: rest <+: all.drop i) :
    all[i]? = some line ∧ i + rest.length < all.length := by
  obtain ⟨tail, htail⟩ := inside
  have hlength := congrArg List.length htail
  simp only [List.cons_append, List.length_cons, List.length_append, List.length_drop] at hlength
  refine ⟨?_, by omega⟩
  rw [← Nat.add_zero i, ← List.getElem?_drop, ← htail]
  rfl

lemma getElem?_of_rest {line : Text} {rest : List Text} {i n : Nat}
    (inside : line :: rest <+: all.drop i) (hn : n < rest.length) : all[i+n+1]? = rest[n]? := by
  obtain ⟨tail, htail⟩ := drop_prefix_drop inside 0
  rw [show i+n+1 = i+0+1+n by omega, ← List.getElem?_drop, ← htail, List.drop_zero,
    List.getElem?_append_left hn]

/-- A block takes its body and the line after it if that ends it; else it gives a warning. -/
theorem readBlock_cases (pre : Text) (start : Nat) (title : Text) (inSection : Section)
    (rest : List Text) :
    let n := (rest.takeWhile fun l => !endsBody pre l).length
    (readBlock pre start title inSection rest).2 = (n+1, []) ∧
      rest[n]?.any (Marker.isBlockEnd pre) ∨
      (readBlock pre start title inSection rest).2 = (n, [⟨start, .blockNotEnded title⟩]) := by
  intro n
  simp only [readBlock, List.head?_drop]
  by_cases hclosed : rest[n]?.any (Marker.isBlockEnd pre) = true
  · exact .inl ⟨by rw [if_pos hclosed, if_pos hclosed], hclosed⟩
  · exact .inr (by rw [if_neg hclosed, if_neg hclosed])

/-- A block takes no more lines than there are. -/
theorem readBlock_taken (pre : Text) (start : Nat) (title : Text) (inSection : Section)
    (rest : List Text) : (readBlock pre start title inSection rest).2.1 ≤ rest.length := by
  have hinner : (rest.takeWhile fun l => !endsBody pre l).length ≤ rest.length :=
    (List.takeWhile_prefix _).length_le
  rcases readBlock_cases pre start title inSection rest with ⟨h, hend⟩ | h <;> rw [h]
  · obtain ⟨l, hl, -⟩ := Option.any_eq_true _ _ |>.mp hend
    exact List.getElem?_eq_some_iff.mp hl |>.1
  · exact hinner

/-- A block ends as many lines below its start as it takes. -/
theorem readBlock_endLine (pre : Text) (start : Nat) (title : Text) (inSection : Section)
    (rest : List Text) : (readBlock pre start title inSection rest).1.endLine =
      (start : Int) + ((readBlock pre start title inSection rest).2.1 : Int) := rfl

lemma readBlock_span (pre : Text) (start : Nat) (title : Text)
    (inSection : Section) (rest : List Text) :
    (readBlock pre start title inSection rest).1.span =
      Stop.span ⟨start, (readBlock pre start title inSection rest).2.1⟩ := by
  rw [Block.span, Stop.span, Stop.last, readBlock_endLine pre, Int.natCast_add]
  rfl

lemma readBlock_exact {start : Nat} {title line : Text} (inSection : Section) {rest : List Text}
    (inside : line :: rest <+: all.drop start) (ht : Marker.blockStart? pre line = some title) :
    (readBlock pre start title inSection rest).1.IsExact pre all := by
  obtain ⟨hget, hlength⟩ := getElem?_of_prefix_drop inside
  have htaken := readBlock_taken pre start title inSection rest
  have hend := readBlock_endLine pre start title inSection rest
  refine ⟨⟨Int.natCast_nonneg start, ?_⟩, ?_, ?_,
    readBlock_holdsNoMarker (drop_prefix_drop inside 0)⟩
  · change (all[start]?).bind _ = some title
    rw [hget]
    exact ht
  · rw [hend, readBlock_startLine]
    omega
  · rw [hend]
    omega

/-- A block that is read gives a warning exactly if its last line does not end it. -/
lemma readBlock_warnings (pre : Text) {start : Nat} (title : Text) {line : Text}
    (inSection : Section) {rest : List Text} (inside : line :: rest <+: all.drop start) :
    (readBlock pre start title inSection rest).2.2 =
      if (readBlock pre start title inSection rest).1.isClosedIn pre all then []
      else [(readBlock pre start title inSection rest).1.ending] := by
  have hget : ∀ n < rest.length, all[start+n+1]? = rest[n]? :=
    fun n hn => getElem?_of_rest inside hn
  have hbody : ∀ n < (rest.takeWhile fun l => !endsBody pre l).length,
      rest[n]?.any (Marker.isBlockEnd pre) = false := by
    intro n hn
    rw [Option.any_eq_false]
    intro l hl
    have := holds_of_takeWhile hn l hl
    simp only [endsBody, Bool.not_eq_true', Bool.or_eq_false_iff] at this
    exact Bool.not_eq_true _ ▸ this.1
  have hlength : (rest.takeWhile fun l => !endsBody pre l).length ≤ rest.length :=
    (List.takeWhile_prefix _).length_le
  have hend := readBlock_endLine pre start title inSection rest
  have hstart : (readBlock pre start title inSection rest).1.startLine = start := rfl
  have htaken := readBlock_taken pre start title inSection rest
  rw [Block.isClosedIn, hend, hstart]
  rcases readBlock_cases pre start title inSection rest with ⟨h, hlast⟩ | h
    <;> rw [h] at htaken ⊢ <;> simp only
  · have hclosed : (all[((start : Int) +
        (((rest.takeWhile fun l => !endsBody pre l).length + 1 : Nat) : Int)).toNat]?).any
        (Marker.isBlockEnd pre) = true := by
      rw [← Int.natCast_add, Int.toNat_natCast, ← Nat.add_assoc, hget _ htaken]
      exact hlast
    rw [hclosed, if_pos]
    rw [Bool.and_true, decide_eq_true_eq]
    omega
  · have hopen : (decide ((start : Int) <
        start + ((rest.takeWhile fun l => !endsBody pre l).length : Int)) &&
        (all[((start : Int) + ((rest.takeWhile fun l => !endsBody pre l).length : Int)).toNat]?).any
          (Marker.isBlockEnd pre)) = false := by
      rw [Bool.and_eq_false_imp, decide_eq_true_eq]
      intro hlt
      -- the last line is one of the body, and these end nothing
      obtain ⟨n, hn⟩ : ∃ n, (rest.takeWhile fun l => !endsBody pre l).length = n+1 :=
        Nat.exists_eq_add_one.mpr (by omega)
      have hlast : n < (rest.takeWhile fun l => !endsBody pre l).length := by omega
      rw [← Int.natCast_add, Int.toNat_natCast, hn, ← Nat.add_assoc, hget n (by omega)]
      exact hbody n hlast
    rw [hopen]
    rfl

/-- The title of the block that a line starts where a walk comes to it. A label of a section goes
first. -/
def opening? (settings : Settings) (l : Text) : Option Text :=
  if (Marker.sectionLabel? settings.tagPrefix l).isSome then none
    else Marker.blockStart? settings.tagPrefix l

/-- Whether a stop is at a line that starts a block. -/
def Stop.opens (settings : Settings) (all : List Text) (s : Stop) : Bool :=
  (all[s.line]?.bind (opening? settings)).isSome

lemma endings_readStruct (start : Nat) (rest : List Text) :
    endings (readStruct start rest).2.2 = [] ∧ (readStruct start rest).2.1 ≤ rest.length := by
  have hinner : (rest.takeWhile fun l => !l.contains '\x7d').length ≤ rest.length :=
    (List.takeWhile_prefix _).length_le
  simp only [readStruct]
  split_ifs with h
  · exact ⟨rfl, h⟩
  · exact ⟨rfl, hinner⟩

/-- What a line can do that is taken in on both walks. -/
lemma take?_cases {i n : Nat} {p q : Parts} {line : Text} {rest : List Text}
    (h : p.take? settings i line rest = some (q, n)) :
    (∃ title b ws, opening? settings line = some title ∧
        readBlock settings.tagPrefix i title p.inSection rest = (b, n, ws) ∧
        q.blocks = p.blocks ++ [b] ∧ q.warnings = p.warnings ++ ws) ∨
      opening? settings line = none ∧ q.blocks = p.blocks ∧
        endings q.warnings = endings p.warnings ∧ n ≤ rest.length := by
  rw [opening?]
  cases taken_of_take? h with
  | label labelled => exact .inr ⟨by simp [labelled], rfl, rfl, Nat.zero_le _⟩
  | block unlabelled starts read =>
    exact .inl ⟨_, _, _, by simp [unlabelled, starts], read, rfl, rfl⟩
  | struct unlabelled unstarted opens read =>
    obtain ⟨hends, htaken⟩ := endings_readStruct i rest
    rw [read] at hends htaken
    refine .inr ⟨by simp [unlabelled, unstarted], rfl, ?_, htaken⟩
    rw [Parts.addStruct, endings_append, hends, List.append_nil]

lemma opening?_eq_none_of_take? {i : Nat} {p : Parts} {line : Text} {rest : List Text}
    (h : p.take? settings i line rest = none) : opening? settings line = none := by
  obtain ⟨unlabelled, unstarted⟩ := unmarked_of_take? h
  rw [opening?, unlabelled, unstarted]
  rfl

/-- A step that takes in the lines of a source and, besides, neither finds a block nor says that one
has no end. -/
structure Finds (settings : Settings) {σ : Type} (view : σ → Parts)
    (step : Nat → σ → Text → List Text → σ × Nat) : Prop where
  takes : ∀ {i s l rest p n}, (view s).take? settings i l rest = some (p, n) →
    view (step i s l rest).1 = p ∧ (step i s l rest).2 = n
  leaves : ∀ {i s l rest}, (view s).take? settings i l rest = none →
    (view (step i s l rest).1).blocks = (view s).blocks ∧
      endings (view (step i s l rest).1).warnings = endings (view s).warnings ∧
        (step i s l rest).2 ≤ rest.length

/-- The walk outside the passes finds what stands at its stops, and nothing else. -/
theorem finds_parts (settings : Settings) : Finds settings id (Parts.step settings) where
  takes h := by simp only [Parts.step, id] at h ⊢; rw [h]; exact ⟨rfl, rfl⟩
  leaves h := by simp only [Parts.step, id] at h ⊢; rw [h]; exact ⟨rfl, rfl, Nat.zero_le _⟩

lemma stencilExtent_le (depth : Int) (opened : Bool) (ls : List Text) :
    (stencilExtent depth opened ls).1 ≤ ls.length := by
  induction ls generalizing depth opened with
  | nil => exact le_rfl
  | cons l ls ih =>
    simp only [stencilExtent]
    split_ifs
    · simp
    · exact Nat.succ_le_succ (ih _ _)

lemma Left.leaves {i n : Nat} {p q : Parts} {line : Text} {rest : List Text}
    (h : Left i p line rest q n) :
    q.blocks = p.blocks ∧ endings q.warnings = endings p.warnings ∧ n ≤ rest.length := by
  cases h with
  | nothing => exact ⟨rfl, rfl, Nat.zero_le _⟩
  | @stencil n closed opens extent =>
    have hle := stencilExtent_le 0 false (line :: rest)
    rw [extent, List.length_cons] at hle
    have hends : endings (if closed then [] else [(⟨i, .stencilNotClosed⟩ : Warning)]) = [] := by
      cases closed <;> rfl
    refine ⟨rfl, ?_, Nat.sub_le_of_le_add hle⟩
    rw [endings_append, hends, List.append_nil]

/-- The walk over a pass finds what stands at its stops, and nothing else. -/
theorem finds_content (settings : Settings) :
    Finds settings Content.toParts (Content.step settings) where
  takes h := by
    simp only [Content.step]
    rw [h]
    exact ⟨rfl, rfl⟩
  leaves h := (left_of_take? h).leaves

section
variable {σ : Type} {view : σ → Parts} {step : Nat → σ → Text → List Text → σ × Nat}

/-- What one step can do. -/
theorem Finds.cases (h : Finds settings view step) (i : Nat) (s : σ) (l : Text) (rest : List Text) :
    (∃ title inSection b ws, opening? settings l = some title ∧
        readBlock settings.tagPrefix i title inSection rest = (b, (step i s l rest).2, ws) ∧
        (view (step i s l rest).1).blocks = (view s).blocks ++ [b] ∧
        (view (step i s l rest).1).warnings = (view s).warnings ++ ws) ∨
      opening? settings l = none ∧ (view (step i s l rest).1).blocks = (view s).blocks ∧
        endings (view (step i s l rest).1).warnings = endings (view s).warnings ∧
          (step i s l rest).2 ≤ rest.length := by
  cases htake : (view s).take? settings i l rest with
  | none => exact .inr ⟨opening?_eq_none_of_take? htake, h.leaves htake⟩
  | some found =>
    obtain ⟨p, n⟩ := found
    obtain ⟨hview, htaken⟩ := h.takes htake
    rw [hview, htaken]
    rcases take?_cases htake with ⟨title, b, ws, hopen, hread, hblocks, hwarnings⟩ | hother
    · exact .inl ⟨title, _, b, ws, hopen, hread, hblocks, hwarnings⟩
    · exact .inr hother

lemma Finds.fits (h : Finds settings view step) (i : Nat) (s : σ) (l : Text) (rest : List Text) :
    (step i s l rest).2 ≤ rest.length := by
  rcases h.cases i s l rest with ⟨title, inSection, b, ws, -, hread, -⟩ | ⟨-, -, -, hle⟩
  · have := readBlock_taken settings.tagPrefix i title inSection rest
    rwa [hread] at this
  · exact hle

/-- The blocks that a walk finds are its stops at lines that start a block. -/
theorem Finds.spans (h : Finds settings view step) {i : Nat} {s : σ} {ls : List Text}
    (inside : ls <+: all.drop i) : (view (walk step i s ls)).blocks.map Block.span =
      (view s).blocks.map Block.span ++
        ((stops step i s ls).filter (Stop.opens settings all)).map Stop.span := by
  induction i, s, ls using walk.induct step with
  | case1 i s => simp [walk, stops]
  | case2 i s l rest next taken hstep ih =>
    obtain ⟨hget, -⟩ := getElem?_of_prefix_drop inside
    have hrest := ih (drop_prefix_drop inside taken)
    have hcases := h.cases i s l rest
    rw [hstep] at hcases
    have hopens : Stop.opens settings all ⟨i, taken⟩ = (opening? settings l).isSome := by
      rw [Stop.opens, hget]
      rfl
    rw [walk, stops, hstep]
    simp only
    rw [hrest, List.filter_cons, hopens]
    rcases hcases with ⟨title, inSection, b, ws, hopen, hread, hblocks, -⟩ | ⟨hopen, hblocks, -⟩
    · have hspan := readBlock_span settings.tagPrefix i title inSection rest
      rw [hread] at hspan
      simp only [hblocks, hopen, Option.isSome_some, if_true, List.map_append, List.map_cons,
        List.map_nil, hspan, List.append_assoc, List.singleton_append]
    · simp only [hblocks, hopen, Option.isSome_none, Bool.false_eq_true, if_false]

/-- What is found exactly: the blocks are those that stand on their lines, and those without an end
have a warning each. -/
structure Parts.Exact (pre : Text) (all : List Text) (p : Parts) : Prop where
  blocks : ∀ b ∈ p.blocks, b.IsExact pre all
  endings : endings p.warnings = (p.blocks.filter fun b => !b.isClosedIn pre all).map Block.ending

lemma Finds.exact (h : Finds settings view step) {i : Nat} {s : σ} {ls : List Text}
    (inside : ls <+: all.drop i) (start : (view s).Exact settings.tagPrefix all) :
    (view (walk step i s ls)).Exact settings.tagPrefix all := by
  refine walk_preserves (fun s => (view s).Exact settings.tagPrefix all) ?_ inside start
  intro i s l rest inside old
  rcases h.cases i s l rest with ⟨title, inSection, b, ws, hopen, hread, hblocks, hwarnings⟩ | ⟨-,
    hblocks, hends, -⟩
  · have ht : Marker.blockStart? settings.tagPrefix l = some title := by
      rw [opening?] at hopen
      split_ifs at hopen
      exact hopen
    have hexact := readBlock_exact inSection inside ht
    have hws := readBlock_warnings settings.tagPrefix title inSection inside
    rw [hread] at hexact hws
    simp only at hexact hws
    refine ⟨?_, ?_⟩
    · rw [hblocks]
      intro b' hb
      rcases List.mem_append.mp hb with hb | hb
      · exact old.blocks b' hb
      · rw [List.mem_singleton.mp hb]
        exact hexact
    · rw [hblocks, hwarnings, endings_append, old.endings, hws, List.filter_append, List.map_append]
      cases hclosed : b.isClosedIn settings.tagPrefix all
      · simp [hclosed, endings, Warning.isEnding, Block.ending]
      · simp [hclosed, endings]
  · exact ⟨hblocks ▸ old.blocks, by rw [hends, hblocks, old.endings]⟩

end

end Source
end MarkedShader
