import MarkedShader.Proofs.Source.Kept

/-! The section of a block is that of the last label that the walk over its pass came to. A label
that a block, a struct or a stencil group takes along is not among them. -/
namespace MarkedShader

/-- The section after some labels, the last of which counts. -/
def Section.after (s : Section) (labels : List Text) : Section :=
  (labels.getLast?.map ofLabel).getD s

namespace Section

@[simp] lemma after_nil (s : Section) : s.after [] = s := rfl

@[simp] lemma after_cons (s : Section) (label : Text) (labels : List Text) :
    s.after (label :: labels) = (ofLabel label).after labels := by
  cases labels with
  | nil => rfl
  | cons label' labels =>
    rw [after, after, List.getLast?_cons_cons, List.getLast?_cons, Option.map_some,
      Option.getD_some, Option.getD_some]

@[simp] lemma after_append (s : Section) (labels more : List Text) :
    s.after (labels ++ more) = (s.after labels).after more := by
  induction labels generalizing s with
  | nil => rfl
  | cons label labels ih => rw [List.cons_append, after_cons, after_cons, ih]

end Section

namespace Source
open Text

variable {settings : Settings} {r : Registry} {pre : Text} {all ls : List Text}

def labelAt? (pre : Text) (ls : List Text) (k : Nat) : Option Text :=
  ls[k]?.bind (Marker.sectionLabel? pre)

def labelsAt (pre : Text) (ls : List Text) (ks : List Nat) : List Text :=
  ks.filterMap (labelAt? pre ls)

/-- The last line with a label from one line up to another. -/
structure IsLastLabelled (pre : Text) (ls : List Text) (first next k : Nat) : Prop where
  inside : first ≤ k ∧ k < next
  labelled : (labelAt? pre ls k).isSome
  last : ∀ j, k < j → j < next → labelAt? pre ls j = none

lemma labelsAt_eq_nil {ks : List Nat} (h : ∀ k ∈ ks, labelAt? pre ls k = none) :
    labelsAt pre ls ks = [] :=
  List.filterMap_eq_nil_iff.mpr h

/-- Of the labels on lines in order, the last one counts. -/
lemma after_labelsAt {ks : List Nat} (sorted : ks.Pairwise (· < ·)) {k : Nat}
    (hk : k ∈ ks) {label : Text} (hlabel : labelAt? pre ls k = some label)
    (hlast : ∀ j ∈ ks, k < j → labelAt? pre ls j = none) (s : Section) :
    s.after (labelsAt pre ls ks) = .ofLabel label := by
  obtain ⟨before, behind, rfl⟩ := List.append_of_mem hk
  have hbehind : ∀ j ∈ behind, k < j :=
    (List.pairwise_cons.mp (List.pairwise_append.mp sorted).2.1).1
  have hnone : labelsAt pre ls behind = [] :=
    labelsAt_eq_nil fun j hj =>
      hlast j (List.mem_append_right _ (List.mem_cons_of_mem _ hj)) (hbehind j hj)
  rw [labelsAt, List.filterMap_append, List.filterMap_cons_some hlabel, ← labelsAt, ← labelsAt,
    hnone, Section.after_append, Section.after_cons, Section.after_nil]

lemma exists_isLastLabelled {first k next : Nat} (inside : first ≤ k ∧ k < next)
    (hk : (labelAt? pre ls k).isSome) : ∃ k, IsLastLabelled pre ls first next k := by
  induction hn : next - k using Nat.strong_induction_on generalizing k with
  | _ n ih =>
    by_cases hlast : ∀ j, k < j → j < next → labelAt? pre ls j = none
    · exact ⟨k, inside, hk, hlast⟩
    · push Not at hlast
      obtain ⟨j, hkj, hj, hsome⟩ := hlast
      exact ih (next-j) (by omega) (k := j) (by omega) (Option.isSome_iff_ne_none.mpr hsome) rfl

/-- The section that the labels between two lines lead to. -/
def sectionAt (pre : Text) (ls : List Text) (first next : Nat) : Section :=
  Section.unknown.after (labelsAt pre ls (List.range' first (next-first)))

/-- The lines before another one at which a walk stops. -/
def stopsBefore (ts : List Stop) (next : Nat) : List Nat := (ts.map Stop.line).filter (· < next)

/-- The stops lead to the same section as all lines do if the last label is on one of the lines
where they are. -/
lemma after_stopsBefore {ts : List Stop} {first next total : Nat} (htile : Tiles first total ts)
    (hreached : ∀ k, IsLastLabelled pre ls first next k → k ∈ stopsBefore ts next) :
    Section.unknown.after (labelsAt pre ls (stopsBefore ts next)) =
      sectionAt pre ls first next := by
  have hstop : ∀ j ∈ stopsBefore ts next, first ≤ j ∧ j < next := by
    intro j hj
    obtain ⟨hj, hlt⟩ := List.mem_filter.mp hj
    obtain ⟨t, ht, rfl⟩ := List.mem_map.mp hj
    exact ⟨(htile.inside t ht).1, of_decide_eq_true hlt⟩
  have hsorted : (stopsBefore ts next).Pairwise (· < ·) := by
    refine List.Pairwise.filter _ (List.pairwise_map.mpr (htile.apart.imp fun {s t} hst => ?_))
    simp only [Stop.last] at hst
    omega
  by_cases hnone : ∀ k, first ≤ k → k < next → labelAt? pre ls k = none
  · rw [sectionAt,
      labelsAt_eq_nil fun k hk => hnone k (hstop k hk).1 (hstop k hk).2, labelsAt_eq_nil]
    intro k hk
    have := List.mem_range'_1.mp hk
    exact hnone k (by omega) (by omega)
  · push Not at hnone
    obtain ⟨j, hfirst, hnext, hsome⟩ := hnone
    obtain ⟨k, hk⟩ := exists_isLastLabelled ⟨hfirst, hnext⟩ (Option.isSome_iff_ne_none.mpr hsome)
    obtain ⟨label, hlabel⟩ := Option.isSome_iff_exists.mp hk.labelled
    rw [after_labelsAt hsorted (hreached k hk) hlabel fun j hj hlt => hk.last j hlt (hstop j hj).2]
    have hinside : k ∈ List.range' first (next-first) := by
      have := hk.inside
      exact List.mem_range'_1.mpr (by omega)
    refine (after_labelsAt (List.pairwise_lt_range' ..) hinside hlabel
      (fun j hj hlt => hk.last j hlt ?_) _).symm
    have := List.mem_range'_1.mp hj
    omega

lemma mem_stopsBefore {ts : List Stop} {next k : Nat} :
    k ∈ stopsBefore ts next ↔ k < next ∧ ∃ t ∈ ts, t.line = k := by
  rw [stopsBefore, List.mem_filter, List.mem_map, decide_eq_true_eq, and_comm]

/-- A line leads on to the section of its label, if it has one, and a block that it starts is in the
section before it. -/
lemma Stepped.inSection {i n : Nat} {p q : Parts} {line : Text} {rest : List Text}
    (h : Stepped settings i p line rest q n) :
    q.inSection = p.inSection.after (Marker.sectionLabel? settings.tagPrefix line).toList ∧
      ∀ b ∈ q.blocks, b ∈ p.blocks ∨ b.startLine = i ∧ b.inSection = p.inSection := by
  cases h with
  | left unlabelled unstarted left =>
    rw [unlabelled]
    cases left with
    | nothing => exact ⟨rfl, fun _ => .inl⟩
    | stencil => exact ⟨rfl, fun _ => .inl⟩
  | taken taken =>
    cases taken with
    | label labelled =>
      rw [labelled]
      exact ⟨rfl, fun _ => .inl⟩
    | struct unlabelled =>
      rw [unlabelled]
      exact ⟨rfl, fun _ => .inl⟩
    | @block title found n ws unlabelled starts read =>
      have hfound : found = (readBlock settings.tagPrefix i title p.inSection rest).1 := by
        rw [read]
      rw [unlabelled]
      refine ⟨rfl, fun b hb => (List.mem_append.mp hb).imp_right fun hb => ?_⟩
      rw [List.mem_singleton.mp hb, hfound]
      exact ⟨rfl, rfl⟩

lemma stopsBefore_cons (t : Stop) (ts : List Stop) {next : Nat} (h : t.line < next) :
    stopsBefore (t :: ts) next = t.line :: stopsBefore ts next := by
  rw [stopsBefore, List.map_cons, List.filter_cons, if_pos (decide_eq_true h), stopsBefore]

lemma stopsBefore_eq_nil {ts : List Stop} {next : Nat} (h : ∀ t ∈ ts, next ≤ t.line) :
    stopsBefore ts next = [] := by
  rw [stopsBefore, List.filter_eq_nil_iff]
  intro j hj
  obtain ⟨t, ht, rfl⟩ := List.mem_map.mp hj
  rw [decide_eq_true_eq, not_lt]
  exact h t ht

lemma labelsAt_cons {pre l : Text} {i : Nat} (hget : all[i]? = some l) (js : List Nat) :
    labelsAt pre all (i :: js) = (Marker.sectionLabel? pre l).toList ++ labelsAt pre all js := by
  have hhere : labelAt? pre all i = Marker.sectionLabel? pre l := by
    rw [labelAt?, hget, Option.bind_some]
  rw [labelsAt, labelsAt]
  cases hlabel : Marker.sectionLabel? pre l with
  | none => exact List.filterMap_cons_none (hhere.trans hlabel)
  | some label => exact List.filterMap_cons_some (hhere.trans hlabel)

/-- A block that a walk finds is in the section that the labels at the stops before it lead to. -/
lemma walk_inSection {i : Nat} {c : Content} {ls : List Text} (inside : ls <+: all.drop i) :
    ∀ b ∈ (walk (Content.step settings) i c ls).blocks, b ∈ c.blocks ∨
      ∃ k : Nat, b.startLine = k ∧ i ≤ k ∧
      b.inSection = c.inSection.after (labelsAt settings.tagPrefix all
        (stopsBefore (stops (Content.step settings) i c ls) k)) := by
  induction i, c, ls using walk.induct (Content.step settings) with
  | case1 i c =>
    rw [walk]
    exact fun b hb => .inl hb
  | case2 i c l rest next taken hstep ih =>
    obtain ⟨hget, -⟩ := getElem?_of_prefix_drop inside
    obtain ⟨hnext, hblocks⟩ := (stepped_content settings i c l rest).inSection
    have htile := stops_tile (finds_content settings).fits (i+taken+1) next (rest.drop taken)
    rw [walk, stops, hstep]
    rw [hstep] at hnext hblocks
    intro b hb
    rcases ih (drop_prefix_drop inside taken) b hb with hold | ⟨k, hline, hle, hsection⟩
    · refine (hblocks b hold).imp_right fun hnew => ?_
      obtain ⟨hline, hsection⟩ := hnew
      refine ⟨i, hline, le_rfl, ?_⟩
      -- no stop is before the one at which the block starts
      have hfirst : stopsBefore (⟨i, taken⟩ :: stops (Content.step settings) (i+taken+1) next
          (rest.drop taken)) i = [] := by
        refine stopsBefore_eq_nil (List.forall_mem_cons.mpr ⟨le_rfl, fun t ht => ?_⟩)
        have := (htile.inside t ht).1
        omega
      rw [hsection, hfirst]
      rfl
    · refine .inr ⟨k, hline, by omega, ?_⟩
      rw [stopsBefore_cons ⟨i, taken⟩ _ (show i < k by omega), hsection, hnext, labelsAt_cons hget,
        ← Section.after_append]

lemma mem_blocks_readPasses {es : List Extent} {cursor : Nat} {b : Block}
    (hb : b ∈ (readPasses settings r ls cursor es).1.flatMap (·.blocks)) :
    ∃ e ∈ es, ∃ cursor, b ∈ (readPass settings r ls cursor e).1.blocks := by
  induction es generalizing cursor with
  | nil => exact absurd hb List.not_mem_nil
  | cons e es ih =>
    rw [readPasses] at hb
    simp only [List.flatMap_cons, List.mem_append] at hb
    rcases hb with hb | hb
    · exact ⟨e, List.mem_cons_self, cursor, hb⟩
    · obtain ⟨e', he, found⟩ := ih hb
      exact ⟨e', List.mem_cons_of_mem _ he, found⟩

/-- A block has been found where a walk stopped. -/
lemma exists_stop_of_span {bs : List Block} {ts : List Stop} {p : Stop → Bool}
    (h : bs.map Block.span = (ts.filter p).map Stop.span) {b : Block} (hb : b ∈ bs) :
    ∃ t ∈ ts, b.startLine = t.line := by
  have hspan := List.mem_map_of_mem (f := Block.span) hb
  rw [h] at hspan
  obtain ⟨t, ht, hspan⟩ := List.mem_map.mp hspan
  exact ⟨t, (List.mem_filter.mp ht).1, (congrArg Prod.fst hspan).symm⟩

/-- A block that starts on a line of a pass has been found in that pass. -/
lemma mem_contentOf {es : List Extent} (h : Ordered 0 ls.length es) {e : Extent}
    (he : e ∈ es) (hpass : e.usePath = none) {b : Block} (hb : b ∈ foundBlocks settings r ls es)
    (hfirst : (e.first : Int) ≤ b.startLine) (hlast : b.startLine ≤ e.last) :
    b ∈ (contentOf settings e.first (between ls e.first e.last)).blocks := by
  have hfills := gaps_fill h
  rcases List.mem_append.mp hb with hb | hb
  · obtain ⟨t, ht, hline⟩ := exists_stop_of_span partsOutside_spans hb
    obtain ⟨g, hg, ht⟩ := List.mem_flatMap.mp ht
    have hin :=
      (gapStops_tile settings (hfills.inside g hg).2.1 (hfills.inside g hg).2.2).inside t ht
    have := hfills.clear g hg e he
    simp only [Stop.last] at hin
    omega
  · obtain ⟨e', he', cursor, hb⟩ := mem_blocks_readPasses hb
    obtain ⟨t, ht, hline⟩ := exists_stop_of_span (readPass_spans settings r ls cursor e') hb
    have hin := passStops_inside settings (h.inside e' he').2.1 (h.inside e' he').2.2 t ht
    simp only [Stop.last] at hin
    obtain rfl : e = e' := by
      by_contra hne
      have hsymm : Std.Symm fun e e' : Extent => e.last < e'.first ∨ e'.last < e.first :=
        ⟨fun _ _ => Or.symm⟩
      have := (h.apart.imp Or.inl : es.Pairwise fun e e' => e.last < e'.first ∨
        e'.last < e.first).forall he he' hne
      omega
    rw [readPass, hpass] at hb
    exact hb

lemma inSection_of_mem_contentOf {e : Extent} (hpass : e.usePath = none)
    {b : Block} (hb : b ∈ (contentOf settings e.first (between ls e.first e.last)).blocks)
    {k : Nat} (hk : b.startLine = k) :
    b.inSection = Section.unknown.after
      (labelsAt settings.tagPrefix ls (stopsBefore (passStops settings ls e) k)) := by
  rcases walk_inSection (prefix_between ls e.first e.last) b hb with hold | ⟨i, hi, -, hsection⟩
  · exact absurd hold List.not_mem_nil
  · rw [passStops_eq settings hpass, show k = i by omega]
    exact hsection

/-- A source that is not blank is read, and then a block that starts on a line of a pass is in the
section of the last label that the walk over the pass came to before it. That is the last label on
any line of the pass before it, if the walk came to the line. It comes to all but those that a
block, a struct or a stencil group before them takes along. -/
theorem parse_inSection (settings : Settings) (r : Registry) (content : Text)
    (h : allBlank content = false) :
    ∃ d ws, parse settings r content = .ok (d, ws) ∧
      ∀ e ∈ (passExtents (lines content)).1, e.usePath = none →
      let ts := passStops settings (lines content) e
      (∀ b ∈ d.allBlocks, ∀ k : Nat, b.startLine = k → e.first ≤ k → k ≤ e.last →
        b.inSection = Section.unknown.after
        (labelsAt settings.tagPrefix (lines content) (stopsBefore ts k)) ∧
        ((∀ j, IsLastLabelled settings.tagPrefix (lines content) e.first k j →
          ∃ t ∈ ts, t.line = j) →
          b.inSection = sectionAt settings.tagPrefix (lines content) e.first k)) ∧
      ∀ j, e.first ≤ j → j ≤ e.last → (∃ t ∈ ts, t.line = j) ∨ ∃ t ∈ ts, t.line < j ∧
        LiesIn settings (lines content) t.line j := by
  have hordered := passExtents_ordered (lines_ne_nil content)
  refine ⟨_, _, by rw [parse, h]; rfl, fun e he hpass => ?_⟩
  obtain ⟨-, hle, htotal⟩ := hordered.inside e he
  have htile := passStops_tile settings hpass hle htotal
  refine ⟨fun b hb k hk hfirst hlast => ?_, fun j hfirst hlast => ?_⟩
  · have hfound := (allBlocks_subperm settings r content).subset hb
    have hsection := inSection_of_mem_contentOf hpass
      (mem_contentOf hordered he hpass hfound (by omega) (by omega)) hk
    refine ⟨hsection, fun hreached => ?_⟩
    rw [hsection]
    exact after_stopsBefore htile fun j hj => mem_stopsBefore.mpr ⟨hj.inside.2, hreached j hj⟩
  · obtain ⟨t, ht, hline, hend⟩ := htile.cover j hfirst (Nat.lt_succ_of_le hlast)
    rcases hline.eq_or_lt with heq | hlt
    · exact .inl ⟨t, ht, heq⟩
    · obtain ⟨l, rest, hprefix, htakes⟩ := passStops_takes ht
      exact .inr ⟨t, ht, hlt, liesIn_of_takes hprefix htakes hlt hend⟩

/-- A block without an end, with a label in it, and a block below it. -/
def labelInBlock : Text :=
  joinLines ["Shader \"A/B\" \x7b".toList, "    SubShader \x7b".toList, "        Pass \x7b".toList,
  "            HLSLPROGRAM".toList, "            // [AILab_Block_Start: \"One\"]".toList,
  "            // [AILab_Section: \"Vertex\"]".toList,
  "            // [AILab_Block_Start: \"Two\"]".toList,
  "            // [AILab_Block_End]".toList, "            ENDHLSL".toList, "        \x7d".toList,
  "    \x7d".toList, ['\x7d'], []]

/-- The label is taken along by the first block, so that the second one is in no section. -/
theorem labelInBlock_inSection : ∃ d ws, parse {} .standard labelInBlock = .ok (d, ws) ∧
    ∃ e ∈ (passExtents (lines labelInBlock)).1, e.usePath = none ∧ ∃ b ∈ d.allBlocks, b.startLine =
      (6 : Nat) ∧ e.first ≤ 6 ∧ 6 ≤ e.last ∧ b.inSection = .unknown ∧
      sectionAt ({} : Settings).tagPrefix (lines labelInBlock) e.first 6 = .vertex := by
  obtain ⟨d, ws, hparse, hsections⟩ := parse_inSection {} .standard labelInBlock (by decide)
  have hd : d = (documentOf {} .standard labelInBlock).1 := by rw [documentOf_of_parse hparse]
  have hpass : ⟨2, 9, none⟩ ∈ (passExtents (lines labelInBlock)).1 := by decide +kernel
  obtain ⟨b, hb, hline⟩ : ∃ b ∈ d.allBlocks, b.startLine = (6 : Nat) := by
    rw [hd]
    decide +kernel
  have hsection := ((hsections _ hpass rfl).1 b hb 6 hline (by decide) (by decide)).1
  refine ⟨d, ws, hparse, _, hpass, rfl, b, hb, hline, by decide, by decide, ?_, by decide +kernel⟩
  rw [hsection]
  decide +kernel

end Source
end MarkedShader
