import MarkedShader.Compile
import MarkedShader.Proofs.Editing
import MarkedShader.Proofs.Source.Regions
import MarkedShader.Registry.Standard
import Mathlib.Data.List.Pairwise
import Mathlib.Data.List.Perm.Subperm

/-! The blocks of a source stand on lines of their own, so that a line of the source belongs to one
block at most. -/
namespace MarkedShader

/-- No line belongs to both blocks. -/
def Block.Apart (b c : Block) : Prop := b.endLine < c.startLine ∨ c.endLine < b.startLine

instance : Std.Symm Block.Apart := ⟨fun _ _ => Or.symm⟩

/-- The warnings of blocks without an end that start on a line. -/
def endingsAt (line : Int) (ws : List Warning) : List Warning :=
  (endings ws).filter fun w => w.line = line

section
variable {pre : Text} {ls : List Text} {b c : Block} {bs : List Block}

lemma Block.IsExact.startLine_eq (h : b.IsExact pre ls) :
    ((b.startLine.toNat : Nat) : Int) = b.startLine :=
  Int.toNat_of_nonneg h.start.1

/-- Of two blocks apart, the one that does not start after the other ends before it. -/
lemma Block.Apart.lt (h : b.Apart c) (hc : c.IsExact pre ls) (hle : b.startLine ≤ c.startLine) :
    b.endLine < c.startLine := by
  have := hc.order
  rcases h with h | h
  · exact h
  · omega

lemma Block.not_apart_of_containsLine {line : Int} (hb : b.containsLine line)
    (hc : c.containsLine line) : ¬ b.Apart c := by
  simp only [Block.containsLine, Bool.and_eq_true, decide_eq_true_eq] at hb hc
  rw [Block.Apart]
  omega

/-- Of blocks that are apart, only one starts where a given one starts. -/
theorem filter_startLine (exact : ∀ b ∈ bs, b.IsExact pre ls) (apart : bs.Pairwise Block.Apart)
    (hb : b ∈ bs) : (bs.filter fun c => c.startLine = b.startLine) = [b] := by
  have hne : ∀ c ∈ bs, ∀ c' ∈ bs, c.Apart c' → c.startLine ≠ c'.startLine := by
    intro c hc c' hc' h
    have := (exact c hc).order
    have := (exact c' hc').order
    rcases h with h | h <;> omega
  induction bs with
  | nil => contradiction
  | cons c bs ih =>
    obtain ⟨hfirst, hrest⟩ := List.pairwise_cons.mp apart
    rw [List.filter_cons]
    rcases List.mem_cons.mp hb with rfl | hb
    · have hnone : (bs.filter fun c => c.startLine = b.startLine) = [] := by
        rw [List.filter_eq_nil_iff]
        intro c hc
        have := hne b List.mem_cons_self c (List.mem_cons_of_mem _ hc) (hfirst c hc)
        simpa using Ne.symm this
      simp [hnone]
    · have hc := hne c List.mem_cons_self b (List.mem_cons_of_mem _ hb) (hfirst b hb)
      rw [if_neg (by simpa using hc)]
      exact ih (fun b hb => exact b (List.mem_cons_of_mem _ hb)) hrest hb
        fun c hc c' hc' => hne c (List.mem_cons_of_mem _ hc) c' (List.mem_cons_of_mem _ hc')

/-- Where blocks are apart and the warnings are those of the blocks without an end, each block has
its own. -/
lemma endingsAt_startLine
    {ws : List Warning} (exact : ∀ b ∈ bs, b.IsExact pre ls) (apart : bs.Pairwise Block.Apart)
    (hws : endings ws = (bs.filter fun b => !b.isClosedIn pre ls).map Block.ending) (hb : b ∈ bs) :
    endingsAt b.startLine ws = if b.isClosedIn pre ls then [] else [b.ending] := by
  have hline : ∀ c ∈ bs, (decide (((c.ending.line : Nat) : Int) = b.startLine)) =
      decide (c.startLine = b.startLine) := by
    intro c hc
    rw [Block.ending, (exact c hc).startLine_eq]
  have hfilter : ((bs.filter fun b => !b.isClosedIn pre ls).filter fun c =>
      decide (((c.ending.line : Nat) : Int) = b.startLine)) =
      [b].filter fun b => !b.isClosedIn pre ls := by
    rw [List.filter_congr fun c hc => hline c (List.mem_filter.mp hc).1, List.filter_filter,
      ← filter_startLine exact apart hb, List.filter_filter]
    exact List.filter_congr fun c _ => Bool.and_comm _ _
  rw [endingsAt, hws, List.filter_map]
  simp only [Function.comp_def]
  rw [hfilter]
  cases hclosed : b.isClosedIn pre ls <;> simp [hclosed]

end

namespace Document

/-- A line belongs to the block whose span holds it. -/
lemma blockAtLine?_iff {d : Document} (apart : d.allBlocks.Pairwise Block.Apart) (line : Int)
    (b : Block) :
    (d.blockAtLine? line).bind d.blockAt? = some b ↔ b ∈ d.allBlocks ∧ b.containsLine line := by
  rw [blockAtLine?, blockAt?_findPosition?]
  constructor
  · exact fun h =>
      ⟨List.mem_of_find?_eq_some h, List.find?_some (p := fun b : Block => b.containsLine line) h⟩
  · rintro ⟨hb, hline⟩
    obtain ⟨c, hc⟩ : ∃ c, d.allBlocks.find? (fun b => b.containsLine line) = some c :=
      Option.isSome_iff_exists.mp (List.find?_isSome.mpr ⟨b, hb, hline⟩)
    have hcline : c.containsLine line :=
      List.find?_some (p := fun b : Block => b.containsLine line) hc
    rw [hc, Option.some.injEq]
    by_contra hne
    exact Block.not_apart_of_containsLine hcline hline
      (apart.forall (List.mem_of_find?_eq_some hc) hb hne)

end Document

namespace Source
open Text

variable {settings : Settings} {r : Registry} {ls : List Text} {es : List Extent}

lemma pairwise_map_span {bs : List Block} :
    (bs.map Block.span).Pairwise (fun s t => s.2 < t.1 ∨ t.2 < s.1) ↔
    bs.Pairwise Block.Apart := List.pairwise_map

lemma foundBlocks_apart (settings : Settings) (r : Registry) (h : Ordered 0 ls.length es) :
    (foundBlocks settings r ls es).Pairwise Block.Apart := by
  rw [← pairwise_map_span, foundBlocks_spans, List.pairwise_map]
  refine ((sourceStops_apart settings h).filter _).imp fun {s t} hst => ?_
  simp only [Stop.Apart, Stop.span] at hst ⊢
  omega

lemma readPasses_sorted (settings : Settings) (r : Registry) (cursor : Nat) :
    ∀ p ∈ (readPasses settings r ls cursor es).1, p.blocks.Pairwise fun b c =>
      b.startLine ≤ c.startLine := by
  induction es generalizing cursor with
  | nil => exact fun _ hp => absurd hp List.not_mem_nil
  | cons e es ih =>
    intro p hp
    rcases List.mem_cons.mp hp with rfl | hp
    · have hspans := readPass_spans settings r ls cursor e
      have hstops :
          (((passStops settings ls e).filter (Stop.opens settings ls)).map Stop.span).Pairwise
          fun s t => s.1 ≤ t.1 := by
        rw [List.pairwise_map]
        refine List.Pairwise.filter _ ?_
        rw [passStops]
        split_ifs
        · exact .nil
        · refine (stops_tile (finds_content settings).fits _ _ _).apart.imp fun {s t} hst => ?_
          simp only [Stop.span, Stop.last] at hst ⊢
          omega
      rw [← hspans, List.pairwise_map] at hstops
      exact hstops
    · exact ih _ p hp

/-- The pass that takes what stands outside keeps its blocks in order. -/
lemma attachTo_blocks (outside : Parts) (p : Pass) :
    (outside.attachTo p).blocks.Perm (outside.blocks ++ p.blocks) ∧
    (outside.attachTo p).blocks.Pairwise fun b c => b.startLine ≤ c.startLine := by
  refine ⟨List.mergeSort_perm _ _, ?_⟩
  have := @List.pairwise_mergeSort Block (fun a b => decide (a.startLine ≤ b.startLine))
    (fun a b c hab hbc => by simp only [decide_eq_true_eq] at *; omega)
    (fun a b => by simp only [Bool.or_eq_true, decide_eq_true_eq]; omega)
      (outside.blocks ++ p.blocks)
  exact this.imp fun h => of_decide_eq_true h

lemma perm_flatMap_modify {outside : Parts} {passes : List Pass}
    {i : Nat} (hi : i < passes.length) :
    ((passes.modify i outside.attachTo).flatMap (·.blocks)).Perm
      (outside.blocks ++ passes.flatMap (·.blocks)) := by
  induction passes generalizing i with
  | nil => contradiction
  | cons p passes ih =>
    cases i with
    | zero =>
      rw [List.modify_zero_cons, List.flatMap_cons, List.flatMap_cons, ← List.append_assoc]
      exact (attachTo_blocks outside p).1.append_right _
    | succ i =>
      rw [List.modify_succ_cons, List.flatMap_cons, List.flatMap_cons]
      refine ((ih (Nat.lt_of_succ_lt_succ hi)).append_left p.blocks).trans ?_
      rw [← List.append_assoc, ← List.append_assoc]
      exact List.perm_append_comm.append_right _

/-- The blocks of a document are among those found. -/
lemma attach_subperm (outside : Parts) (passes : List Pass) :
    ((outside.attach passes).1.flatMap (·.blocks)).Subperm
      (outside.blocks ++ passes.flatMap (·.blocks)) := by
  unfold Parts.attach
  split_ifs
  · exact (List.sublist_append_right _ _).subperm
  · split
    · exact (List.sublist_append_right _ _).subperm
    · rename_i i hi
      exact (perm_flatMap_modify (List.findIdx?_eq_some_iff_getElem.mp hi).1).subperm

lemma attach_sorted {outside : Parts} {passes : List Pass}
    (sorted : ∀ p ∈ passes, p.blocks.Pairwise fun b c => b.startLine ≤ c.startLine) :
    ∀ p ∈ (outside.attach passes).1, p.blocks.Pairwise fun b c => b.startLine ≤ c.startLine :=
  forall_attach sorted fun p _ => (attachTo_blocks outside p).2

lemma endings_propertiesFrom (pre : Text) (i : Nat) (known ls : List Text) :
    endings (propertiesFrom pre i known ls).2 = [] := by
  induction ls generalizing i known with
  | nil => rfl
  | cons l ls ih =>
    rw [propertiesFrom]
    split
    · exact ih _ _
    · simp only
      split_ifs
      · exact ih _ _
      · exact ih _ _
      · exact ih _ _

lemma endings_extentsFrom (i : Nat) (ls : List Text) : endings (extentsFrom i ls).2 = [] := by
  induction i, ls using extentsFrom.induct with
  | case1 i =>
    rw [extentsFrom]
    rfl
  | case2 i l ls path huse found ws hrest ih =>
    rw [extentsFrom_reference huse]
    exact ih
  | case3 i l ls huse hopens n hclosing found ws hrest ih =>
    rw [extentsFrom_closed huse hopens hclosing]
    exact ih
  | case4 i l ls huse hopens hclosing =>
    rw [extentsFrom_unclosed huse hopens hclosing]
    rfl
  | case5 i l ls huse hopens ih =>
    rw [extentsFrom_other huse hopens]
    exact ih

lemma endings_attach (outside : Parts) (passes : List Pass) :
    endings (outside.attach passes).2 = [] := by
  have hwarnings : ∀ target, endings (outside.attachWarnings target) = [] := by
    intro target
    rw [endings, List.filter_eq_nil_iff]
    intro w hw
    simp only [Parts.attachWarnings, List.mem_append, List.mem_map] at hw
    rcases hw with ⟨b, -, rfl⟩ | ⟨line, -, rfl⟩ <;> simp [Warning.isEnding]
  unfold Parts.attach
  split_ifs
  · rfl
  · split
    · exact hwarnings none
    · exact hwarnings _

lemma lines_ne_nil (content : Text) : lines content ≠ [] := List.splitOn_ne_nil _ _

/-- An accepted source is read as its document. -/
theorem documentOf_of_parse {content : Text} {d : Document} {ws : List Warning}
    (h : parse settings r content = .ok (d, ws)) : documentOf settings r content = (d, ws) := by
  rw [parse] at h
  split_ifs at h
  exact Except.ok.inj h

section
variable (settings r)

/-- The blocks of a document are among those that are found, each at most once. -/
theorem allBlocks_subperm (content : Text) : (documentOf settings r content).1.allBlocks.Subperm
    (foundBlocks settings r (lines content) (passExtents (lines content)).1) :=
  attach_subperm _ _

lemma endings_documentOf (content : Text) : endings (documentOf settings r content).2 =
    ((foundBlocks settings r (lines content) (passExtents (lines content)).1).filter
      fun b => !b.isClosedIn settings.tagPrefix (lines content)).map Block.ending := by
  rw [← (foundBlocks_exact settings r _ _).2]
  have hextents : endings (passExtents (lines content)).2 = [] :=
    endings_extentsFrom 0 (lines content)
  simp only [documentOf, endings_append, properties, endings_propertiesFrom, hextents,
    endings_attach, List.nil_append, List.append_nil]

/-- The blocks of a source stand on the lines they were read from, those without an end have one
warning each, and no line belongs to two of them. -/
theorem documentOf_located (content : Text) :
    (∀ b ∈ (documentOf settings r content).1.allBlocks, b.IsExact settings.tagPrefix
      (lines content) ∧ endingsAt b.startLine (documentOf settings r content).2 =
        if b.isClosedIn settings.tagPrefix (lines content) then [] else [b.ending]) ∧
      (documentOf settings r content).1.allBlocks.Pairwise Block.Apart ∧
      ∀ p ∈ (documentOf settings r content).1.passes, p.blocks.Pairwise fun b c =>
        b.endLine < c.startLine := by
  have hordered := passExtents_ordered (lines_ne_nil content)
  have hfound := foundBlocks_apart settings r hordered
  have hexact := (foundBlocks_exact settings r (lines content) (passExtents (lines content)).1).1
  have hsub := allBlocks_subperm settings r content
  have hall : ∀ b ∈ (documentOf settings r content).1.allBlocks,
      b.IsExact settings.tagPrefix (lines content) :=
    fun b hb => hexact b (hsub.subset hb)
  have hapart : (documentOf settings r content).1.allBlocks.Pairwise Block.Apart := by
    obtain ⟨bs, hperm, hsublist⟩ := hsub
    exact (hperm.pairwise_iff fun h => symm h).mp (hfound.sublist hsublist)
  refine ⟨fun b hb => ⟨hall b hb, ?_⟩, hapart, fun p hp => ?_⟩
  · exact endingsAt_startLine hexact hfound (endings_documentOf settings r content) (hsub.subset hb)
  · have hsorted := attach_sorted (readPasses_sorted settings r 0) p hp
    have hpass := (List.pairwise_flatMap.mp hapart).1 p hp
    refine (hpass.and hsorted).imp_of_mem fun {b c} _ hc h => h.1.lt (hall c ?_) h.2
    exact List.mem_flatMap.mpr ⟨p, hp, hc⟩

end

/-- Every source that is not blank is read, and then: each block stands on the lines it was read
from, with its start marker on the first and no other marker of a block between its ends; its last
line ends it, or there is one warning for it; no line belongs to two blocks; the blocks of a pass
are in order; and the errors of a compiler, in order, belong each to the block on whose lines it is,
if there is one. -/
theorem parse_located (settings : Settings) (r : Registry) (content : Text)
    (h : allBlank content = false) : ∃ d ws, parse settings r content = .ok (d, ws) ∧
      (∀ b ∈ d.allBlocks, b.IsExact settings.tagPrefix (lines content) ∧
        endingsAt b.startLine ws =
        if b.isClosedIn settings.tagPrefix (lines content) then [] else [b.ending]) ∧
      d.allBlocks.Pairwise Block.Apart ∧
        (∀ p ∈ d.passes, p.blocks.Pairwise fun b c => b.endLine < c.startLine) ∧
      ∀ messages : List CompileMessage, ((d.locate messages).map fun e => (e.message, e.line)) =
          ((messages.filter fun m => m.severity = .error).map fun m => (m.message, m.line)) ∧
        ∀ e ∈ d.locate messages, ∀ b, e.block = some b ↔
          b ∈ d.allBlocks ∧ b.containsLine (e.line-1) := by
  obtain ⟨hblocks, hapart, hsorted⟩ := documentOf_located settings r content
  refine ⟨_, _, by rw [parse, h]; rfl, hblocks, hapart, hsorted, fun messages => ⟨?_, ?_⟩⟩
  · rw [Document.locate, List.map_map]
    rfl
  · intro e he b
    obtain ⟨m, -, rfl⟩ := List.mem_map.mp he
    exact Document.blockAtLine?_iff hapart _ b

/-- A block that stands outside the pass, and one inside it that has no end. -/
def sharedAndCut : Text :=
  joinLines ["Shader \"A/B\" \x7b".toList, "SubShader \x7b".toList, "HLSLINCLUDE".toList,
  "// [AILab_Block_Start: \"Shared\"]".toList, "float shared;".toList,
  "// [AILab_Block_End]".toList,
  "ENDHLSL".toList, "Pass \x7b".toList, "HLSLPROGRAM".toList,
  "// [AILab_Block_Start: \"Cut\"]".toList,
  "float cut;".toList, "ENDHLSL".toList, ['\x7d'], ['\x7d'], ['\x7d']]

def sharedBlock : Block :=
  { title := "Shared".toList, code := "float shared;".toList, startLine := 3
    endLine := 5, id := .fresh 3 }

def cutBlock : Block :=
  { title := "Cut".toList, code := "float cut;\nENDHLSL\n\x7d".toList, startLine := 9
    endLine := 12, id := .fresh 9 }

lemma allBlocks_sharedAndCut :
    (documentOf {} .standard sharedAndCut).1.allBlocks.Perm [sharedBlock, cutBlock] := by
  let outside := partsOutside {} (lines sharedAndCut) (passExtents (lines sharedAndCut)).1
  let passes :=
    (readPasses {} .standard (lines sharedAndCut) 0 (passExtents (lines sharedAndCut)).1).1
  have hempty : outside.isEmpty = false := by decide +kernel
  have hfirst : passes.findIdx? (fun p => !p.isUsePass) = some 0 := by decide +kernel
  have hattach : (outside.attach passes).1 = passes.modify 0 outside.attachTo := by
    simp [Parts.attach, hempty, hfirst]
  have hfound : outside.blocks ++ passes.flatMap (·.blocks) = [sharedBlock, cutBlock] := by
    decide +kernel
  have hperm : ((passes.modify 0 outside.attachTo).flatMap (·.blocks)).Perm
      (outside.blocks ++ passes.flatMap (·.blocks)) :=
    perm_flatMap_modify (List.findIdx?_eq_some_iff_getElem.mp hfirst).1
  rwa [hfound, ← hattach] at hperm

/-- The block without an end goes on to the end of its pass, with one warning. Errors are in the
block that they are on a line of, and one outside of both is in none. -/
theorem parse_located_unended :
    let messages : List CompileMessage := [⟨"a".toList, 12, .error⟩, ⟨"b".toList, 5, .warning⟩,
      ⟨"c".toList, 5, .error⟩, ⟨"d".toList, 7, .error⟩]
    ∃ d ws, parse {} .standard sharedAndCut = .ok (d, ws) ∧
      d.allBlocks.Perm [sharedBlock, cutBlock] ∧
      endingsAt 3 ws = [] ∧ endingsAt 9 ws = [⟨9, .blockNotEnded "Cut".toList⟩] ∧
      (d.locate messages).map (fun e => (e.message, e.line)) =
        [("a".toList, 12), ("c".toList, 5), ("d".toList, 7)] ∧
      ∀ e ∈ d.locate messages, (e.line = 12 → e.block = some cutBlock) ∧
        (e.line = 5 → e.block = some sharedBlock) ∧
        (e.line = 7 → e.block = none) := by
  intro messages
  obtain ⟨d, ws, hparse, hblocks, -, -, hlocate⟩ :=
    parse_located {} .standard sharedAndCut (by decide +kernel)
  have hperm : d.allBlocks.Perm [sharedBlock, cutBlock] := by
    have h := allBlocks_sharedAndCut
    rwa [documentOf_of_parse hparse] at h
  have hmem : ∀ b, b ∈ d.allBlocks ↔ b = sharedBlock ∨ b = cutBlock :=
    fun b => by simpa using hperm.mem_iff
  have hshared := (hmem sharedBlock).mpr (.inl rfl)
  have hcut := (hmem cutBlock).mpr (.inr rfl)
  obtain ⟨herrors, hattributed⟩ := hlocate messages
  refine ⟨d, ws, hparse, hperm, (hblocks _ hshared).2.trans (by decide +kernel),
    (hblocks _ hcut).2.trans (by decide +kernel), herrors,
    fun e he => ⟨fun hline => ?_, fun hline => ?_, fun hline => ?_⟩⟩
  · exact (hattributed e he _).mpr ⟨hcut, by rw [hline]; rfl⟩
  · exact (hattributed e he _).mpr ⟨hshared, by rw [hline]; rfl⟩
  · refine Option.eq_none_iff_forall_ne_some.mpr fun b hb => ?_
    obtain ⟨hb, hcontains⟩ := (hattributed e he b).mp hb
    rw [hline] at hcontains
    rcases (hmem b).mp hb with rfl | rfl <;> exact absurd hcontains (by decide)

end Source
end MarkedShader
