import MarkedShader.Proofs.Editing
import MarkedShader.Proofs.Source.Spans
import MarkedShader.Proofs.Text.Dedent
import MarkedShader.Registry.Standard

/-! When replacing the code of a block stays inside that block. The end markers of all blocks look
the same, so a recorded end can come to stand on the end of another one once the raw text has been
written anew. -/
namespace MarkedShader
open Text

/-- The block that the lines hold at the recorded start ends at the recorded end. -/
def Block.IsWholeIn (pre : Text) (b : Block) (ls : List Text) : Prop :=
  (Source.readBlock pre b.startLine.toNat b.title b.inSection
    (ls.drop (b.startLine.toNat+1))).1.endLine = b.endLine

instance (pre : Text) (b : Block) (ls : List Text) : Decidable (b.IsWholeIn pre ls) :=
  inferInstanceAs (Decidable (_ = _))

namespace Block

variable {pre : Text} {b : Block} {ls : List Text}

/-- A span is current if its block starts at its first line and some block ends at its last. -/
theorem isCurrentIn_iff : b.isCurrentIn pre ls ↔
    0 ≤ b.startLine ∧ b.startLine < b.endLine ∧ b.endLine < ls.length ∧
      ls[b.startLine.toNat]?.bind (Marker.blockStart? pre) = some b.title ∧
      ls[b.endLine.toNat]?.any (Marker.isBlockEnd pre) := by
  simp only [isCurrentIn, Bool.and_eq_true, decide_eq_true_eq, beq_iff_eq, and_assoc]

lemma IsWholeIn.holdsNoMarker (whole : b.IsWholeIn pre ls) (placed : 0 ≤ b.startLine) :
    b.HoldsNoMarker pre ls := by
  have h : (Source.readBlock pre b.startLine.toNat b.title b.inSection
    (ls.drop (b.startLine.toNat+1))).1.HoldsNoMarker
      pre ls := Source.readBlock_holdsNoMarker (List.prefix_refl _)
  intro k hfirst hlast
  refine h k ?_ (lt_of_lt_of_eq hlast whole.symm)
  rw [Source.readBlock_startLine, Int.toNat_of_nonneg placed]
  exact hfirst

lemma HoldsNoMarker.isWholeIn (clear : b.HoldsNoMarker pre ls) (current : b.isCurrentIn pre ls) :
    b.IsWholeIn pre ls := by
  obtain ⟨placed, hlt, hlen, -, hend⟩ := isCurrentIn_iff.mp current
  obtain ⟨s, hs⟩ := Int.eq_ofNat_of_zero_le placed
  obtain ⟨e, he⟩ := Int.eq_ofNat_of_zero_le (Int.le_trans placed (Int.le_of_lt hlt))
  have hse : s < e := by omega
  have hel : e < ls.length := by omega
  set rest := ls.drop (s+1) with hrest
  -- the lines up to the recorded end are taken, and the line there ends the body
  have hsplit : rest = rest.take (e-s-1) ++ ls[e] :: ls.drop (e+1) := by
    have hdrop : rest.drop (e-s-1) = ls[e] :: ls.drop (e+1) := by
      rw [hrest, List.drop_drop, show s+1+(e-s-1) = e by omega]
      exact List.drop_eq_getElem_cons hel
    rw [← hdrop, List.take_append_drop]
  have hclosed : Marker.isBlockEnd pre ls[e] := by
    simpa [he, List.getElem?_eq_getElem hel] using hend
  have hinner : (rest.takeWhile fun l => !Source.endsBody pre l) = rest.take (e-s-1) := by
    conv_lhs => rw [hsplit]
    rw [List.takeWhile_append_of_pos, List.takeWhile_cons_of_neg, List.append_nil]
    · simp [Source.endsBody, hclosed]
    · intro l hl
      obtain ⟨k, hk, rfl⟩ := List.mem_take_iff_getElem.mp hl
      rw [Bool.not_eq_true']
      refine clear (s+1+k) (by omega) (by omega) _ ?_
      simp [hrest]
  have hlength : (rest.take (e-s-1)).length = e-s-1 := by
    rw [hrest, List.length_take, List.length_drop]
    omega
  have hnext : (rest.drop (e-s-1)).head?.any (Marker.isBlockEnd pre) := by
    rw [hrest, List.drop_drop, show s+1+(e-s-1) = e by omega, List.head?_drop,
      List.getElem?_eq_getElem hel]
    exact hclosed
  simp only [IsWholeIn, Source.readBlock, hs, he, Int.toNat_natCast, ← hrest, hinner,
    hlength, hnext, if_true]
  omega

/-- A single line longer than a text. -/
def marked (t : Text) : Text := List.replicate (t.length+1) 'x'

lemma codeLines_marked (t : Text) : codeLines (marked t) = [marked t] := by
  have hn : '\n' ∉ marked t := fun h => absurd (List.eq_of_mem_replicate h) (by decide)
  have hd : Dedented [marked t] := by
    refine ⟨fun l hl => .inr ?_, .inr ⟨marked t, List.mem_cons_self, by simp [marked], rfl⟩⟩
    rw [List.mem_singleton.mp hl]
    refine ⟨rfl, fun h => ?_⟩
    exact absurd (List.eq_of_mem_replicate (List.mem_of_mem_getLast? h)) (by decide)
  rw [codeLines, dedent_line hd hn, List.splitOn_eq_singleton hn]

lemma body_marked (isEnabled : Bool) (t : Text) :
    ∃ l, Writing.body isEnabled (marked t) = [l] ∧ ∀ m, t.length < (addMargin m l).length := by
  have hl := codeLines_marked t
  rw [codeLines] at hl
  cases isEnabled with
  | true =>
    refine ⟨marked t, by simp [Writing.body, hl], fun m => ?_⟩
    simp [addMargin, marked]
    omega
  | false =>
    refine ⟨Writing.commentOut (marked t), by simp [Writing.body, hl], fun m => ?_⟩
    simp [addMargin, Writing.commentOut, marked]
    omega

/-- Some code changes the text that it is put into. -/
lemma spliceInto_marked (properties : List Property) (b : Block) (t : Text) :
    joinLines (b.spliceInto pre properties (marked t) ls) ≠ t := by
  intro h
  obtain ⟨l, hbody, hlong⟩ := body_marked b.isEnabled t
  set margin := ((ls[b.startLine.toNat]?).getD []).takeWhile isBlank with hmargin
  have hmem : addMargin margin l ∈ b.spliceInto pre properties (marked t) ls := by
    simp only [spliceInto, Splice.between, hbody, ← hmargin, List.map_singleton]
    exact List.mem_append_left _ (List.mem_append_right _ List.mem_cons_self)
  have hle := length_le_joinLines hmem
  have := hlong margin
  rw [h] at hle
  omega

end Block

/-- Whether an edit leaves the recorded lines of blocks true: what it brings has none, and if it
saves the document, the text it writes has its markers where the text before it had them. -/
def Edit.KeepsSpans (settings : Settings) (r : Registry) (d : Document) : Edit → Prop
  | .save _ => (lines (d.generate settings r)).map (Source.endsBody settings.tagPrefix) =
      (lines d.rawContent).map (Source.endsBody settings.tagPrefix)
  | e => ∀ b ∈ e.brings, b.startLine < 0

/-- Whether every edit of a run does so. -/
def Document.KeepsSpans (settings : Settings) (r : Registry) (d : Document) : List Edit → Prop
  | [] => True
  | e :: es => e.KeepsSpans settings r d ∧ (e.apply settings r d).KeepsSpans settings r es

namespace Document

variable {settings : Settings} {r : Registry} {d : Document}

/-- Between the recorded ends of every block with a recorded start, no marker stands in the raw
text. -/
def SpansHold (pre : Text) (d : Document) : Prop :=
  ∀ b ∈ d.allBlocks, 0 ≤ b.startLine → b.HoldsNoMarker pre (lines d.rawContent)

lemma ofSpan_holdsNoMarker (pre : Text) (ls : List Text) :
    OfSpan fun b => 0 ≤ b.startLine → b.HoldsNoMarker pre ls where
  congr b c hs he h placed := by
    have := h (hs ▸ placed)
    simpa only [Block.HoldsNoMarker, hs, he] using this
  unplaced b h placed := absurd placed (by omega)

lemma holdsNoMarker_of_map_eq {pre : Text} {b : Block} {ls ks : List Text}
    (h : ks.map (Source.endsBody pre) = ls.map (Source.endsBody pre))
    (clear : b.HoldsNoMarker pre ls) :
    b.HoldsNoMarker pre ks := by
  intro k hfirst hlast l hl
  have hk : (ls.map (Source.endsBody pre))[k]? = some (Source.endsBody pre l) := by
    rw [← h, List.getElem?_map, hl]
    rfl
  rw [List.getElem?_map] at hk
  obtain ⟨m, hm, heq⟩ := Option.map_eq_some_iff.mp hk
  rw [← heq]
  exact clear k hfirst hlast m hm

lemma SpansHold.apply (h : d.SpansHold settings.tagPrefix) {e : Edit}
    (keeps : e.KeepsSpans settings r d) : (e.apply settings r d).SpansHold settings.tagPrefix := by
  have unplaced : (∀ b ∈ e.brings, b.startLine < 0) → ∀ b ∈ e.brings, 0 ≤ b.startLine →
      b.HoldsNoMarker settings.tagPrefix (lines d.rawContent) :=
    fun hb b hm placed => absurd placed (by have := hb b hm; omega)
  have old : ∀ b ∈ (e.apply settings r d).allBlocks, 0 ≤ b.startLine →
      b.HoldsNoMarker settings.tagPrefix (lines d.rawContent) := by
    refine (ofSpan_holdsNoMarker _ _).edit e ?_ h
    cases e with
    | save path => exact fun b hb => absurd hb List.not_mem_nil
    | _ => exact unplaced keeps
  by_cases hsave : ∃ path, e = .save path
  · obtain ⟨path, rfl⟩ := hsave
    simp only [Edit.apply] at old ⊢
    split at old
    · rename_i s hs
      intro b hb placed
      rw [(saved_of_save? hs).2]
      exact holdsNoMarker_of_map_eq keeps (old b hb placed)
    · exact old
  · intro b hb placed
    rw [e.rawContent_apply fun path he => hsave ⟨path, he⟩]
    exact old b hb placed

/-- The recorded lines stay true over a whole run. -/
lemma SpansHold.after (h : d.SpansHold settings.tagPrefix) {edits : List Edit}
    (keeps : d.KeepsSpans settings r edits) :
    (d.after settings r edits).SpansHold settings.tagPrefix := by
  induction edits generalizing d with
  | nil => exact h
  | cons e es ih => exact ih (h.apply keeps.1) keeps.2

/-- Replacing the code of a block changes nothing if its recorded lines no longer hold its markers.
If they do, it stays inside the block exactly if the raw text's own block there ends at the recorded
end. That is the case after every run of edits that keeps the recorded lines true. -/
theorem replaceBlock_stays_inside_iff {content : Text} {warnings : List Warning} {edits : List Edit}
    (read : Source.parse settings r content = .ok (d, warnings)) :
    let now := d.after settings r edits
    let ls := lines now.rawContent
    ∀ id b, (now.findBlock? id).bind now.blockAt? = some b →
      (b.isCurrentIn settings.tagPrefix ls = false →
        ∀ code, now.replaceBlock settings.tagPrefix id code = now.rawContent) ∧
      ((∀ code, now.replaceBlock settings.tagPrefix id code ≠ now.rawContent →
        b.HoldsNoMarker settings.tagPrefix ls) ↔
        (b.isCurrentIn settings.tagPrefix ls → b.IsWholeIn settings.tagPrefix ls)) ∧
      (d.KeepsSpans settings r edits → b.isCurrentIn settings.tagPrefix ls →
        b.IsWholeIn settings.tagPrefix ls) := by
  intro now ls id b found
  have hreplace : ∀ code, now.replaceBlock settings.tagPrefix id code =
      if b.isCurrentIn settings.tagPrefix ls then
        joinLines (b.spliceInto settings.tagPrefix now.properties code ls)
      else now.rawContent := replaceBlock_of_found found
  refine ⟨fun stale code => by rw [hreplace, stale]; rfl,
    ⟨fun safe current => ?_, fun whole code changed => ?_⟩, ?_⟩
  · refine (safe (Block.marked now.rawContent) ?_).isWholeIn current
    rw [hreplace, current]
    exact Block.spliceInto_marked now.properties b now.rawContent
  · have current : b.isCurrentIn settings.tagPrefix ls := by
      by_contra hc
      exact changed (by rw [hreplace, if_neg hc])
    exact (whole current).holdsNoMarker (Block.isCurrentIn_iff.mp current).1
  · intro keeps current
    have start : d.SpansHold settings.tagPrefix := by
      unfold Source.parse at read
      split_ifs at read
      cases read
      exact fun b hb _ => Source.documentOf_holdsNoMarker content b hb
    have hold := start.after keeps
    obtain ⟨place, -, hb⟩ := Option.bind_eq_some_iff.mp found
    exact (hold b (mem_of_blockAt? hb) (Block.isCurrentIn_iff.mp current).1).isWholeIn current

/-- One block of five lines, on the line where the text written for it has a block of that
section. -/
def longBlock : Text := List.replicate 39 '\n' ++
  "// [AILab_Block_Start: \"A\"]\nint A;\nint B;\nint C;\nint D;\nA\x7b\x7d\n// [AILab_Block_End]".toList

/-- The block becomes four lines shorter, and one of four lines with its blank follows it. -/
def shiftingEdits : List Edit := [
  .updateCode (.fresh 39) "a\x7b\x7d".toList,
  .addBlock { title := "C".toList, code := "c\x7b\x7d".toList, id := .given "c".toList },
  .save "out.shader".toList]

/-- A recorded end that has come to stand on the end of another block: the code of both is
replaced. -/
theorem replaceBlock_overruns :
    let now := (Source.documentOf {} .standard longBlock).1.after {} .standard shiftingEdits
    ∃ b, (now.findBlock? (.fresh 39)).bind now.blockAt? = some b ∧
      b.isCurrentIn "AILab".toList (lines now.rawContent) ∧
      ¬ ∀ code, now.replaceBlock "AILab".toList (.fresh 39) code ≠ now.rawContent →
        b.HoldsNoMarker "AILab".toList (lines now.rawContent) := by
  intro now
  have read :
      Source.parse {} .standard longBlock = .ok (Source.documentOf {} .standard longBlock) :=
    if_neg (by decide)
  have hb : ((now.findBlock? (.fresh 39)).bind now.blockAt?).any (fun b =>
      b.isCurrentIn "AILab".toList (lines now.rawContent) &&
        !decide (b.IsWholeIn "AILab".toList (lines now.rawContent))) = true := by decide +kernel
  obtain ⟨b, found, hb⟩ := (Option.any_eq_true _ _).mp hb
  rw [Bool.and_eq_true, Bool.not_eq_true', decide_eq_false_iff_not] at hb
  refine ⟨b, found, hb.1, fun safe => hb.2 ?_⟩
  exact ((replaceBlock_stays_inside_iff read (.fresh 39) b found).2.1.mp safe) hb.1

end Document
end MarkedShader
