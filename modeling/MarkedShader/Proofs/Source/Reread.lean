import MarkedShader.Proofs.Writing.Replacement

/-! A block is read back from the lines it is written in, and from the raw text in which its code
has been replaced. -/
namespace MarkedShader

/-- The recorded ends of a block that is current hold its markers. -/
lemma Block.exists_append_of_isCurrentIn {pre : Text} {b : Block}
    {ls : List Text} (h : b.isCurrentIn pre ls) :
    ∃ above first inner last below, ls = above ++ first :: (inner ++ last :: below) ∧
      b.startLine = above.length ∧
      b.endLine = (above ++ first :: inner).length ∧ Marker.blockStart? pre first = some b.title ∧
      Marker.isBlockEnd pre last := by
  obtain ⟨placed, hlt, hlen, hstart, hend⟩ := isCurrentIn_iff.mp h
  obtain ⟨s, hs⟩ := Int.eq_ofNat_of_zero_le placed
  obtain ⟨n, hn⟩ := Int.eq_ofNat_of_zero_le (show 0 ≤ b.endLine - b.startLine - 1 by omega)
  rw [hs, Int.toNat_natCast] at hstart
  obtain ⟨first, hfirst, htitle⟩ := Option.bind_eq_some_iff.mp hstart
  obtain ⟨last, hlast, hcloses⟩ := (Option.any_eq_true _ _).mp hend
  rw [show b.endLine.toNat = s+1+n by omega] at hlast
  obtain ⟨hslt, rfl⟩ := List.getElem?_eq_some_iff.mp hfirst
  obtain ⟨helt, rfl⟩ := List.getElem?_eq_some_iff.mp hlast
  have hrest : ls.drop (s+1) = (ls.drop (s+1)).take n ++ ls[s+1+n] :: ls.drop (s+1+n+1) := by
    have hsplit := List.take_append_drop n (ls.drop (s+1))
    rw [List.drop_drop, List.drop_eq_getElem_cons helt] at hsplit
    exact hsplit.symm
  have hwhole :
      ls = ls.take s ++ ls[s] :: ((ls.drop (s+1)).take n ++ ls[s+1+n] :: ls.drop (s+1+n+1)) := by
    rw [← hrest, ← List.drop_eq_getElem_cons hslt, List.take_append_drop]
  refine ⟨_, _, _, _, _, hwhole, ?_, ?_, htitle, hcloses⟩
  · rw [hs, List.length_take, Nat.min_eq_left (by omega)]
  · simp only [List.length_append, List.length_cons, List.length_take, List.length_drop]
    omega

namespace Source
open Text

variable {pre : Text} {ps : List Property} {b : Block} {code : Text}

/-- Between two lines stands a block with some code: its markers are on these lines, and reading on
from the first gives the block with the code dedented, up to the last and without a warning. -/
structure HoldsBlock (pre : Text) (b : Block) (code : Text) (ls : List Text)
    (first last : Nat) : Prop where
  opens : ls[first]?.bind (Marker.blockStart? pre) = some b.title
  closes : ls[last]?.any (Marker.isBlockEnd pre)
  read : ∀ inSection, readBlock pre first b.title inSection (ls.drop (first+1)) =
    ({ title := b.title, inSection, intent := b.intent, referencedParams := b.referencedParams
       isEnabled := b.isEnabled
       code := dedent code, startLine := first, endLine := last, id := .fresh first }, last-first,
         [])

/-- The lines inside a block with some code. -/
def inside (pre margin : Text) (ps : List Property) (b : Block) (code : Text) : List Text :=
  innerLines pre margin (Writing.paramsOf ps b) { b with code }

variable {margin : Text} (hpre : ∀ c ∈ pre, isWord c) (hm : IsMargin margin)
  (h : Markable pre (Writing.paramsOf ps b) { b with code })
include hpre hm h

lemma holdsBlock_append {first last : Text} (hfirst : Marker.blockStart? pre first = some b.title)
    (hlast : Marker.isBlockEnd pre last) (above below : List Text) :
    HoldsBlock pre b code (above ++ first :: (inside pre margin ps b code ++ last :: below))
      above.length (above.length + (inside pre margin ps b code).length + 1) := by
  set inner := inside pre margin ps b code with hinner
  have hwhole :
      above ++ first :: (inner ++ last :: below) = (above ++ first :: inner) ++ last :: below := by
    rw [List.append_assoc, List.cons_append]
  have hlength : (above ++ first :: inner).length = above.length + inner.length + 1 := by
    rw [List.length_append, List.length_cons, Nat.add_assoc]
  refine ⟨?_, ?_, fun inSection => ?_⟩
  · rw [List.getElem?_append_right (Nat.le_refl _), Nat.sub_self]
    exact hfirst
  · rw [hwhole, ← hlength, List.getElem?_append_right (Nat.le_refl _), Nat.sub_self]
    exact hlast
  · have hparams : (Writing.paramsOf ps b).map (·.1) = b.referencedParams := by
      rw [Writing.paramsOf, List.map_map]
      exact List.map_id' _
    have hrest : (above ++ first :: (inner ++ last :: below)).drop (above.length+1) =
        inner ++ last :: below := by
      rw [List.append_cons, List.drop_left' (by simp)]
    rw [hrest, hinner, inside, readBlock_inner h hpre hm hlast, hparams, ← inside,
      ← hinner, show above.length + inner.length + 1 - above.length = inner.length + 1 by omega,
      Nat.add_assoc above.length, Int.natCast_add above.length]

/-- A block with code of its own is read back from the lines it is written in, wherever these
stand. -/
lemma holdsBlock_block (title : Quotable pre b.title ∧ b.title ≠ []) {indent : Text} {level : Nat}
    (hmargin : margin = Layout.margin indent level) (hcode : isDeclarationOnly code = false)
    (filled : Bool)
    (above below : List Text) :
    let ls := (Writing.block pre ps { b with code }).lines indent level filled
    HoldsBlock pre b code (above ++ ls ++ below) above.length (above.length + ls.length - 2) := by
  have hstart : Marker.blockStart pre b.title ≠ [] := Marker.format_ne_nil _ _ _
  have hend : Marker.blockEnd pre ≠ [] := Marker.format_ne_nil _ _ _
  have hlines : (Writing.block pre ps { b with code }).lines indent level filled =
      (margin ++ Marker.blockStart pre b.title) ::
        (inside pre margin ps b code ++ (margin ++ Marker.blockEnd pre) :: [[]]) := by
    rw [Writing.block, Writing.blockWith, if_neg (by simp [hcode]),
      lines_enclosed hstart (fun l hl => ne_nil_of_mem_header l hl) hend, ← hmargin]
    simp only [inside, innerLines, Writing.paramsOf, List.append_assoc,
      List.cons_append, List.nil_append]
  intro ls
  have hfirst := blockStart?_blockStart hpre hm.isBlank title.1 title.2
  have hheld :=
    holdsBlock_append hpre hm h hfirst (isBlockEnd_blockEnd hpre hm.isBlank) above ([] :: below)
  have hwhole : above ++ ls ++ below = above ++ (margin ++ Marker.blockStart pre b.title) ::
      (inside pre margin ps b code ++ (margin ++ Marker.blockEnd pre) :: ([] :: below)) := by
    simp only [ls, hlines, List.append_assoc, List.cons_append, List.nil_append]
  have hlast :
      above.length + ls.length - 2 = above.length + (inside pre margin ps b code).length + 1 := by
    simp only [ls, hlines, List.length_cons, List.length_append, List.length_nil]
    omega
  rw [hwhole, hlast]
  exact hheld

/-- The lines inside a block hold no line break. -/
lemma isLine_inside : ∀ l ∈ inside pre margin ps b code, IsLine l :=
  fun l hl => (silent_inner h hpre hm l hl).isLine

end Source

namespace Document
open Text Source

variable {pre : Text} {d : Document} {id : Identity} {b : Block} {code : Text}

lemma markable_of_texts (intent : Quotable pre b.intent)
    (params : ∀ param ∈ b.referencedParams, Quotable pre param ∧ param ≠ [] ∧
      Quotable pre (Writing.roleOf d.properties param)) (distinct : b.referencedParams.Nodup)
    (free : ∀ l ∈ codeLines code, ¬ Marker.opening pre <:+: l) :
    Markable pre (Writing.paramsOf d.properties b) { b with code } where
  intent := intent
  params p hp := by
    obtain ⟨param, hparam, rfl⟩ := List.mem_map.mp hp
    exact params param hparam
  distinct := by
    rw [Writing.paramsOf, List.map_map]
    exact (List.map_id' b.referencedParams).symm ▸ distinct
  code := free

/-- Where the recorded span of a block is current, its code is replaced there and nowhere else. -/
lemma holdsBlock_replaceBlock (hpre : ∀ c ∈ pre, isWord c)
    (h : Markable pre (Writing.paramsOf d.properties b) { b with code })
    (found : (d.findBlock? id).bind d.blockAt? = some b)
    (current : b.isCurrentIn pre (lines d.rawContent))
    (unbroken : '\r' ∉ d.rawContent)
    (indented : ∀ l ∈ (lines d.rawContent)[b.startLine.toNat]?, IsMargin (l.takeWhile isBlank)) :
    let ls := lines d.rawContent
    let replaced := lines (d.replaceBlock pre id code)
    ∃ last, HoldsBlock pre b code replaced b.startLine.toNat last ∧
      replaced.take (b.startLine.toNat+1) = ls.take (b.startLine.toNat+1) ∧
      replaced.drop last = ls.drop b.endLine.toNat := by
  intro ls replaced
  obtain ⟨above, first, old, last, below, hls, hfirst, hlast, hopens, hcloses⟩ :=
    Block.exists_append_of_isCurrentIn current
  have hstart : (lines d.rawContent)[b.startLine.toNat]? = some first := by
    rw [hfirst, Int.toNat_natCast, hls, List.getElem?_append_right (Nat.le_refl _), Nat.sub_self,
      List.getElem?_cons_zero]
  have hm : IsMargin (first.takeWhile isBlank) := indented first hstart
  set inner := inside pre (first.takeWhile isBlank) d.properties b code with hinner
  have hsplice : b.spliceInto pre d.properties code (lines d.rawContent) =
      above ++ first :: (inner ++ last :: below) := by
    rw [Block.spliceInto, hfirst, hlast, Int.toNat_natCast, Int.toNat_natCast,
      Splice.between_append hls, List.append_assoc, List.cons_append]
    rfl
  have hreplaced : replaced = above ++ first :: (inner ++ last :: below) := by
    simp only [replaced, replaceBlock_of_current found current, hsplice]
    refine lines_joinLines_self (by simp) fun l hl => ?_
    have hold : ∀ l ∈ above ++ first :: (old ++ last :: below), IsLine l := fun l hl =>
      isLine_of_mem_lines unbroken (hls ▸ hl)
    simp only [List.mem_append, List.mem_cons] at hl hold
    rcases hl with hl | rfl | hl | rfl | hl
    · exact hold l (.inl hl)
    · exact hold l (.inr (.inl rfl))
    · exact isLine_inside hpre hm h l hl
    · exact hold l (.inr (.inr (.inr (.inl rfl))))
    · exact hold l (.inr (.inr (.inr (.inr hl))))
  have hold : ls = above ++ first :: (old ++ last :: below) := hls
  have hsplit : ∀ inner : List Text, above ++ first :: (inner ++ last :: below) =
      (above ++ first :: inner) ++ last :: below :=
    fun inner => by rw [List.append_assoc, List.cons_append]
  refine ⟨above.length + inner.length + 1, ?_, ?_, ?_⟩
  · rw [hreplaced, hfirst, Int.toNat_natCast]
    exact holdsBlock_append hpre hm h hopens hcloses above below
  · rw [hreplaced, hold, hfirst, Int.toNat_natCast, List.append_cons,
      List.append_cons above first (old ++ _), List.take_left' (by simp), List.take_left' (by simp)]
  · rw [hreplaced, hold, hlast, Int.toNat_natCast, hsplit, hsplit,
      List.drop_left' (by simp; omega), List.drop_left]

/-- A block whose texts can stand in its markers is read back with any code that holds no marker:
where it is written with the code, and where the code is put into the raw text at a recorded span
that is current. -/
theorem block_reread (hpre : ∀ c ∈ pre, isWord c) (title : Quotable pre b.title ∧ b.title ≠ [])
    (intent : Quotable pre b.intent)
    (params : ∀ param ∈ b.referencedParams, Quotable pre param ∧ param ≠ [] ∧
      Quotable pre (Writing.roleOf d.properties param))
    (distinct : b.referencedParams.Nodup)
    (free : ∀ l ∈ codeLines code, ¬ Marker.opening pre <:+: l) :
    (isDeclarationOnly code = false → ∀ indent level filled above below, IsMargin indent →
      let written := (Writing.block pre d.properties { b with code }).lines indent level filled
      HoldsBlock pre b code (above ++ written ++ below) above.length
      (above.length + written.length - 2)) ∧
    (∀ id, (d.findBlock? id).bind d.blockAt? = some b → b.isCurrentIn pre (lines d.rawContent) →
      '\r' ∉ d.rawContent →
      (∀ l ∈ (lines d.rawContent)[b.startLine.toNat]?, IsMargin (l.takeWhile isBlank)) →
      let ls := lines d.rawContent
      let replaced := lines (d.replaceBlock pre id code)
      ∃ last, HoldsBlock pre b code replaced b.startLine.toNat last ∧
        replaced.take (b.startLine.toNat+1) = ls.take (b.startLine.toNat+1) ∧
        replaced.drop last = ls.drop b.endLine.toNat) := by
  have h := markable_of_texts intent params distinct free
  refine ⟨fun hcode indent level filled above below hindent => ?_,
    fun id => holdsBlock_replaceBlock hpre h⟩
  exact holdsBlock_block hpre
    (Layout.isMargin_margin hindent level) h title rfl hcode filled above below

/-- A disabled block between tabs, with two parameters of which one has a role. -/
def fadeBlock : Block := {
  title := "Fade".toList, code := "float Fade(float t) \x7b return t; \x7d".toList
  inSection := .helper
  intent := "soft // edges".toList, referencedParams := ["_Tint".toList, "_Glow".toList]
  isEnabled := false, startLine := 1
  endLine := 4, id := .given "fade".toList }

def fadeDocument : Document := {
  properties := [{ name := "_Tint".toList, role := "base color".toList }]
  passes := [{ name := "Lit".toList, blocks := [fadeBlock], id := .given "lit".toList }]
  rawContent := joinLines
    ["HLSLPROGRAM".toList, "\t// [Lab_Block_Start: \"Fade\"]".toList, "\t// [Lab_Disabled]".toList,
    "\t// float Fade(float t) \x7b return t; \x7d".toList, "\t// [Lab_Block_End]".toList,
    "ENDHLSL".toList] }

/-- Code with tabs, an empty line and a comment. -/
def fadeCode : Text :=
  joinLines ["\tfloat Fade(float t)".toList, "\t\x7b".toList, "\t\t// half".toList, "  ".toList,
  "\t\treturn 0.5 * t;".toList, "\t\x7d".toList]

theorem block_reread_fade :
    HoldsBlock "Lab".toList fadeBlock fadeCode ((Writing.block "Lab".toList fadeDocument.properties
      { fadeBlock with code := fadeCode }).lines "\t ".toList 2 true) 0 11 ∧
    ∃ last, HoldsBlock "Lab".toList fadeBlock fadeCode
      (lines (fadeDocument.replaceBlock "Lab".toList (.given "fade".toList) fadeCode)) 1 last ∧
      (lines (fadeDocument.replaceBlock "Lab".toList (.given "fade".toList) fadeCode)).drop last =
        ["\t// [Lab_Block_End]".toList, "ENDHLSL".toList] := by
  obtain ⟨hwritten, hreplaced⟩ := block_reread (d := fadeDocument) (b := fadeBlock)
    (show ∀ c ∈ "Lab".toList, isWord c by decide) (by decide) (by decide) (by decide) (by decide)
    (show ∀ l ∈ codeLines fadeCode, ¬ Marker.opening "Lab".toList <:+: l by decide +kernel)
  refine ⟨?_, ?_⟩
  · have hmargin : IsMargin "\t ".toList := by unfold IsMargin; decide
    have hlength : ((Writing.block "Lab".toList fadeDocument.properties
        { fadeBlock with code := fadeCode }).lines "\t ".toList 2 true).length = 13 := by
      decide +kernel
    have hheld := hwritten (by decide +kernel) "\t ".toList 2 true [] [] hmargin
    simp only [hlength, List.nil_append, List.append_nil] at hheld
    exact hheld
  · obtain ⟨last, hheld, -, hdrop⟩ :=
      hreplaced (.given "fade".toList) rfl (by decide +kernel) (by decide +kernel)
      (by unfold IsMargin; decide +kernel)
    refine ⟨last, hheld, hdrop.trans ?_⟩
    decide +kernel

end Document
end MarkedShader
