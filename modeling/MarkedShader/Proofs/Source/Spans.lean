import MarkedShader.Proofs.Source.Steps
import MarkedShader.Splice
import Mathlib.Data.List.TakeWhile
import Mathlib.Tactic.SplitIfs

/-! The spans that reading a source records: between the ends of a block no other block starts or
ends. -/
namespace MarkedShader

/-- No line strictly between the recorded ends of a block starts or ends a block. -/
def Block.HoldsNoMarker (pre : Text) (ls : List Text) (b : Block) : Prop :=
  ∀ k : Nat, b.startLine < k → k < b.endLine → ∀ l ∈ ls[k]?, Source.endsBody pre l = false

namespace Source
open Text

/-- Lines that stand in a source at some place still do without the first of them. -/
theorem drop_prefix_drop {l : Text} {rest all : List Text} {i : Nat} (h : l :: rest <+: all.drop i)
    (n : Nat) : rest.drop n <+: all.drop (i+n+1) := by
  obtain ⟨tail, htail⟩ := h
  have hall : all.drop (i+n+1) = (rest ++ tail).drop n := by
    rw [show i+n+1 = i+(n+1) by omega, ← List.drop_drop, ← htail]
    rfl
  rw [hall, List.drop_append]
  exact List.prefix_append _ _

/-- What each step preserves on the lines it sees, the whole walk preserves. -/
theorem walk_preserves {σ : Type} {step : Nat → σ → Text → List Text → σ × Nat} (holds : σ → Prop)
    {all : List Text}
    (preserved : ∀ i state l rest, l :: rest <+: all.drop i → holds state →
      holds (step i state l rest).1)
    {i : Nat} {state : σ} {ls : List Text} (inside : ls <+: all.drop i) (start : holds state) :
    holds (walk step i state ls) := by
  induction i, state, ls using walk.induct step with
  | case1 => simpa [walk] using start
  | case2 i state l rest next taken hstep ih =>
    rw [walk, hstep]
    apply ih (drop_prefix_drop inside taken)
    have := preserved i state l rest inside start
    rwa [hstep] at this

/-- Each of the first elements for which a test holds passes it. -/
theorem holds_of_takeWhile {α : Type} {q : α → Bool} {ks : List α} {n : Nat}
    (h : n < (ks.takeWhile q).length) : ∀ x ∈ ks[n]?, q x := by
  intro x hx
  obtain ⟨more, hmore⟩ := List.takeWhile_prefix (l := ks) q
  rw [← hmore, List.getElem?_append_left h] at hx
  exact List.mem_takeWhile_imp (List.mem_of_getElem? hx)

/-- The lines of a range begin where the range does. -/
theorem prefix_between (ls : List Text) (first last : Nat) :
    between ls first last <+: ls.drop first := by
  rw [between, List.drop_take]
  exact List.take_prefix _ _

variable {pre : Text} {settings : Settings}

lemma readBlock_startLine (start : Nat) (title : Text) (inSection : Section) (rest : List Text) :
    (readBlock pre start title inSection rest).1.startLine = start := rfl

/-- A block that is read reaches over lines that neither start nor end another one. -/
theorem readBlock_holdsNoMarker {all : List Text} {start : Nat} {title : Text} {inSection : Section}
    {rest : List Text} (inside : rest <+: all.drop (start+1)) :
    (readBlock pre start title inSection rest).1.HoldsNoMarker pre all := by
  intro k hfirst hlast l hl
  simp only [readBlock] at hfirst hlast
  obtain ⟨tail, htail⟩ := inside
  set inner := rest.takeWhile fun l => !endsBody pre l with hinner
  -- the line is one of those that the body takes
  have hk : k - (start+1) < inner.length := by
    split_ifs at hlast
    · omega
    · omega
  have hget : rest[k-(start+1)]? = some l := by
    rw [← @List.getElem?_append_left _ rest tail _ (hk.trans_le (List.takeWhile_prefix
      _).length_le), htail, List.getElem?_drop, show start+1+(k-(start+1)) = k by omega]
    exact hl
  simpa using holds_of_takeWhile hk l hget

/-- What holds of every block that is read from the lines of a source. -/
def HoldsOfRead (pre : Text) (all : List Text) (holds : Block → Prop) : Prop :=
  ∀ start title inSection rest, rest <+: all.drop (start+1) →
    holds (readBlock pre start title inSection rest).1

namespace HoldsOfRead

variable {holds : Block → Prop} {ls : List Text}

/-- A step brings no block but one that is read. -/
lemma stepped (h : HoldsOfRead settings.tagPrefix ls holds)
    {i n : Nat} {p q : Parts} {line : Text} {rest : List Text} (inside : line :: rest <+: ls.drop i)
    (step : Stepped settings i p line rest q n) (old : ∀ b ∈ p.blocks, holds b) :
    ∀ b ∈ q.blocks, holds b := by
  cases step with
  | left unlabelled unstarted left =>
    cases left with
    | nothing => exact old
    | stencil => exact old
  | taken taken =>
    cases taken with
    | label => exact old
    | struct => exact old
    | @block title b n ws unlabelled starts read =>
      refine List.forall_mem_append.mpr ⟨old, List.forall_mem_singleton.mpr ?_⟩
      have hread := h i title p.inSection rest (drop_prefix_drop inside 0)
      rwa [read] at hread

lemma contentOf (h : HoldsOfRead settings.tagPrefix ls holds) (first last : Nat) :
    ∀ b ∈ (contentOf settings first (between ls first last)).blocks, holds b := by
  refine walk_preserves (fun c : Content => ∀ b ∈ c.blocks, holds b)
    (fun i c line rest inside old => ?_)
    (prefix_between ls first last) fun _ hb => absurd hb List.not_mem_nil
  exact h.stepped inside (stepped_content settings i c line rest) old

lemma partsOutside (h : HoldsOfRead settings.tagPrefix ls holds) (es : List Extent) :
    ∀ b ∈ (partsOutside settings ls es).blocks, holds b := by
  have hwalk : ∀ (first last : Nat) (p : Parts), (∀ b ∈ p.blocks, holds b) →
      ∀ b ∈ (walk (Parts.step settings) first p (between ls first last)).blocks, holds b := by
    intro first last p hp
    refine walk_preserves (fun p : Parts => ∀ b ∈ p.blocks, holds b)
      (fun i p line rest inside old => ?_) (prefix_between ls first last) hp
    exact h.stepped inside (stepped_parts settings i p line rest) old
  -- the walk over each gap adds to what the gaps before it held
  refine List.foldlRecOn (gaps ls es) _ (motive := fun p : Parts => ∀ b ∈ p.blocks, holds b)
    (fun _ hb => absurd hb List.not_mem_nil) fun p hp gap _ => ?_
  exact hwalk gap.1 gap.2 p hp

lemma readPasses (h : HoldsOfRead settings.tagPrefix ls holds) (r : Registry) (cursor : Nat)
    (es : List Extent) : ∀ p ∈ (readPasses settings r ls cursor es).1, ∀ b ∈ p.blocks, holds b := by
  induction es generalizing cursor with
  | nil => exact fun p hp => absurd hp List.not_mem_nil
  | cons e es ih =>
    intro p hp
    rcases List.mem_cons.mp hp with rfl | hp
    · split
      · exact fun b hb => absurd hb List.not_mem_nil
      · exact h.contentOf e.first e.last
    · exact ih (e.last+1) p hp

end HoldsOfRead

variable {r : Registry}

/-- What holds of passes holds after one of them has taken what stands outside, if taking it keeps
that up. -/
theorem forall_attach {outside : Parts} {passes : List Pass} {holds : Pass → Prop}
    (hp : ∀ p ∈ passes, holds p) (attached : ∀ p, holds p → holds (outside.attachTo p)) :
    ∀ p ∈ (outside.attach passes).1, holds p := by
  unfold Parts.attach
  split_ifs
  · exact hp
  · split
    · exact hp
    · intro p hm
      obtain ⟨j, hj⟩ := List.mem_iff_getElem?.mp hm
      rw [List.getElem?_modify] at hj
      obtain ⟨q, hq, rfl⟩ := Option.map_eq_some_iff.mp hj
      have hold := hp q (List.mem_of_getElem? hq)
      split_ifs
      · exact attached q hold
      · exact hold

/-- A pass that takes what stands outside has those blocks besides its own. -/
theorem mem_attachTo {outside : Parts} {p : Pass} {b : Block} : b ∈ (outside.attachTo p).blocks ↔
    b ∈ outside.blocks ∨ b ∈ p.blocks := by
  rw [Parts.attachTo, List.mem_mergeSort, List.mem_append]

/-- What holds of every block that is read holds of the blocks of the document. -/
theorem HoldsOfRead.documentOf {holds : Block → Prop} {content : Text}
    (h : HoldsOfRead settings.tagPrefix (lines content) holds) :
    ∀ b ∈ (documentOf settings r content).1.allBlocks, holds b := by
  intro b hb
  obtain ⟨p, hp, hb⟩ := List.mem_flatMap.mp hb
  have hpasses := h.readPasses r 0 (passExtents (lines content)).1
  exact forall_attach hpasses
    (fun _ hold b hb => (mem_attachTo.mp hb).elim (h.partsOutside _ b) (hold b)) p hp b hb

/-- No block of a source starts or ends between the recorded ends of another one. -/
theorem documentOf_holdsNoMarker (content : Text) :
    ∀ b ∈ (documentOf settings r content).1.allBlocks,
      b.HoldsNoMarker settings.tagPrefix (lines content) :=
  HoldsOfRead.documentOf fun _ _ _ _ => readBlock_holdsNoMarker

end Source
end MarkedShader
