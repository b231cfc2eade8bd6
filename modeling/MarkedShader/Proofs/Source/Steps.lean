import MarkedShader.Source.Parse
import Mathlib.Tactic.SplitIfs

/-! What one step of a walk does to the parts that are found, both outside the passes and over one:
a line names a section, starts a block or opens a struct, or it leaves the parts as they are but for
the warning about a group that never closes. -/
namespace MarkedShader.Source
open Text

variable {settings : Settings} {i n : Nat} {p q : Parts} {line : Text} {rest : List Text}

/-- What becomes of the parts at a line that is taken in, and how many of the lines below go with
it. A label is looked for before the start of a block, and that before a struct. -/
inductive Taken (settings : Settings) (i : Nat) (p : Parts) (line : Text) (rest : List Text) :
    Parts → Nat → Prop
  | label {label : Text} (labelled : Marker.sectionLabel? settings.tagPrefix line = some label) :
      Taken settings i p line rest { p with inSection := .ofLabel label } 0
  | block {title : Text} {b : Block} {n : Nat} {ws : List Warning}
      (unlabelled : Marker.sectionLabel? settings.tagPrefix line = none)
      (starts : Marker.blockStart? settings.tagPrefix line = some title)
      (read : readBlock settings.tagPrefix i title p.inSection rest = (b, n, ws)) :
      Taken settings i p line rest (p.addBlock b ws) n
  | struct {isInput : Bool} {ms : List Member} {n : Nat}
      {ws : List Warning} (unlabelled : Marker.sectionLabel? settings.tagPrefix line = none)
      (unstarted : Marker.blockStart? settings.tagPrefix line = none)
      (opens : struct? settings.inputStruct settings.outputStruct line = some isInput)
      (read : readStruct i rest = (ms, n, ws)) :
      Taken settings i p line rest (p.addStruct i isInput ms ws) n

/-- Whatever is taken in is a label, a block or a struct, and these go in that order. -/
theorem taken_of_take? (h : p.take? settings i line rest = some (q, n)) :
    Taken settings i p line rest q n := by
  unfold Parts.take? at h
  split at h
  · rename_i hlabel
    cases h
    exact .label hlabel
  · rename_i hlabel
    split at h
    · rename_i hstart
      cases h
      exact .block hlabel hstart rfl
    · rename_i hstart
      obtain ⟨isInput, hopens, hq⟩ := Option.map_eq_some_iff.mp h
      cases hq
      exact .struct hlabel hstart hopens rfl

/-- A line that is not taken in neither labels a section nor starts a block. -/
theorem unmarked_of_take? (h : p.take? settings i line rest = none) :
    Marker.sectionLabel? settings.tagPrefix line = none ∧
      Marker.blockStart? settings.tagPrefix line = none := by
  unfold Parts.take? at h
  split at h
  · contradiction
  · split at h
    · contradiction
    · exact ⟨‹_›, ‹_›⟩

/-- What becomes of the parts at another line. Only one that opens a group takes lines with it. -/
inductive Left (i : Nat) (p : Parts) (line : Text) (rest : List Text) : Parts → Nat → Prop
  | nothing : Left i p line rest p 0
  | stencil {n : Nat} {closed : Bool} (opens : opensStencil line)
      (extent : stencilExtent 0 false (line :: rest) = (n, closed)) :
      Left i p line rest
        { p with warnings := p.warnings ++ if closed then [] else [⟨i, .stencilNotClosed⟩] } (n-1)

lemma left_programLine (i : Nat) (c : Content) (line : Text) (rest : List Text) :
    Left i c.toParts line rest (c.takeProgramLine line).toParts 0 := by
  unfold Content.takeProgramLine
  split
  · exact .nothing
  · split
    · exact .nothing
    · exact .nothing

lemma left_stateLine (i : Nat) (c : Content) (line : Text) (rest : List Text) :
    Left i c.toParts line rest (c.takeStateLine i line rest).1.toParts
      (c.takeStateLine i line rest).2 := by
  unfold Content.takeStateLine
  split
  · exact .nothing
  · split
    · exact .nothing
    · split
      · exact .nothing
      · split_ifs with hopens
        · exact .stencil hopens rfl
        · exact .nothing

/-- What a pass makes of a line that is not taken in. -/
theorem left_of_take? {c : Content} (h : c.toParts.take? settings i line rest = none) :
    Left i c.toParts line rest
    (Content.step settings i c line rest).1.toParts (Content.step settings i c line rest).2 := by
  rw [Content.step, h]
  simp only
  split_ifs
  · exact .nothing
  · exact .nothing
  · exact left_programLine i c line rest
  · exact left_stateLine i c line rest

/-- What one step makes of the parts, and how many of the lines below go with its line. -/
inductive Stepped (settings : Settings) (i : Nat) (p : Parts) (line : Text) (rest : List Text)
    (q : Parts) (n : Nat) : Prop
  | taken (taken : Taken settings i p line rest q n)
  | left (unlabelled : Marker.sectionLabel? settings.tagPrefix line = none)
      (unstarted : Marker.blockStart? settings.tagPrefix line = none)
      (left : Left i p line rest q n)

/-- What the walk outside the passes makes of a line. -/
theorem stepped_parts (settings : Settings) (i : Nat) (p : Parts) (line : Text) (rest : List Text) :
    Stepped settings i p line rest (Parts.step settings i p line rest).1
      (Parts.step settings i p line rest).2 := by
  rw [Parts.step]
  cases htake : p.take? settings i line rest with
  | none => exact .left (unmarked_of_take? htake).1 (unmarked_of_take? htake).2 .nothing
  | some found => exact .taken (taken_of_take? htake)

/-- What the walk over a pass makes of a line. -/
theorem stepped_content (settings : Settings) (i : Nat) (c : Content)
    (line : Text) (rest : List Text) :
    Stepped settings i c.toParts line rest (Content.step settings i c line rest).1.toParts
      (Content.step settings i c line rest).2 := by
  cases htake : c.toParts.take? settings i line rest with
  | none =>
    exact .left (unmarked_of_take? htake).1 (unmarked_of_take? htake).2 (left_of_take? htake)
  | some found =>
    rw [Content.step, htake]
    exact .taken (taken_of_take? htake)

end MarkedShader.Source
