import MarkedShader.Layout
import Mathlib.Tactic.Lemma

/-! What the lines of a layout lead to, from what the lines of its parts lead to. Whether a blank
line is written depends on the line before it; what is stated here holds either way. -/
namespace MarkedShader.Layout

/-- A relation of states over stretches of lines that no line keeps the state in, and that two
stretches in a row compose. -/
structure Along {σ : Type} (leads : σ → List Text → σ → Prop) : Prop where
  nil : ∀ s, leads s [] s
  append : ∀ {s t u : σ} {a b : List Text}, leads s a t → leads t b u → leads s (a ++ b) u

/-- The lines of a layout lead from a state to another, whatever stands before them. -/
def Leads {σ : Type} (leads : σ → List Text → σ → Prop) (indent : Text) (level : Nat) (l : Layout)
    (s t : σ) : Prop :=
  ∀ filled, leads s (l.lines indent level filled) t

variable {σ : Type} {leads : σ → List Text → σ → Prop} {indent : Text} {level : Nat}
  {l k : Layout} {s t u : σ}

variable {filled : Bool} {ts : List Text}

lemma lines_line {text : Text} (hne : text ≠ []) :
    (line text).lines indent level filled = [margin indent level ++ text] := by
  rw [lines, if_neg (by simpa using hne)]

/-- The lines of two layouts, the second after the first. -/
theorem lines_append (l k : Layout) : (l ++ k).lines indent level filled =
    l.lines indent level filled ++
      k.lines indent level (filledAfter filled (l.lines indent level filled)) := rfl

lemma lines_concat_line (h : ∀ t ∈ ts, t ≠ []) :
    (concat (ts.map line)).lines indent level filled = ts.map (margin indent level ++ ·) := by
  induction ts generalizing filled with
  | nil => rfl
  | cons t ts ih =>
    rw [List.map_cons, concat, lines_append, lines_line (h t List.mem_cons_self),
      ih fun t ht => h t (List.mem_cons_of_mem _ ht)]
    rfl

/-- Filled lines are written each under the margin, with no blank line between them. -/
theorem lines_ofLines (h : ∀ t ∈ ts, t ≠ []) :
    (ofLines ts).lines indent level filled = ts.map (margin indent level ++ ·) :=
  lines_concat_line h

/-- Whether a blank line may follow is decided line by line. -/
theorem filledAfter_append (filled : Bool) (ls ks : List Text) :
    filledAfter filled (ls ++ ks) = filledAfter (filledAfter filled ls) ks := by
  cases hk : ks.getLast? <;> simp [filledAfter, List.getLast?_append, hk]

lemma filledAfter_concat (filled : Bool) (ls : List Text) {l : Text} (h : l ≠ []) :
    filledAfter filled (ls ++ [l]) = true := by simp [filledAfter, h]

/-- After a line that is not empty a blank line is written. -/
theorem lines_blank (filled : Bool) (ls : List Text) {l : Text} (h : l ≠ []) :
    blank.lines indent level (filledAfter filled (ls ++ [l])) = [[]] := by
  rw [filledAfter_concat filled ls h]
  rfl

/-- The lines of a scope that holds nothing but lines. -/
theorem lines_block_ofLines {header closer : Text} (h : ∀ t ∈ ts, t ≠ []) (hc : closer ≠ []) :
    (block header closer (ofLines ts)).lines indent level filled =
      (margin indent level ++ (header ++ " \x7b".toList)) ::
        ts.map (margin indent (level+1) ++ ·) ++
        [margin indent level ++ closer] := by
  have hopen : header ++ " \x7b".toList ≠ [] := by
    rw [String.toList_ofList]
    simp
  rw [block, lines_append, lines_append, lines_line hopen, lines_line hc, List.singleton_append]
  congr 2
  exact lines_ofLines h

/-- A layout that stands in another one, at some depth. -/
inductive Part (l : Layout) : Layout → Prop
  | self : Part l l
  | left {a b} (h : Part l a) : Part l (a ++ b)
  | right {a b} (h : Part l b) : Part l (a ++ b)
  | indented {a} (h : Part l a) : Part l (.indented a)

namespace Part

lemma concat {ls : List Layout} (mem : k ∈ ls) (h : Part l k) : Part l (Layout.concat ls) := by
  induction ls with
  | nil => contradiction
  | cons m ls ih =>
    rcases List.mem_cons.mp mem with rfl | mem
    · exact .left h
    · exact .right (ih mem)

lemma scope {header : Text} (h : Part l k) : Part l (Layout.scope header k) :=
  .left (.right (.indented h))

/-- The lines of a part stand together among the lines of the whole. -/
theorem lines (h : Part l k) (indent : Text) (level : Nat) (filled : Bool) :
    ∃ above deep before below, k.lines indent level filled =
      above ++ l.lines indent deep before ++ below := by
  induction h generalizing level filled with
  | self => exact ⟨[], level, filled, [], by rw [List.append_nil, List.nil_append]⟩
  | left _ ih =>
    obtain ⟨above, deep, before, below, h⟩ := ih level filled
    exact ⟨above, deep, before, below ++ _, by rw [lines_append, h, List.append_assoc]⟩
  | right _ ih =>
    obtain ⟨above, deep, before, below, h⟩ := ih level _
    exact ⟨_ ++ above, deep, before,
      below, by rw [lines_append, h, List.append_assoc, List.append_assoc, List.append_assoc]⟩
  | indented _ ih => exact ih (level+1) filled

end Part

namespace Leads

lemma indented (h : Leads leads indent (level+1) l s t) :
    Leads leads indent level (indented l) s t := h

lemma line {text : Text} (hne : text ≠ []) (h : leads s [margin indent level ++ text] t) :
    Leads leads indent level (line text) s t := by
  intro filled
  rw [lines, if_neg (by simpa using hne)]
  exact h

variable (along : Along leads)
include along

lemma empty : Leads leads indent level empty s s := fun _ => along.nil s

lemma blank (h : leads s [[]] s) : Leads leads indent level blank s s := by
  intro filled
  cases filled with
  | true => exact h
  | false => exact along.nil s

lemma append (hl : Leads leads indent level l s t) (hk : Leads leads indent level k t u) :
    Leads leads indent level (l ++ k) s u := fun filled => along.append (hl filled) (hk _)

/-- Layouts that each stay in a state stay there all together. -/
lemma concat_stay {ls : List Layout} (h : ∀ l ∈ ls, Leads leads indent level l s s) :
    Leads leads indent level (Layout.concat ls) s s := by
  induction ls with
  | nil => exact empty along
  | cons l ls ih =>
    exact append along (h l List.mem_cons_self) (ih fun l hl => h l (List.mem_cons_of_mem _ hl))

lemma ofLines_stay {ts : List Text} (h : ∀ t ∈ ts, t ≠ [] ∧ leads s [margin indent level ++ t] s) :
    Leads leads indent level (ofLines ts) s s := by
  refine concat_stay along fun l hl => ?_
  obtain ⟨t, ht, rfl⟩ := List.mem_map.mp hl
  exact line (h t ht).1 (h t ht).2

end Leads
end MarkedShader.Layout
