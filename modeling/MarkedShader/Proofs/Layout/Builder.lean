import MarkedShader.Proofs.Layout
import Mathlib.Data.List.Chain

/-! The lines of a layout as they are added one after the other, at a level of indentation that is
raised and lowered on the way. What stands before a layout decides only whether a blank line is
written at its beginning.

Main statement: `build_compositional`. -/
namespace MarkedShader

/-- The lines so far, and the level of indentation of the next one. -/
structure Builder where
  level : Nat := 0
  lines : List Text := []
  deriving DecidableEq, Repr

namespace Builder
open Layout

variable (indent : Text) (b : Builder)

/-- Whether the last line is not empty. -/
def isFilled : Bool := filledAfter false b.lines

/-- A blank line is added only behind a line that is not empty. -/
def addLine (t : Text) : Builder :=
  if t.isEmpty then if b.isFilled then { b with lines := b.lines ++ [[]] } else b
  else { b with lines := b.lines ++ [margin indent b.level ++ t] }

def addVerbatim (ls : List Text) : Builder :=
  ls.foldl (fun b l =>
    { b with lines := b.lines ++ [if l.isEmpty then [] else margin indent b.level ++ l] }) b

lemma addLine_eq (t : Text) :
    b.addLine indent t =
      { b with lines := b.lines ++ (line t).lines indent b.level b.isFilled } := by
  rw [addLine, Layout.lines]
  split_ifs with ht hfilled
  · rfl
  · rw [List.append_nil]
  · rfl

lemma addVerbatim_eq (ls : List Text) :
    b.addVerbatim indent ls =
      { b with lines := b.lines ++ (verbatim ls).lines indent b.level b.isFilled } := by
  rw [addVerbatim, Layout.lines]
  induction ls generalizing b with
  | nil => simp
  | cons l ls ih =>
    rw [List.foldl_cons, ih, List.map_cons, List.append_assoc, List.singleton_append]

end Builder

namespace Layout

variable {indent : Text} {l : Layout} {filled : Bool}

/-- Add a layout to what there is. For an indented group the level is raised, and lowered behind
it. -/
def build (indent : Text) : Layout → Builder → Builder
  | empty, b => b
  | line t, b => b.addLine indent t
  | verbatim ls, b => b.addVerbatim indent ls
  | indented body, b =>
    let inner := body.build indent { b with level := b.level+1 }
    { inner with level := inner.level-1 }
  | seq first second, b => second.build indent (first.build indent b)

/-- A layout is added as its lines at the level there is, and the level stays. -/
lemma build_eq (indent : Text) (l : Layout) (b : Builder) :
    l.build indent b = { b with lines := b.lines ++ l.lines indent b.level b.isFilled } := by
  induction l generalizing b with
  | empty => rw [build, lines, List.append_nil]
  | line t => exact b.addLine_eq indent t
  | verbatim ls => exact b.addVerbatim_eq indent ls
  | indented body ih =>
    rw [build, ih]
    rfl
  | seq first second ihFirst ihSecond =>
    rw [build, ihFirst, ihSecond, lines]
    simp only [Builder.isFilled, filledAfter_append, List.append_assoc]

lemma text_eq_build (indent : Text) (l : Layout) :
    l.text indent = Text.joinLines (l.build indent {}).lines ++ ['\n'] := by
  rw [text, build_eq]
  rfl

/-- A line at so many levels more. An empty one stays empty. -/
def deepen (indent : Text) (n : Nat) (l : Text) : Text :=
  if l.isEmpty then [] else margin indent n ++ l

lemma margin_add (indent : Text) (n m : Nat) :
    margin indent (n+m) = margin indent n ++ margin indent m := by
  rw [margin, List.replicate_add, List.flatten_append]
  rfl

lemma isEmpty_deepen (n : Nat) (l : Text) : (deepen indent n l).isEmpty = l.isEmpty := by
  cases l <;> simp [deepen]

lemma filledAfter_deepen (n : Nat) (ls : List Text) :
    filledAfter filled (ls.map (deepen indent n)) = filledAfter filled ls := by
  cases h : ls.getLast? <;> simp [filledAfter, List.getLast?_map, h, isEmpty_deepen]

lemma deepen_margin (n level : Nat) {t : Text} (ht : t.isEmpty = false) :
    deepen indent n (margin indent level ++ t) = margin indent (n+level) ++ t := by
  have hne : (margin indent level ++ t).isEmpty = false := by simp_all
  rw [deepen, hne, margin_add, List.append_assoc]
  rfl

/-- At `n` levels more the lines are those of the layout, each under `n` more margins. -/
lemma lines_add (n level : Nat) :
    l.lines indent (n+level) filled = (l.lines indent level filled).map (deepen indent n) := by
  induction l generalizing level filled with
  | empty => rfl
  | line t =>
    rw [lines, lines]
    split_ifs with ht hfilled
    · rfl
    · rfl
    · rw [List.map_singleton, deepen_margin n level (Bool.eq_false_iff.mpr ht)]
  | verbatim ls =>
    rw [lines, lines, List.map_map]
    refine List.map_congr_left fun t _ => ?_
    rw [Function.comp_apply]
    split_ifs with ht
    · rfl
    · rw [deepen_margin n level (Bool.eq_false_iff.mpr ht)]
  | indented body ih => exact ih (level+1)
  | seq first second ihFirst ihSecond =>
    simp only [lines, List.map_append, ihFirst, ihSecond, filledAfter_deepen]

/-- No empty line follows another one, and none comes first unless there is a line before that is
not empty. -/
structure Spaced (filled : Bool) (ls : List Text) : Prop where
  first : ls.head? = some [] → filled = true
  apart : ls.IsChain fun l k => l ≠ [] ∨ k ≠ []

lemma spaced_nil : Spaced filled [] := ⟨nofun, .nil⟩

lemma spaced_singleton {t : Text} (h : t = [] → filled = true) : Spaced filled [t] :=
  ⟨fun ht => h (Option.some.inj ht), .singleton t⟩

lemma spaced_of_filled {ls : List Text} (h : ∀ l ∈ ls, l ≠ []) : Spaced filled ls where
  first hfirst := absurd rfl (h [] (List.mem_of_head? hfirst))
  apart := (List.pairwise_of_forall_mem_list fun l hl _ _ => .inl (h l hl)).isChain

lemma Spaced.append {ls ks : List Text} (hls : Spaced filled ls)
    (hks : Spaced (filledAfter filled ls) ks) : Spaced filled (ls ++ ks) where
  first hfirst := by
    cases ls with
    | nil => exact hks.first hfirst
    | cons l ls => exact hls.first hfirst
  apart := by
    refine List.isChain_append.mpr ⟨hls.apart, hks.apart, fun l hl k hk => ?_⟩
    by_cases hempty : k = []
    · have hfilled := hks.first (hempty ▸ hk)
      rw [filledAfter, hl] at hfilled
      exact .inl (by simpa using hfilled)
    · exact .inr hempty

/-- The lines of the verbatim items of a layout. -/
def verbatimLines : Layout → List Text
  | empty | line _ => []
  | verbatim ls => ls
  | indented body => body.verbatimLines
  | seq first second => first.verbatimLines ++ second.verbatimLines

/-- Where no verbatim item has an empty line, blank lines stand apart. -/
lemma spaced_lines (h : ∀ t ∈ l.verbatimLines, t ≠ []) (level : Nat) :
    Spaced filled (l.lines indent level filled) := by
  induction l generalizing level filled with
  | empty => exact spaced_nil
  | line t =>
    rw [lines]
    split_ifs with ht hfilled
    · exact spaced_singleton fun _ => hfilled
    · exact spaced_nil
    · exact spaced_singleton fun hnil => by simp_all
  | verbatim ls =>
    refine spaced_of_filled fun k hk => ?_
    obtain ⟨t, ht, rfl⟩ := List.mem_map.mp hk
    have hne : t ≠ [] := h t ht
    simp [hne]
  | indented body ih => exact ih h (level+1)
  | seq first second ihFirst ihSecond =>
    exact (ihFirst (fun t ht => h t (List.mem_append_left _ ht)) level).append
      (ihSecond (fun t ht => h t (List.mem_append_right _ ht)) level)

/-- To add a layout leaves the level as it is. At any level its lines, which make up the text, are
those at the lowest one under so many margins, with empty lines left empty; and unless a verbatim
item has an empty line, none comes first and no two follow each other. -/
theorem build_compositional (indent : Text) (l : Layout) :
    (∀ b : Builder, (l.build indent b).level = b.level) ∧
    (∀ n, (l.build indent { level := n }).lines = (l.build indent {}).lines.map (deepen indent n)) ∧
    l.text indent = Text.joinLines (l.build indent {}).lines ++ ['\n'] ∧
    ((∀ t ∈ l.verbatimLines, t ≠ []) → ∀ n, (l.build indent { level := n }).lines.head? ≠ some [] ∧
      (l.build indent { level := n }).lines.IsChain fun k k' => k ≠ [] ∨ k' ≠ []) := by
  refine ⟨fun b => by rw [build_eq], fun n => ?_, text_eq_build indent l, fun h n => ?_⟩
  · rw [build_eq, build_eq]
    exact lines_add n 0
  · have hspaced : Spaced false (l.build indent { level := n }).lines := by
      rw [build_eq]
      exact spaced_lines h n
    exact ⟨fun hfirst => absurd (hspaced.first hfirst) Bool.false_ne_true, hspaced.apart⟩

/-- A scope in a scope, with more blank lines asked for than are written. -/
def nestedScopes : Layout :=
  scope ['A'] (blank ++ line ['x'] ++ blank ++ blank ++
    scope ['B'] (verbatim [['y']] ++ blank ++ blank) ++ blank)

theorem build_compositional_nestedScopes : (∀ t ∈ nestedScopes.verbatimLines, t ≠ []) ∧
      (nestedScopes.build ['\t'] { level := 2 }).lines.head? ≠ some [] ∧
      ((nestedScopes.build ['\t'] { level := 2 }).lines.IsChain fun k k' => k ≠ [] ∨ k' ≠ []) ∧
      (nestedScopes.build ['\t'] { level := 2 }).lines.filter (·.isEmpty) =
        List.replicate 4 [] := by
  have hfilled : ∀ t ∈ nestedScopes.verbatimLines, t ≠ [] := by decide
  obtain ⟨hfirst, hapart⟩ := (build_compositional ['\t'] nestedScopes).2.2.2 hfilled 2
  exact ⟨hfilled, hfirst, hapart, by decide⟩

end Layout
end MarkedShader
