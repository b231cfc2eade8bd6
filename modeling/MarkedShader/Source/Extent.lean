import MarkedShader.Source.Shape
import MarkedShader.Text.Lines
import MarkedShader.Warning

/-! Where the passes of a source lie. A pass ends where its braces close. -/
namespace MarkedShader.Source
open Text

/-- The lines of a pass, both ends included. A use-pass is a single line with a path. -/
structure Extent where
  first : Nat
  last : Nat
  usePath : Option Text := none
  deriving DecidableEq, Repr

/-- The number of lines before the one that closes the braces opened from here on. -/
def closingLine? (depth : Int) (opened : Bool) : List Text → Option Nat
  | [] => none
  | l :: ls =>
    let depth := depth + braceDelta l
    let opened := opened || 0 < depth
    if opened && depth ≤ 0 then some 0 else (closingLine? depth opened ls).map (·+1)

/-- The passes from line `i` on, and a warning for the one that never closes. -/
def extentsFrom (i : Nat) : List Text → List Extent × List Warning
  | [] => ([], [])
  | l :: ls =>
    match usePass? l with
    | some path =>
      let (found, warnings) := extentsFrom (i+1) ls
      (⟨i, i, some path⟩ :: found, warnings)
    | none =>
      if opensPass l then
        match closingLine? 0 false (l :: ls) with
        | some n =>
          let (found, warnings) := extentsFrom (i+n+1) (ls.drop n)
          (⟨i, i+n, none⟩ :: found, warnings)
        | none => ([⟨i, i+ls.length, none⟩], [⟨i, .passNotClosed⟩])
      else extentsFrom (i+1) ls
termination_by ls => ls.length
decreasing_by all_goals (simp only [List.length_cons, List.length_drop]; omega)

def extents (ls : List Text) : List Extent × List Warning := extentsFrom 0 ls

/-- The stretches of lines before, between and after the passes, each with its first line. -/
def gapsFrom (cursor : Nat) (total : Nat) : List Extent → List (Nat × Nat)
  | [] => if cursor < total then [(cursor, total-1)] else []
  | e :: es =>
    (if cursor < e.first then [(cursor, e.first-1)] else []) ++
      gapsFrom (max cursor (e.last+1)) total es

/-- The lines from a cursor up to another as one stretch, if there are any. -/
def gapUpTo (cursor next : Nat) : List (Nat × Nat) :=
  if cursor < next then [(cursor, next-1)] else []

theorem mem_gapUpTo {cursor next : Nat} {g : Nat × Nat} :
    g ∈ gapUpTo cursor next ↔ cursor < next ∧ g = (cursor, next-1) := by
  unfold gapUpTo
  split
  · rename_i h
    simp [h]
  · rename_i h
    simp [h]

theorem gapsFrom_nil (cursor total : Nat) : gapsFrom cursor total [] = gapUpTo cursor total := rfl

theorem gapsFrom_cons {cursor total : Nat} {e : Extent} {es : List Extent} (h : cursor ≤ e.last+1) :
    gapsFrom cursor total (e :: es) = gapUpTo cursor e.first ++ gapsFrom (e.last+1) total es := by
  rw [gapsFrom, Nat.max_eq_right h]
  rfl

def gaps (ls : List Text) (es : List Extent) : List (Nat × Nat) := gapsFrom 0 ls.length es

/-- The lines from `first` to `last`, both included. -/
def between (ls : List Text) (first last : Nat) : List Text := (ls.take (last+1)).drop first

end MarkedShader.Source
