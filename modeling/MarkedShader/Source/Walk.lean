import MarkedShader.Document
import MarkedShader.Settings
import MarkedShader.Source.Body
import MarkedShader.Source.Stencil

/-! One walk over the lines of a pass, and one over the lines outside the passes. -/
namespace MarkedShader.Source
open Text

/-- Go over lines from left to right. A step gets the number of its line, the line and those after
it, and says how many of those after it are taken as well. -/
def walk {σ : Type} (step : Nat → σ → Text → List Text → σ × Nat) (i : Nat)
    (state : σ) : List Text → σ
  | [] => state
  | l :: ls =>
    let (state, taken) := step i state l ls
    walk step (i+taken+1) state (ls.drop taken)
termination_by ls => ls.length
decreasing_by simp only [List.length_cons, List.length_drop]; omega

/-- The blocks and struct members found so far, and the section that the next block belongs to. -/
structure Parts where
  inSection : Section := .unknown
  blocks : List Block := []
  inputs : List Member := []
  outputs : List Member := []
  /-- The lines that open structs. -/
  structLines : List Nat := []
  warnings : List Warning := []

def Parts.isEmpty (p : Parts) : Bool := p.blocks.isEmpty && p.inputs.isEmpty && p.outputs.isEmpty

def Parts.addBlock (p : Parts) (b : Block) (ws : List Warning) : Parts :=
  { p with blocks := p.blocks ++ [b], warnings := p.warnings ++ ws }

def Parts.addStruct (p : Parts) (line : Nat) (isInput : Bool) (ms : List Member)
    (ws : List Warning) : Parts :=
  { p with
    inputs := if isInput then p.inputs ++ ms else p.inputs
    outputs := if isInput then p.outputs else p.outputs ++ ms
    structLines := p.structLines ++ [line]
    warnings := p.warnings ++ ws }

variable (settings : Settings)

/-- Take in a line that names a section, starts a block or opens a struct. -/
def Parts.take? (i : Nat) (p : Parts) (line : Text) (rest : List Text) : Option (Parts × Nat) :=
  match Marker.sectionLabel? settings.tagPrefix line with
  | some label => some ({ p with inSection := .ofLabel label }, 0)
  | none => match Marker.blockStart? settings.tagPrefix line with
    | some title =>
      let (block, taken, warnings) := readBlock settings.tagPrefix i title p.inSection rest
      some (p.addBlock block warnings, taken)
    | none => (struct? settings.inputStruct settings.outputStruct line).map fun isInput =>
      let (members, taken, warnings) := readStruct i rest
      (p.addStruct i isInput members warnings, taken)

/-- Outside the passes no other line counts. -/
def Parts.step (i : Nat) (p : Parts) (line : Text) (rest : List Text) : Parts × Nat :=
  (p.take? settings i line rest).getD (p, 0)

/-- What a pass has been found to hold so far. -/
structure Content extends Parts where
  inProgram : Bool := false
  name : Option Text := none
  lightMode : Option Text := none
  renderState : RenderState := {}
  pragmas : List Text := []
  includes : List Text := []

/-- A line of the program that opens no block or struct. -/
def Content.takeProgramLine (c : Content) (line : Text) : Content :=
  match include? line with
  | some path => { c with includes := c.includes ++ [path] }
  | none => match pragma? line with
    | some pragma => { c with pragmas := c.pragmas ++ [pragma] }
    | none => c

/-- A line outside the program. The first name and the first light mode count, and the last of each
state. -/
def Content.takeStateLine (c : Content) (i : Nat) (line : Text)
    (rest : List Text) : Content × Nat :=
  match passName? line, c.name with
  | some name, none => ({ c with name := some name }, 0)
  | _, _ => match lightMode? line, c.lightMode with
    | some mode, none => ({ c with lightMode := some mode }, 0)
    | _, _ => match renderState? line with
      | some (key, value) => ({ c with renderState := c.renderState.set value key }, 0)
      | none =>
        if opensStencil line then
          let (n, closed) := stencilExtent 0 false (line :: rest)
          ({ c with
            renderState :=
              { c.renderState with stencil := some (stencilOf ((line :: rest).take n)) }
            warnings := c.warnings ++ if closed then [] else [⟨i, .stencilNotClosed⟩] }, n-1)
        else (c, 0)

def Content.step (i : Nat) (c : Content) (line : Text) (rest : List Text) : Content × Nat :=
  match c.toParts.take? settings i line rest with
  | some (parts, taken) => ({ c with toParts := parts }, taken)
  | none =>
    if startsProgram line then ({ c with inProgram := true }, 0)
    else if endsProgram line then ({ c with inProgram := false }, 0)
    else if c.inProgram then (c.takeProgramLine line, 0)
    else c.takeStateLine i line rest

def contentOf (first : Nat) (ls : List Text) : Content := walk (Content.step settings) first {} ls

end MarkedShader.Source
