import MarkedShader.Text.Basic

/-! Render state of a pass and render defaults of a document. -/
namespace MarkedShader

structure Stencil where
  ref : Int := 0
  comp : Text := "Always".toList
  passOp : Text := "Keep".toList
  failOp : Text := "Keep".toList
  zfailOp : Text := "Keep".toList
  readMask : Int := 255
  writeMask : Int := 255
  deriving DecidableEq, Repr

/-- What a pass overrides; `none` means the default is inherited. -/
structure RenderState where
  cull : Option Text := none
  blend : Option Text := none
  zwrite : Option Text := none
  ztest : Option Text := none
  colorMask : Option Text := none
  stencil : Option Stencil := none
  deriving DecidableEq, Repr

/-- The parts of a render state that are one text each. -/
inductive StateKey
  | cull | blend | zwrite | ztest | colorMask
  deriving DecidableEq, Repr

namespace StateKey

def all : List StateKey := [.cull, .blend, .zwrite, .ztest, .colorMask]

def keyword : StateKey → Text
  | .cull => "Cull".toList
  | .blend => "Blend".toList
  | .zwrite => "ZWrite".toList
  | .ztest => "ZTest".toList
  | .colorMask => "ColorMask".toList

end StateKey

namespace RenderState

def get (s : RenderState) : StateKey → Option Text
  | .cull => s.cull
  | .blend => s.blend
  | .zwrite => s.zwrite
  | .ztest => s.ztest
  | .colorMask => s.colorMask

def set (s : RenderState) (value : Text) : StateKey → RenderState
  | .cull => { s with cull := some value }
  | .blend => { s with blend := some value }
  | .zwrite => { s with zwrite := some value }
  | .ztest => { s with ztest := some value }
  | .colorMask => { s with colorMask := some value }

/-- The value of a key, unless it is empty: an empty text overrides nothing. -/
def value? (s : RenderState) (key : StateKey) : Option Text :=
  (s.get key).filter fun t => !t.isEmpty

def hasOverrides (s : RenderState) : Bool :=
  StateKey.all.any (fun key => (s.value? key).isSome) || s.stencil.isSome

end RenderState

structure GlobalSettings where
  cull : Text := "Back".toList
  blend : Text := "Off".toList
  zwrite : Text := "On".toList
  renderType : Text := "Opaque".toList
  renderQueue : Text := "Geometry".toList
  deriving DecidableEq, Repr

end MarkedShader
