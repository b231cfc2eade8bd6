import MarkedShader.Block
import MarkedShader.Graph
import MarkedShader.RenderState

/-! Rendering passes. A use-pass only names a pass of another shader. -/
namespace MarkedShader

structure Pass where
  name : Text := "NewPass".toList
  lightMode : Text := []
  blocks : List Block := []
  graph : Option Graph := none
  pragmas : List Text := []
  includes : List Text := []
  renderState : Option RenderState := none
  isUsePass : Bool := false
  usePassPath : Text := []
  id : Identity
  deriving DecidableEq, Repr

/-- An edit that a document does not take. -/
inductive EditError
  | noActivePass (index : Int)
  | usePass (name what : Text)
  | unknownBlock (id : Text)
  deriving DecidableEq, Repr

namespace Pass

def entryPragmas : List Text := ["#pragma vertex vert".toList, "#pragma fragment frag".toList]

def coreInclude : Text :=
  "Packages/com.unity.render-pipelines.universal/ShaderLibrary/Core.hlsl".toList

def lightingInclude : Text :=
  "Packages/com.unity.render-pipelines.universal/ShaderLibrary/Lighting.hlsl".toList

/-- A pass without blocks whose graph is the registry's. -/
def empty (r : Registry) (id : Identity) (name lightMode : Text) : Pass :=
  { name, lightMode, graph := some (.ofRegistry r), id }

def forwardLit (r : Registry) (id : Identity) : Pass :=
  { empty r id "ForwardLit".toList "UniversalForward".toList with
    pragmas := entryPragmas ++ [
      "#pragma multi_compile _ _MAIN_LIGHT_SHADOWS _MAIN_LIGHT_SHADOWS_CASCADE".toList,
      "#pragma multi_compile _ _ADDITIONAL_LIGHTS".toList,
      "#pragma multi_compile_fragment _ _SHADOWS_SOFT".toList,
      "#pragma multi_compile_fog".toList]
    includes := [coreInclude, lightingInclude] }

def unlit (r : Registry) (id : Identity) : Pass :=
  { empty r id "ForwardUnlit".toList "UniversalForward".toList with
    pragmas := entryPragmas ++ ["#pragma multi_compile_fog".toList]
    includes := [coreInclude] }

def outline (r : Registry) (id : Identity) : Pass :=
  { empty r id "Outline".toList "SRPDefaultUnlit".toList with
    renderState :=
      some { cull := some "Front".toList, blend := some "Off".toList, zwrite := some "On".toList }
    pragmas := entryPragmas
    includes := [coreInclude] }

/-- A use-pass is named after the last part of its path. -/
def usePass (id : Identity) (path : Text) : Pass :=
  { name := path.afterLast '/', isUsePass := true, usePassPath := path, id }

def shadowCaster (id : Identity) : Pass :=
  usePass id "Universal Render Pipeline/Lit/ShadowCaster".toList

def depthOnly (id : Identity) : Pass := usePass id "Universal Render Pipeline/Lit/DepthOnly".toList

def blocksIn (p : Pass) (s : Section) : List Block := p.blocks.filter fun b => b.inSection = s

/-- Titles are compared without regard to case. -/
def findTitle? (p : Pass) (title : Text) : Option Nat :=
  p.blocks.findIdx? fun b => b.title.lower = title.lower

def findBlock? (p : Pass) (id : Identity) : Option Nat := p.blocks.findIdx? fun b => b.id = id

def addBlock (p : Pass) (b : Block) : Except EditError Pass :=
  if p.isUsePass then .error (.usePass p.name "blocks".toList)
    else .ok { p with blocks := p.blocks ++ [b] }

/-- Remove every block of an identity. -/
def removeBlock (p : Pass) (id : Identity) : Pass :=
  { p with blocks := p.blocks.filter fun b => b.id ≠ id }

/-- Add a line unless it is there, and say whether it was added. -/
def addPragma (p : Pass) (pragma : Text) : Except EditError (Pass × Bool) :=
  if p.isUsePass then .error (.usePass p.name "pragmas".toList)
  else if p.pragmas.contains pragma then .ok (p, false)
  else .ok ({ p with pragmas := p.pragmas ++ [pragma] }, true)

def addInclude (p : Pass) (path : Text) : Except EditError (Pass × Bool) :=
  if p.isUsePass then .error (.usePass p.name "includes".toList)
  else if p.includes.contains path then .ok (p, false)
  else .ok ({ p with includes := p.includes ++ [path] }, true)

end Pass

def EditError.message : EditError → Text
  | .noActivePass index => "No pass at index ".toList ++ (toString index).toList
  | .usePass name what =>
    "Pass '".toList ++ name ++ "' references an external pass and cannot hold ".toList ++ what
  | .unknownBlock id => "Unknown block: ".toList ++ id

end MarkedShader
