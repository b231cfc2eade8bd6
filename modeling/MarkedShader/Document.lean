import MarkedShader.Pass
import MarkedShader.Property

/-! Shader documents and their edits. An edit answers with the new document and whether it changed
anything; a changed document is marked dirty. -/
namespace MarkedShader

structure Document where
  shaderName : Text := "AILab/NewShader".toList
  /-- Empty for a document that is in no file. -/
  filePath : Text := []
  globalSettings : GlobalSettings := {}
  properties : List Property := []
  passes : List Pass := []
  activeIndex : Int := 0
  /-- The last text known of the whole document; single blocks are replaced in it. -/
  rawContent : Text := []
  isDirty : Bool := false
  deriving DecidableEq, Repr

/-- The place of a block: the index of its pass and its index there. -/
structure Position where
  pass : Nat
  block : Nat
  deriving DecidableEq, Repr

namespace Document

/-- A lit pass and references to a shadow and a depth pass. -/
def starter (r : Registry) (shaderName : Text) : Document :=
  { shaderName
    passes := [.forwardLit r (.fresh 0), .shadowCaster (.fresh 1), .depthOnly (.fresh 2)] }

def activePosition? (d : Document) : Option Nat :=
  if 0 ≤ d.activeIndex ∧ d.activeIndex < d.passes.length then some d.activeIndex.toNat else none

def activePass? (d : Document) : Option Pass := d.activePosition?.bind (d.passes[·]?)

def setActivePass (d : Document) (index : Int) : Document × Bool :=
  if 0 ≤ index ∧ index < d.passes.length ∧ index ≠ d.activeIndex then
    ({ d with activeIndex := index }, true)
  else (d, false)

def findPass? (d : Document) (id : Identity) : Option Nat := d.passes.findIdx? fun p => p.id = id

def newPassId (d : Document) : Identity := .unlike (d.passes.map (·.id))

def addPass (d : Document) (p : Pass) : Document :=
  { d with passes := d.passes ++ [p], isDirty := true }

/-- The active index moves down when a pass before it goes, or when it would point past the end. -/
def removePass (d : Document) (id : Identity) : Document × Bool :=
  match d.findPass? id with
  | none => (d, false)
  | some index =>
    let passes := d.passes.eraseIdx index
    let activeIndex :=
      if index < d.activeIndex ∨ passes.length ≤ d.activeIndex then max 0 (d.activeIndex-1)
        else d.activeIndex
    ({ d with passes, activeIndex, isDirty := true }, true)

/-- Move a pass to another place. The active pass is then the first one equal to the one active
before. -/
def movePass (d : Document) (source target : Int) : Document × Bool :=
  let count : Int := d.passes.length
  if 0 ≤ source ∧ source < count ∧ 0 ≤ target ∧ target < count ∧ source ≠ target then
    match d.passes[source.toNat]? with
    | none => (d, false)
    | some moved =>
      let passes := (d.passes.eraseIdx source.toNat).insertIdx target.toNat moved
      let activeIndex := match d.activePass? with
        | some active => (passes.findIdx fun p => p = active : Int)
        | none => d.activeIndex
      ({ d with passes, activeIndex, isDirty := true }, true)
  else (d, false)

def modifyPass (d : Document) (index : Nat) (change : Pass → Pass) : Document :=
  { d with passes := d.passes.modify index change }

def allBlocks (d : Document) : List Block := d.passes.flatMap (·.blocks)

/-- The places of all blocks, pass by pass. -/
def positions (d : Document) : List Position :=
  (d.passes.zipIdx.map fun (p, i) => (List.range p.blocks.length).map fun j => ⟨i, j⟩).flatten

def blockAt? (d : Document) (place : Position) : Option Block :=
  d.passes[place.pass]?.bind fun p => p.blocks[place.block]?

def modifyBlock (d : Document) (place : Position) (change : Block → Block) : Document :=
  d.modifyPass place.pass fun p => { p with blocks := p.blocks.modify place.block change }

/-- The first place at which a test of the block there succeeds. -/
def findPosition? (d : Document) (test : Block → Bool) : Option Position :=
  d.positions.find? fun place => (d.blockAt? place).any test

def findBlock? (d : Document) (id : Identity) : Option Position :=
  d.findPosition? fun b => b.id = id

def passOfBlock? (d : Document) (id : Identity) : Option Nat :=
  d.passes.findIdx? fun p => (p.findBlock? id).isSome

/-- The active pass is searched first, then the others in order. -/
def findTitle? (d : Document) (title : Text) : Option Position :=
  let sameTitle := fun (b : Block) => decide (b.title.lower = title.lower)
  match d.activePosition?.bind fun i =>
      (d.passes[i]?.bind (·.findTitle? title)).map (Position.mk i) with
  | some place => some place
  | none => d.findPosition? sameTitle

/-- The places of the active pass's blocks of a section. -/
def positionsIn (d : Document) (s : Section) : List Position :=
  d.positions.filter fun place => d.activePosition? = some place.pass &&
    (d.blockAt? place).any fun b => b.inSection = s

def newBlockId (d : Document) : Identity := .unlike (d.allBlocks.map (·.id))

/-- Append a block to the active pass. -/
def addBlock (d : Document) (b : Block) : Except EditError Document :=
  match d.activePosition? with
  | none => .error (.noActivePass d.activeIndex)
  | some i => match d.passes[i]? with
    | none => .error (.noActivePass d.activeIndex)
    | some p => (p.addBlock b).map fun p => { d with passes := d.passes.set i p, isDirty := true }

/-- Remove the blocks of an identity from the first pass that has one. -/
def removeBlock (d : Document) (id : Identity) : Document × Bool :=
  match d.passOfBlock? id with
  | none => (d, false)
  | some i => ({ d.modifyPass i (·.removeBlock id) with isDirty := true }, true)

def updateCode (d : Document) (id : Identity) (code : Text) : Document × Bool :=
  match d.findBlock? id with
  | none => (d, false)
  | some place =>
    if (d.blockAt? place).any fun b => b.code = code then (d, false)
    else ({ d.modifyBlock place fun b => { b with code } with isDirty := true }, true)

def findProperty? (d : Document) (name : Text) : Option Property :=
  d.properties.find? fun p => p.name = name

/-- A second property of a name is not added. -/
def addProperty (d : Document) (p : Property) : Document × Bool :=
  if (d.findProperty? p.name).isSome then (d, false)
  else ({ d with properties := d.properties ++ [p], isDirty := true }, true)

def removeProperty (d : Document) (name : Text) : Document × Bool :=
  if (d.findProperty? name).isSome then
    ({ d with properties := d.properties.filter fun p => p.name ≠ name, isDirty := true }, true)
  else (d, false)

/-- Add the properties that are not declared yet, and name them. -/
def mergeProperties (d : Document) (ps : List Property) : Document × List Text :=
  ps.foldl (fun (d, added) p =>
    let (d, changed) := d.addProperty p
    (d, if changed then added ++ [p.name] else added)) (d, [])

def markClean (d : Document) : Document := { d with isDirty := false }

end Document
end MarkedShader
