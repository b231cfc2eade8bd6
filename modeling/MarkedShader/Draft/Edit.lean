import MarkedShader.Draft.Graph
import MarkedShader.Record.Write

/-! Edits of drafts. A draft that is a document is edited as one. In any other draft things are
looked up by the value of a leaf, and a leaf of the wrong kind can be a fault. -/
namespace MarkedShader
namespace Draft

namespace Block

def references (s : Store) (b : Block) (param : Text) : Except Fault Bool :=
  b.ask (fun b => .ok (b.references param)) fun b => holds s b.referencedParams param

/-- Record a parameter, and say whether it is a new one. Only a list takes it. A kept list has it
wherever it stands. -/
def addParam (s : Store) (b : Block) (param : Text) : Except Fault (Store × Block × Bool) :=
  b.ask (fun b => .ok (s, .ofBlock (b.addParam param), !b.references param)) fun b => do
    if ← b.references s param then return (s, b, false)
    match b.referencedParams, s.view b.referencedParams with
    | .shared _ serial, .list ds => .ok (s.replace serial (.list (ds ++ [.text param])), b, true)
    | _, .list ds => .ok (s, { b with referencedParams := .list (ds ++ [.text param]) }, true)
    | _, _ => .error .notText

def containsLine (b : Block) (line : Int) : Except Fault Bool :=
  b.ask (fun b => .ok (b.containsLine line)) fun b =>
    both (compare Number.le (.int 0) b.startLine) <|
      both (compare Number.le b.startLine (.int line)) (compare Number.le (.int line) b.endLine)

/-- Whether a title is the given one without regard to case. Bytes have a lower case but are no
text. -/
def isTitled (title : Text) (b : Block) : Except Fault Bool :=
  match b.title with
  | .text t => .ok (t.lower == title.lower)
  | .bytes _ => .ok false
  | _ => .error .notText

end Block

namespace Pass

def blocksIn (p : Pass) (s : Section) : List Block := p.blocks.filter fun b => b.inSection = s

def findTitle? (p : Pass) (title : Text) : Except Fault (Option Nat) :=
  p.ask (fun p => .ok (p.findTitle? title)) fun p => findIdx? (·.isTitled title) p.blocks

def findBlock? (s : Store) (p : Pass) (id : Data) : Except Fault (Option Nat) :=
  findIdx? (equal s ·.id id) p.blocks

/-- What a use-pass says of something that it cannot hold. -/
def refuse (p : Pass) (what : String) : EditError := .usePass p.name.spellPlain what.toList

def addBlock (p : Pass) (b : MarkedShader.Block) : Except EditError Pass :=
  p.ask (fun p => (p.addBlock b).map .ofPass) fun p =>
    if p.isUsePass then .error (p.refuse "blocks")
      else .ok { p with blocks := p.blocks ++ [.ofBlock b] }

def removeBlock (s : Store) (p : Pass) (id : Data) : Except Fault Pass :=
  p.ask (fun p => .ok (.ofPass (p.removeBlock id.identity))) fun p => do
    let blocks ← p.blocks.filterM fun b => do .ok !(← equal s b.id id)
    .ok { p with blocks }

def addPragma (p : Pass) (pragma : Text) : Except EditError (Pass × Bool) :=
  p.ask (fun p => (p.addPragma pragma).map fun (p, added) => (.ofPass p, added)) fun p =>
    if p.isUsePass then .error (p.refuse "pragmas")
    else if p.pragmas.any (·.isText pragma) then .ok (p, false)
    else .ok ({ p with pragmas := p.pragmas ++ [.text pragma] }, true)

def addInclude (p : Pass) (path : Text) : Except EditError (Pass × Bool) :=
  p.ask (fun p => (p.addInclude path).map fun (p, added) => (.ofPass p, added)) fun p =>
    if p.isUsePass then .error (p.refuse "includes")
    else if p.includes.any (·.isText path) then .ok (p, false)
    else .ok ({ p with includes := p.includes ++ [.text path] }, true)

end Pass

def activePosition? (d : Draft) : Option Nat :=
  if 0 ≤ d.activeIndex ∧ d.activeIndex < d.passes.length then some d.activeIndex.toNat else none

def activePass? (d : Draft) : Option Pass := d.activePosition?.bind (d.passes[·]?)

def setActivePass (d : Draft) (index : Int) : Draft × Bool :=
  d.edit (·.setActivePass index) fun d =>
    if 0 ≤ index ∧ index < d.passes.length ∧ index ≠ d.activeIndex then
      ({ d with activeIndex := index }, true)
    else (d, false)

def findPass? (d : Draft) (id : Data) : Except Fault (Option Nat) :=
  d.ask (fun d => .ok (d.findPass? id.identity)) fun d => findIdx? (equal d.store ·.id id) d.passes

def newPassId (d : Draft) : Identity := .unlike (d.passes.filterMap (·.id.identity?))

def addPass (d : Draft) (p : MarkedShader.Pass) : Draft :=
  d.ask (fun d => .ofDocument (d.addPass p)) fun d =>
    { d with passes := d.passes ++ [.ofPass p], isDirty := true }

def removePass (d : Draft) (id : Data) : Except Fault (Draft × Bool) :=
  d.ask (fun d => .ok ((d.removePass id.identity).map .ofDocument (·)))
      fun d => do match ← d.findPass? id with
    | none => .ok (d, false)
    | some index =>
      let passes := d.passes.eraseIdx index
      let activeIndex :=
        if index < d.activeIndex ∨ passes.length ≤ d.activeIndex then max 0 (d.activeIndex-1)
          else d.activeIndex
      .ok ({ d with passes, activeIndex, isDirty := true }, true)

/-- A draft after an edit, and what came of the edit. Of what has been done before a fault, all
counts. -/
structure Edited (α : Type) where
  draft : Draft
  outcome : Except Fault α

/-- Move a pass to another place. The active pass is then the first one with the same parts as the
one active before. -/
def movePass (d : Draft) (source target : Int) : Edited Bool :=
  let inDraft (d : Draft) : Edited Bool :=
    let count : Int := d.passes.length
    if 0 ≤ source ∧ source < count ∧ 0 ≤ target ∧ target < count ∧ source ≠ target then
      match d.passes[source.toNat]? with
      | none => ⟨d, .ok false⟩
      | some moved =>
        let passes := (d.passes.eraseIdx source.toNat).insertIdx target.toNat moved
        let found := match d.activePass? with
          | some active =>
            findIdx? (fun (p : Pass) => (p.agrees d.store active).mapError .value) passes
          | none => .ok none
        match found with
        | .error f => ⟨{ d with passes }, .error f⟩
        | .ok place =>
          let activeIndex := (place.map Int.ofNat).getD d.activeIndex
          ⟨{ d with passes, activeIndex, isDirty := true }, .ok true⟩
    else ⟨d, .ok false⟩
  d.ask (fun d => let (d, moved) := d.movePass source target; ⟨.ofDocument d, .ok moved⟩) inDraft

def modifyPass (d : Draft) (index : Nat) (change : Pass → Pass) : Draft :=
  { d with passes := d.passes.modify index change }

def allBlocks (d : Draft) : List Block := d.passes.flatMap (·.blocks)

/-- The places of all blocks, pass by pass. -/
def positions (d : Draft) : List Position :=
  d.ask (·.positions) fun d =>
    (d.passes.zipIdx.map fun (p, i) => (List.range p.blocks.length).map fun j => ⟨i, j⟩).flatten

def blockAt? (d : Draft) (place : Position) : Option Block :=
  d.passes[place.pass]?.bind fun p => p.blocks[place.block]?

def modifyBlock (d : Draft) (place : Position) (change : Block → Block) : Draft :=
  d.modifyPass place.pass fun p => { p with blocks := p.blocks.modify place.block change }

/-- The first place at which a test of the block there succeeds. -/
def findPosition? (d : Draft) (test : Block → Except Fault Bool) :
    Except Fault (Option Position) := do
  .ok ((← findIdx? test d.allBlocks).bind (d.positions[·]?))

def findBlock? (d : Draft) (id : Data) : Except Fault (Option Position) :=
  d.ask (fun d => .ok (d.findBlock? id.identity)) fun d => d.findPosition? (equal d.store ·.id id)

def passOfBlock? (d : Draft) (id : Data) : Except Fault (Option Nat) :=
  d.ask (fun d => .ok (d.passOfBlock? id.identity)) fun d =>
    findIdx? (fun p => do .ok (← p.findBlock? d.store id).isSome) d.passes

/-- The active pass is searched first, then the others in order. -/
def findTitle? (d : Draft) (title : Text) : Except Fault (Option Position) :=
  d.ask (fun d => .ok (d.findTitle? title)) fun d => do
    if let some i := d.activePosition? then
      if let some p := d.passes[i]? then
        if let some j ← p.findTitle? title then return some ⟨i, j⟩
    d.findPosition? (·.isTitled title)

def positionsIn (d : Draft) (s : Section) : List Position :=
  d.ask (·.positionsIn s) fun d => d.positions.filter fun place =>
    d.activePosition? = some place.pass && (d.blockAt? place).any fun b => b.inSection = s

def newBlockId (d : Draft) : Identity := .unlike (d.allBlocks.filterMap (·.id.identity?))

def addBlock (d : Draft) (b : MarkedShader.Block) : Except EditError Draft :=
  d.ask (fun d => (d.addBlock b).map .ofDocument) fun d =>
      match d.activePosition?, d.activePass? with
    | some i, some p =>
      (p.addBlock b).map fun p => { d with passes := d.passes.set i p, isDirty := true }
    | _, _ => .error (.noActivePass d.activeIndex)

def removeBlock (d : Draft) (id : Data) : Except Fault (Draft × Bool) :=
  d.ask (fun d => .ok ((d.removeBlock id.identity).map .ofDocument (·)))
      fun d => do match ← d.passOfBlock? id with
    | none => .ok (d, false)
    | some i => match d.passes[i]? with
      | none => .ok (d, false)
      | some p =>
        .ok ({ d with passes := d.passes.set i (← p.removeBlock d.store id), isDirty := true },
          true)

def updateCode (d : Draft) (id : Data) (code : Text) : Except Fault (Draft × Bool) :=
  d.ask (fun d => .ok ((d.updateCode id.identity code).map .ofDocument (·)))
      fun d => do match ← d.findBlock? id with
    | none => .ok (d, false)
    | some place =>
      if (d.blockAt? place).any fun b => b.code.isText code then .ok (d, false)
      else .ok ({ d.modifyBlock place fun b => { b with code := .text code } with isDirty := true },
        true)

def findProperty? (d : Draft) (name : Text) : Option Property :=
  d.ask (fun d => (d.findProperty? name).map .ofProperty) fun d => d.properties.find? fun p =>
    p.name.isText name

def addProperty (d : Draft) (p : MarkedShader.Property) : Draft × Bool :=
  d.edit (·.addProperty p) fun d =>
    if (d.findProperty? p.name).isSome then (d, false)
    else ({ d with properties := d.properties ++ [.ofProperty p], isDirty := true }, true)

def removeProperty (d : Draft) (name : Text) : Draft × Bool :=
  d.edit (·.removeProperty name) fun d =>
    if (d.findProperty? name).isSome then
      ({ d with properties := d.properties.filter fun p => !p.name.isText name, isDirty := true },
        true)
    else (d, false)

/-- Add the properties that are not declared yet, and name them. -/
def mergeProperties (d : Draft) (ps : List MarkedShader.Property) : Draft × List Text :=
  d.edit (·.mergeProperties ps) fun d => ps.foldl (fun (d, added) p =>
    let (d, changed) := d.addProperty p
    (d, if changed then added ++ [p.name] else added)) (d, [])

def markClean (d : Draft) : Draft :=
  d.ask (fun d => .ofDocument d.markClean) fun d => { d with isDirty := false }

end Draft
end MarkedShader
