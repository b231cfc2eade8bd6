import MarkedShader.Draft.Edit
import MarkedShader.Generated

/-! Storing generated code in drafts, and what the generator is told about them. -/
namespace MarkedShader.Draft

/-- Record the declared properties that are among some words, up to the first one that cannot be
recorded. What can change cannot be looked up among words, but for a set, for whose members a fixed
set would stand. -/
def noteParams (found : List Text) : List Property → Store → Block → Store × Block × Option Fault
  | [], s, b => (s, b, none)
  | p :: ps, s, b => match p.name with
    | .text name =>
      if found.contains name then match b.addParam s name with
        | .ok (s, b, _) => noteParams found ps s b
        | .error fault => (s, b, some fault)
      else noteParams found ps s b
    | .set _ => noteParams found ps s b
    | name => if s.isFixed name then noteParams found ps s b else (s, b, some .wrongKind)

/-- A draft with a response stored in it, the place of the block that has the code, and what went
wrong after that. -/
structure Stored where
  draft : Draft
  place : Position
  fault : Option Fault

def noteIn (d : Draft) (code : Text) (place : Position) : Stored :=
  match d.blockAt? place with
  | none => ⟨d, place, none⟩
  | some b =>
    let (store, b, fault) := noteParams (Text.words code) d.properties d.store b
    ⟨{ d.modifyBlock place fun _ => b with store }, place, fault⟩

/-- What comes of storing a response in a document. -/
def Stored.ofDocument (r : Document × Position) : Stored := ⟨.ofDocument r.1, r.2, none⟩

/-- Why a response is not stored. -/
inductive StoreFault
  | edit (error : EditError)
  | leaf (fault : Fault)

/-- Store a response over the code of a block. -/
def storeOver (d : Draft) (response : Text) (id : Data) : Except StoreFault Stored :=
  d.ask (fun d => ((MarkedShader.Generated.store d response (.existing id.identity)).map
    .ofDocument).mapError .edit) fun d => do
      let code := Text.dedent (MarkedShader.Generated.code response)
      match ← (d.findBlock? id).mapError .leaf with
      | none => .error (.edit (.unknownBlock id.spellPlain))
      | some place =>
        let (d, _) ← (d.updateCode id code).mapError .leaf
        .ok (noteIn d code place)

/-- Store a response in a new block of the active pass. -/
def storeNew (d : Draft) (response title : Text) (inSection : Option Section) (intent : Text) :
    Except EditError Stored :=
  d.ask (fun d =>
      (MarkedShader.Generated.store d response (.new title inSection intent)).map .ofDocument)
    fun d =>
      let code := Text.dedent (MarkedShader.Generated.code response)
      let place : Position :=
        ⟨d.activePosition?.getD 0, (d.activePass?.map (·.blocks.length)).getD 0⟩
      let b := MarkedShader.Generated.newBlock d.newBlockId code title inSection intent
      (d.addBlock b).map fun d => noteIn d code place

/-- A field as the generator is told of it. -/
def Field.described (s : Store) (f : Field) : Except Fault Text := do
  .ok ((← spelled s f.dataType) ++ ' ' :: (← spelled s f.name))

/-- What a generator is told about a draft. -/
def briefing (r : Registry) (d : Draft) (instruction : Text) : Except Fault Briefing :=
  d.ask (fun d => .ok (.ofDocument r d instruction)) fun d => do
    let s := d.store
    let active := d.activePass?
    let fieldsOf (stage : Stage) : Except Fault (List Text) := match active.bind (·.graph) with
      | none => .ok []
      | some g => (g.activeFields stage).mapM (·.described s)
    .ok {
      shaderName := ← spelled s d.shaderName
      passName := ← (active.map fun p => spelled s p.name).getD (.ok [])
      instruction
      properties := ← d.properties.mapM fun p => do
        .ok ((← spelled s p.name) ++ " (".toList ++ p.kind.name ++ [')'])
      inputFields := ← fieldsOf .input
      outputFields := ← fieldsOf .output
      globals := Briefing.globalsOf r }

end MarkedShader.Draft
