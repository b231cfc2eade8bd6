import MarkedShader.Compile
import MarkedShader.Draft.Edit

/-! Compiler messages for drafts. -/
namespace MarkedShader.Draft

/-- The first block whose recorded span holds a 0-based line. -/
def blockAtLine? (d : Draft) (line : Int) : Except Fault (Option Position) :=
  d.ask (fun d => .ok (d.blockAtLine? line)) fun d => d.findPosition? (·.containsLine line)

/-- An error, and the identity and the title of the block in whose span it lies; they are empty
without one. -/
structure LocatedError where
  shaderName : Data
  message : Text
  line : Nat
  blockId : Data
  blockTitle : Data

def LocatedError.ofBlock (shaderName : Data) (message : Text) (line : Nat)
    (b : Option Block) : LocatedError :=
  { shaderName, message, line, blockId := (b.map (·.id)).getD (.text [])
    blockTitle := (b.map (·.title)).getD (.text []) }

/-- The errors among some messages, each with its block. -/
def locate (d : Draft) (messages : List CompileMessage) : Except Fault (List LocatedError) :=
  d.ask
    (fun d => .ok ((d.locate messages).map fun e =>
      .ofBlock (.text e.shaderName) e.message e.line (e.block.map .ofBlock)))
    fun d => (messages.filter fun m => m.severity = .error).mapM fun m => do
      .ok (.ofBlock d.shaderName m.message m.line ((← d.blockAtLine? (m.line-1)).bind d.blockAt?))

end MarkedShader.Draft
