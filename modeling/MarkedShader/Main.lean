import MarkedShader.Command

/-! The program: reads the file that a command names, prints what comes of it and writes the file it
asks for. -/
namespace MarkedShader

def readIfPresent (path : String) : IO (Option ByteArray) := do
  try
    return some (← IO.FS.readBinFile path)
  catch _ => return none

def runMain (args : List String) : IO UInt32 := do
  let arguments := args.map String.toList
  let environment ← ["SHADERLAB_TAG_PREFIX", "SHADERLAB_FALLBACK"].filterMapM fun name => do
    return (← IO.getEnv name).map fun value => (name.toList, value.toList)
  let source := ((Command.read arguments).bind Command.source?).map File.normalize
  let bytes ← match source with
    | some path => readIfPresent (String.ofList path)
    | none => pure none
  let outcome := Command.execute environment arguments fun _ => bytes
  IO.print (String.ofList outcome.output)
  match outcome.written with
  | some (path, content) => IO.FS.writeFile (String.ofList path) (String.ofList content)
  | none => pure ()
  if outcome.exitCode = 2 then IO.eprintln (String.ofList Command.usage)
  return UInt32.ofNat outcome.exitCode

end MarkedShader

def main (args : List String) : IO UInt32 := MarkedShader.runMain args
