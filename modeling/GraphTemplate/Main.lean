import GraphTemplate.CommandLine

/-!
The program: reads what a request is about, runs it, prints and writes.
-/

namespace GraphTemplate.CommandLine

def readEntry (path : String) : IO FileEntry := do
  try
    return .file (← IO.FS.readFile path)
  catch
    | .noFileOrDirectory .. => return .missing
    | _ => return .directory

def entryOf (known : List (String × FileEntry)) (path : String) : FileEntry :=
  (known.lookup path).getD .missing

def readAll (stream : IO.FS.Stream) : IO String := do
  let octets ← stream.readBinToEnd
  return (String.fromUTF8? octets).getD ""

def environmentFor (request : Request) : IO Environment := do
  let known ← request.paths.mapM fun path => do return (path, ← readEntry path)
  let input ← if request.readsInput then readAll (← IO.getStdin) else pure ""
  return ⟨entryOf known, input⟩

def carryOut (outcome : Outcome) : IO UInt32 := do
  for (path, text) in outcome.written do
    IO.FS.writeFile path text
  IO.print outcome.output
  IO.eprint outcome.errors
  return outcome.exitCode.toUInt32

def execute (args : List String) : IO UInt32 := do
  match Request.ofArgs? args with
  | some request => carryOut (run (← environmentFor request) request)
  | none => carryOut Outcome.misused

end GraphTemplate.CommandLine

def main (args : List String) : IO UInt32 := GraphTemplate.CommandLine.execute args
