import Flowline.CommandLine
import Flowline.Json.Printer
import Flowline.Json.Reader
import Flowline.Session.Connection
import Flowline.Session.Frame

/-!
# The program

Serves one editor over standard input and output until the input ends or the editor leaves. No
client for dataflow servers is attached.
-/

namespace Flowline.Main

/-- Reads header lines up to the empty one; none when the input ends. -/
partial def readHeader (input : IO.FS.Stream) : IO (Option (List String)) := do
  let line ← input.getLine
  if line.isEmpty then return none
  else if (trim line.toList).isEmpty then return some []
  else
    match ← readHeader input with
    | none => return none
    | some rest => return some (line :: rest)

/-- Reads a number of bytes, fewer only when the input ends. -/
partial def readBytes (input : IO.FS.Stream) (count : Nat) (read : ByteArray) : IO ByteArray := do
  if count ≤ read.size then return read
  else
    let more ← input.read (USize.ofNat (count - read.size))
    if more.isEmpty then return read
    else readBytes input count (read ++ more)

/-- Writes objects one after the other. -/
def writeAll (output : IO.FS.Stream) (objects : List Json) : IO Unit := do
  for json in objects do
    output.putStr (frame json.render)
  output.flush

/-- Serves a connection until it ends. -/
partial def serve (input output : IO.FS.Stream) (c : Connection) : IO Unit := do
  match ← readHeader input with
  | none => return ()
  | some header =>
    let bytes ← readBytes input ((frameLength? header).getD 0) ByteArray.empty
    let now ← IO.monoMsNow
    let (c, objects) := c.receive none (.still now) ((String.fromUTF8? bytes).bind Json.parse?)
    writeAll output objects
    if c = .ended then return () else serve input output c

end Flowline.Main

def main (arguments : List String) : IO UInt32 := do
  match Flowline.Invocation.parse arguments with
  | .error e =>
    IO.eprintln (e.message ++ "\n\n" ++ Flowline.usageLine)
    return 2
  | .ok .help =>
    IO.println Flowline.helpText
    return 0
  | .ok .version =>
    IO.println Flowline.programVersion
    return 0
  | .ok (.serve logLevel) =>
    if Flowline.Invocation.isVerbose logLevel then
      IO.eprintln "Starting dataflow-lsp server"
    Flowline.Main.serve (← IO.getStdin) (← IO.getStdout) .waiting
    return 0
