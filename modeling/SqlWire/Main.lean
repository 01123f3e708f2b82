import SqlWire.Console
/-!
# The program

Runs the command line over a recorded exchange: what the server sends comes from standard input,
and the client's octets go to standard output. Records go to the standard error stream, and no log
files are written.
-/
open SqlWire

/-- Reads a stream to its end. -/
partial def readToEnd (input : IO.FS.Stream) (soFar : ByteArray) : IO ByteArray := do
  let piece ← input.read 65536
  if piece.isEmpty then return soFar else readToEnd input (soFar ++ piece)

/-- The content of a file, if it can be read. -/
def contentOf (path : String) : IO (Option String) := do
  try
    return some (← IO.FS.readFile path)
  catch _ => return none

def main (args : List String) : IO UInt32 := do
  let incoming := (← readToEnd (← IO.getStdin) ByteArray.empty).toList
  let (file, path) ← match args.head? with
    | none | some "" => pure (some Console.exampleFile, "example.conf")
    | some path => pure (← contentOf path, path)
  let start : Console.State :=
    ⟨.idle Settings.initial (Transport.ofPeer incoming) (Journal.fresh 0), .start (.ofDirectories [])⟩
  let program := Path.ofText "bin/sqlwire".toList
  let (status, c) := match Console.run program file path (args[1]?.map .plain) none start with
    | .ok status s => (status, s.connection)
    | .error _ s => (1, s.connection)
  (← IO.getStdout).write ⟨c.session.transport.sentOctets.toArray⟩
  c.session.journal.records.reverse.forM fun r =>
    IO.eprintln s!"{Level.name r.level} {r.message}"
  return status.toUInt32
