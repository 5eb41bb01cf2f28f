import Lalr.CommandLine.Answer

/-!
# The command

Reads the files that a request names, writes the answer, and ends with its code.
-/

namespace Lalr.CommandLine

/-- How the command is to be called. -/
def usage : String :=
  "usage: shiftreduce [-h] [--start START] [--lex] [--table] [--propagate-positions] [-v]\n"
    ++ "                   grammar [text ...]\n"

/-- Reads a file, or finds out why it cannot be read. -/
def readSource (name : String) : IO (Except Unreadable String) := do
  try return .ok (← IO.FS.readFile name)
  catch reason =>
    match reason with
    | .permissionDenied .. => return .error .forbidden
    | .inappropriateType .. => return .error .directory
    | _ => return .error .missing

/-- Reads a stream to its end. -/
partial def readAll (stream : IO.FS.Stream) (read : String) : IO String := do
  let next ← stream.getLine
  if next.isEmpty then return read else readAll stream (read ++ next)

/-- Answers a request on the standard streams. -/
def run (request : Request) : IO UInt32 := do
  let source ← readSource request.grammar
  let input ← if request.readsInput then readAll (← IO.getStdin) "" else pure ""
  match answer request source input with
  | .ok reply =>
    IO.eprint reply.complaints
    IO.print reply.output
    return reply.code.toUInt32
  | .error failure =>
    IO.eprintln (failure.message [])
    return 1

end Lalr.CommandLine

/-- Parses a text with a compiled grammar and prints the tree. -/
def main (arguments : List String) : IO UInt32 := do
  match Lalr.CommandLine.Request.ofArguments arguments with
  | .ok request => Lalr.CommandLine.run request
  | .error .help =>
    IO.print Lalr.CommandLine.usage
    return 0
  | .error .misuse =>
    IO.eprint Lalr.CommandLine.usage
    return 2
