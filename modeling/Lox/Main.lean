import Lox.Shell
namespace Lox.Shell

def failureOf : IO.Error → ReadFailure
  | .noFileOrDirectory .. => .missing
  | .inappropriateType .. => .directory
  | e => .other (toString e)

def readPath (path : String) : IO (Except ReadFailure ByteArray) := do
  try return .ok (← IO.FS.readBinFile path)
  catch e => return .error (failureOf e)

partial def readAll (input : IO.FS.Stream) (before : ByteArray) : IO ByteArray := do
  let chunk ← input.read 65536
  if chunk.isEmpty then return before
  readAll input (before ++ chunk)

end Lox.Shell

open Lox Lox.Shell

def main (args : List String) : IO UInt32 := do
  let settings := match ← IO.getEnv "RUST_LOG" with
    | some text => LogSettings.ofText text
    | none => .none
  let contents ← match Invocation.ofArgs args with
    | .file path => readPath path
    | _ => pure (.error .missing)
  let input ← match Invocation.ofArgs args with
    | .lines => readAll (← IO.getStdin) .empty
    | _ => pure .empty
  let t := run args (fun _ => contents) input
  (← IO.getStdout).write t.output
  (t.errorLines settings).forM IO.eprintln
  return t.exit.toUInt32
