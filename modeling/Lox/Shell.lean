import Lox.LogFilter
import Lox.Text.Cluster
namespace Lox.Shell

def program : String := "lox-tree"

def usage : String := "Usage: " ++ program ++ " [script]\n"

inductive Invocation where
  | lines
  | file (path : String)
  | usage
deriving DecidableEq, Repr

def Invocation.ofArgs : List String → Invocation
  | [] => lines
  | [path] => file path
  | _ => usage

inductive ReadFailure where
  | missing
  | directory
  | notText
  | other (text : String)
deriving DecidableEq, Repr

def ReadFailure.message : ReadFailure → String
  | missing => "No such file or directory (os error 2)"
  | directory => "Is a directory (os error 21)"
  | notText => "stream did not contain valid UTF-8"
  | other text => text

structure Transcript where
  exit : Nat
  output : ByteArray
  entries : List Entry

def logged (severity : Severity) (message : String) : Entry := .record ⟨severity, "lox_tree", message⟩

def opening (args : List String) : List Entry :=
  [logged .debug "dotenvy load with error path not found",
    logged .debug (Text.quoteAll (program :: args))]

def decode (contents : ByteArray) : Except ReadFailure String :=
  match String.fromUTF8? contents with
  | some text => .ok text
  | none => .error .notText

def verdict : Option RunError → Nat × List Entry
  | none => (0, [])
  | some (.static count) => (65, [logged .error s!"{count} error(s) before execution"])
  | some (.runtime fault) => (70, [logged .error ("Interpreter error: " ++ fault.message)])

def runFile (path : String) (contents : Except ReadFailure ByteArray) : Transcript :=
  let start := logged .info ("Read from file " ++ path)
  match contents.bind decode with
  | .error failure =>
    let complaint := s!"Cannot read `{path}`: {failure.message}"
    ⟨66, .empty, [start, logged .error complaint, .line complaint]⟩
  | .ok text =>
    let run := Run.ofSource text .fresh
    let (exit, last) := verdict run.error?
    ⟨exit, run.machine.console.written, start :: run.journal ++ last⟩

def lines : List UInt8 → List (List UInt8)
  | [] => []
  | b :: bytes =>
    if b = 10 then [] :: lines bytes
    else match lines bytes with
      | [] => [[b]]
      | line :: others => (b :: line) :: others

def texts : List (List UInt8) → List String × Bool
  | [] => ([], true)
  | line :: others =>
    match String.fromUTF8? line.toByteArray with
    | none => ([], false)
    | some text =>
      let (sources, complete) := texts others
      (text :: sources, complete)

def reading : Entry := .record ⟨.debug, "rustyline", "stdin is not a tty"⟩

def lineEntries (r : Run) : List Entry :=
  reading :: r.journal ++ r.error?.toList.map fun e => logged .debug e.message

def notTextLine : Entry :=
  .line ("Error: Io(Error \x7b kind: InvalidData, message: \"" ++ ReadFailure.notText.message ++ "\" \x7d)")

def sourceOf (line : String) : String := Text.trimEnd (Text.applyBackspaces line)

/-- A line that is not text ends the session. -/
def runLines (input : List (List UInt8)) : Transcript :=
  let (sources, complete) := texts input
  let session := Session.ofSources .fresh (sources.map sourceOf)
  let entries := logged .info "Running in REPL mode" :: session.runs.flatMap lineEntries ++ [reading]
  if complete then ⟨0, session.machine.console.written, entries⟩
  else ⟨1, session.machine.console.written, entries ++ [notTextLine]⟩

def run (args : List String) (fileAt : String → Except ReadFailure ByteArray) (input : ByteArray) :
    Transcript :=
  let t := match Invocation.ofArgs args with
    | .lines => runLines (lines input.toList)
    | .file path => runFile path (fileAt path)
    | .usage => ⟨64, usage.toByteArray, []⟩
  { t with entries := opening args ++ t.entries }

def Transcript.errorLines (settings : LogSettings) (t : Transcript) : List String :=
  settings.complaints.map (·.message) ++
    (Entry.announced 0 t.entries).flatMap (·.lines settings.filter)

end Lox.Shell
