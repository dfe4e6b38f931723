import Lox.Machine
import Lox.Parse
import Lox.Scan
namespace Lox

structure Diagnostic where
  line : Nat
  message : String
deriving DecidableEq, Repr

def Diagnostic.text (d : Diagnostic) : String := s!"[line: {d.line}]: {d.message}"

def LexicalError.diagnostic (e : LexicalError) : Diagnostic := ⟨e.line, e.message⟩

def SyntaxError.diagnostic (e : SyntaxError) : Diagnostic := ⟨e.line, e.message⟩

def Fault.diagnostic (f : Fault) : Diagnostic := ⟨f.line, f.message⟩

inductive RunError where
  | static (count : Nat)
  | runtime (fault : Fault)

def RunError.message : RunError → String
  | static count => s!"{count} lexical or syntax error(s)"
  | runtime fault => "Runtime error: " ++ fault.message

structure Run where
  scan : Scan
  parse : Parse
  execution : Execution

namespace Run

def ofSource (source : String) (m : Machine) : Run :=
  let scan := Scan.ofSource source
  let parse := Parse.ofTokens scan.tokens
  let clean := scan.errors.isEmpty && parse.errors.isEmpty
  ⟨scan, parse, if clean then m.exec parse.statements else ⟨m, [], none⟩⟩

def staticErrors (r : Run) : Nat := r.scan.errors.length + r.parse.errors.length

def machine (r : Run) : Machine := r.execution.machine

def error? (r : Run) : Option RunError :=
  if r.staticErrors = 0 then r.execution.fault.map .runtime else some (.static r.staticErrors)

def diagnostics (r : Run) : List Diagnostic :=
  r.scan.errors.map (·.diagnostic) ++ r.parse.errors.map (·.diagnostic) ++
    r.execution.fault.toList.map (·.diagnostic)

end Run

/-- Sources run in turn on one machine, each whatever became of those before it. -/
structure Session where
  runs : List Run
  machine : Machine

def Session.ofSources (m : Machine) : List String → Session
  | [] => ⟨[], m⟩
  | source :: others =>
    let run := Run.ofSource source m
    let s := ofSources run.machine others
    ⟨run :: s.runs, s.machine⟩

example : (Run.ofSource "var x = 1; print x + 2 * 3;" .fresh).machine.console.written = "7\n".toByteArray := by
  decide +kernel

example : (Run.ofSource "print 1; print ;" .fresh).machine.console.written = .empty := by
  decide +kernel

example : (Run.ofSource "print -y;" .fresh).diagnostics = [⟨1, "Undefined variable 'y'."⟩] := by
  decide +kernel

end Lox
