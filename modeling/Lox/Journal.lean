import Lox.Run
import Lox.Text.Property
namespace Lox

inductive Severity where
  | error | warn | info | debug | trace
deriving DecidableEq, Repr

namespace Severity

def rank : Severity → Nat
  | error => 1
  | warn => 2
  | info => 3
  | debug => 4
  | trace => 5

def name : Severity → String
  | error => "ERROR"
  | warn => "WARN"
  | info => "INFO"
  | debug => "DEBUG"
  | trace => "TRACE"

end Severity

structure Record where
  severity : Severity
  target : String
  message : String
deriving DecidableEq, Repr

namespace Record

def scanned (t : Token) : Record :=
  ⟨.trace, "lox_tree::parse::lex", s!"{t.line} - {t.kind.name}: {Text.quote t.lexeme}"⟩

def recovering (e : SyntaxError) : Record :=
  ⟨.debug, "lox_tree::parse::parser", s!"recovering from `{e.message}`"⟩

def parsed (p : Parse) : Record :=
  ⟨.debug, "lox_tree::parse::parser",
    s!"parsed {p.statements.length} statements with {p.errors.length} errors"⟩

def begun (s : Stmt) : Record := ⟨.trace, "lox_tree::interpret::interpreter", s.display⟩

def rejected (operator : String) (lhs rhs : Value) : Record :=
  ⟨.debug, "lox_tree::interpret::interpreter",
    s!"`{operator}` rejected {lhs.typeName} and {rhs.typeName}"⟩

def faulted (f : Fault) : Record :=
  ⟨.debug, "lox_tree::interpret::interpreter", s!"runtime error on line {f.line}: {f.message}"⟩

def reported (number : Nat) (d : Diagnostic) : Record :=
  ⟨.debug, "lox_tree::diagnostics", s!"diagnostic #{number} on line {d.line}"⟩

end Record

def Scan.records (s : Scan) : List Record :=
  (s.tokens.filter (·.kind != .eof)).map Record.scanned

/-- Misplaced equals signs need no recovery. -/
def Parse.records (p : Parse) : List Record :=
  (p.errors.filter fun e => match e with
    | .unexpected _ _ => true
    | .invalidTarget _ => false).map Record.recovering ++ [Record.parsed p]

def Fault.records (f : Fault) : List Record :=
  (match f with
    | .notNumbers op lhs rhs => [Record.rejected op.lexeme lhs rhs]
    | .notAddable _ lhs rhs => [Record.rejected "+" lhs rhs]
    | _ => []) ++ [Record.faulted f]

def Execution.records (e : Execution) : List Record :=
  e.begun.map Record.begun ++ e.fault.toList.flatMap Fault.records

inductive Entry where
  | record (r : Record)
  | report (d : Diagnostic)
  | line (text : String)
deriving Repr

/-- What a run tells about itself besides its output. Lexical errors are reported before the tokens are parsed. The
record that shows the statements as data is left out. -/
def Run.journal (r : Run) : List Entry :=
  r.scan.records.map .record ++ r.scan.errors.map (.report ·.diagnostic) ++
    r.parse.records.map .record ++ r.parse.errors.map (.report ·.diagnostic) ++
    r.execution.records.map .record ++ r.execution.fault.toList.map (.report ·.diagnostic)

namespace Entry

def isReport : Entry → Bool
  | report _ => true
  | _ => false

def record? : Entry → Option Record
  | record r => some r
  | _ => none

def announced (before : Nat) : List Entry → List Entry
  | [] => []
  | report d :: others => record (.reported (before + 1) d) :: report d :: announced (before + 1) others
  | other :: others => other :: announced before others

end Entry

end Lox
