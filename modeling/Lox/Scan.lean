import Lox.Double.Basic
import Lox.Piece
namespace Lox

inductive LexicalError where
  | strayChar (c : Char) (line : Nat)
  | openString (line : Nat)
deriving DecidableEq, Repr

namespace LexicalError

def line : LexicalError → Nat
  | strayChar _ line => line
  | openString line => line

def message : LexicalError → String
  | strayChar c _ => "Unexpected character: " ++ c.toString
  | openString _ => "Unterminated string"

end LexicalError

namespace Piece

def newlines (p : Piece) : Nat := p.chars.count '\n'

def lexeme (p : Piece) : String := String.ofList p.chars

def token? (p : Piece) (line : Nat) : Option Token :=
  match p with
  | symbol kind _ => some ⟨kind, p.lexeme, none, line⟩
  | string body => some ⟨.string, p.lexeme, some (.text (String.ofList body)), line⟩
  | number whole fraction =>
    some ⟨.number, p.lexeme, some (.number (Decimal.ofDigits whole fraction).toDouble), line⟩
  | word _ =>
    match keyword? p.lexeme with
    | some kind => some ⟨kind, p.lexeme, none, line⟩
    | none => some ⟨.identifier, p.lexeme, some (.text p.lexeme), line⟩
  | blank _ | comment _ | unclosed _ | stray _ => none

def error? (p : Piece) (line : Nat) : Option LexicalError :=
  match p with
  | stray c => some (.strayChar c line)
  | unclosed _ => some (.openString line)
  | _ => none

end Piece

def numbered (line : Nat) : List Piece → List (Piece × Nat)
  | [] => []
  | p :: ps => (p, line + p.newlines) :: numbered (line + p.newlines) ps

structure Scan where
  tokens : List Token
  errors : List LexicalError

namespace Scan

def ofSource (source : String) : Scan :=
  let text := source.toList
  let placed := numbered 1 (pieces text)
  { tokens := placed.filterMap (fun (p, line) => p.token? line) ++ [.atEnd (1 + text.count '\n')]
    errors := placed.filterMap (fun (p, line) => p.error? line) }

end Scan

end Lox
