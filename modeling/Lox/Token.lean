namespace Lox

inductive Kind where
  | leftParen | rightParen | leftBrace | rightBrace
  | comma | dot | minus | plus | semicolon | slash | star
  | bang | bangEqual | equal | equalEqual
  | greater | greaterEqual | less | lessEqual
  | identifier | string | number
  | kwAnd | kwClass | kwElse | kwFalse | kwFun | kwFor | kwIf | kwNil | kwOr
  | kwPrint | kwReturn | kwSuper | kwThis | kwTrue | kwVar | kwWhile
  | eof
deriving DecidableEq, Repr

namespace Kind

def name : Kind → String
  | leftParen => "LeftParen"
  | rightParen => "RightParen"
  | leftBrace => "LeftBrace"
  | rightBrace => "RightBrace"
  | comma => "Comma"
  | dot => "Dot"
  | minus => "Minus"
  | plus => "Plus"
  | semicolon => "Semicolon"
  | slash => "Slash"
  | star => "Star"
  | bang => "Bang"
  | bangEqual => "BangEqual"
  | equal => "Equal"
  | equalEqual => "EqualEqual"
  | greater => "Greater"
  | greaterEqual => "GreaterEqual"
  | less => "Less"
  | lessEqual => "LessEqual"
  | identifier => "Identifier"
  | string => "String"
  | number => "Number"
  | kwAnd => "And"
  | kwClass => "Class"
  | kwElse => "Else"
  | kwFalse => "False"
  | kwFun => "Fun"
  | kwFor => "For"
  | kwIf => "If"
  | kwNil => "Nil"
  | kwOr => "Or"
  | kwPrint => "Print"
  | kwReturn => "Return"
  | kwSuper => "Super"
  | kwThis => "This"
  | kwTrue => "True"
  | kwVar => "Var"
  | kwWhile => "While"
  | eof => "Eof"

def all : List Kind :=
  [leftParen, rightParen, leftBrace, rightBrace, comma, dot, minus, plus, semicolon, slash, star,
    bang, bangEqual, equal, equalEqual, greater, greaterEqual, less, lessEqual, identifier, string,
    number, kwAnd, kwClass, kwElse, kwFalse, kwFun, kwFor, kwIf, kwNil, kwOr, kwPrint, kwReturn,
    kwSuper, kwThis, kwTrue, kwVar, kwWhile, eof]

def ofName? (name : String) : Option Kind := all.find? (·.name == name)

/-- Keywords that open a statement: the parser takes up again before one of them. -/
def opensStatement : Kind → Bool
  | kwClass | kwFun | kwVar | kwFor | kwIf | kwWhile | kwPrint | kwReturn => true
  | _ => false

end Kind

def keywords : List (String × Kind) :=
  [("and", .kwAnd), ("class", .kwClass), ("else", .kwElse), ("false", .kwFalse),
    ("function", .kwFun), ("for", .kwFor), ("if", .kwIf), ("nil", .kwNil), ("or", .kwOr),
    ("print", .kwPrint), ("return", .kwReturn), ("super", .kwSuper), ("this", .kwThis),
    ("true", .kwTrue), ("var", .kwVar), ("while", .kwWhile)]

def keyword? (word : String) : Option Kind := keywords.lookup word

/-- What a token stands for beyond its kind. Numbers compare as IEEE doubles: `0` equals `-0`, and NaN
differs from itself. -/
inductive Literal where
  | text (s : String)
  | number (x : Float)
deriving BEq, Repr

structure Token where
  kind : Kind
  lexeme : String
  literal : Option Literal
  line : Nat
deriving BEq, Repr

def Token.atEnd (line : Nat) : Token := ⟨.eof, "", none, line⟩

end Lox
