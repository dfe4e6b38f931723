import Lox.Double.Basic
import Lox.Token
namespace Lox

/-- Numbers compare as IEEE doubles; values of different types are never equal. -/
inductive Value where
  | nil
  | bool (b : Bool)
  | number (x : Float)
  | text (s : String)
deriving BEq, Repr

namespace Value

def display : Value → String
  | nil => "nil"
  | bool b => if b then "true" else "false"
  | number x => Double.text x
  | text s => s

def isTruthy : Value → Bool
  | nil => false
  | bool b => b
  | _ => true

def number? : Value → Option Float
  | number x => some x
  | _ => none

def typeName : Value → String
  | nil => "nil"
  | bool _ => "bool"
  | number _ => "number"
  | text _ => "string"

end Value

inductive Expr where
  | scalar (value : Value)
  | group (inner : Expr)
  | unary (op : Token) (operand : Expr)
  | binary (lhs : Expr) (op : Token) (rhs : Expr)
  | global (name : Token)
  | assign (name : Token) (value : Expr)
deriving BEq, Repr

inductive Stmt where
  | expr (e : Expr)
  | print (keyword : Token) (e : Expr)
  | declare (name : Token) (initial : Option Expr)
deriving BEq, Repr

def Expr.display : Expr → String
  | scalar value => value.display
  | group inner => "(group " ++ inner.display ++ ")"
  | unary op operand => "(" ++ op.lexeme ++ " " ++ operand.display ++ ")"
  | binary lhs op rhs => "(" ++ op.lexeme ++ " " ++ lhs.display ++ " " ++ rhs.display ++ ")"
  | global name => "(variable " ++ name.lexeme ++ ")"
  | assign name value => "(assign " ++ name.lexeme ++ " " ++ value.display ++ ")"

def Stmt.display : Stmt → String
  | expr e => "(expr " ++ e.display ++ ")"
  | print _ e => "(print " ++ e.display ++ ")"
  | declare name none => "(var " ++ name.lexeme ++ ")"
  | declare name (some e) => "(var " ++ name.lexeme ++ " " ++ e.display ++ ")"

end Lox
