import Lox.State
namespace Lox

inductive Fault where
  | notNumber (op : Token)
  | notNumbers (op : Token) (lhs rhs : Value)
  | notAddable (op : Token) (lhs rhs : Value)
  | divisionByZero (op : Token)
  | undefinedVariable (name : Token)
  | unknownOperator (op : Token)
  | writeFailed (keyword : Token) (failure : WriteFailure)
deriving Repr

namespace Fault

def token : Fault → Token
  | notNumber op | notNumbers op _ _ | notAddable op _ _ | divisionByZero op | unknownOperator op => op
  | undefinedVariable name => name
  | writeFailed keyword _ => keyword

def line (f : Fault) : Nat := f.token.line

def message : Fault → String
  | notNumber _ => "Operand must be a number."
  | notNumbers _ _ _ => "Operands must be numbers."
  | notAddable _ _ _ => "Operands must be number or string."
  | divisionByZero _ => "Division by zero."
  | undefinedVariable name => "Undefined variable '" ++ name.lexeme ++ "'."
  | unknownOperator op => "Unknown operator `" ++ op.lexeme ++ "`"
  | writeFailed _ failure => "Failed to write output: " ++ failure.message

end Fault

end Lox

namespace Lox.Operator

def unary (op : Token) (v : Value) : Except Fault Value :=
  match op.kind with
  | .bang => .ok (.bool !v.isTruthy)
  | .minus =>
    match v.number? with
    | some x => .ok (.number (-x))
    | none => .error (.notNumber op)
  | _ => .error (.unknownOperator op)

/-- Strings take numbers to either side of them, as they are displayed. -/
def add (op : Token) (lhs rhs : Value) : Except Fault Value :=
  match lhs, rhs with
  | .number x, .number y => .ok (.number (x + y))
  | .text s, .text t => .ok (.text (s ++ t))
  | .text s, .number y => .ok (.text (s ++ (Value.number y).display))
  | .number x, .text t => .ok (.text ((Value.number x).display ++ t))
  | _, _ => .error (.notAddable op lhs rhs)

def onNumbers (op : Token) (lhs rhs : Value) (f : Float → Float → Except Fault Value) :
    Except Fault Value :=
  match lhs.number?, rhs.number? with
  | some x, some y => f x y
  | _, _ => .error (.notNumbers op lhs rhs)

/-- Zero of either sign does not divide. -/
def divide (op : Token) (x y : Float) : Except Fault Value :=
  if y == 0 then .error (.divisionByZero op) else .ok (.number (x / y))

def arithmetic (op : Token) (lhs rhs : Value) : Except Fault Value :=
  onNumbers op lhs rhs fun x y =>
    match op.kind with
    | .minus => .ok (.number (x - y))
    | .star => .ok (.number (x * y))
    | .slash => divide op x y
    | _ => .error (.unknownOperator op)

def ordering (op : Token) (lhs rhs : Value) : Except Fault Value :=
  onNumbers op lhs rhs fun x y =>
    match op.kind with
    | .greater => .ok (.bool (x > y))
    | .greaterEqual => .ok (.bool (x ≥ y))
    | .less => .ok (.bool (x < y))
    | .lessEqual => .ok (.bool (x ≤ y))
    | _ => .error (.unknownOperator op)

def binary (op : Token) (lhs rhs : Value) : Except Fault Value :=
  match op.kind with
  | .plus => add op lhs rhs
  | .minus | .star | .slash => arithmetic op lhs rhs
  | .greater | .greaterEqual | .less | .lessEqual => ordering op lhs rhs
  | .equalEqual => .ok (.bool (lhs == rhs))
  | .bangEqual => .ok (.bool (lhs != rhs))
  | _ => .error (.unknownOperator op)

end Lox.Operator
