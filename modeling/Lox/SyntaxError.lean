import Lox.Token
namespace Lox

inductive Complaint where
  | noExpression
  | noVariableName
  | openDeclaration
  | openPrint
  | openExpression
  | noGroup
  | openGroup
  | malformedNumber
  | malformedString
  | tooMuchNesting
deriving DecidableEq, Repr

def Complaint.message : Complaint → String
  | noExpression => "Expect expression."
  | noVariableName => "Expect variable name."
  | openDeclaration => "Expect ';' after variable declaration."
  | openPrint => "Expect ';' after value."
  | openExpression => "Expect ';' after expression."
  | noGroup => "Expect '('."
  | openGroup => "Expect ')' after expression."
  | malformedNumber => "Malformed number literal."
  | malformedString => "Malformed string literal."
  | tooMuchNesting => "Too much nesting."

/-- A statement that cannot be read, at the first token that does not fit, or an assignment to something
that is not a name, at its equals sign. Only the first kind costs the statement. -/
inductive SyntaxError where
  | unexpected (token : Token) (why : Complaint)
  | invalidTarget (equals : Token)
deriving BEq, Repr

namespace SyntaxError

def token : SyntaxError → Token
  | unexpected token _ => token
  | invalidTarget equals => equals

def line (e : SyntaxError) : Nat := e.token.line

def place (t : Token) : String :=
  if t.kind = .eof then "at end" else "at '" ++ t.lexeme ++ "'"

def message : SyntaxError → String
  | unexpected token why => "Error " ++ place token ++ ": " ++ why.message
  | invalidTarget equals => "Error " ++ place equals ++ ": Invalid assignment target"

end SyntaxError

end Lox
