import Lox.Parse
namespace Lox

/-- What becomes of the counter, with its value before. -/
inductive Event where
  | turn (depth : Nat)
  | nest (depth : Nat)
  | unnest (depth : Nat)
  | reset (depth : Nat)
deriving DecidableEq, Repr

/-- Parsing with a cursor that moves along the tokens and a counter of what is open around it. Both are bare numbers,
and it is up to the readers that they stay within bounds. Every position that the cursor has had is noted in its path,
and what becomes of the counter among its events, but no reader looks at these. -/
structure Cursor where
  buffer : Buffer
  position : Nat
  depth : Nat
  errors : List SyntaxError
  events : List Event
  path : List Nat

namespace Cursor

/-- Why nothing more is read: an error in a declaration, or no token where the cursor is. -/
inductive Stop where
  | refused (e : SyntaxError)
  | outOfRange

abbrev Reader := EStateM Stop Cursor

def current : Reader Token := fun c =>
  match c.buffer.toList[c.position]? with
  | some t => .ok t c
  | none => .error .outOfRange c

def previous : Reader (Option Token) := fun c =>
  if c.position = 0 then .ok none c
  else
    match c.buffer.toList[c.position - 1]? with
    | some t => .ok (some t) c
    | none => .error .outOfRange c

def isAtEnd : Reader Bool := return Parse.isEnd (← current)

def move (c : Cursor) : Cursor := { c with position := c.position + 1, path := c.path ++ [c.position + 1] }

/-- Gives the current token and moves behind it, but never behind an end. -/
def advance : Reader Token := do
  let t ← current
  if Parse.isEnd t then return t
  else
    modify move
    return t

def pass? (kinds : List Kind) : Reader (Option Token) := do
  if (← current).kind ∈ kinds then return some (← advance) else return none

def refuse (why : Complaint) : Reader α := do
  throw (.refused (.unexpected (← current) why))

def consume (kind : Kind) (why : Complaint) : Reader Token := do
  if (← current).kind = kind then advance else refuse why

def report (e : SyntaxError) : Reader Unit := modify fun c => { c with errors := c.errors ++ [e] }

def enter (c : Cursor) : Cursor := { c with depth := c.depth + 1, events := c.events ++ [.nest c.depth] }

def leave (c : Cursor) : Cursor := { c with depth := c.depth - 1, events := c.events ++ [.unnest c.depth] }

def nest : Reader Unit := do
  if maxNesting ≤ (← get).depth then refuse .tooMuchNesting else modify enter

def unnest : Reader Unit := modify leave

def nested (p : Reader α) : Reader α := do
  nest
  try p finally unnest

structure Inner where
  unary : Reader Expr
  assignment : Reader Expr

section
variable (inner : Inner)

def group : Reader Expr := do
  let _ ← consume .leftParen .noGroup
  let e ← nested inner.assignment
  let _ ← consume .rightParen .openGroup
  return .group e

def primary : Reader Expr := do
  let t ← current
  match Opening.of t with
  | .ok (.whole e) =>
    let _ ← advance
    return e
  | .ok .group => group inner
  | .ok .operator => refuse .noExpression
  | .error why => refuse why

def unary : Reader Expr := do
  match ← pass? [.bang, .minus] with
  | some op => return .unary op (← nested inner.unary)
  | none => primary inner

/-- Reads on behind an operand, at most as often as it is told. -/
def chainFrom (kinds : List Kind) (operand : Reader Expr) : Nat → Expr → Reader Expr
  | 0, lhs => return lhs
  | n + 1, lhs => do
    match ← pass? kinds with
    | none => return lhs
    | some op => chainFrom kinds operand n (.binary lhs op (← operand))

def chain (kinds : List Kind) (operand : Reader Expr) : Reader Expr := do
  let lhs ← operand
  chainFrom kinds operand (← get).buffer.tokens.length lhs

def binary : List Level → Reader Expr
  | [] => unary inner
  | level :: tighter => chain level.kinds (binary tighter)

def assignment : Reader Expr := do
  let target ← binary inner Level.loosestFirst
  match ← pass? [.equal] with
  | none => return target
  | some equals =>
    let e ← nested inner.assignment
    match target with
    | .global name => return .assign name e
    | _ =>
      report (.invalidTarget equals)
      return target

def declared : Reader Stmt := do
  let name ← consume .identifier .noVariableName
  match ← pass? [.equal] with
  | none =>
    let _ ← consume .semicolon .openDeclaration
    return .declare name none
  | some _ =>
    let e ← assignment inner
    let _ ← consume .semicolon .openDeclaration
    return .declare name (some e)

def declaration : Reader Stmt := do
  match ← pass? [.kwVar] with
  | some _ => declared inner
  | none =>
    match ← pass? [.kwPrint] with
    | some keyword =>
      let e ← assignment inner
      let _ ← consume .semicolon .openPrint
      return .print keyword e
    | none =>
      let e ← assignment inner
      let _ ← consume .semicolon .openExpression
      return .expr e

end

def readersWithin : Nat → Inner
  | 0 => ⟨refuse .tooMuchNesting, refuse .tooMuchNesting⟩
  | n + 1 => ⟨unary (readersWithin n), assignment (readersWithin n)⟩

/-- The counter lets nothing be nested deeper than these go, so they are what they call where something is nested:
`readers_eq`. -/
def readers : Inner := readersWithin (maxNesting + 1)

def skip : Nat → Reader Unit
  | 0 => return
  | n + 1 => do
    if ← isAtEnd then return
    else if (← previous).any (·.kind = .semicolon) then return
    else if (← current).kind.opensStatement then return
    else
      let _ ← advance
      skip n

/-- Whether a statement opens at the cursor, behind the token where the last one began. -/
def opensBehind (start : Nat) : Reader Bool := do
  if start < (← get).position then return (← current).kind.opensStatement else return false

def restart (c : Cursor) : Cursor := { c with depth := 0, events := c.events ++ [.reset c.depth] }

def synchronize (start : Nat) : Reader Unit := do
  modify restart
  if ← opensBehind start then return
  else
    let _ ← advance
    skip (← get).buffer.tokens.length

def begun (c : Cursor) : Cursor := { c with events := c.events ++ [.turn c.depth] }

def turn : Reader (Option Stmt) := do
  modify begun
  let start := (← get).position
  try some <$> declaration readers
  catch
    | .outOfRange => throw .outOfRange
    | .refused e =>
      report e
      synchronize start
      pure none

def turns : Nat → Reader (List Stmt)
  | 0 => return []
  | n + 1 => do
    if ← isAtEnd then return []
    else
      let s ← turn
      return s.toList ++ (← turns n)

def ofTokens (ts : List Token) : Cursor := ⟨Buffer.ofTokens ts, 0, 0, [], [], [0]⟩

def parse (ts : List Token) : EStateM.Result Stop Cursor (List Stmt) :=
  turns (Buffer.ofTokens ts).tokens.length (ofTokens ts)

end Cursor

end Lox
