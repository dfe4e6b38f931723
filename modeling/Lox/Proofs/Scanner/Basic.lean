import Lox.Proofs.Stateful
import Lox.Scan
namespace Lox

/-- Scanning with two marks on a text: where a lexeme begins, and how far reading has come. They are bare numbers, and
it is up to the scanner that they stay within the text. What is cut out of the text, what is read as a number, and each
place where the two marks have stood is noted, but the scanner does not look at its notes. -/
structure Scanner where
  text : List Char
  start : Nat
  current : Nat
  line : Nat
  tokens : List Token
  errors : List LexicalError
  cuts : List (Nat × Nat)
  numerals : List (List Char)
  marks : List (Nat × Nat)

namespace Scanner

/-- A mark is beyond the text, or before another one that it should be behind. -/
structure OutOfRange

abbrev Step := EStateM OutOfRange Scanner

def peek? (s : Scanner) : Option Char := s.text[s.current]?

def peekNext? (s : Scanner) : Option Char := s.text[s.current + 1]?

def slice? (s : Scanner) (a b : Nat) : Option (List Char) :=
  if a ≤ b ∧ b ≤ s.text.length then some ((s.text.take b).drop a) else none

def begun (s : Scanner) : Scanner := { s with start := s.current, marks := s.marks ++ [(s.current, s.current)] }

def forward (s : Scanner) : Scanner :=
  { s with current := s.current + 1, marks := s.marks ++ [(s.start, s.current + 1)] }

def newline (s : Scanner) : Scanner := { s with line := s.line + 1 }

def emit (t : Token) (s : Scanner) : Scanner := { s with tokens := s.tokens ++ [t] }

def complain (e : LexicalError) (s : Scanner) : Scanner := { s with errors := s.errors ++ [e] }

def noteCut (a b : Nat) (s : Scanner) : Scanner := { s with cuts := s.cuts ++ [(a, b)] }

def noteNumeral (numeral : List Char) (s : Scanner) : Scanner := { s with numerals := s.numerals ++ [numeral] }

def advance : Step Char := do
  let c ← look peek? ⟨⟩
  modify forward
  return c

def passes? (expected : Char) : Step Bool := do
  if (← get).peek? = some expected then
    modify forward
    return true
  else return false

def cut (a b : Nat) : Step (List Char) := do
  modify (noteCut a b)
  look (·.slice? a b) ⟨⟩

def pushLiteral (kind : Kind) (literal : Option Literal) : Step Unit := do
  let s ← get
  let spelling ← cut s.start s.current
  modify (emit ⟨kind, String.ofList spelling, literal, s.line⟩)

def push (kind : Kind) : Step Unit := pushLiteral kind none

def pushEither (next : Char) (double single : Kind) : Step Unit := do
  if ← passes? next then push double else push single

theorem current_lt_of_peek? {s : Scanner} (h : s.peek? = some c) : s.current < s.text.length :=
  (List.getElem?_eq_some_iff.mp h).1

def passWhile (f : Char → Bool) (s : Scanner) : EStateM.Result OutOfRange Scanner Unit :=
  if s.peek?.any f then passWhile f s.forward else .ok () s
termination_by s.text.length - s.current
decreasing_by
  obtain ⟨c, hc, -⟩ := (Option.any_eq_true _ _).mp ‹_›
  have hlt := current_lt_of_peek? hc
  simp only [forward]
  omega

def passQuoted (s : Scanner) : EStateM.Result OutOfRange Scanner Bool :=
  match _ : s.peek? with
  | none => .ok false s
  | some c =>
    if c = '"' then .ok true s
    else passQuoted (if c = '\n' then s.newline else s).forward
termination_by s.text.length - s.current
decreasing_by
  have hlt := current_lt_of_peek? ‹_›
  split <;> simp only [forward, newline] <;> omega

def string : Step Unit := do
  if ← passQuoted then
    modify forward
    let s ← get
    -- were there no quote before the mark, the cut would begin behind its own end
    let content ← cut (s.start + 1) (s.current - 1)
    pushLiteral .string (some (.text (String.ofList content)))
  else modify fun s => s.complain (.openString s.line)

def passFraction : Step Unit := do
  let s ← get
  if s.peek? = some '.' ∧ s.peekNext?.any Char.isDigit then
    modify forward
    passWhile Char.isDigit
  else return

section
variable (parse : String → Option Float)

/-- A numeral that cannot be read counts as zero. -/
def pushNumeral : Step Unit := do
  let s ← get
  let numeral ← cut s.start s.current
  modify (noteNumeral numeral)
  pushLiteral .number (some (.number ((parse (String.ofList numeral)).getD 0)))

def number : Step Unit := do
  passWhile Char.isDigit
  passFraction
  pushNumeral parse

def pushWord : Step Unit := do
  let s ← get
  let letters ← cut s.start s.current
  match keyword? (String.ofList letters) with
  | some kind => push kind
  | none => pushLiteral .identifier (some (.text (String.ofList letters)))

def word : Step Unit := do
  passWhile Piece.isWordChar
  pushWord

def scanFrom (c : Char) : Step Unit :=
  if c = '/' then do
    if ← passes? '/' then passWhile (· != '\n') else push .slash
  else
    match Piece.symbol? c, Piece.symbolEqual? c with
    | some single, some double => pushEither '=' double single
    | some single, none => push single
    | none, _ =>
      if c = '\n' then modify newline
      else if Piece.isBlank c then return
      else if c = '"' then string
      else if c.isDigit then number parse
      else if Piece.isWordStart c then word
      else modify fun s => s.complain (.strayChar c s.line)

def scanToken : Step Unit := do
  let c ← advance
  scanFrom parse c

def atEnd : Step Bool := return (← get).text.length ≤ (← get).current

def round : Step Unit := do
  modify begun
  scanToken parse

def rounds : Nat → Step Unit
  | 0 => return
  | n + 1 => do
    if ← atEnd then return
    else
      round parse
      rounds n

def scan (n : Nat) : Step Unit := do
  rounds parse n
  modify fun s : Scanner => s.emit (.atEnd s.line)

end

def ofSource (source : String) : Scanner := ⟨source.toList, 0, 0, 1, [], [], [], [], [(0, 0)]⟩

end Scanner

end Lox
