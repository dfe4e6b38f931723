namespace Lox.Pattern

inductive Cause where
  | badClassMember
  | reversedRange
  | badRangeEnd
  | openClass
  | badNumber
  | noHexDigits
  | notScalar
  | notHexDigit
  | escapeCut
  | unknownEscape
  | danglingNegation
  | repeatedFlag
  | repeatedNegation
  | flagsCut
  | unknownFlag
  | repeatedName
  | noName
  | badName
  | nameCut
  | openGroup
  | strayClose
  | reversedCount
  | noCount
  | openCount
  | nothingToRepeat
  | badWordEdge
  | unknownWordEdge
  | wordEdgeCut
  | badCategory
  | backreference
  | lookAround
  | tooDeep
  | onlyAscii
  | notText
  | unknownProperty
  | unknownValue
  | noLetterSets
  | noCases
deriving DecidableEq, Repr

def Cause.message : Cause → String
  | badClassMember => "invalid escape sequence found in character class"
  | reversedRange => "invalid character class range, the start must be <= the end"
  | badRangeEnd => "invalid range boundary, must be a literal"
  | openClass => "unclosed character class"
  | badNumber => "decimal literal invalid"
  | noHexDigits => "hexadecimal literal empty"
  | notScalar => "hexadecimal literal is not a Unicode scalar value"
  | notHexDigit => "invalid hexadecimal digit"
  | escapeCut => "incomplete escape sequence, reached end of pattern prematurely"
  | unknownEscape => "unrecognized escape sequence"
  | danglingNegation => "dangling flag negation operator"
  | repeatedFlag => "duplicate flag"
  | repeatedNegation => "flag negation operator repeated"
  | flagsCut => "expected flag but got end of regex"
  | unknownFlag => "unrecognized flag"
  | repeatedName => "duplicate capture group name"
  | noName => "empty capture group name"
  | badName => "invalid capture group character"
  | nameCut => "unclosed capture group name"
  | openGroup => "unclosed group"
  | strayClose => "unopened group"
  | reversedCount => "invalid repetition count range, the start must be <= the end"
  | noCount => "repetition quantifier expects a valid decimal"
  | openCount => "unclosed counted repetition"
  | nothingToRepeat => "repetition operator missing expression"
  | badWordEdge =>
    "special word boundary assertion is either unclosed or contains an invalid character"
  | unknownWordEdge =>
    "unrecognized special word boundary assertion, valid choices are: start, end, start-half or end-half"
  | wordEdgeCut =>
    "found either the beginning of a special word boundary or a bounded repetition on a \\b with an " ++
      "opening brace, but no closing brace"
  | badCategory => "invalid Unicode character class"
  | backreference => "backreferences are not supported"
  | lookAround => "look-around, including look-ahead and look-behind, is not supported"
  | tooDeep => "exceed the maximum number of nested parentheses/brackets (250)"
  | onlyAscii => "Unicode not allowed here"
  | notText => "pattern can match invalid UTF-8"
  | unknownProperty => "Unicode property not found"
  | unknownValue => "Unicode property value not found"
  | noLetterSets =>
    "Unicode-aware Perl class not found (make sure the unicode-perl feature is enabled)"
  | noCases =>
    "Unicode-aware case insensitivity matching is not available (make sure the unicode-case feature " ++
      "is enabled)"

structure Span where
  start : Nat
  stop : Nat
deriving DecidableEq, Repr

/-- The span that cannot be read, and that of what it repeats if that is why. -/
structure Flaw where
  cause : Cause
  span : Span
  earlier : Option Span
deriving DecidableEq, Repr

/-- A part that holds other parts, with its span; what holds none is a leaf. -/
inductive Outline where
  | leaf
  | node (span : Span) (parts : List Outline)

def Outline.ofParts (span : Span) : List Outline → Outline
  | [] => leaf
  | [part] => part
  | parts => node span parts

mutual

/-- The first part with more parts around it than there is room for. -/
def Outline.tooDeep? (room : Nat) : Outline → Option Span
  | .leaf => none
  | .node span parts =>
    match room with
    | 0 => some span
    | less + 1 => Outline.firstTooDeep? less parts

def Outline.firstTooDeep? (room : Nat) : List Outline → Option Span
  | [] => none
  | part :: parts => (part.tooDeep? room).or (Outline.firstTooDeep? room parts)

end

structure LinePlace where
  line : Nat
  column : Nat
deriving DecidableEq, Repr

def LinePlace.ofPlace (cs : List Char) (place : Nat) : LinePlace :=
  (cs.take place).foldl (fun p c => if c = '\n' then ⟨p.line + 1, 0⟩ else ⟨p.line, p.column + 1⟩) ⟨0, 0⟩

/-- Lines without their ends, a return before a feed belonging to the end. -/
def linesOf (text : String) : List String :=
  let pieces := text.splitOn "\n"
  let ended := pieces.dropLast.map fun l => if l.endsWith "\r" then (l.dropEnd 1).toString else l
  match pieces.getLast? with
  | none | some "" => ended
  | some last => ended ++ [last]

namespace Flaw

def spans (f : Flaw) : List Span := f.earlier.toList ++ [f.span]

def marks : Nat → List (Nat × Nat) → String
  | _, [] => ""
  | from_, (start, stop) :: others =>
    let width := max 1 (stop - start)
    "".pushn ' ' (start - from_) ++ "".pushn '^' width ++ marks (max from_ start + width) others

def notes (f : Flaw) (pattern : String) : String :=
  let cs := pattern.toList
  let lines := linesOf pattern
  let count := lines.length + (if pattern.endsWith "\n" then 1 else 0)
  let width := if count ≤ 1 then 0 else (toString count).length
  let places := f.spans.map fun s => (LinePlace.ofPlace cs s.start, LinePlace.ofPlace cs s.stop)
  let indent := if width = 0 then 4 else width + 2
  String.join (lines.zipIdx.map fun (line, i) =>
    let number := toString (i + 1)
    let margin := if width = 0 then "    " else "".pushn ' ' (width - number.length) ++ number ++ ": "
    let here := places.filterMap fun (a, b) =>
      if a.line = i && b.line = i then some (a.column, b.column) else none
    margin ++ line ++ "\n" ++ (if here.isEmpty then "" else "".pushn ' ' indent ++ marks 0 here ++ "\n"))

def text (f : Flaw) (pattern : String) : String :=
  let cs := pattern.toList
  let notes := f.notes pattern
  if pattern.contains '\n' then
    let rule := "".pushn '~' 79 ++ "\n"
    let across := f.spans.filterMap fun s =>
      let a := LinePlace.ofPlace cs s.start
      let b := LinePlace.ofPlace cs s.stop
      if a.line = b.line then none
      else some (s!"on line {a.line + 1} (column {a.column + 1}) through line {b.line + 1} " ++
        s!"(column {b.column})\n")
    "regex parse error:\n" ++ rule ++ notes ++ rule ++ String.join across ++ "error: " ++ f.cause.message
  else "regex parse error:\n" ++ notes ++ "error: " ++ f.cause.message

end Flaw

end Lox.Pattern
