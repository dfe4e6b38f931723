import Lox.Pattern.Basic
import Lox.Pattern.Flaw
import Lox.Text.Property
namespace Lox.Pattern

open Text

structure Modes where
  caseless : Bool
  manyLines : Bool
  dotAll : Bool
  crlf : Bool
  unicode : Bool
  verbose : Bool
deriving DecidableEq, Repr

def Modes.initial : Modes := ⟨false, false, false, false, true, false⟩

structure Source where
  total : Nat
  rest : List Char
  modes : Modes
  names : List (String × Span)
  late : Option Flaw

abbrev Reading := StateT Source (Except Flaw)

namespace Reading

def place : Reading Nat := return (← get).total - (← get).rest.length

def next? : Reading (Option Char) := return (← get).rest.head?

def second? : Reading (Option Char) := return (← get).rest[1]?

def atEnd : Reading Bool := return (← get).rest.isEmpty

def modes : Reading Modes := return (← get).modes

def setModes (m : Modes) : Reading Unit := modify fun s => { s with modes := m }

def failAt (cause : Cause) (start stop : Nat) : Reading α := throw ⟨cause, ⟨start, stop⟩, none⟩

def failFrom (cause : Cause) (start : Nat) : Reading α := do failAt cause start (← place)

def failHere (cause : Cause) : Reading α := do failFrom cause (← place)

def failNext (cause : Cause) : Reading α := do
  let i ← place
  failAt cause i (i + 1)

def regretAt (cause : Cause) (start stop : Nat) : Reading Unit :=
  modify fun s => { s with late := s.late.or (some ⟨cause, ⟨start, stop⟩, none⟩) }

def regret (cause : Cause) (start : Nat) : Reading Unit := do regretAt cause start (← place)

def skipSpace (inComment : Bool) : List Char → List Char
  | [] => []
  | c :: cs =>
    if inComment then skipSpace (c ≠ '\n') cs
    else if isBlank c then skipSpace false cs
    else if c = '#' then skipSpace true cs
    else c :: cs

def bump : Reading Unit := modify fun s => { s with rest := s.rest.tail }

def bumpSpace : Reading Unit := modify fun s =>
  if s.modes.verbose then { s with rest := skipSpace false s.rest } else s

def step : Reading Unit := do
  bump
  bumpSpace

def skip? (word : String) : Reading Bool := do
  let s ← get
  if word.toList.isPrefixOf s.rest then
    set { s with rest := s.rest.drop word.length }
    return true
  else return false

def manyUpTo (accept : Char → Bool) : Nat → Reading (List Char)
  | 0 => return []
  | n + 1 => do
    match ← next? with
    | none => return []
    | some c =>
      if accept c then
        step
        return c :: (← manyUpTo accept n)
      else return []

def many (accept : Char → Bool) : Reading (List Char) := do manyUpTo accept (← get).rest.length

def numberOf (base : Nat) (digits : List Char) : Nat :=
  digits.foldl (fun n c =>
    base * n + if c.isDigit then c.toNat - 48 else if 'a' ≤ c then c.toNat - 87 else c.toNat - 55) 0

def decimal : Reading (Except Flaw Nat) := do
  discard (many isBlank)
  let start ← place
  let digits ← many Char.isDigit
  let stop ← place
  discard (many isBlank)
  if digits.isEmpty then return .error ⟨.noCount, ⟨start, stop⟩, none⟩
  let n := numberOf 10 digits
  if n < 4294967296 then return .ok n else return .error ⟨.badNumber, ⟨start, stop⟩, none⟩

def isHexDigit (c : Char) : Bool := c.isDigit || ('a' ≤ c && c ≤ 'f') || ('A' ≤ c && c ≤ 'F')

def hexDigits : Nat → Reading (List Char)
  | 0 => return []
  | n + 1 => do
    match ← next? with
    | none => failHere .escapeCut
    | some c =>
      if isHexDigit c then
        step
        return c :: (← hexDigits n)
      else failNext .notHexDigit

def scalar (digits : List Char) (start stop : Nat) : Reading Char := do
  let n := numberOf 16 digits
  if n.isValidChar then return Char.ofNat n else failAt .notScalar start stop

/-- The character by its number behind `x`, `u` or `U`: so many digits, or any number in braces; and whether
there were no braces. -/
def hexEscape (digits : Nat) : Reading (Char × Bool) := do
  step
  match ← next? with
  | none => failHere .escapeCut
  | some '\x7b' =>
    let brace ← place
    step
    let digits ← many isHexDigit
    let stop ← place
    match ← next? with
    | none => failFrom .escapeCut brace
    | some '\x7d' =>
      step
      if digits.isEmpty then failFrom .noHexDigits brace
      return (← scalar digits (brace + 1) stop, false)
    | some _ => failNext .notHexDigit
  | some _ =>
    let start ← place
    let digits ← hexDigits digits
    return (← scalar digits start (← place), true)

/-- Without separators, in small letters, and without a leading `is`. -/
def looseName (name : List Char) : String :=
  let plain (cs : List Char) :=
    (cs.filter fun c => c.toNat < 128 && !(c = ' ' || c = '_' || c = '-')).map Char.toLower
  if plain (name.take 2) = ['i', 's'] && name.take 2 ≠ [] then
    let short := plain (name.drop 2)
    if short = ['c'] then "isc" else String.ofList short
  else String.ofList (plain name)

/-- No property is known; three names are taken for values of one. -/
def propertyFlaw (name : List Char) : Cause :=
  if name.contains ':' || name.contains '=' then .unknownProperty
  else if ["cf", "sc", "lc"].contains (looseName name) then .unknownValue
  else .unknownProperty

/-- Lets letters stand for their other case, where the modes say so; that is done only for ASCII letters. -/
def withCase (s : CharSet) (start stop : Nat) : Reading CharSet := do
  let m ← modes
  if !m.caseless then return s
  if m.unicode then regretAt .noCases start stop
  return .caseless s

/-- A set that is to be negated; outside Unicode its complement would hold parts of characters. -/
def negatedIf (negated : Bool) (s : CharSet) (start : Nat) : Reading CharSet := do
  if negated then
    if !(← modes).unicode then regret .notText start
    return .complement s
  else return s

def propertySet (start : Nat) : Reading CharSet := do
  step
  let name ← match ← next? with
    | none => failHere .escapeCut
    | some '\x7b' =>
      step
      let name ← many (· ≠ '\x7d')
      if ← atEnd then failHere .escapeCut
      bump
      pure name
    | some '\\' => failNext .badCategory
    | some c =>
      step
      pure [c]
  regret (if (← modes).unicode then propertyFlaw name else .onlyAscii) start
  return .none

def letterSet (start : Nat) (letter : Char) : Reading CharSet := do
  bump
  if (← modes).unicode then
    regret .noLetterSets start
    return .none
  let s : CharSet := match letter.toLower with
    | 'd' => .asciiDigit
    | 's' => .asciiBlank
    | _ => .asciiWord
  negatedIf letter.isUpper s start

def asciiNamed? : String → Option CharSet
  | "alnum" => some (.ofRanges [('0', '9'), ('A', 'Z'), ('a', 'z')])
  | "alpha" => some (.ofRanges [('A', 'Z'), ('a', 'z')])
  | "ascii" => some (.range '\x00' '\x7f')
  | "blank" => some (.ofRanges [('\t', '\t'), (' ', ' ')])
  | "cntrl" => some (.ofRanges [('\x00', '\x1f'), ('\x7f', '\x7f')])
  | "digit" => some .asciiDigit
  | "graph" => some (.range '!' '~')
  | "lower" => some (.range 'a' 'z')
  | "print" => some (.range ' ' '~')
  | "punct" => some (.ofRanges [('!', '/'), (':', '@'), ('[', '\x60'), ('\x7b', '~')])
  | "space" => some .asciiBlank
  | "upper" => some (.range 'A' 'Z')
  | "word" => some .asciiWord
  | "xdigit" => some (.ofRanges [('0', '9'), ('A', 'F'), ('a', 'f')])
  | _ => none

def asciiSet? : Reading (Option CharSet) := do
  let start ← place
  let s ← get
  match s.rest with
  | '[' :: ':' :: body =>
    let (negated, body) := match body with
      | '^' :: others => (true, others)
      | _ => (false, body)
    let name := body.takeWhile (· ≠ ':')
    match body.drop name.length, asciiNamed? (String.ofList name) with
    | ':' :: ']' :: others, some set =>
      modify fun s => { s with rest := others }
      let set ← withCase set start (← place)
      return some (← negatedIf negated set start)
    | _, _ => return none
  | _ => return none

/-- What a backslash or a plain character stands for; a byte is a character written by two digits. -/
inductive Atom where
  | char (c : Char) (isByte : Bool)
  | edge (e : Edge)
  | set (s : CharSet)

def isWordEdgeChar (c : Char) : Bool := c.isAlpha || c = '-'

def wordEdgeName? (start : Nat) : Reading (Option WordEdge) := do
  let before ← get
  let brace ← place
  step
  let inside ← place
  match ← next? with
  | none => failFrom .wordEdgeCut start
  | some c =>
    if !isWordEdgeChar c then
      set before
      return none
    let name ← many isWordEdgeChar
    if (← next?) != some '\x7d' then failFrom .badWordEdge brace
    let stop ← place
    bump
    match String.ofList name with
    | "start" => return some .opening
    | "end" => return some .closing
    | "start-half" => return some .notBehind
    | "end-half" => return some .notAhead
    | _ => failAt .unknownWordEdge inside stop

def isPunctuation (c : Char) : Bool := c.toNat < 128 && !c.isAlphanum && c ≠ '<' && c ≠ '>'

def escape : Reading Atom := do
  let start ← place
  bump
  match ← next? with
  | none => failFrom .escapeCut start
  | some c =>
    let wordEdge (kind : WordEdge) : Reading Atom := return .edge (.word (!(← modes).unicode) kind)
    match c with
    | 'x' =>
      let (c, isByte) ← hexEscape 2
      return .char c isByte
    | 'u' => return .char (← hexEscape 4).1 false
    | 'U' => return .char (← hexEscape 8).1 false
    | 'p' | 'P' => return .set (← propertySet start)
    | 'd' | 's' | 'w' | 'D' | 'S' | 'W' => return .set (← letterSet start c)
    | _ =>
      bump
      if c.isDigit then failFrom .backreference start
      if isPunctuation c then return .char c false
      match c with
      | 'a' => return .char '\x07' false
      | 'f' => return .char '\x0c' false
      | 't' => return .char '\t' false
      | 'n' => return .char '\n' false
      | 'r' => return .char '\r' false
      | 'v' => return .char '\x0b' false
      | 'A' => return .edge .textStart
      | 'z' => return .edge .textEnd
      | 'b' =>
        if (← next?) == some '\x7b' then
          match ← wordEdgeName? start with
          | some kind => wordEdge kind
          | none => wordEdge .boundary
        else wordEdge .boundary
      | 'B' => wordEdge .interior
      | '<' => wordEdge .opening
      | '>' => wordEdge .closing
      | _ => failFrom .unknownEscape start

end Reading

end Lox.Pattern
