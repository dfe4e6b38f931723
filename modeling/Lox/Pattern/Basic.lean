import Lox.Text.Category
namespace Lox.Pattern

open Text

inductive CharSet where
  | range (low high : Char)
  | any
  /-- With every letter its other case, among the ASCII letters. -/
  | caseless (s : CharSet)
  | complement (s : CharSet)
  | union (a b : CharSet)
  | common (a b : CharSet)
deriving DecidableEq, Repr

namespace CharSet

def single (c : Char) : CharSet := range c c

def none : CharSet := complement any

def ofRanges (ranges : List (Char × Char)) : CharSet :=
  ranges.foldr (fun (low, high) s => union (range low high) s) none

def difference (a b : CharSet) : CharSet := common a (complement b)

def asciiDigit : CharSet := range '0' '9'

def asciiWord : CharSet := ofRanges [('0', '9'), ('A', 'Z'), ('_', '_'), ('a', 'z')]

def asciiBlank : CharSet := ofRanges [('\t', '\r'), (' ', ' ')]

def contains : CharSet → Char → Bool
  | range low high, c => low ≤ c && c ≤ high
  | any, _ => true
  | caseless s, c => s.contains c || s.contains c.toLower || s.contains c.toUpper
  | complement s, c => !s.contains c
  | union a b, c => a.contains c || b.contains c
  | common a b, c => a.contains c && b.contains c

def extent : CharSet → Nat
  | range _ high => high.utf8Size
  | any => 12
  | caseless s => s.extent
  | complement any => 1
  | complement _ => 12
  | union a b => max a.extent b.extent
  | common a b => max a.extent b.extent

end CharSet

/-- Letters with their marks, digits, connectors, the two joiners, and letters in circles and squares. -/
def isWordChar (c : Char) : Bool :=
  (Category.ofChar c).isWord || c = '\u200c' || c = '\u200d' ||
    [(0x24b6, 0x24e9), (0x1f130, 0x1f149), (0x1f150, 0x1f169), (0x1f170, 0x1f189)].any
      fun (low, high) => low ≤ c.toNat && c.toNat ≤ high

def isAsciiWordChar (c : Char) : Bool := c.isAlphanum || c = '_'

end Lox.Pattern

namespace Lox

namespace Pattern

inductive WordEdge where
  | boundary | interior | opening | closing | notBehind | notAhead
deriving DecidableEq, Repr

inductive Edge where
  | textStart | textEnd
  | lineStart (crlf : Bool)
  | lineEnd (crlf : Bool)
  | word (ascii : Bool) (kind : WordEdge)
deriving DecidableEq, Repr

def WordEdge.holds : WordEdge → (behind ahead : Bool) → Bool
  | boundary, behind, ahead => behind != ahead
  | interior, behind, ahead => behind == ahead
  | opening, behind, ahead => !behind && ahead
  | closing, behind, ahead => behind && !ahead
  | notBehind, behind, _ => !behind
  | notAhead, _, ahead => !ahead

/-- Looks at the characters on both sides. With `crlf`, a return ends a line too, except before a feed. -/
def Edge.holds : Edge → (before after : Option Char) → Bool
  | textStart, before, _ => before.isNone
  | textEnd, _, after => after.isNone
  | lineStart crlf, before, after =>
    before.isNone || before == some '\n' || (crlf && before == some '\r' && after != some '\n')
  | lineEnd false, _, after => after.isNone || after == some '\n'
  | lineEnd true, before, after =>
    after.isNone || after == some '\r' || (after == some '\n' && before != some '\r')
  | word ascii kind, before, after =>
    let isWord := if ascii then isAsciiWordChar else isWordChar
    kind.holds (before.any isWord) (after.any isWord)

def Edge.places (e : Edge) (before : Option Char) : List Char → Nat
  | [] => (e.holds before none).toNat
  | c :: rest => (e.holds before (some c)).toNat + 2 * e.places (some c) rest

def CharSet.places (s : CharSet) : List Char → Nat
  | [] => 0
  | c :: rest => (s.contains c).toNat + 2 * s.places rest

def again (step : Nat → Nat) : Nat → Nat → Nat
  | 0, places => places
  | n + 1, places => again step n (step places)

def spread (step : Nat → Nat) : Nat → Nat → Nat
  | 0, places => places
  | n + 1, places =>
    let more := places ||| step places
    if more = places then places else spread step n more

end Pattern

inductive Pattern where
  | empty
  | one (s : Pattern.CharSet)
  | edge (e : Pattern.Edge)
  | both (first second : Pattern)
  | either (a b : Pattern)
  | times (p : Pattern) (least : Nat) (most : Option Nat)
deriving DecidableEq, Repr

namespace Pattern

/-- The places that a pattern leads to from some places: before the first character, between the characters and behind
the last, numbered from zero, a set of them being a number with those bits. A round that moves nowhere changes nothing,
so more rounds than there are places make no difference. -/
def reach (text : List Char) : Pattern → Nat → Nat
  | empty, places => places
  | one s, places => 2 * (places &&& s.places text)
  | edge e, places => places &&& e.places none text
  | both first second, places => second.reach text (first.reach text places)
  | either a b, places => a.reach text places ||| b.reach text places
  | times p least most, places =>
    let rounds := text.length + 1
    let start := again (fun places => p.reach text places) (min least rounds) places
    let more := match most with
      | none => rounds
      | some n => min (n - least) rounds
    spread (fun places => p.reach text places) more start

def foundIn (p : Pattern) (text : String) : Bool :=
  let cs := text.toList
  p.reach cs ((1 <<< (cs.length + 1)) - 1) ≠ 0

def isPoint : Pattern → Bool
  | empty => true
  | one _ => false
  | edge _ => true
  | both a b => a.isPoint && b.isPoint
  | either a b => a.isPoint && b.isPoint
  | times p _ most => p.isPoint || most = some 0

def extent : Pattern → Nat
  | empty => 1
  | one s => s.extent
  | edge _ => 1
  | both first second => first.extent + second.extent
  | either a b => a.extent + b.extent + 1
  | times p least most =>
    if p.isPoint then p.extent + 1
    else match most with
      | none => least * p.extent + p.extent + 1
      | some most => least * p.extent + (most - least) * (p.extent + 1)

/-- Looks at words of all scripts. What is repeated no times is not looked at. -/
def looksAtWords : Pattern → Bool
  | empty => false
  | one _ => false
  | edge (.word ascii _) => !ascii
  | edge _ => false
  | both a b => a.looksAtWords || b.looksAtWords
  | either a b => a.looksAtWords || b.looksAtWords
  | times p _ most => p.looksAtWords && most != some 0

def room : Nat := 327680

end Pattern

end Lox
