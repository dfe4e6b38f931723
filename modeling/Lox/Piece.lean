import Lox.Token
namespace Lox

inductive Piece where
  | blank (c : Char)
  | comment (body : List Char)
  | symbol (kind : Kind) (spelling : List Char)
  | string (body : List Char)
  | number (whole fraction : List Char)
  | word (letters : List Char)
  /-- A quote that nothing closes, with all that follows it. -/
  | unclosed (body : List Char)
  | stray (c : Char)
deriving DecidableEq, Repr

namespace Piece

def chars : Piece → List Char
  | blank c => [c]
  | comment body => '/' :: '/' :: body
  | symbol _ spelling => spelling
  | string body => '"' :: (body ++ ['"'])
  | number whole [] => whole
  | number whole (d :: fraction) => whole ++ '.' :: d :: fraction
  | word letters => letters
  | unclosed body => '"' :: body
  | stray c => [c]

def isBlank (c : Char) : Bool := c == ' ' || c == '\t' || c == '\r' || c == '\n'

def isWordStart (c : Char) : Bool := c == '_' || c.isAlpha

def isWordChar (c : Char) : Bool := c == '_' || c.isAlphanum

def symbol? : Char → Option Kind
  | '(' => some .leftParen
  | ')' => some .rightParen
  | '{' => some .leftBrace
  | '}' => some .rightBrace
  | ',' => some .comma
  | '.' => some .dot
  | '-' => some .minus
  | '+' => some .plus
  | ';' => some .semicolon
  | '/' => some .slash
  | '*' => some .star
  | '!' => some .bang
  | '=' => some .equal
  | '>' => some .greater
  | '<' => some .less
  | _ => none

def symbolEqual? : Char → Option Kind
  | '!' => some .bangEqual
  | '=' => some .equalEqual
  | '>' => some .greaterEqual
  | '<' => some .lessEqual
  | _ => none

def quoted (cs : List Char) : Piece × List Char :=
  let body := cs.takeWhile (· != '"')
  match cs.dropWhile (· != '"') with
  | [] => (unclosed body, [])
  | _ :: rest => (string body, rest)

/-- A fraction needs a digit behind the point. -/
def numeral (d : Char) (cs : List Char) : Piece × List Char :=
  let whole := d :: cs.takeWhile Char.isDigit
  match cs.dropWhile Char.isDigit with
  | '.' :: f :: rest =>
    if f.isDigit then
      (number whole (f :: rest.takeWhile Char.isDigit), rest.dropWhile Char.isDigit)
    else (number whole [], '.' :: f :: rest)
  | rest => (number whole [], rest)

def operator (c : Char) (cs : List Char) : Piece × List Char :=
  match cs, symbolEqual? c, symbol? c with
  | '=' :: rest, some kind, _ => (symbol kind [c, '='], rest)
  | _, _, some kind => (symbol kind [c], cs)
  | _, _, none => (stray c, cs)

def first (c : Char) (cs : List Char) : Piece × List Char :=
  if isBlank c then (blank c, cs)
  else if c = '"' then quoted cs
  else if c.isDigit then numeral c cs
  else if isWordStart c then (word (c :: cs.takeWhile isWordChar), cs.dropWhile isWordChar)
  else if c = '/' ∧ cs.head? = some '/' then
    (comment (cs.tail.takeWhile (· != '\n')), cs.tail.dropWhile (· != '\n'))
  else operator c cs

theorem chars_quoted (cs : List Char) : (quoted cs).1.chars ++ (quoted cs).2 = '"' :: cs := by
  have whole := List.takeWhile_append_dropWhile (p := (· != '"')) (l := cs)
  unfold quoted
  split
  · next closed => simpa [chars, closed] using whole
  · next quote rest found =>
    have isQuote : quote = '"' := by
      have := List.head?_dropWhile_not (· != '"') cs
      simpa [found] using this
    simpa [chars, found, isQuote] using whole

theorem chars_numeral (d : Char) (cs : List Char) :
    (numeral d cs).1.chars ++ (numeral d cs).2 = d :: cs := by
  have whole := List.takeWhile_append_dropWhile (p := Char.isDigit) (l := cs)
  unfold numeral
  split
  · next f rest found =>
    rw [found] at whole
    split
    · simpa [chars, List.takeWhile_append_dropWhile] using whole
    · simpa [chars] using whole
  · simp [chars]

theorem chars_operator (c : Char) (cs : List Char) :
    (operator c cs).1.chars ++ (operator c cs).2 = c :: cs := by
  unfold operator
  split <;> simp [chars]

/-- Nothing is lost or read twice. -/
theorem chars_first (c : Char) (cs : List Char) : (first c cs).1.chars ++ (first c cs).2 = c :: cs := by
  unfold first
  split
  · simp [chars]
  split
  · next h => rw [chars_quoted, h]
  split
  · exact chars_numeral c cs
  split
  · simp [chars, List.takeWhile_append_dropWhile]
  split
  · next h =>
    obtain ⟨rfl, slash⟩ := h
    cases cs with
    | nil => simp at slash
    | cons d cs => simp_all [chars, List.takeWhile_append_dropWhile]
  · exact chars_operator c cs

/-- A piece is never empty, so that cutting pieces off a text comes to an end. -/
theorem chars_ne_nil_first (c : Char) (cs : List Char) : (first c cs).1.chars ≠ [] := by
  unfold first quoted numeral operator
  repeat' split
  all_goals simp [chars]

theorem length_first (c : Char) (cs : List Char) : (first c cs).2.length < (c :: cs).length := by
  have whole := congrArg List.length (chars_first c cs)
  have some := List.length_pos_iff.2 (chars_ne_nil_first c cs)
  rw [List.length_append] at whole
  omega

end Piece

def pieces : List Char → List Piece
  | [] => []
  | c :: cs => (Piece.first c cs).1 :: pieces (Piece.first c cs).2
termination_by text => text.length
decreasing_by exact Piece.length_first c cs

/-- The pieces one after the other are the text again. -/
theorem chars_pieces (text : List Char) : (pieces text).flatMap Piece.chars = text := by
  fun_induction pieces text with
  | case1 => rfl
  | case2 c cs ih => rw [List.flatMap_cons, ih, Piece.chars_first]

end Lox
