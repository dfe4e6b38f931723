import Mathlib.Data.List.Forall2
import Mathlib.Data.List.TakeWhile
import Lox.Proofs.Double.Nearest
import Lox.Scan
namespace Lox.Lexis

inductive Class where
  | blank | comment | lexeme | openString | stray
deriving DecidableEq, Repr

/-- Where several classes fit, the one of least rank is meant. -/
def Class.rank : Class → Nat
  | blank => 0
  | comment => 1
  | lexeme => 2
  | openString => 3
  | stray => 4

/-- No two classes have the same rank. -/
theorem Class.eq_of_rank (h : Class.rank k = k'.rank) : k = k' := by
  cases k <;> cases k' <;> first | rfl | cases h

def symbols : List (List Char × Kind) :=
  [(['('], .leftParen), ([')'], .rightParen), (['{'], .leftBrace), (['}'], .rightBrace), ([','], .comma),
    (['.'], .dot), (['-'], .minus), (['+'], .plus), ([';'], .semicolon), (['/'], .slash), (['*'], .star),
    (['!'], .bang), (['!', '='], .bangEqual), (['='], .equal), (['=', '='], .equalEqual),
    (['>'], .greater), (['>', '='], .greaterEqual), (['<'], .less), (['<', '='], .lessEqual)]

def Digits (cs : List Char) : Prop := cs ≠ [] ∧ ∀ c ∈ cs, c.isDigit

def Word : List Char → Prop
  | [] => False
  | c :: cs => (c = '_' ∨ c.isAlpha) ∧ ∀ d ∈ cs, d = '_' ∨ d.isAlphanum

-- The characters that follow are looked through as a list, not all characters there are.
instance : DecidablePred Word
  | [] => inferInstanceAs (Decidable False)
  | _ :: cs => @instDecidableAnd _ _ inferInstance (List.decidableBAll _ cs)

def Denotes (whole fraction : List Char) (x : Float) : Prop :=
  ∃ code, (Decimal.ofDigits whole fraction).IsNearest code ∧ x = Float.ofBits code.toUInt64

/-- The text of a token, its kind, and what it carries, apart from any way of reading a text. -/
inductive Lexeme : List Char → Kind → Option Literal → Prop
  | symbol (h : (spelling, kind) ∈ symbols) : Lexeme spelling kind none
  | string (h : '"' ∉ body) : Lexeme ('"' :: (body ++ ['"'])) .string (some (.text (String.ofList body)))
  | whole (hw : Digits whole) (hx : Denotes whole [] x) : Lexeme whole .number (some (.number x))
  | fraction (hw : Digits whole) (hf : Digits fraction) (hx : Denotes whole fraction x) :
      Lexeme (whole ++ '.' :: fraction) .number (some (.number x))
  | keyword (hw : Word letters) (hk : (String.ofList letters, kind) ∈ keywords) : Lexeme letters kind none
  | name (hw : Word letters) (hk : ∀ kind, (String.ofList letters, kind) ∉ keywords) :
      Lexeme letters .identifier (some (.text (String.ofList letters)))

/-- The texts of a class. Those of an open string end where there is nothing left, since with a quote behind
them there is a lexeme to be taken first. -/
inductive Class.Has : Class → List Char → Prop
  | blank (h : c ∈ [' ', '\t', '\r', '\n']) : Has .blank [c]
  | comment (h : '\n' ∉ body) : Has .comment ('/' :: '/' :: body)
  | lexeme (h : Lexeme text kind literal) : Has .lexeme text
  | openString (h : '"' ∉ body) : Has .openString ('"' :: body)
  | stray : Has .stray [c]

/-- The class takes this piece from the front of a text and leaves the rest. -/
structure Cut (k : Class) (piece rest : List Char) : Prop where
  has : k.Has piece
  first : ∀ p (other : Class), p <+: piece ++ rest → other.Has p → k.rank ≤ other.rank
  longest : ∀ p, p <+: piece ++ rest → k.Has p → p.length ≤ piece.length

inductive Split : List Char → List (Class × List Char) → Prop
  | nil : Split [] []
  | cons (h : Cut k piece rest) (hs : Split rest split) : Split (piece ++ rest) ((k, piece) :: split)

structure Spells (t : Token) (text : List Char) : Prop where
  spelling : t.lexeme = String.ofList text
  lexeme : Lexeme text t.kind t.literal

def lexemes (split : List (Class × List Char)) : List (List Char) :=
  (split.filter (·.1 = .lexeme)).map (·.2)

def offences (split : List (Class × List Char)) : List (Class × List Char) :=
  split.filter fun piece => piece.1 = .openString ∨ piece.1 = .stray

inductive Reports : Class × List Char → LexicalError → Prop
  | openString : Reports (.openString, text) (.openString line)
  | stray : Reports (.stray, [c]) (.strayChar c line)

/-- The scan has a token for each lexeme, an error for each offence, and nothing else but the end. -/
structure Reads (split : List (Class × List Char)) (scan : Scan) (last : Nat) : Prop where
  tokens : ∃ tokens, scan.tokens = tokens ++ [.atEnd last] ∧ List.Forall₂ Spells tokens (lexemes split)
  errors : List.Forall₂ Reports (offences split) scan.errors

theorem word_of_keyword (h : (word, kind) ∈ keywords) : Word word.toList := by
  have hall : ∀ p ∈ keywords, Word p.1.toList := by decide
  exact hall _ h

theorem Lexeme.ne_nil (h : Lexeme text kind literal) : text ≠ [] := by
  cases h with
  | symbol h =>
    have hall : ∀ s ∈ symbols, s.1 ≠ [] := by decide
    exact hall _ h
  | string => simp
  | whole hw => exact hw.1
  | fraction => simp
  | keyword hw | name hw =>
    rintro rfl
    exact hw

theorem Class.Has.ne_nil (h : Class.Has k text) : text ≠ [] := by
  cases h with
  | lexeme h => exact h.ne_nil
  | _ => simp

/-- Of two pieces that may be taken neither is longer than the other, and then neither has a lower rank. -/
theorem Cut.unique (h : Cut k p r) (h' : Cut k' p' r') (heq : p ++ r = p' ++ r') :
    k = k' ∧ p = p' ∧ r = r' := by
  have hp : p <+: p' ++ r' := heq ▸ List.prefix_append p r
  have hp' : p' <+: p ++ r := heq ▸ List.prefix_append p' r'
  have hk : k = k' := Class.eq_of_rank (Nat.le_antisymm (h.first p' k' hp' h'.has) (h'.first p k hp h.has))
  subst hk
  have hlength := Nat.le_antisymm (h'.longest p hp h.has) (h.longest p' hp' h'.has)
  exact ⟨rfl, List.append_inj heq hlength⟩

/-- Nothing is lost. -/
theorem Split.flatten (h : Split text split) : split.flatMap (·.2) = text := by
  induction h with
  | nil => rfl
  | cons _ _ ih => rw [List.flatMap_cons, ih]

theorem Split.ne_nil (h : Split text split) : ∀ piece ∈ split, piece.2 ≠ [] := by
  induction h with
  | nil => simp
  | cons hc _ ih => exact List.forall_mem_cons.mpr ⟨hc.has.ne_nil, ih⟩

/-- There is one way to split a text at most, since there is one way to cut it at each place. -/
theorem Split.unique (h : Split text split) (h' : Split text split') : split = split' := by
  induction h generalizing split' with
  | nil =>
    generalize ht : ([] : List Char) = text at h'
    cases h' with
    | nil => rfl
    | cons hc _ => exact absurd (List.append_eq_nil_iff.mp ht.symm).1 hc.has.ne_nil
  | @cons k piece rest split hc _ ih =>
    generalize ht : piece ++ rest = text at h'
    cases h' with
    | nil => exact absurd (List.append_eq_nil_iff.mp ht).1 hc.has.ne_nil
    | cons hc' hs' =>
      obtain ⟨rfl, rfl, rfl⟩ := hc.unique hc' ht
      rw [ih hs']

end Lox.Lexis
