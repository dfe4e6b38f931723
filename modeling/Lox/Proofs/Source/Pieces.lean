import Mathlib.Data.List.TakeWhile
import Lox.Piece
namespace Lox

theorem all_ne_of_not_mem {c : Char} {cs : List Char} (h : c ∉ cs) : ∀ d ∈ cs, (d != c) = true := by
  intro d hd
  have : d ≠ c := by
    rintro rfl
    exact h hd
  simpa using this

namespace Piece

/-- What the first piece of a text says about how the text begins. -/
inductive Opens (c : Char) (cs : List Char) : Piece → Prop
  | blank (hc : isBlank c = true) : Opens c cs (.blank c)
  | comment (hc : c = '/') (hs : cs = '/' :: behind) : Opens c cs (.comment body)
  | symbol (hk : kind ≠ .eof) : Opens c cs (.symbol kind spelling)
  | string (hc : c = '"') : Opens c cs (.string body)
  | number (hc : c.isDigit = true) : Opens c cs (.number whole fraction)
  | word (hc : isWordStart c = true) : Opens c cs (.word letters)
  | unclosed (hc : c = '"') (hq : '"' ∉ cs) : Opens c cs (.unclosed body)
  | stray : Opens c cs (.stray c)

theorem symbol?_ne_eof (h : symbol? c = some kind) : kind ≠ .eof := by
  unfold symbol? at h
  split at h <;> cases h <;> simp

theorem symbolEqual?_ne_eof (h : symbolEqual? c = some kind) : kind ≠ .eof := by
  unfold symbolEqual? at h
  split at h <;> cases h <;> simp

theorem opens_quoted (cs : List Char) : Opens '"' cs (quoted cs).1 := by
  unfold quoted
  dsimp only
  split
  · next found =>
    refine .unclosed rfl fun hq => ?_
    simpa using List.dropWhile_eq_nil_iff.mp found _ hq
  · exact .string rfl

theorem opens_numeral (h : c.isDigit = true) (cs : List Char) : Opens c cs (numeral c cs).1 := by
  unfold numeral
  dsimp only
  split
  · split <;> exact .number h
  · exact .number h

/-- Symbols are only made by the two tables. -/
theorem opens_operator (c : Char) (cs : List Char) : Opens c cs (operator c cs).1 := by
  unfold operator
  split
  · exact .symbol (symbolEqual?_ne_eof ‹_›)
  · exact .symbol (symbol?_ne_eof ‹_›)
  · exact .stray

/-- By the first character it is told how the text goes on. -/
theorem opens_first (c : Char) (cs : List Char) : Opens c cs (first c cs).1 := by
  unfold first
  split
  · next hb => exact .blank hb
  split
  · next hq =>
    subst hq
    exact opens_quoted cs
  split
  · next hn => exact opens_numeral hn cs
  split
  · next hw => exact .word hw
  split
  · next hc =>
    obtain ⟨behind, hs⟩ := List.head?_eq_some_iff.mp hc.2
    exact .comment hc.1 hs
  · exact opens_operator c cs

theorem kind_of_first (h : (first c cs).1 = symbol kind spelling) : kind ≠ .eof := by
  have ho := opens_first c cs
  rw [h] at ho
  cases ho
  assumption

/-- An open quote stays open until there is another. -/
theorem unclosed_of_first (h : (first c cs).1 = unclosed body) : c = '"' ∧ '"' ∉ cs := by
  have ho := opens_first c cs
  rw [h] at ho
  cases ho
  exact ⟨‹_›, ‹_›⟩

/-- Two slashes open a comment, and nothing else does. -/
theorem comment_of_first (h : (first c cs).1 = comment body) :
    ∃ behind, c = '/' ∧ cs = '/' :: behind := by
  have ho := opens_first c cs
  rw [h] at ho
  cases ho
  exact ⟨_, ‹_›, ‹_›⟩

theorem first_quote (cs : List Char) : first '"' cs = quoted cs := rfl

theorem quoted_of_not_mem (h : '"' ∉ cs) : quoted cs = (unclosed cs, []) := by
  have hall := all_ne_of_not_mem h
  simp [quoted, List.takeWhile_eq_self_iff.mpr hall, List.dropWhile_eq_nil_iff.mpr hall]

/-- A text in quotes ends at the first quote behind the one that opens it. -/
theorem quoted_closed (h : '"' ∉ body) (behind : List Char) :
    quoted (body ++ '"' :: behind) = (string body, behind) := by
  have hall := all_ne_of_not_mem h
  simp [quoted, List.takeWhile_append_of_pos hall, List.dropWhile_append_of_pos hall]

theorem first_comment (cs : List Char) :
    first '/' ('/' :: cs) = (comment (cs.takeWhile (· != '\n')), cs.dropWhile (· != '\n')) := rfl

end Piece

/-- A quote that nothing closes is all that is left of a text. -/
theorem pieces_unclosed (h : '"' ∉ cs) : pieces ('"' :: cs) = [.unclosed cs] := by
  rw [pieces, Piece.first_quote, Piece.quoted_of_not_mem h, pieces]

/-- A comment without a line behind it is all that is left of a text. -/
theorem pieces_comment (h : '\n' ∉ cs) : pieces ('/' :: '/' :: cs) = [.comment cs] := by
  have hall := all_ne_of_not_mem h
  rw [pieces, Piece.first_comment, List.takeWhile_eq_self_iff.mpr hall, List.dropWhile_eq_nil_iff.mpr hall,
    pieces]

end Lox
