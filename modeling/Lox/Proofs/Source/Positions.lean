import Lox.Proofs.Source.Split
namespace Lox

theorem Piece.Plain.ne_newline (h : Plain c) : c ≠ '\n' := by
  rintro rfl
  exact absurd h.blank (by decide)

namespace Lexis

structure Span where
  kind : Class
  start : Nat
  stop : Nat

def spans (start : Nat) : List (Class × List Char) → List Span
  | [] => []
  | (k, piece) :: split => ⟨k, start, start + piece.length⟩ :: spans (start + piece.length) split

structure TokenAt (text : List Char) (t : Token) (s : Span) : Prop where
  spelling : t.lexeme = String.ofList ((text.take s.stop).drop s.start)
  line : t.line = 1 + (text.take s.stop).count '\n'

/-- A string that is open is told at the end of the text, wherever it was opened. -/
inductive ErrorAt (text : List Char) : LexicalError → Span → Prop
  | stray (hc : text[start]? = some c) :
      ErrorAt text (.strayChar c (1 + (text.take start).count '\n')) ⟨.stray, start, start + 1⟩
  | openString (hq : text[start]? = some '"') :
      ErrorAt text (.openString (1 + text.count '\n')) ⟨.openString, start, text.length⟩

inductive Placed (text : List Char) : Piece × Nat → Span → Prop
  | behind (before : List Char) (htext : before ++ p.chars ++ rest = text) (hp : Piece.Takes c cs p rest) :
      Placed text (p, 1 + (before ++ p.chars).count '\n')
        ⟨p.lexicalClass, before.length, (before ++ p.chars).length⟩

/-- The line of a piece is counted up to its end, as its span is. -/
theorem placed_pieces (before text : List Char) :
    List.Forall₂ (Placed (before ++ text)) (numbered (1 + before.count '\n') (pieces text))
      (spans before.length (splitOf (pieces text))) := by
  fun_induction pieces text generalizing before with
  | case1 => exact .nil
  | case2 c cs ih =>
    have htakes := Piece.takes_first c cs
    have hchars := Piece.chars_first c cs
    generalize Piece.first c cs = taken at htakes hchars ih
    obtain ⟨p, rest⟩ := taken
    have htext : before ++ p.chars ++ rest = before ++ c :: cs := by
      rw [List.append_assoc, hchars]
    have hline : 1 + before.count '\n' + p.newlines = 1 + (before ++ p.chars).count '\n' := by
      rw [List.count_append, Piece.newlines, Nat.add_assoc]
    have hothers := ih (before ++ p.chars)
    rw [htext] at hothers
    rw [splitOf, List.map_cons, numbered, spans, hline, ← List.length_append]
    exact .cons (.behind before htext htakes) hothers

/-- A piece has a token exactly where it is a lexeme, on the line where that ends. -/
theorem Placed.token (h : Placed text (p, n) s) :
    Option.Rel (TokenAt text) (p.token? n) (Option.guard (·.kind = .lexeme) s) := by
  cases h with
  | behind before htext hp =>
    cases ht : p.token? (1 + (before ++ p.chars).count '\n') with
    | none =>
      have hk : p.lexicalClass ≠ .lexeme := Piece.token?_eq_none_iff.mp ht
      simp only [Option.guard, hk, decide_false, Bool.false_eq_true, reduceIte]
      exact .none
    | some t =>
      have hk : p.lexicalClass = .lexeme := by
        by_contra hk
        simp [Piece.token?_eq_none_iff.mpr hk] at ht
      simp only [Option.guard, hk, decide_true, reduceIte]
      refine .some ⟨?_, ?_⟩
      · rw [← htext, List.take_left, List.drop_left]
        exact (hp.fits.spells ht).spelling
      · rw [← htext, List.take_left, Piece.line_of_token? ht]

/-- A stray character is no newline, so up to its end there are as many lines as up to its start. -/
theorem errorAt_stray (hc : c ≠ '\n') (before behind : List Char) :
    ErrorAt (before ++ [c] ++ behind) (.strayChar c (1 + (before ++ [c]).count '\n'))
      ⟨.stray, before.length, (before ++ [c]).length⟩ := by
  have hhere : (before ++ [c] ++ behind)[before.length]? = some c := by simp
  have hline : (before ++ [c]).count '\n' = ((before ++ [c] ++ behind).take before.length).count '\n' := by
    rw [List.append_assoc, List.take_left, List.count_append, List.count_singleton]
    simp [hc]
  rw [hline, List.length_append]
  exact .stray hhere

/-- An open string takes the text to its end, so it is told on the last line. -/
theorem errorAt_openString (before body : List Char) :
    ErrorAt (before ++ '"' :: body) (.openString (1 + (before ++ '"' :: body).count '\n'))
      ⟨.openString, before.length, (before ++ '"' :: body).length⟩ :=
  .openString (by simp)

/-- Only open strings and stray characters have errors, each of them one. -/
theorem Placed.error (h : Placed text (p, n) s) :
    Option.Rel (ErrorAt text) (p.error? n) (Option.guard (fun s => s.kind = .openString ∨ s.kind = .stray) s) := by
  cases h with
  | behind before htext hp =>
    subst htext
    cases hp with
    | unclosed hc hb =>
      rw [List.append_nil]
      exact .some (errorAt_openString before _)
    | stray hplain hk =>
      have hc : _ ≠ '\n' := hplain.ne_newline
      exact .some (errorAt_stray hc before _)
    | _ => exact .none

end Lexis

/-- Lines are exact. A text is split in one way, each token has the line where its lexeme ends, each stray
character the line where it stands, and an open string the last line, as the end has. -/
theorem ofSource_lines (source : String) :
    ∃ split tokens, Lexis.Split source.toList split ∧ (∀ other, Lexis.Split source.toList other → other = split) ∧
      (Scan.ofSource source).tokens = tokens ++ [.atEnd (1 + source.toList.count '\n')] ∧
      (∀ t ∈ tokens, t.kind ≠ .eof) ∧
      List.Forall₂ (Lexis.TokenAt source.toList) tokens ((Lexis.spans 0 split).filter (·.kind = .lexeme)) ∧
      List.Forall₂ (Lexis.ErrorAt source.toList) (Scan.ofSource source).errors
        ((Lexis.spans 0 split).filter fun s => s.kind = .openString ∨ s.kind = .stray) := by
  have hsplit := Lexis.split_pieces source.toList
  have hplaced := Lexis.placed_pieces [] source.toList
  refine ⟨_, tokensFrom 1 source.toList, hsplit, fun other h => h.unique hsplit, rfl, ?_, ?_, ?_⟩
  · intro t ht
    exact tokensFrom_ne_eof ht
  · rw [← List.filterMap_eq_filter]
    exact List.rel_filterMap (fun _ _ h => h.token) hplaced
  · rw [← List.filterMap_eq_filter]
    exact List.rel_filterMap (fun _ _ h => h.error) hplaced

end Lox
