import Lox.Parse
import Lox.Proofs.Source.Pieces
import Lox.Scan
namespace Lox

def tokensFrom (line : Nat) (text : List Char) : List Token :=
  (numbered line (pieces text)).filterMap fun (p, line) => p.token? line

def errorsFrom (line : Nat) (text : List Char) : List LexicalError :=
  (numbered line (pieces text)).filterMap fun (p, line) => p.error? line

/-- A scan is what its text gives, and an end behind it on the last line. -/
theorem ofSource_eq (source : String) :
    Scan.ofSource source =
      ⟨tokensFrom 1 source.toList ++ [.atEnd (1 + source.toList.count '\n')], errorsFrom 1 source.toList⟩ :=
  rfl

theorem mem_keywords_of_keyword? (h : keyword? word = some kind) : (word, kind) ∈ keywords := by
  obtain ⟨before, behind, hk, -⟩ := List.lookup_eq_some_iff.mp h
  simp [hk]

theorem keyword?_ne_eof (h : keyword? word = some kind) : kind ≠ .eof := by
  have hall : ∀ p ∈ keywords, p.2 ≠ .eof := by decide
  exact hall _ (mem_keywords_of_keyword? h)

namespace Piece

theorem token?_ne_eof (hp : ∀ kind spelling, p = symbol kind spelling → kind ≠ .eof)
    (h : p.token? line = some t) : t.kind ≠ .eof := by
  cases p with
  | symbol kind spelling =>
    cases h
    exact hp kind spelling rfl
  | word letters =>
    simp only [token?] at h
    split at h
    · next hk =>
      cases h
      exact keyword?_ne_eof hk
    · cases h
      simp
  | string body => cases h; simp
  | number whole fraction => cases h; simp
  | _ => cases h

end Piece

/-- No piece of a text is read as an end. -/
theorem pieces_ne_eof (h : Piece.symbol kind spelling ∈ pieces text) : kind ≠ .eof := by
  fun_induction pieces text with
  | case1 => cases h
  | case2 c cs ih =>
    rcases List.mem_cons.mp h with h | h
    · exact Piece.kind_of_first h.symm
    · exact ih h

theorem mem_of_mem_numbered (h : (p, n) ∈ numbered line ps) : p ∈ ps := by
  induction ps generalizing line with
  | nil => cases h
  | cons q ps ih =>
    rcases List.mem_cons.mp h with h | h
    · cases h
      exact List.mem_cons_self
    · exact List.mem_cons_of_mem _ (ih h)

theorem Piece.line_of_token? {p : Piece} (h : p.token? line = some t) : t.line = line := by
  cases p with
  | word letters =>
    simp only [token?] at h
    split at h <;> cases h <;> rfl
  | symbol | string | number => cases h; rfl
  | _ => cases h

/-- No piece is both a token and an error. -/
theorem Piece.error?_of_token? {p : Piece} (h : p.token? n = some t) : p.error? n = none := by
  cases p with
  | stray | unclosed => cases h
  | _ => rfl

/-- A piece stands on the line it was counted to. -/
theorem bounds_of_mem_numbered (h : (p, n) ∈ numbered line ps) :
    line ≤ n ∧ n ≤ line + (ps.flatMap Piece.chars).count '\n' := by
  induction ps generalizing line with
  | nil => cases h
  | cons q ps ih =>
    rw [List.flatMap_cons, List.count_append, ← Piece.newlines]
    rcases List.mem_cons.mp h with h | h
    · cases h
      omega
    · have := ih h
      omega

theorem numbered_pairwise (line : Nat) (ps : List Piece) : (numbered line ps).Pairwise (·.2 ≤ ·.2) := by
  induction ps generalizing line with
  | nil => exact .nil
  | cons q ps ih => exact .cons (fun p hp => (bounds_of_mem_numbered hp).1) (ih _)

/-- No token is further down than the newlines of its text. -/
theorem line_of_mem_tokensFrom (h : t ∈ tokensFrom line text) : t.line ≤ line + text.count '\n' := by
  obtain ⟨⟨p, n⟩, hp, ht⟩ := List.mem_filterMap.mp h
  rw [Piece.line_of_token? ht, ← chars_pieces text]
  exact (bounds_of_mem_numbered hp).2

/-- Tokens stand in the order of their lines. -/
theorem tokensFrom_pairwise (line : Nat) (text : List Char) :
    (tokensFrom line text).Pairwise (·.line ≤ ·.line) := by
  refine List.Pairwise.filterMap _ (fun p q hpq t ht u hu => ?_) (numbered_pairwise line (pieces text))
  rw [Piece.line_of_token? ht, Piece.line_of_token? hu]
  exact hpq

/-- The only end is the one that is put behind them all. -/
theorem tokensFrom_ne_eof (h : t ∈ tokensFrom line text) : t.kind ≠ .eof := by
  obtain ⟨⟨p, n⟩, hp, ht⟩ := List.mem_filterMap.mp h
  refine Piece.token?_ne_eof (fun kind spelling hs => ?_) ht
  exact pieces_ne_eof (hs ▸ mem_of_mem_numbered hp)

/-- The end is where the scan put it. -/
theorem buffer_ofSource (source : String) :
    Buffer.ofTokens (Scan.ofSource source).tokens =
      ⟨tokensFrom 1 source.toList, .atEnd (1 + source.toList.count '\n'), rfl⟩ := by
  rw [ofSource_eq]
  exact Buffer.ofTokens_concat _ rfl

/-- Only tokens of the text are read. -/
theorem ofTokens_ofSource (source : String) :
    Parse.ofTokens (Scan.ofSource source).tokens =
      Parse.upTo (.atEnd (1 + source.toList.count '\n')) (tokensFrom 1 source.toList) := by
  rw [Parse.ofTokens, buffer_ofSource]

/-- A source without static errors, lexical ones or others. -/
def IsClean (source : String) : Prop :=
  (Scan.ofSource source).errors = [] ∧ (Parse.ofTokens (Scan.ofSource source).tokens).errors = []

def statementsOf (source : String) : List Stmt :=
  (Parse.ofTokens (Scan.ofSource source).tokens).statements

end Lox
