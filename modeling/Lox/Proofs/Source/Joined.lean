import Lox.Proofs.Source.Lines
namespace Lox

def Token.lower (k : Nat) (t : Token) : Token := { t with line := t.line + k }

def LexicalError.lower (k : Nat) : LexicalError → LexicalError
  | strayChar c line => strayChar c (line + k)
  | openString line => openString (line + k)

theorem Piece.token?_lower (p : Piece) (n k : Nat) : p.token? (n + k) = (p.token? n).map (.lower k) := by
  cases p with
  | word letters =>
    simp only [token?]
    split <;> rfl
  | _ => rfl

theorem Piece.error?_lower (p : Piece) (n k : Nat) : p.error? (n + k) = (p.error? n).map (.lower k) := by
  cases p <;> rfl

theorem numbered_lower (line k : Nat) (ps : List Piece) :
    numbered (line + k) ps = (numbered line ps).map fun (p, n) => (p, n + k) := by
  induction ps generalizing line with
  | nil => rfl
  | cons p ps ih =>
    have hline : line + k + p.newlines = line + p.newlines + k := by omega
    rw [numbered, hline, ih, numbered, List.map_cons]

/-- Tokens of a text that starts further down are further down by as much. -/
theorem tokensFrom_lower (line k : Nat) (text : List Char) :
    tokensFrom (line + k) text = (tokensFrom line text).map (.lower k) := by
  rw [tokensFrom, numbered_lower, List.filterMap_map, tokensFrom, List.map_filterMap]
  congr 1
  funext x
  exact x.1.token?_lower x.2 k

theorem errorsFrom_lower (line k : Nat) (text : List Char) :
    errorsFrom (line + k) text = (errorsFrom line text).map (.lower k) := by
  rw [errorsFrom, numbered_lower, List.filterMap_map, errorsFrom, List.map_filterMap]
  congr 1
  funext x
  exact x.1.error?_lower x.2 k

theorem map_fst_numbered (line : Nat) (ps : List Piece) : (numbered line ps).map (·.1) = ps := by
  induction ps generalizing line with
  | nil => rfl
  | cons p ps ih => rw [numbered, List.map_cons, ih]

/-- A quote that is left open is told. -/
theorem exists_openString (h : Piece.unclosed body ∈ pieces text) (line : Nat) :
    ∃ n, .openString n ∈ errorsFrom line text := by
  rw [← map_fst_numbered line (pieces text)] at h
  obtain ⟨⟨p, n⟩, hp, rfl⟩ := List.mem_map.mp h
  exact ⟨n, List.mem_filterMap.mpr ⟨_, hp, rfl⟩⟩

/-- A source below another that leaves no string open has the tokens and errors that it has by itself, further down
by the lines above it, and the source above has its own. -/
theorem ofSource_below (above below : String) (h : ∀ line, .openString line ∉ (Scan.ofSource above).errors) :
    ∃ ts, (Scan.ofSource above).tokens = ts ++ [.atEnd (1 + above.toList.count '\n')] ∧
      (Scan.ofSource (above ++ "\n" ++ below)).tokens =
        ts ++ (Scan.ofSource below).tokens.map (.lower (above.toList.count '\n' + 1)) ∧
      (Scan.ofSource (above ++ "\n" ++ below)).errors =
        (Scan.ofSource above).errors ++
          (Scan.ofSource below).errors.map (.lower (above.toList.count '\n' + 1)) := by
  have hclosed : ∀ body, Piece.unclosed body ∉ pieces above.toList := by
    intro body hb
    obtain ⟨n, hn⟩ := exists_openString hb 1
    exact h n hn
  have htext : (above ++ "\n" ++ below).toList = above.toList ++ '\n' :: below.toList := by simp
  have hlast : 1 + (above.toList ++ '\n' :: below.toList).count '\n' =
      1 + below.toList.count '\n' + (above.toList.count '\n' + 1) := by
    rw [List.count_append, List.count_cons_self]
    omega
  refine ⟨tokensFrom 1 above.toList, rfl, ?_, ?_⟩
  · rw [ofSource_eq, ofSource_eq, htext, hlast, tokensFrom_below hclosed, Nat.add_assoc, tokensFrom_lower,
      List.map_append, List.append_assoc]
    rfl
  · rw [ofSource_eq, ofSource_eq, ofSource_eq, htext, errorsFrom_below hclosed, Nat.add_assoc, errorsFrom_lower]

/-- The bang ends its line with a stray character behind it, and the source below begins with an equals sign. -/
theorem ofSource_bang_below :
    (∀ line, .openString line ∉ (Scan.ofSource "1.\n!@").errors) ∧
    (Scan.ofSource ("1.\n!@" ++ "\n" ++ "= \"a\nb\" #")).errors = [.strayChar '@' 2, .strayChar '#' 4] := by
  have habove : (Scan.ofSource "1.\n!@").errors = [.strayChar '@' 2] := by decide +kernel
  have hbelow : (Scan.ofSource "= \"a\nb\" #").errors = [.strayChar '#' 2] := by decide +kernel
  have hclosed : ∀ line, .openString line ∉ (Scan.ofSource "1.\n!@").errors := by simp [habove]
  obtain ⟨ts, -, -, herrors⟩ := ofSource_below "1.\n!@" "= \"a\nb\" #" hclosed
  rw [habove, hbelow] at herrors
  exact ⟨hclosed, herrors⟩

/-- The token is what a piece that can stand alone is read as. -/
def Token.StandsAlone (t : Token) : Prop :=
  ∃ p : Piece, p.Before [] ∧ t.lexeme.toList = p.chars ∧ ∀ n, p.token? n = some (t.onLine n)

theorem Seamed.before (h : Seamed ps) : ∀ p ∈ ps, p.Before [] := by
  induction h with
  | nil => simp
  | cons hp _ ih => exact List.forall_mem_cons.mpr ⟨hp.alone, ih⟩

/-- Whatever neighbours a token had, its piece could have stood alone. -/
theorem standsAlone_of_mem (h : t ∈ tokensFrom line text) : t.StandsAlone := by
  obtain ⟨⟨p, n⟩, hp, ht⟩ := List.mem_filterMap.mp h
  have hmem : p ∈ pieces text := mem_of_mem_numbered hp
  have hbefore := (pieces_eq_iff.mp rfl).2.before p hmem
  have hspells := (fits_pieces text p hmem).spells ht
  refine ⟨p, hbefore, by rw [hspells.spelling, String.toList_ofList], ?_⟩
  intro m
  have htoken : p.token? n = some t := ht
  rw [p.token?_onLine n m, htoken, Option.map_some]

namespace Piece

/-- A blank goes on no piece that a token is made of. -/
theorem before_space (h : Before p []) (ht : p.token? n = some t) (tail : List Char) : Before p (' ' :: tail) := by
  apply h.append separates_space
  · rintro body rfl
    cases ht
  · rintro ⟨body, rfl⟩
    cases ht

end Piece

theorem scan_space (line : Nat) (text : List Char) :
    tokensFrom line (' ' :: text) = tokensFrom line text ∧ errorsFrom line (' ' :: text) = errorsFrom line text :=
  ⟨tokensFrom_before (.blank rfl) line, errorsFrom_before (.blank rfl) line⟩

theorem scan_token {t : Token} (hp : Piece.Before p rest) (ht : ∀ n, p.token? n = some (t.onLine n)) (line : Nat) :
    tokensFrom line (p.chars ++ rest) = t.onLine (line + p.newlines) :: tokensFrom (line + p.newlines) rest ∧
      errorsFrom line (p.chars ++ rest) = errorsFrom (line + p.newlines) rest := by
  rw [tokensFrom_before hp, errorsFrom_before hp, ht, Piece.error?_of_token? (ht _)]
  exact ⟨rfl, rfl⟩

/-- Each lexeme is read as its token, and the blank behind it goes on no lexeme. -/
theorem scan_lexemes (h : ∀ t ∈ ts, Token.StandsAlone t) (line : Nat) :
    errorsFrom line ([' '].intercalate (ts.map (·.lexeme.toList))) = [] ∧
      List.Forall₂ Token.Alike ts (tokensFrom line ([' '].intercalate (ts.map (·.lexeme.toList)))) := by
  induction ts generalizing line with
  | nil =>
    obtain ⟨htokens, herrors⟩ := scan_nil line
    simp [htokens, herrors]
  | cons t ts ih =>
    obtain ⟨⟨p, hp, hchars, ht⟩, hts⟩ := List.forall_mem_cons.mp h
    have halike (n : Nat) : t.Alike (t.onLine n) := ⟨rfl, rfl, rfl⟩
    cases ts with
    | nil =>
      obtain ⟨htokens, herrors⟩ := scan_token hp ht line
      obtain ⟨hnone, hclean⟩ := scan_nil (line + p.newlines)
      rw [List.append_nil, ← hchars] at htokens herrors
      rw [List.map_singleton, List.intercalate_singleton, htokens, herrors, hnone, hclean]
      exact ⟨rfl, .cons (halike _) .nil⟩
    | cons u us =>
      obtain ⟨hi, hl⟩ := ih hts (line + p.newlines)
      have htext : [' '].intercalate ((t :: u :: us).map (·.lexeme.toList)) =
          p.chars ++ ' ' :: [' '].intercalate ((u :: us).map (·.lexeme.toList)) := by
        simp [List.intercalate_cons_cons, hchars]
      rw [htext]
      generalize [' '].intercalate ((u :: us).map (·.lexeme.toList)) = more at hi hl
      obtain ⟨htokens, herrors⟩ := scan_token (Piece.before_space hp (ht 0) more) ht line
      obtain ⟨hspace, hspace'⟩ := scan_space (line + p.newlines) more
      rw [htokens, herrors, hspace, hspace', hi]
      exact ⟨rfl, .cons (halike _) hl⟩

/-- Lexemes of whatever tokens, from one source or many, with single blanks between them are read as these tokens, in
order and without an error. -/
theorem ofSource_lexemes (ts : List Token)
    (h : ∀ t ∈ ts, t.kind ≠ .eof ∧ ∃ source, t ∈ (Scan.ofSource source).tokens) :
    (Scan.ofSource (" ".intercalate (ts.map (·.lexeme)))).errors = [] ∧
    ∃ read last, (Scan.ofSource (" ".intercalate (ts.map (·.lexeme)))).tokens = read ++ [.atEnd last] ∧
      List.Forall₂ Token.Alike ts read := by
  have hts : ∀ t ∈ ts, t.StandsAlone := by
    intro t ht
    obtain ⟨hk, source, hsource⟩ := h t ht
    rw [ofSource_eq] at hsource
    rcases List.mem_append.mp hsource with hmem | hmem
    · exact standsAlone_of_mem hmem
    · obtain rfl := List.mem_singleton.mp hmem
      exact absurd rfl hk
  have htext : (" ".intercalate (ts.map (·.lexeme))).toList = [' '].intercalate (ts.map (·.lexeme.toList)) := by
    rw [String.toList_intercalate, List.map_map]
    rfl
  obtain ⟨herrors, halike⟩ := scan_lexemes hts 1
  rw [ofSource_eq, htext]
  exact ⟨herrors, _, _, rfl, halike⟩

def scattered : List Token :=
  ["!a", "==", "=//", "\"a\nb\"", "1.", "/"].flatMap fun source =>
    (Scan.ofSource source).tokens.filter (·.kind != .eof)

/-- Left to themselves in their sources, some of these lexemes would have been read together. -/
theorem ofSource_scattered :
    (∀ t ∈ scattered, t.kind ≠ .eof ∧ ∃ source, t ∈ (Scan.ofSource source).tokens) ∧
    " ".intercalate (scattered.map (·.lexeme)) = "! a == = \"a\nb\" 1 . /" ∧
    (Scan.ofSource "! a == = \"a\nb\" 1 . /").errors = [] ∧
    ∃ read last, (Scan.ofSource "! a == = \"a\nb\" 1 . /").tokens = read ++ [.atEnd last] ∧
      List.Forall₂ Token.Alike scattered read := by
  have hsources : ∀ t ∈ scattered, t.kind ≠ .eof ∧ ∃ source, t ∈ (Scan.ofSource source).tokens := by
    intro t ht
    obtain ⟨source, -, hmem⟩ := List.mem_flatMap.mp ht
    obtain ⟨hmem, hk⟩ := List.mem_filter.mp hmem
    exact ⟨by simpa using hk, source, hmem⟩
  have htext : " ".intercalate (scattered.map (·.lexeme)) = "! a == = \"a\nb\" 1 . /" := by decide +kernel
  obtain ⟨herrors, hread⟩ := ofSource_lexemes scattered hsources
  rw [htext] at herrors hread
  exact ⟨hsources, htext, herrors, hread⟩

end Lox
