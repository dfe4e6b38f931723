import Lox.Proofs.Scanner.Runs
import Lox.Proofs.Source.Seams
namespace Lox

def Token.readBy (parse : String → Option Float) (t : Token) : Token :=
  if t.kind = .number then { t with literal := some (.number ((parse t.lexeme).getD 0)) } else t

theorem Token.readBy_of_ne (h : Token.kind t ≠ .number) : t.readBy parse = t := if_neg h

theorem keywords_ne_number (h : (word, kind) ∈ keywords) : kind ≠ .number := by
  have hall : ∀ p ∈ keywords, p.2 ≠ .number := by decide
  exact hall _ h

theorem symbols_ne_number (h : (spelling, kind) ∈ Lexis.symbols) : kind ≠ .number := by
  have hall : ∀ s ∈ Lexis.symbols, s.2 ≠ .number := by decide
  exact hall _ h

namespace Piece

theorem newlines_eq_zero {p : Piece} (h : ∀ d ∈ p.chars, d ≠ '\n') : p.newlines = 0 :=
  List.count_eq_zero.mpr fun hmem => h _ hmem rfl

theorem newlines_symbol (h : (spelling, kind) ∈ Lexis.symbols) : (symbol kind spelling).newlines = 0 := by
  have hall : Lexis.symbols.all (fun s => s.1.count '\n' == 0) := by decide
  exact beq_iff_eq.mp (List.all_eq_true.mp hall _ h)

theorem ne_newline_of_isDigit (h : Char.isDigit c = true) : c ≠ '\n' := by
  rintro rfl
  exact absurd h (by decide)

theorem newlines_number (hw : Lexis.Digits whole) (hf : ∀ d ∈ fraction, d.isDigit = true) :
    (number whole fraction).newlines = 0 := by
  apply newlines_eq_zero
  intro d hd
  cases fraction with
  | nil => exact ne_newline_of_isDigit (hw.2 d hd)
  | cons f fraction =>
    rcases List.mem_append.mp hd with hd | hd
    · exact ne_newline_of_isDigit (hw.2 d hd)
    · rcases List.mem_cons.mp hd with rfl | hd
      · decide
      · exact ne_newline_of_isDigit (hf d hd)

theorem newlines_word (hw : Lexis.Word letters) : (word letters).newlines = 0 := by
  obtain ⟨c, cs, rfl⟩ := List.exists_cons_of_ne_nil hw.ne_nil
  obtain ⟨hc, hcs⟩ := Lexis.word_cons_iff.mp hw
  apply newlines_eq_zero
  intro d hd
  rcases List.mem_cons.mp hd with rfl | hd
  · rintro rfl
    exact absurd hc (by decide)
  · rintro rfl
    exact absurd (hcs _ hd) (by decide)

theorem newlines_comment (hb : '\n' ∉ body) : (comment body).newlines = 0 := by
  simpa [newlines, chars] using List.count_eq_zero.mpr hb

/-- A number is digits, and behind a point there are some as well. -/
theorem numeral_number (hw : Lexis.Digits whole) (hf : ∀ d ∈ fraction, d.isDigit = true) :
    Lexis.Numeral (number whole fraction).chars := by
  cases fraction with
  | nil => exact .whole hw
  | cons f fraction => exact .fraction hw ⟨List.cons_ne_nil _ _, hf⟩

theorem symbol?_eq_none (h : ¬Plain c) : symbol? c = none := by
  apply Option.eq_none_iff_forall_ne_some.mpr
  intro kind hk
  exact h (Lexis.symbols_cons (mem_symbols_of_symbol? hk)).1

end Piece

namespace Scanner

variable {parse : String → Option Float} {s s' : Scanner} {input before read rest : List Char}

/-- From one state to the other the piece was read that begins at the first mark, and what it gives is on the line where
it ends. -/
structure Took (parse : String → Option Float) (p : Piece) (s s' : Scanner) : Prop where
  current : s'.current = s.start + p.chars.length
  line : s'.line = s.line + p.newlines
  tokens : s'.tokens = s.tokens ++ ((p.token? s'.line).map (Token.readBy parse)).toList
  errors : s'.errors = s.errors ++ (p.error? s'.line).toList

/-- How far reading had come makes no difference, nor does what was noted. -/
theorem Took.of_same (h : Took parse p s₁ s') (hstart : s₁.start = s.start) (hline : s₁.line = s.line)
    (htokens : s₁.tokens = s.tokens) (herrors : s₁.errors = s.errors) : Took parse p s s' :=
  ⟨hstart ▸ h.current, hline ▸ h.line, htokens ▸ h.tokens, herrors ▸ h.errors⟩

theorem readBy_keyword (hk : keyword? (String.ofList letters) = some kind) (line : Nat) :
    ((Piece.word letters).token? line).map (Token.readBy parse) = some ⟨kind, String.ofList letters, none, line⟩ := by
  simp [Piece.token?_word, hk, Token.readBy, keywords_ne_number (mem_keywords_of_keyword? hk)]

theorem readBy_name (hk : keyword? (String.ofList letters) = none) (line : Nat) :
    ((Piece.word letters).token? line).map (Token.readBy parse) =
      some ⟨.identifier, String.ofList letters, some (.text (String.ofList letters)), line⟩ := by
  simp [Piece.token?_word, hk, Token.readBy]

theorem scanFrom_other (hk : Piece.symbol? c = none) : scanFrom parse c =
    if c = '\n' then modify newline
    else if Piece.isBlank c then return
    else if c = '"' then string
    else if c.isDigit then number parse
    else if Piece.isWordStart c then word
    else modify fun s => s.complain (.strayChar c s.line) := by
  have hslash : c ≠ '/' := by
    rintro rfl
    cases hk
  simp only [scanFrom, if_neg hslash, hk]

theorem scanFrom_digit (hc : c.isDigit = true) : scanFrom parse c = number parse := by
  obtain ⟨hb, -, hq⟩ := Piece.digit_head hc
  rw [scanFrom_other (Piece.symbol?_eq_none fun hp => by simp [hp.digit] at hc)]
  simp [Piece.ne_newline_of_isDigit hc, hb, hq, hc]

theorem scanFrom_word (hc : Piece.isWordStart c = true) : scanFrom parse c = word := by
  obtain ⟨hb, -, hq, hd⟩ := Piece.word_head hc
  have hline : c ≠ '\n' := by
    rintro rfl
    cases hb
  rw [scanFrom_other (Piece.symbol?_eq_none fun hp => by simp [hp.word] at hc)]
  simp [hline, hb, hq, hd, hc]

variable (parse)

/-- What is pushed on the line where a piece began is the token of that piece. -/
theorem runs_token (h : Bounded input s) (hs : s.Stands before p.chars rest) (hlines : p.newlines = 0)
    (ht : (p.token? s.line).map (Token.readBy parse) = some ⟨kind, p.lexeme, literal, s.line⟩) :
    ∃ s', Runs input (pushLiteral kind literal) s () s' ∧ Took parse p s s' := by
  have herror : p.error? s.line = none := by
    obtain ⟨t, hsome, -⟩ := Option.map_eq_some_iff.mp ht
    exact Piece.error?_of_token? hsome
  refine ⟨_, runs_pushLiteral h hs kind literal, ?_⟩
  constructor
  · exact hs.current_eq
  · simp [emit, noteCut, hlines]
  · simp [emit, noteCut, ht, Piece.lexeme]
  · simp [emit, noteCut, herror]

theorem runs_symbol (h : Bounded input s) (hs : s.Stands before spelling rest) (hk : (spelling, kind) ∈ Lexis.symbols) :
    ∃ s', Runs input (push kind) s () s' ∧ Took parse (.symbol kind spelling) s s' := by
  apply runs_token parse h hs (Piece.newlines_symbol hk)
  simp [Piece.token?, Token.readBy, symbols_ne_number hk]

/-- What is handed over to be read is noted before it is read, and is a numeral. -/
theorem runs_pushNumeral (h : Bounded input s) (hs : s.Stands before (Piece.number whole fraction).chars rest)
    (hw : Lexis.Digits whole) (hf : ∀ d ∈ fraction, d.isDigit = true) :
    ∃ s', Runs input (pushNumeral parse) s () s' ∧ Took parse (.number whole fraction) s s' := by
  have hcut := runs_cut h hs.text hs.start hs.current
  have hnoted := hcut.bounded.noteNumeral (Piece.numeral_number hw hf)
  obtain ⟨s', hpush, htook⟩ := runs_token parse (p := .number whole fraction) hnoted
    ⟨hs.text, hs.start, hs.current⟩ (Piece.newlines_number hw hf) rfl
  refine ⟨s', ?_, htook.of_same rfl rfl rfl rfl⟩
  exact (runs_get h).bind (hcut.bind ((runs_modify hnoted).bind hpush))

/-- A word is cut out twice: to be looked up, and for its token. -/
theorem runs_pushWord (h : Bounded input s) (hs : s.Stands before letters rest) (hw : Lexis.Word letters) :
    ∃ s', Runs input pushWord s () s' ∧ Took parse (.word letters) s s' := by
  have hcut := runs_cut h hs.text hs.start hs.current
  have hstands : (s.noteCut s.start s.current).Stands before (Piece.word letters).chars rest := hs.noteCut _ _
  have hlines := Piece.newlines_word hw
  cases hk : keyword? (String.ofList letters) with
  | some kind =>
    obtain ⟨s', hpush, htook⟩ := runs_token parse hcut.bounded hstands hlines (readBy_keyword hk _)
    refine ⟨s', (runs_get h).bind (hcut.bind ?_), htook.of_same rfl rfl rfl rfl⟩
    simp only [hk]
    exact hpush
  | none =>
    obtain ⟨s', hpush, htook⟩ := runs_token parse hcut.bounded hstands hlines (readBy_name hk _)
    refine ⟨s', (runs_get h).bind (hcut.bind ?_), htook.of_same rfl rfl rfl rfl⟩
    simp only [hk]
    exact hpush

/-- A point without a digit behind it is not read. -/
theorem runs_passFraction_none (h : Bounded input s) (hs : s.Stands before read rest)
    (hno : ∀ f behind, rest = '.' :: f :: behind → f.isDigit = false) : Runs input passFraction s () s := by
  refine (runs_get h).bind ?_
  rw [if_neg]
  · exact runs_pure h ()
  · rintro ⟨hpoint, hdigit⟩
    rw [hs.peek?] at hpoint
    obtain ⟨behind, rfl⟩ := List.head?_eq_some_iff.mp hpoint
    rw [hs.peekNext?] at hdigit
    obtain ⟨f, hf, hdigit⟩ := (Option.any_eq_true _ _).mp hdigit
    obtain ⟨behind, rfl⟩ := List.head?_eq_some_iff.mp hf
    simp [hno f behind rfl] at hdigit

/-- A point with a digit behind it is read with all the digits that follow. -/
theorem runs_passFraction (h : Bounded input s) (hs : s.Stands before read ('.' :: f :: rest))
    (hf : f.isDigit = true) :
    Runs input passFraction s () (s.moved ('.' :: f :: rest.takeWhile Char.isDigit).length) := by
  have hpeek : s.peek? = some '.' := hs.peek?
  have hnext : s.peekNext? = some f := hs.peekNext?
  have hdigits := runs_passWhile Char.isDigit (h.forward hpeek) hs.forward
  rw [moved_forward, List.takeWhile_cons_of_pos hf, ← List.length_cons] at hdigits
  refine (runs_get h).bind ?_
  rw [if_pos ⟨hpeek, by simpa [hnext] using hf⟩]
  exact (runs_modify (h.forward hpeek)).bind hdigits

theorem runs_number (h : Bounded input s) (hs : s.Stands before [c] cs)
    (hp : Piece.Takes c cs (.number whole fraction) rest) :
    ∃ s', Runs input (number parse) s () s' ∧ Took parse (.number whole fraction) s s' := by
  obtain ⟨hw, hf⟩ : Lexis.Digits whole ∧ ∀ d ∈ fraction, d.isDigit = true := by
    cases hp.fits with
    | number hw hf => exact ⟨hw, hf⟩
  have hwhole := runs_passWhile Char.isDigit h hs
  have hstands := hs.moved_takeWhile Char.isDigit
  cases hp with
  | whole hc hno =>
    have hnone := runs_passFraction_none hwhole.bounded hstands hno
    obtain ⟨s', hpush, htook⟩ := runs_pushNumeral parse hwhole.bounded hstands hw hf
    exact ⟨s', hwhole.bind (hnone.bind hpush), htook.of_same rfl rfl rfl rfl⟩
  | @fraction f behind hc hrest hdigit =>
    rw [hrest] at hstands
    have hpoint := runs_passFraction hwhole.bounded hstands hdigit
    have hbehind : '.' :: f :: behind =
        '.' :: f :: behind.takeWhile Char.isDigit ++ behind.dropWhile Char.isDigit := by
      simp [List.takeWhile_append_dropWhile]
    rw [hbehind] at hstands
    obtain ⟨s', hpush, htook⟩ := runs_pushNumeral parse hpoint.bounded hstands.moved hw hf
    exact ⟨s', hwhole.bind (hpoint.bind hpush), htook.of_same rfl rfl rfl rfl⟩

theorem runs_word (h : Bounded input s) (hs : s.Stands before [c] cs) (hp : Piece.Takes c cs (.word letters) rest) :
    ∃ s', Runs input word s () s' ∧ Took parse (.word letters) s s' := by
  have hw : Lexis.Word letters := by
    cases hp.fits with
    | word hw => exact hw
  have hpass := runs_passWhile Piece.isWordChar h hs
  cases hp with
  | word hc =>
    obtain ⟨s', hpush, htook⟩ := runs_pushWord parse hpass.bounded (hs.moved_takeWhile Piece.isWordChar) hw
    exact ⟨s', hpass.bind hpush, htook.of_same rfl rfl rfl rfl⟩

/-- What lies between two quotes is cut out without them, even where that is nothing. -/
theorem runs_closed (h : Bounded input s) (hs : s.Stands before ['"'] (body ++ '"' :: rest)) (hb : '"' ∉ body) :
    ∃ s', Runs input string s () s' ∧ Took parse (.string body) s s' := by
  have hquoted := runs_passQuoted h hs hb (by simp)
  have hstands : (s.passed body).forward.Stands before ('"' :: (body ++ ['"'])) rest := hs.passed.forward
  have hforward := hquoted.bounded.forward hs.passed.peek?
  have htext : (s.passed body).forward.text = before ++ ['"'] ++ body ++ '"' :: rest := by simp [hstands.text]
  -- the content lies between the two quotes, which may be next to each other
  have hcut : Runs input (cut ((s.passed body).forward.start + 1) ((s.passed body).forward.current - 1))
      (s.passed body).forward body _ :=
    runs_cut hforward htext (by simp [hstands.start]) (by simp [hstands.current, Nat.add_assoc])
  have hpush := runs_pushLiteral hcut.bounded (hstands.noteCut _ _) .string (some (.text (String.ofList body)))
  refine ⟨_, hquoted.bind ((runs_modify hforward).bind
    ((runs_get hforward).bind (hcut.bind hpush))), ?_⟩
  constructor
  · exact hstands.current_eq
  · simp [emit, noteCut, forward, passed, Piece.newlines, Piece.chars]
  · simp [emit, noteCut, forward, passed, moved, Piece.token?, Piece.lexeme, Piece.chars, Token.readBy]
  · simp [emit, noteCut, forward, passed, moved, Piece.error?]

/-- Without another quote all of the text is read, and nothing is cut out. -/
theorem runs_unclosed (h : Bounded input s) (hs : s.Stands before ['"'] body) (hb : '"' ∉ body) :
    ∃ s', Runs input string s () s' ∧ Took parse (.unclosed body) s s' := by
  have hall : s.Stands before ['"'] (body ++ []) := by rwa [List.append_nil]
  have hquoted := runs_passQuoted h hall hb (by simp)
  refine ⟨_, hquoted.bind (runs_modify (hquoted.bounded.complain _)), ?_⟩
  constructor
  · exact hall.passed.current_eq
  · simp [complain, passed, Piece.newlines, Piece.chars]
  · simp [complain, passed, moved, Piece.token?]
  · simp [complain, passed, moved, Piece.error?]

theorem runs_pushEither (h : Bounded input s) (hs : s.Stands before read ('=' :: rest))
    (hk : (read ++ ['='], double) ∈ Lexis.symbols) (single : Kind) :
    ∃ s', Runs input (pushEither '=' double single) s () s' ∧ Took parse (.symbol double (read ++ ['='])) s s' := by
  have hpass := runs_passes? h hs
  obtain ⟨s', hpush, htook⟩ := runs_symbol parse hpass.bounded hs.forward hk
  exact ⟨s', hpass.bind hpush, htook.of_same rfl rfl rfl rfl⟩

theorem runs_pushEither_single (h : Bounded input s) (hs : s.Stands before read rest) (hr : rest.head? ≠ some '=')
    (hk : (read, single) ∈ Lexis.symbols) (double : Kind) :
    ∃ s', Runs input (pushEither '=' double single) s () s' ∧ Took parse (.symbol single read) s s' := by
  have hpass := runs_passes?_other h hs hr
  obtain ⟨s', hpush, htook⟩ := runs_symbol parse h hs hk
  exact ⟨s', hpass.bind hpush, htook⟩

theorem runs_blank (h : Bounded input s) (hs : s.Stands before [c] cs) (hc : Piece.isBlank c = true) :
    ∃ s', Runs input (scanFrom parse c) s () s' ∧ Took parse (.blank c) s s' := by
  rw [scanFrom_other (Piece.symbol?_eq_none fun hp => by simp [hp.blank] at hc)]
  by_cases hline : c = '\n'
  · subst hline
    refine ⟨s.newline, runs_modify h.newline, hs.current_eq, rfl, ?_, ?_⟩
    · simp [newline, Piece.token?]
    · simp [newline, Piece.error?]
  · rw [if_neg hline, if_pos hc]
    refine ⟨s, runs_pure h (), hs.current_eq, ?_, ?_, ?_⟩
    · simp [Piece.newlines, Piece.chars, hline]
    · simp [Piece.token?]
    · simp [Piece.error?]

/-- A comment goes up to its line's end, which it leaves to be read. -/
theorem runs_comment (h : Bounded input s) (hs : s.Stands before ['/'] ('/' :: cs)) :
    ∃ s', Runs input (scanFrom parse '/') s () s' ∧ Took parse (.comment (cs.takeWhile (· != '\n'))) s s' := by
  have hpass := runs_passes? h hs
  have hbody := runs_passWhile (· != '\n') hpass.bounded hs.forward
  have hlines : (Piece.comment (cs.takeWhile (· != '\n'))).newlines = 0 :=
    Piece.newlines_comment fun hmem => by simpa using List.mem_takeWhile_imp hmem
  refine ⟨_, hpass.bind hbody, ?_⟩
  constructor
  · exact (hs.forward.moved_takeWhile _).current_eq
  · simp [moved, forward, hlines]
  · simp [moved, forward, Piece.token?]
  · simp [moved, forward, Piece.error?]

theorem runs_slash (h : Bounded input s) (hs : s.Stands before ['/'] cs) (hc : cs.head? ≠ some '/') :
    ∃ s', Runs input (scanFrom parse '/') s () s' ∧ Took parse (.symbol .slash ['/']) s s' := by
  have hk : (['/'], Kind.slash) ∈ Lexis.symbols := by decide
  have hpass := runs_passes?_other h hs hc
  obtain ⟨s', hpush, htook⟩ := runs_symbol parse h hs hk
  exact ⟨s', hpass.bind hpush, htook⟩

theorem runs_pair (h : Bounded input s) (hs : s.Stands before [c] ('=' :: rest))
    (hk : Piece.symbolEqual? c = some kind) :
    ∃ s', Runs input (scanFrom parse c) s () s' ∧ Took parse (.symbol kind [c, '=']) s s' := by
  have hmem := Piece.mem_symbols_of_symbolEqual? hk
  have hslash : c ≠ '/' := by
    rintro rfl
    cases hk
  obtain ⟨single, hsingle⟩ := Option.isSome_iff_exists.mp (Lexis.symbols_cons hmem).2.1
  simp only [scanFrom, if_neg hslash, hsingle, hk]
  exact runs_pushEither parse h hs hmem single

theorem runs_single (h : Bounded input s) (hs : s.Stands before [c] cs) (hk : Piece.symbol? c = some kind)
    (hno : ∀ rest, cs = '=' :: rest → Piece.symbolEqual? c = none) (hslash : c ≠ '/') :
    ∃ s', Runs input (scanFrom parse c) s () s' ∧ Took parse (.symbol kind [c]) s s' := by
  have hmem := Piece.mem_symbols_of_symbol? hk
  simp only [scanFrom, if_neg hslash, hk]
  cases hdouble : Piece.symbolEqual? c with
  | none => exact runs_symbol parse h hs hmem
  | some double =>
    apply runs_pushEither_single parse h hs _ hmem
    intro hhead
    obtain ⟨rest, hrest⟩ := List.head?_eq_some_iff.mp hhead
    simp [hno rest hrest] at hdouble

/-- A character that begins nothing is an error on its own. -/
theorem runs_stray (h : Bounded input s) (hs : s.Stands before [c] cs) (hp : Piece.Plain c)
    (hk : Piece.symbol? c = none) : ∃ s', Runs input (scanFrom parse c) s () s' ∧ Took parse (.stray c) s s' := by
  have hline := hp.ne_newline
  rw [scanFrom_other hk]
  simp only [if_neg hline, hp.blank, if_neg hp.quote, hp.digit, hp.word, Bool.false_eq_true, reduceIte]
  refine ⟨_, runs_modify (h.complain _), ?_⟩
  constructor
  · exact hs.current_eq
  · simp [complain, Piece.newlines, Piece.chars, hline]
  · simp [complain, Piece.token?]
  · simp [complain, Piece.error?]

/-- With the first character read, what is left of its piece is read, whatever piece it is. -/
theorem runs_scanFrom (h : Bounded input s) (hs : s.Stands before [c] cs) (hp : Piece.Takes c cs p rest) :
    ∃ s', Runs input (scanFrom parse c) s () s' ∧ Took parse p s s' := by
  cases hp with
  | blank hc => exact runs_blank parse h hs hc
  | string hc hb hrest =>
    subst hc hrest
    exact runs_closed parse h hs hb
  | unclosed hc hb =>
    subst hc
    exact runs_unclosed parse h hs hb
  | whole hc hno =>
    rw [scanFrom_digit hc]
    exact runs_number parse h hs (.whole hc hno)
  | fraction hc hrest hf =>
    rw [scanFrom_digit hc]
    exact runs_number parse h hs (.fraction hc hrest hf)
  | word hc =>
    rw [scanFrom_word hc]
    exact runs_word parse h hs (.word hc)
  | comment hc hrest =>
    subst hc hrest
    exact runs_comment parse h hs
  | pair hrest hk =>
    subst hrest
    exact runs_pair parse h hs hk
  | single hk hno hslash =>
    by_cases hc : c = '/'
    · subst hc
      cases hk
      exact runs_slash parse h hs (hslash rfl)
    · exact runs_single parse h hs hk hno hc
  | stray hplain hk => exact runs_stray parse h hs hplain hk

/-- Nothing of the piece is read before, and all of it afterwards. -/
theorem runs_scanToken (h : Bounded input s) (hs : s.Stands before [] (c :: cs)) (hp : Piece.Takes c cs p rest) :
    ∃ s', Runs input (scanToken parse) s () s' ∧ Took parse p s s' := by
  have hadvance := runs_advance h hs
  obtain ⟨s', hrun, htook⟩ := runs_scanFrom parse hadvance.bounded hs.forward hp
  exact ⟨s', hadvance.bind hrun, htook.of_same rfl rfl rfl rfl⟩

end Scanner

end Lox
