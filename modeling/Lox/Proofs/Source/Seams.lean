import Lox.Proofs.Source.Split
namespace Lox

/-- What all of `xs` has and the next element has not, is `xs`. -/
theorem span_append {f : α → Bool} {xs rest : List α} (hall : ∀ x ∈ xs, f x = true)
    (hstop : ∀ x ∈ rest.head?, f x = false) :
    (xs ++ rest).takeWhile f = xs ∧ (xs ++ rest).dropWhile f = rest := by
  rw [List.takeWhile_append_of_pos hall, List.dropWhile_append_of_pos hall]
  cases rest with
  | nil => simp
  | cons x rest =>
    have hx : f x = false := hstop x rfl
    simp [hx]

theorem head?_dropWhile {f : α → Bool} (xs : List α) : ∀ x ∈ (xs.dropWhile f).head?, f x = false := by
  intro x hx
  have := List.head?_dropWhile_not f xs
  rw [Option.mem_def.mp hx] at this
  simpa using this

theorem Lexis.Word.ne_nil (h : Word letters) : letters ≠ [] := by
  rintro rfl
  exact h

namespace Piece

/-- The character does not go on a number, a word or a symbol before it. -/
structure Separates (c : Char) : Prop where
  digit : c.isDigit = false
  word : isWordChar c = false
  mark : c ∉ ['.', '=', '/']

theorem separates_newline : Separates '\n' := ⟨by decide, by decide, by decide⟩

theorem separates_space : Separates ' ' := ⟨by decide, by decide, by decide⟩

/-- All that it takes for a text to begin with this piece and go on with `rest`: the piece is spelt as its class has it,
and `rest` does not make it longer. -/
inductive Before : Piece → List Char → Prop
  | blank (hc : isBlank c = true) : Before (.blank c) rest
  | comment (hb : '\n' ∉ body) (hr : ∀ d ∈ rest.head?, d = '\n') : Before (.comment body) rest
  | symbol (hs : (spelling, kind) ∈ Lexis.symbols)
      (hr : ∀ d ∈ rest.head?, ∀ other, (spelling ++ [d], other) ∉ Lexis.symbols)
      (hslash : spelling = ['/'] → rest.head? ≠ some '/') : Before (.symbol kind spelling) rest
  | string (hb : '"' ∉ body) : Before (.string body) rest
  | number (hw : Lexis.Digits whole) (hf : ∀ d ∈ fraction, d.isDigit = true)
      (hr : ∀ d ∈ rest.head?, d.isDigit = false)
      (hpoint : fraction = [] → ∀ d tail, rest = '.' :: d :: tail → d.isDigit = false) :
      Before (.number whole fraction) rest
  | word (hw : Lexis.Word letters) (hr : ∀ d ∈ rest.head?, isWordChar d = false) : Before (.word letters) rest
  | unclosed (hb : '"' ∉ body) : Before (.unclosed body) []
  | stray (hp : Plain c) (hk : symbol? c = none) : Before (.stray c) rest

/-- Only an equals sign makes a symbol longer, and only a symbol of one character. -/
theorem symbols_append (h : (cs ++ [d], kind) ∈ Lexis.symbols) (hcs : cs ≠ []) :
    ∃ c, cs = [c] ∧ d = '=' ∧ (symbolEqual? c).isSome := by
  obtain ⟨c, cs, rfl⟩ := List.exists_cons_of_ne_nil hcs
  rcases (Lexis.symbols_cons h).2.2 with hs | ⟨hs, hk⟩
  · simp at hs
  · obtain ⟨rfl, rfl⟩ : cs = [] ∧ d = '=' := by simpa [List.append_eq_singleton_iff] using hs
    exact ⟨c, rfl, rfl, hk⟩

/-- What the first step takes is not made longer by what it leaves. -/
theorem Takes.before (h : Takes c cs p rest) : Before p rest := by
  have hfits := h.fits
  cases h with
  | blank hc => exact .blank hc
  | string hc hb hs => exact .string hb
  | unclosed hc hb => exact .unclosed hb
  | whole hc hno =>
    cases hfits with
    | number hw hf => exact .number hw hf (head?_dropWhile cs) fun _ => hno
  | fraction hc hs hf =>
    cases hfits with
    | number hw hf => exact .number hw hf (head?_dropWhile _) nofun
  | word hc =>
    cases hfits with
    | word hw => exact .word hw (head?_dropWhile cs)
  | comment hc hs =>
    cases hfits with
    | comment hb =>
      refine .comment hb fun d hd => ?_
      simpa using head?_dropWhile _ d hd
  | pair hs hk =>
    refine .symbol (mem_symbols_of_symbolEqual? hk) (fun d _ other hm => ?_) (by simp)
    obtain ⟨c, hc, -⟩ := symbols_append hm (List.cons_ne_nil _ _)
    cases hc
  | single hk hno hslash =>
    refine .symbol (mem_symbols_of_symbol? hk) (fun d hd other hm => ?_) fun hs => ?_
    · obtain ⟨c', hc, rfl, hsome⟩ := symbols_append hm (List.cons_ne_nil _ _)
      cases hc
      obtain ⟨tail, rfl⟩ := List.head?_eq_some_iff.mp hd
      simp [hno tail rfl] at hsome
    · exact hslash (List.cons.inj hs).1
  | stray hp hk => exact .stray hp hk

theorem symbol?_of_mem_symbols (h : ([c], kind) ∈ Lexis.symbols) : symbol? c = some kind := by
  have hall : Lexis.symbols.all (fun s => s.1.head?.all fun c => s.1.tail = [] → symbol? c = some s.2) := by decide
  exact of_decide_eq_true (List.all_eq_true.mp hall _ h) rfl

theorem symbolEqual?_of_mem_symbols (h : ([c, '='], kind) ∈ Lexis.symbols) : symbolEqual? c = some kind := by
  have hall : Lexis.symbols.all (fun s => s.1.head?.all fun c => s.1.tail = ['='] → symbolEqual? c = some s.2) := by
    decide
  exact of_decide_eq_true (List.all_eq_true.mp hall _ h) rfl

theorem symbolEqual?_of_symbol? (h : symbol? c = none) : symbolEqual? c = none := by
  unfold symbolEqual?
  split <;> first | rfl | cases h

theorem first_plain (hp : Plain c) (hslash : c = '/' → cs.head? ≠ some '/') : first c cs = operator c cs := by
  have hcomment : ¬(c = '/' ∧ cs.head? = some '/') := fun h => hslash h.1 h.2
  simp only [first, hp.blank, hp.quote, hp.digit, hp.word, hcomment, Bool.false_eq_true, reduceIte]

theorem numeral_of_stop (hw : ∀ d ∈ whole, d.isDigit = true) (hr : ∀ d ∈ rest.head?, Char.isDigit d = false)
    (hpoint : ∀ d tail, rest = '.' :: d :: tail → d.isDigit = false) :
    numeral c (whole ++ rest) = (number (c :: whole) [], rest) := by
  obtain ⟨htake, hdrop⟩ := span_append hw hr
  unfold numeral
  rw [htake, hdrop]
  split
  · simp [hpoint _ _ rfl]
  · rfl

theorem numeral_of_point (hw : ∀ d ∈ whole, d.isDigit = true) (hd : Char.isDigit d = true)
    (hf : ∀ d ∈ fraction, d.isDigit = true) (hr : ∀ d ∈ rest.head?, Char.isDigit d = false) :
    numeral c (whole ++ '.' :: d :: (fraction ++ rest)) = (number (c :: whole) (d :: fraction), rest) := by
  have hdot : ∀ e ∈ ('.' :: d :: (fraction ++ rest)).head?, e.isDigit = false := by
    rintro e ⟨⟩
    decide
  obtain ⟨htake, hdrop⟩ := span_append hw hdot
  obtain ⟨htake', hdrop'⟩ := span_append hf hr
  simp only [numeral, htake, hdrop, hd, htake', hdrop', reduceIte]

theorem first_of_symbol (hs : (c :: more, kind) ∈ Lexis.symbols)
    (hr : ∀ d ∈ rest.head?, ∀ other, (c :: more ++ [d], other) ∉ Lexis.symbols)
    (hslash : c :: more = ['/'] → rest.head? ≠ some '/') :
    first c (more ++ rest) = (symbol kind (c :: more), rest) := by
  obtain ⟨hp, -, rfl | ⟨rfl, -⟩⟩ := Lexis.symbols_cons hs
  · have hk := symbol?_of_mem_symbols hs
    rw [List.nil_append, first_plain hp fun hc => hslash (by rw [hc])]
    unfold operator
    split
    · next kind' hk' => exact absurd (mem_symbols_of_symbolEqual? hk') (hr '=' rfl kind')
    · simp_all
    · simp_all
  · have hk := symbolEqual?_of_mem_symbols hs
    rw [List.cons_append, List.nil_append, first_plain hp fun _ => by simp]
    simp [operator, hk]

/-- The classes tell apart how texts begin, so the piece is the one that the first step takes. -/
theorem first_of_before (h : Before p rest) (ht : p.chars ++ rest = c :: cs) : first c cs = (p, rest) := by
  cases h with
  | blank hc =>
    obtain ⟨rfl, rfl⟩ : _ = c ∧ rest = cs := by simpa [chars] using ht
    simp [first, hc]
  | @comment body _ hb hr =>
    obtain ⟨rfl, rfl⟩ : '/' = c ∧ '/' :: (body ++ rest) = cs := by simpa [chars] using ht
    have hstop : ∀ d ∈ rest.head?, (d != '\n') = false := by simpa using hr
    obtain ⟨htake, hdrop⟩ := span_append (all_ne_of_not_mem hb) hstop
    rw [first_comment, htake, hdrop]
  | @symbol spelling _ kind hs hr hslash =>
    obtain ⟨d, more, rfl⟩ := List.exists_cons_of_ne_nil (Lexis.Lexeme.symbol hs).ne_nil
    obtain ⟨rfl, rfl⟩ : d = c ∧ more ++ rest = cs := by simpa [chars] using ht
    exact first_of_symbol hs hr hslash
  | @string body _ hb =>
    obtain ⟨rfl, rfl⟩ : '"' = c ∧ body ++ '"' :: rest = cs := by simpa [chars] using ht
    exact quoted_closed hb rest
  | @number whole fraction _ hw hf hr hpoint =>
    obtain ⟨d, ws, rfl⟩ := List.exists_cons_of_ne_nil hw.1
    obtain ⟨hd, hws⟩ := List.forall_mem_cons.mp hw.2
    cases fraction with
    | nil =>
      obtain ⟨rfl, rfl⟩ : d = c ∧ ws ++ rest = cs := by simpa [chars] using ht
      rw [first_digit hd]
      exact numeral_of_stop hws hr (hpoint rfl)
    | cons f fraction =>
      obtain ⟨hf, hfs⟩ := List.forall_mem_cons.mp hf
      obtain ⟨rfl, rfl⟩ : d = c ∧ ws ++ '.' :: f :: (fraction ++ rest) = cs := by simpa [chars] using ht
      rw [first_digit hd]
      exact numeral_of_point hws hf hfs hr
  | @word letters _ hw hr =>
    obtain ⟨d, ds, rfl⟩ := List.exists_cons_of_ne_nil hw.ne_nil
    obtain ⟨rfl, rfl⟩ : d = c ∧ ds ++ rest = cs := by simpa [chars] using ht
    obtain ⟨hd, hds⟩ := Lexis.word_cons_iff.mp hw
    obtain ⟨htake, hdrop⟩ := span_append hds hr
    rw [first_word hd, htake, hdrop]
  | @unclosed body hb =>
    obtain ⟨rfl, rfl⟩ : '"' = c ∧ body = cs := by simpa [chars] using ht
    rw [first_quote, quoted_of_not_mem hb]
  | @stray d _ hp hk =>
    obtain ⟨rfl, rfl⟩ : d = c ∧ rest = cs := by simpa [chars] using ht
    have hslash : d ≠ '/' := by
      rintro rfl
      cases hk
    rw [first_plain hp (absurd · hslash)]
    simp [operator, hk, symbolEqual?_of_symbol? hk]

/-- The first step takes a piece and leaves a rest exactly where the piece stands before that rest. -/
theorem first_eq_iff : first c cs = (p, rest) ↔ p.chars ++ rest = c :: cs ∧ Before p rest := by
  constructor
  · intro h
    have ht := chars_first c cs
    have hb := (takes_first c cs).before
    rw [h] at ht hb
    exact ⟨ht, hb⟩
  · rintro ⟨ht, hb⟩
    exact first_of_before hb ht

theorem Before.ne_nil (h : Before p rest) : p.chars ≠ [] := by
  cases h with
  | symbol hs => exact (Lexis.Lexeme.symbol hs).ne_nil
  | word hw => exact hw.ne_nil
  | @number whole fraction _ hw =>
    cases fraction with
    | nil => exact hw.1
    | cons => simp [chars]
  | _ => simp [chars]

/-- What follows a piece may change where it still begins as it did or with what no piece goes on with, a comment still
ends at its line, and an open string at the text. -/
theorem Before.change (h : Before p rest) (hhead : ∀ d ∈ rest'.head?, d ∈ rest.head? ∨ Separates d)
    (hpoint : ∀ d tail, rest' = '.' :: d :: tail → d.isDigit = true → ∃ tail', rest = '.' :: d :: tail')
    (hcomment : (∃ body, p = Piece.comment body) → ∀ d ∈ rest'.head?, d = '\n')
    (hopen : (∃ body, p = Piece.unclosed body) → rest' = []) : Before p rest' := by
  cases h with
  | blank hc => exact .blank hc
  | comment hb => exact .comment hb (hcomment ⟨_, rfl⟩)
  | symbol hs hr hslash =>
    refine .symbol hs ?_ ?_
    · intro d hd other hm
      rcases hhead d hd with hd | hsep
      · exact hr d hd other hm
      · obtain ⟨c, -, rfl, -⟩ := symbols_append hm (Lexis.Lexeme.symbol hs).ne_nil
        exact hsep.mark (by simp)
    · intro he hh
      rcases hhead '/' hh with hh | hsep
      · exact hslash he hh
      · exact hsep.mark (by simp)
  | string hb => exact .string hb
  | number hw hf hr hno =>
    refine .number hw hf ?_ ?_
    · intro d hd
      rcases hhead d hd with hd | hsep
      · exact hr d hd
      · exact hsep.digit
    · intro he d tail htail
      rw [Bool.eq_false_iff]
      intro hd
      obtain ⟨tail', hrest⟩ := hpoint d tail htail hd
      rw [hno he d tail' hrest] at hd
      cases hd
  | word hw hr =>
    apply Before.word hw
    intro d hd
    rcases hhead d hd with hd | hsep
    · exact hr d hd
    · exact hsep.word
  | unclosed hb =>
    obtain rfl := hopen ⟨_, rfl⟩
    exact .unclosed hb
  | stray hp hk => exact .stray hp hk

/-- A piece that stands before something can stand at the end. -/
theorem Before.alone (h : Before p rest) : Before p [] := by
  apply h.change
  · intro d hd
    cases hd
  · intro d tail htail
    cases htail
  · intro _ d hd
    cases hd
  · intro _
    rfl

/-- What stands apart from a piece may stand behind it, too. -/
theorem Before.append (hd : Separates d) (h : Before p rest) (hopen : ∀ body, p ≠ Piece.unclosed body)
    (hcomment : (∃ body, p = Piece.comment body) → rest = [] → d = '\n') (tail : List Char) :
    Before p (rest ++ d :: tail) := by
  apply h.change
  · intro e he
    cases rest with
    | nil =>
      obtain rfl := Option.mem_some.mp he
      exact .inr hd
    | cons => exact .inl he
  · intro e more hm he
    rcases rest with _ | ⟨c, _ | ⟨c', rest⟩⟩
    · cases hm
      exact absurd (by simp) hd.mark
    · cases hm
      rw [hd.digit] at he
      cases he
    · cases hm
      exact ⟨rest, rfl⟩
  · rintro ⟨body, rfl⟩ e he
    cases h with
    | comment _ hr =>
      cases rest with
      | nil =>
        obtain rfl := Option.mem_some.mp he
        exact hcomment ⟨body, rfl⟩ rfl
      | cons => exact hr e he
  · rintro ⟨body, hbody⟩
    exact absurd hbody (hopen body)

end Piece

/-- A piece that stands before a text is the first of both together. -/
theorem pieces_of_before (h : Piece.Before p rest) : pieces (p.chars ++ rest) = p :: pieces rest := by
  obtain ⟨c, cs, hc⟩ := List.exists_cons_of_ne_nil h.ne_nil
  rw [hc, List.cons_append, pieces, Piece.first_eq_iff.mpr ⟨by rw [hc, List.cons_append], h⟩]

theorem scan_nil (line : Nat) : tokensFrom line [] = [] ∧ errorsFrom line [] = [] := by
  simp [tokensFrom, errorsFrom, pieces, numbered]

theorem tokensFrom_before (hp : Piece.Before p rest) (line : Nat) :
    tokensFrom line (p.chars ++ rest) =
      (p.token? (line + p.newlines)).toList ++ tokensFrom (line + p.newlines) rest := by
  simp only [tokensFrom, pieces_of_before hp, numbered, List.filterMap_cons]
  cases p.token? (line + p.newlines) <;> rfl

theorem errorsFrom_before (hp : Piece.Before p rest) (line : Nat) :
    errorsFrom line (p.chars ++ rest) =
      (p.error? (line + p.newlines)).toList ++ errorsFrom (line + p.newlines) rest := by
  simp only [errorsFrom, pieces_of_before hp, numbered, List.filterMap_cons]
  cases p.error? (line + p.newlines) <;> rfl

/-- The first piece of a text is the same when more follows it. -/
theorem Piece.first_append (hd : Separates d) (hopen : ∀ body, (first c cs).1 ≠ unclosed body)
    (hcomment : (∃ body, (first c cs).1 = comment body) → (first c cs).2 = [] → d = '\n') :
    first c (cs ++ d :: tail) = ((first c cs).1, (first c cs).2 ++ d :: tail) := by
  have hb := (takes_first c cs).before.append hd hopen hcomment tail
  refine first_of_before hb ?_
  rw [← List.append_assoc, chars_first, List.cons_append]

/-- By the first piece, whose rest is read to its end as the whole text is. -/
theorem pieces_cons_append (hd : Piece.Separates d) (hopen : ∀ body, (Piece.first c cs).1 ≠ .unclosed body)
    (hcomment : (∃ body, (Piece.first c cs).1 = .comment body) → (Piece.first c cs).2 = [] → d = '\n') :
    pieces (c :: cs ++ d :: tail) =
      (Piece.first c cs).1 :: pieces ((Piece.first c cs).2 ++ d :: tail) := by
  rw [List.cons_append, pieces, Piece.first_append hd hopen hcomment]

/-- Pieces that are read to their end do not depend on what follows them. -/
theorem pieces_append (hd : Piece.Separates d) (hopen : ∀ body, Piece.unclosed body ∉ pieces cs)
    (hcomment : ∀ body, (pieces cs).getLast? = some (.comment body) → d = '\n') :
    pieces (cs ++ d :: tail) = pieces cs ++ pieces (d :: tail) := by
  fun_induction pieces cs with
  | case1 => rfl
  | case2 c cs ih =>
    have hfirst : ∀ body, (Piece.first c cs).1 ≠ .unclosed body :=
      fun body hb => hopen body (List.mem_cons.mpr (.inl hb.symm))
    have hend : (∃ body, (Piece.first c cs).1 = .comment body) → (Piece.first c cs).2 = [] → d = '\n' := by
      rintro ⟨body, hb⟩ hn
      exact hcomment body (by simp [hb, hn, pieces])
    rw [pieces_cons_append hd hfirst hend, ih, List.cons_append]
    · exact fun body hb => hopen body (List.mem_cons_of_mem _ hb)
    · intro body hb
      exact hcomment body (by simp [List.getLast?_cons, hb])

/-- Pieces each of which stands before the characters of all those behind it. -/
inductive Seamed : List Piece → Prop
  | nil : Seamed []
  | cons (hp : p.Before (ps.flatMap Piece.chars)) (h : Seamed ps) : Seamed (p :: ps)

/-- So are the pieces of a text, and no others give the text. -/
theorem pieces_eq_iff : pieces text = ps ↔ ps.flatMap Piece.chars = text ∧ Seamed ps := by
  constructor
  · rintro rfl
    refine ⟨chars_pieces text, ?_⟩
    fun_induction pieces text with
    | case1 => exact .nil
    | case2 c cs ih =>
      refine .cons ?_ ih
      rw [chars_pieces]
      exact (Piece.first_eq_iff.mp rfl).2
  · rintro ⟨rfl, h⟩
    induction h with
    | nil => simp [pieces]
    | cons hp _ ih => rw [List.flatMap_cons, pieces_of_before hp, ih]

namespace Lexis

/-- A lexeme that stands alone is one piece, and is read as it is meant. -/
theorem Lexeme.piece (h : Lexeme text kind literal) : ∃ p, Piece.chars p = text ∧ p.Before [] ∧
    ∀ line, p.token? line = some ⟨kind, String.ofList text, literal, line⟩ := by
  cases h with
  | symbol h => exact ⟨_, rfl, .symbol h nofun nofun, fun _ => rfl⟩
  | @string body hb => exact ⟨.string body, rfl, .string hb, fun _ => rfl⟩
  | whole hw hx =>
    obtain rfl := hx.eq_toDouble
    exact ⟨.number _ [], rfl, .number hw nofun nofun nofun, fun _ => rfl⟩
  | fraction hw hf hx =>
    obtain rfl := hx.eq_toDouble
    obtain ⟨f, fraction, rfl⟩ := List.exists_cons_of_ne_nil hf.1
    exact ⟨.number _ (f :: fraction), rfl, .number hw hf.2 nofun nofun, fun _ => rfl⟩
  | keyword hw hk =>
    refine ⟨.word _, rfl, .word hw nofun, fun line => ?_⟩
    rw [Piece.token?_word, keyword?_of_mem hk]
  | name hw hk =>
    refine ⟨.word _, rfl, .word hw nofun, fun line => ?_⟩
    have hnone : keyword? (String.ofList text) = none := by
      refine List.lookup_eq_none_iff.mpr fun p hp => ?_
      rw [bne_iff_ne]
      exact fun hs => hk p.2 (hs ▸ hp)
    rw [Piece.token?_word, hnone]

/-- A text is meant in one way only. -/
theorem Lexeme.unique (h : Lexeme text kind literal) (h' : Lexeme text kind' literal') :
    kind = kind' ∧ literal = literal' := by
  obtain ⟨p, rfl, hp, ht⟩ := h.piece
  obtain ⟨p', hs, hp', ht'⟩ := h'.piece
  have hsame : [p] = [p'] := by
    have hpieces := (pieces_of_before hp').symm
    rw [hs, pieces_of_before hp] at hpieces
    simpa [pieces] using hpieces.symm
  cases hsame
  have htokens := (ht 1).symm.trans (ht' 1)
  simp only [Option.some.injEq, Token.mk.injEq] at htokens
  exact ⟨htokens.1, htokens.2.2.1⟩

end Lexis

end Lox
