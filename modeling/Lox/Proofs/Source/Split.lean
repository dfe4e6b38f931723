import Lox.Proofs.Source.Spelling
namespace Lox

theorem prefix_takeWhile {f : α → Bool} (h : xs <+: ys) (hf : ∀ x ∈ xs, f x = true) :
    xs <+: ys.takeWhile f := by
  obtain ⟨tail, rfl⟩ := h
  rw [List.takeWhile_append_of_pos hf]
  exact List.prefix_append _ _

theorem append_cons_prefix {f : α → Bool} (h : xs ++ x :: more <+: ys) (hf : ∀ x ∈ xs, f x = true)
    (hx : f x = false) : ys.takeWhile f = xs ∧ x :: more <+: ys.dropWhile f := by
  obtain ⟨tail, rfl⟩ := h
  rw [List.append_assoc, List.takeWhile_append_of_pos hf, List.dropWhile_append_of_pos hf]
  simp [hx]

namespace Lexis
open Piece

/-- A symbol is one character, with an equals sign behind it or not. -/
theorem symbols_cons (h : (c :: cs, kind) ∈ symbols) :
    Plain c ∧ (symbol? c).isSome ∧ (cs = [] ∨ cs = ['='] ∧ (symbolEqual? c).isSome) := by
  have hall : symbols.all fun s => s.1.head?.all fun c =>
      (isBlank c = false ∧ c ≠ '"' ∧ c.isDigit = false ∧ isWordStart c = false) ∧
        (symbol? c).isSome ∧ (s.1.tail = [] ∨ s.1.tail = ['='] ∧ (symbolEqual? c).isSome) := by decide
  obtain ⟨⟨hb, hq, hd, hw⟩, hrest⟩ := of_decide_eq_true (List.all_eq_true.mp hall _ h)
  exact ⟨⟨hb, hq, hd, hw⟩, hrest⟩

/-- How a lexeme goes on is told by its first character. -/
inductive Begins (c : Char) (cs : List Char) : Prop
  | symbol (h : (c :: cs, kind) ∈ symbols)
  | string (hc : c = '"') (hb : '"' ∉ body) (hs : cs = body ++ ['"'])
  | whole (hc : c.isDigit = true) (hd : ∀ d ∈ cs, d.isDigit = true)
  | fraction (hc : c.isDigit = true) (hw : ∀ d ∈ whole, d.isDigit = true) (hf : Digits fraction)
      (hs : cs = whole ++ '.' :: fraction)
  | word (hc : isWordStart c = true) (hw : ∀ d ∈ cs, isWordChar d = true)

theorem Lexeme.begins (h : Lexeme (c :: cs) kind literal) : Begins c cs := by
  generalize ht : c :: cs = text at h
  cases h with
  | symbol h => exact .symbol (ht ▸ h)
  | @string body hb =>
    obtain ⟨rfl, rfl⟩ := List.cons.inj ht
    exact .string rfl hb rfl
  | whole hw =>
    subst ht
    exact .whole (hw.2 c List.mem_cons_self) fun d hd => hw.2 d (List.mem_cons_of_mem _ hd)
  | @fraction whole fraction x hw hf =>
    obtain ⟨d, ds, rfl⟩ := List.exists_cons_of_ne_nil hw.1
    obtain ⟨rfl, hs⟩ := List.cons.inj ht
    exact .fraction (hw.2 c List.mem_cons_self) (fun d hd => hw.2 d (List.mem_cons_of_mem _ hd)) hf hs
  | keyword hw | name hw =>
    subst ht
    obtain ⟨hc, hd⟩ := word_cons_iff.mp hw
    exact .word hc hd

theorem begins_quote (h : Begins '"' cs) : ∃ body, '"' ∉ body ∧ cs = body ++ ['"'] := by
  cases h with
  | symbol h => exact absurd rfl (symbols_cons h).1.quote
  | string _ hb hs => exact ⟨_, hb, hs⟩
  | whole hc | fraction hc | word hc => exact absurd hc (by decide)

theorem begins_digit (hc : c.isDigit = true) (h : Begins c cs) : (∀ d ∈ cs, d.isDigit = true) ∨
    ∃ whole fraction, (∀ d ∈ whole, d.isDigit = true) ∧ Digits fraction ∧ cs = whole ++ '.' :: fraction := by
  cases h with
  | symbol h => simp [(symbols_cons h).1.digit] at hc
  | string hq =>
    subst hq
    exact absurd hc (by decide)
  | whole _ hd => exact .inl hd
  | fraction _ hw hf hs => exact .inr ⟨_, _, hw, hf, hs⟩
  | word hw => simp [isWordStart_of_isDigit hc] at hw

/-- A letter begins a word, and nothing else. -/
theorem begins_word (hc : isWordStart c = true) (h : Begins c cs) : ∀ d ∈ cs, isWordChar d = true := by
  cases h with
  | symbol h => simp [(symbols_cons h).1.word] at hc
  | string hq =>
    subst hq
    exact absurd hc (by decide)
  | whole hd | fraction hd => simp [isWordStart_of_isDigit hd] at hc
  | word _ hw => exact hw

theorem begins_symbol (hp : Plain c) (h : Begins c cs) : ∃ kind, (c :: cs, kind) ∈ symbols := by
  cases h with
  | symbol h => exact ⟨_, h⟩
  | string hc => exact absurd hc hp.quote
  | whole hc | fraction hc => simp [hp.digit] at hc
  | word hc => simp [hp.word] at hc

theorem not_blank (hb : isBlank c = false) (hp : p <+: c :: cs) : ¬Class.blank.Has p := by
  rintro ⟨h⟩
  obtain ⟨rfl, -⟩ := List.cons_prefix_cons.mp hp
  simp [mem_blanks_iff.mp h] at hb

theorem not_comment (hslash : c = '/' → cs.head? ≠ some '/') (hp : p <+: c :: cs) : ¬Class.comment.Has p := by
  rintro ⟨h⟩
  obtain ⟨rfl, tail, rfl⟩ := List.cons_prefix_cons.mp hp
  exact hslash rfl rfl

/-- A lexeme at the front of a text begins as the text does. -/
theorem begins_of_has (h : Class.lexeme.Has p) (hp : p <+: c :: cs) :
    ∃ more, p = c :: more ∧ more <+: cs ∧ Begins c more := by
  cases h with
  | lexeme h =>
    obtain ⟨d, more, rfl⟩ := List.exists_cons_of_ne_nil h.ne_nil
    obtain ⟨rfl, hmore⟩ := List.cons_prefix_cons.mp hp
    exact ⟨more, rfl, hmore, h.begins⟩

/-- Where neither a blank nor a comment begins, a lexeme is taken that no other outruns. -/
theorem Cut.of_lexeme (hhas : Class.lexeme.Has piece) (hs : piece ++ rest = c :: cs) (hb : isBlank c = false)
    (hslash : c = '/' → cs.head? ≠ some '/')
    (hlong : ∀ more, more <+: cs → Begins c more → (c :: more).length ≤ piece.length) :
    Cut .lexeme piece rest := by
  refine ⟨hhas, fun p other hp ho => ?_, fun p hp h => ?_⟩
  · rw [hs] at hp
    cases other with
    | blank => exact absurd ho (not_blank hb hp)
    | comment => exact absurd ho (not_comment hslash hp)
    | lexeme | openString | stray => decide
  · rw [hs] at hp
    obtain ⟨more, rfl, hmore, hbegins⟩ := begins_of_has h hp
    exact hlong more hmore hbegins

theorem cut_blank (hc : isBlank c = true) : Cut .blank [c] cs := by
  refine ⟨.blank (mem_blanks_iff.mpr hc), fun _ _ _ _ => Nat.zero_le _, ?_⟩
  rintro p - ⟨h⟩
  exact Nat.le_refl _

theorem cut_string (hb : '"' ∉ body) : Cut .lexeme ('"' :: (body ++ ['"'])) rest := by
  have hs : '"' :: (body ++ ['"']) ++ rest = '"' :: (body ++ '"' :: rest) := by simp
  refine .of_lexeme (.lexeme (.string hb)) hs (by decide) (absurd · (by decide)) fun more hmore h => ?_
  obtain ⟨other, hother, rfl⟩ := begins_quote h
  -- Both texts go up to the first quote behind the opening one.
  obtain ⟨hsame, -⟩ := append_cons_prefix hmore (all_ne_of_not_mem hother) (by decide)
  rw [List.takeWhile_append_of_pos (all_ne_of_not_mem hb)] at hsame
  simp at hsame
  simp [hsame]

/-- Without another quote in the text there is no lexeme to be taken. -/
theorem cut_unclosed (hb : '"' ∉ cs) : Cut .openString ('"' :: cs) [] := by
  refine ⟨.openString hb, fun p other hp ho => ?_, fun p hp _ => by simpa using hp.length_le⟩
  rw [List.append_nil] at hp
  cases other with
  | blank => exact absurd ho (not_blank (by decide) hp)
  | comment => exact absurd ho (not_comment (absurd · (by decide)) hp)
  | lexeme =>
    obtain ⟨more, -, hmore, h⟩ := begins_of_has ho hp
    obtain ⟨body, -, rfl⟩ := begins_quote h
    exact absurd (hmore.subset (by simp)) hb
  | openString | stray => decide

/-- A longer lexeme would have to go on with a fraction. -/
theorem cut_whole {cs : List Char} (hc : c.isDigit = true)
    (hhas : Class.lexeme.Has (c :: cs.takeWhile Char.isDigit))
    (hno : ∀ f rest, cs.dropWhile Char.isDigit = '.' :: f :: rest → f.isDigit = false) :
    Cut .lexeme (c :: cs.takeWhile Char.isDigit) (cs.dropWhile Char.isDigit) := by
  obtain ⟨hb, hslash, -⟩ := digit_head hc
  have hs : c :: cs.takeWhile Char.isDigit ++ cs.dropWhile Char.isDigit = c :: cs := by simp
  refine .of_lexeme hhas hs hb (absurd · hslash) fun more hmore h => ?_
  rcases begins_digit hc h with hd | ⟨whole, fraction, hw, hf, rfl⟩
  · exact Nat.succ_le_succ (prefix_takeWhile hmore hd).length_le
  · -- A fraction would have its point where these digits end, and a digit behind it.
    obtain ⟨f, fraction, rfl⟩ := List.exists_cons_of_ne_nil hf.1
    obtain ⟨-, tail, hdrop⟩ := append_cons_prefix hmore hw (by decide)
    have hdigit := hf.2 f List.mem_cons_self
    rw [hno f _ hdrop.symm] at hdigit
    cases hdigit

theorem cut_fraction {cs : List Char} (hc : c.isDigit = true) (hs : cs.dropWhile Char.isDigit = '.' :: f :: rest)
    (hf : f.isDigit = true)
    (hhas : Class.lexeme.Has (c :: cs.takeWhile Char.isDigit ++ '.' :: f :: rest.takeWhile Char.isDigit)) :
    Cut .lexeme (c :: cs.takeWhile Char.isDigit ++ '.' :: f :: rest.takeWhile Char.isDigit)
      (rest.dropWhile Char.isDigit) := by
  obtain ⟨hb, hslash, -⟩ := digit_head hc
  have hwhole : c :: cs.takeWhile Char.isDigit ++ '.' :: f :: rest.takeWhile Char.isDigit ++
      rest.dropWhile Char.isDigit = c :: cs := by
    simp only [List.cons_append, List.append_assoc, List.takeWhile_append_dropWhile, ← hs]
  refine .of_lexeme hhas hwhole hb (absurd · hslash) fun more hmore h => ?_
  rcases begins_digit hc h with hd | ⟨whole, fraction, hw, hfraction, rfl⟩
  · have := (prefix_takeWhile hmore hd).length_le
    simp only [List.cons_append, List.length_cons, List.length_append]
    omega
  · -- The points are the same one, so the digits before them are the same too.
    obtain ⟨hsame, hdrop⟩ := append_cons_prefix hmore hw (by decide)
    rw [hs] at hdrop
    have := (prefix_takeWhile (List.cons_prefix_cons.mp hdrop).2 hfraction.2).length_le
    rw [List.takeWhile_cons_of_pos hf] at this
    rw [hsame]
    simpa using this

theorem cut_word {cs : List Char} (hc : isWordStart c = true)
    (hhas : Class.lexeme.Has (c :: cs.takeWhile isWordChar)) :
    Cut .lexeme (c :: cs.takeWhile isWordChar) (cs.dropWhile isWordChar) := by
  obtain ⟨hb, hslash, -⟩ := word_head hc
  have hs : c :: cs.takeWhile isWordChar ++ cs.dropWhile isWordChar = c :: cs := by simp
  refine .of_lexeme hhas hs hb (absurd · hslash) fun more hmore h => ?_
  exact Nat.succ_le_succ (prefix_takeWhile hmore (begins_word hc h)).length_le

theorem cut_comment {behind : List Char}
    (hhas : Class.comment.Has ('/' :: '/' :: behind.takeWhile (· != '\n'))) :
    Cut .comment ('/' :: '/' :: behind.takeWhile (· != '\n')) (behind.dropWhile (· != '\n')) := by
  have hs : '/' :: '/' :: behind.takeWhile (· != '\n') ++ behind.dropWhile (· != '\n') = '/' :: '/' :: behind := by
    simp
  refine ⟨hhas, fun p other hp ho => ?_, ?_⟩
  · rw [hs] at hp
    cases other with
    | blank => exact absurd ho (not_blank (by decide) hp)
    | comment | lexeme | openString | stray => decide
  · intro p hp h
    cases h with
    | comment hb =>
      rw [hs, List.cons_prefix_cons, List.cons_prefix_cons] at hp
      exact Nat.add_le_add_right (prefix_takeWhile hp.2.2 (all_ne_of_not_mem hb)).length_le 2

/-- No symbol has three characters. -/
theorem cut_pair (hk : symbolEqual? c = some kind) : Cut .lexeme [c, '='] rest := by
  have hm := mem_symbols_of_symbolEqual? hk
  have hp := (symbols_cons hm).1
  have hs : [c, '='] ++ rest = c :: '=' :: rest := rfl
  refine .of_lexeme (.lexeme (.symbol hm)) hs hp.blank (by simp) fun more _ h => ?_
  obtain ⟨other, ho⟩ := begins_symbol hp h
  rcases (symbols_cons ho).2.2 with rfl | ⟨rfl, -⟩ <;> simp

/-- A longer lexeme would have to be a symbol with an equals sign. -/
theorem cut_single (hk : symbol? c = some kind) (hno : ∀ rest, cs = '=' :: rest → symbolEqual? c = none)
    (hslash : c = '/' → cs.head? ≠ some '/') : Cut .lexeme [c] cs := by
  have hm := mem_symbols_of_symbol? hk
  have hp := (symbols_cons hm).1
  have hs : [c] ++ cs = c :: cs := rfl
  refine .of_lexeme (.lexeme (.symbol hm)) hs hp.blank hslash fun more hmore h => ?_
  obtain ⟨other, ho⟩ := begins_symbol hp h
  rcases (symbols_cons ho).2.2 with rfl | ⟨rfl, hequal⟩
  · exact Nat.le_refl _
  · obtain ⟨tail, rfl⟩ := hmore
    simp [hno tail rfl] at hequal

theorem cut_stray (hp : Plain c) (hk : symbol? c = none) : Cut .stray [c] cs := by
  refine ⟨.stray, fun p other hfront ho => ?_, ?_⟩
  · cases other with
    | blank => exact absurd ho (not_blank hp.blank hfront)
    | comment =>
      have hslash : c ≠ '/' := by
        rintro rfl
        cases hk
      exact absurd ho (not_comment (absurd · hslash) hfront)
    | lexeme =>
      obtain ⟨more, -, -, h⟩ := begins_of_has ho hfront
      obtain ⟨kind, hm⟩ := begins_symbol hp h
      have hsome := (symbols_cons hm).2.1
      rw [hk] at hsome
      cases hsome
    | openString =>
      obtain ⟨h⟩ := ho
      exact absurd (List.cons_prefix_cons.mp hfront).1.symm hp.quote
    | stray => decide
  · rintro p - ⟨⟩
    exact Nat.le_refl _

/-- Each step takes what the lexical grammar has it take. -/
theorem cut_of_takes (h : Takes c cs p rest) : Cut p.lexicalClass p.chars rest := by
  have hhas := h.fits.has
  cases h with
  | blank hc => exact cut_blank hc
  | string hc hb hs => exact cut_string hb
  | unclosed hc hb => exact cut_unclosed hb
  | whole hc hno => exact cut_whole hc hhas hno
  | fraction hc hs hf => exact cut_fraction hc hs hf hhas
  | word hc => exact cut_word hc hhas
  | comment => exact cut_comment hhas
  | pair hs hk => exact cut_pair hk
  | single hk hno hslash => exact cut_single hk hno hslash
  | stray hp hk => exact cut_stray hp hk

def splitOf (ps : List Piece) : List (Class × List Char) := ps.map fun p => (p.lexicalClass, p.chars)

/-- The pieces of a text are the split that the lexical grammar makes. -/
theorem split_pieces (text : List Char) :
    Split text (splitOf (pieces text)) := by
  fun_induction pieces text with
  | case1 => exact .nil
  | case2 c cs ih =>
    have hcut := cut_of_takes (takes_first c cs)
    rw [← chars_first c cs]
    exact .cons hcut ih

theorem lexemes_cons_self (text : List Char) (split : List (Class × List Char)) :
    lexemes ((.lexeme, text) :: split) = text :: lexemes split := by
  simp [lexemes]

theorem lexemes_cons_of_ne (h : k ≠ .lexeme) (text : List Char) (split : List (Class × List Char)) :
    lexemes ((k, text) :: split) = lexemes split := by
  simp [lexemes, h]

end Lexis

theorem fits_pieces (text : List Char) : ∀ p ∈ pieces text, p.Fits := by
  fun_induction pieces text with
  | case1 => simp
  | case2 c cs ih => exact List.forall_mem_cons.mpr ⟨(Piece.takes_first c cs).fits, ih⟩

/-- Every number that is read is the double nearest to some decimal. -/
theorem Lexis.Lexeme.exists_decimal (h : Lexeme text kind (some (.number x))) : ∃ d : Decimal, x = d.toDouble := by
  cases h with
  | whole _ hx => exact ⟨_, hx.eq_toDouble⟩
  | fraction _ _ hx => exact ⟨_, hx.eq_toDouble⟩

/-- The token has the kind and the literal of its own lexeme. -/
def Token.Spelt (t : Token) : Prop := Lexis.Lexeme t.lexeme.toList t.kind t.literal

/-- Every token of a text is spelt as it is meant. -/
theorem spelt_of_mem_tokensFrom (h : t ∈ tokensFrom line text) : t.Spelt := by
  obtain ⟨⟨p, n⟩, hp, ht⟩ := List.mem_filterMap.mp h
  have hspells := (fits_pieces text p (mem_of_mem_numbered hp)).spells ht
  rw [Token.Spelt, hspells.spelling, String.toList_ofList]
  exact hspells.lexeme

theorem spells_tokens (h : ∀ p ∈ ps, Piece.Fits p) (line : Nat) :
    List.Forall₂ Lexis.Spells ((numbered line ps).filterMap fun (p, line) => p.token? line)
      (Lexis.lexemes (Lexis.splitOf ps)) := by
  induction ps generalizing line with
  | nil => exact .nil
  | cons p ps ih =>
    obtain ⟨hp, hps⟩ := List.forall_mem_cons.mp h
    have hrest := ih hps (line + p.newlines)
    rw [Lexis.splitOf, List.map_cons, numbered, List.filterMap_cons]
    cases ht : p.token? (line + p.newlines) with
    | none =>
      have hk : p.lexicalClass ≠ .lexeme := Piece.token?_eq_none_iff.mp ht
      simp only [ht, Lexis.lexemes_cons_of_ne hk]
      exact hrest
    | some t =>
      have hk : p.lexicalClass = .lexeme := by
        by_contra hk
        simp [Piece.token?_eq_none_iff.mpr hk] at ht
      simp only [ht, hk, Lexis.lexemes_cons_self]
      exact .cons (hp.spells ht) hrest

/-- There is one error to each offence, in order. -/
theorem reports_errors (ps : List Piece) (line : Nat) :
    List.Forall₂ Lexis.Reports (Lexis.offences (Lexis.splitOf ps))
      ((numbered line ps).filterMap fun (p, line) => p.error? line) := by
  induction ps generalizing line with
  | nil => exact .nil
  | cons p ps ih =>
    have hrest := ih (line + p.newlines)
    cases p with
    | unclosed body => exact .cons .openString hrest
    | stray c => exact .cons .stray hrest
    | _ => exact hrest

/-- A text can be split in one way only by the lexical grammar, nothing of it is lost, and the scan is what
there is to be read in that split. -/
theorem ofSource_split (source : String) :
    ∃ split, Lexis.Split source.toList split ∧ (∀ other, Lexis.Split source.toList other → other = split) ∧
      split.flatMap (·.2) = source.toList ∧ (∀ piece ∈ split, piece.2 ≠ []) ∧
      Lexis.Reads split (Scan.ofSource source) (1 + source.toList.count '\n') := by
  have hsplit := Lexis.split_pieces source.toList
  refine ⟨_, hsplit, fun other h => h.unique hsplit, hsplit.flatten, hsplit.ne_nil, ?_, ?_⟩
  · exact ⟨_, rfl, spells_tokens (fits_pieces source.toList) 1⟩
  · exact reports_errors (pieces source.toList) 1

end Lox
