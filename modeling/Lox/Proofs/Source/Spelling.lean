import Lox.Proofs.Source.Lexis
import Lox.Proofs.Source.Tokens
namespace Lox

namespace Lexis

theorem mem_blanks_iff : c ∈ [' ', '\t', '\r', '\n'] ↔ Piece.isBlank c = true := by
  simp [Piece.isBlank, or_assoc]

theorem word_cons_iff : Word (c :: cs) ↔ Piece.isWordStart c = true ∧ ∀ d ∈ cs, Piece.isWordChar d = true := by
  simp [Word, Piece.isWordStart, Piece.isWordChar]

end Lexis

namespace Piece

/-- With this character begins a symbol or nothing: no blank, comment, text in quotes, number or word. -/
structure Plain (c : Char) : Prop where
  blank : isBlank c = false
  quote : c ≠ '"'
  digit : c.isDigit = false
  word : isWordStart c = false

theorem isBlank_head (h : isBlank c = true) :
    c ≠ '/' ∧ c ≠ '"' ∧ c.isDigit = false ∧ isWordStart c = false := by
  simp only [isBlank, Bool.or_eq_true, beq_iff_eq] at h
  rcases h with ((rfl | rfl) | rfl) | rfl <;> decide

theorem isWordStart_of_isDigit (h : Char.isDigit c = true) : isWordStart c = false := by
  have hdigit : ('0'.val ≤ c.val && c.val ≤ '9'.val) = true := h
  rw [Bool.eq_false_iff]
  intro hw
  have hstart : (c == '_' || (decide ('A'.val ≤ c.val ∧ c.val ≤ 'Z'.val) ||
      ('a'.val ≤ c.val && c.val ≤ 'z'.val))) = true := hw
  simp only [Bool.or_eq_true, Bool.and_eq_true, decide_eq_true_eq, beq_iff_eq, UInt32.le_iff_toNat_le]
    at hdigit hstart
  rcases hstart with rfl | hstart
  · exact absurd h (by decide)
  · simp only [UInt32.reduceToNat, Char.reduceVal] at hdigit hstart
    omega

theorem digit_head (hc : Char.isDigit c = true) : isBlank c = false ∧ c ≠ '/' ∧ c ≠ '"' := by
  refine ⟨Bool.eq_false_iff.mpr fun hb => ?_, ?_, ?_⟩
  · simp [(isBlank_head hb).2.2.1] at hc
  · rintro rfl
    exact absurd hc (by decide)
  · rintro rfl
    exact absurd hc (by decide)

theorem word_head (hc : isWordStart c = true) :
    isBlank c = false ∧ c ≠ '/' ∧ c ≠ '"' ∧ c.isDigit = false := by
  refine ⟨Bool.eq_false_iff.mpr fun hb => ?_, ?_, ?_, Bool.eq_false_iff.mpr fun hd => ?_⟩
  · simp [(isBlank_head hb).2.2.2] at hc
  · rintro rfl
    exact absurd hc (by decide)
  · rintro rfl
    exact absurd hc (by decide)
  · simp [isWordStart_of_isDigit hd] at hc

/-- What the first step takes from a text, and what it leaves. -/
inductive Takes (c : Char) (cs : List Char) : Piece → List Char → Prop
  | blank (hc : isBlank c = true) : Takes c cs (.blank c) cs
  | string (hc : c = '"') (hb : '"' ∉ body) (hs : cs = body ++ '"' :: rest) : Takes c cs (.string body) rest
  | unclosed (hc : c = '"') (hb : '"' ∉ cs) : Takes c cs (.unclosed cs) []
  | whole (hc : c.isDigit = true)
      (hno : ∀ f rest, cs.dropWhile Char.isDigit = '.' :: f :: rest → f.isDigit = false) :
      Takes c cs (.number (c :: cs.takeWhile Char.isDigit) []) (cs.dropWhile Char.isDigit)
  | fraction (hc : c.isDigit = true) (hs : cs.dropWhile Char.isDigit = '.' :: f :: rest)
      (hf : f.isDigit = true) :
      Takes c cs (.number (c :: cs.takeWhile Char.isDigit) (f :: rest.takeWhile Char.isDigit))
        (rest.dropWhile Char.isDigit)
  | word (hc : isWordStart c = true) :
      Takes c cs (.word (c :: cs.takeWhile isWordChar)) (cs.dropWhile isWordChar)
  | comment (hc : c = '/') (hs : cs = '/' :: behind) :
      Takes c cs (.comment (behind.takeWhile (· != '\n'))) (behind.dropWhile (· != '\n'))
  | pair (hs : cs = '=' :: rest) (hk : symbolEqual? c = some kind) : Takes c cs (.symbol kind [c, '=']) rest
  | single (hk : symbol? c = some kind) (hno : ∀ rest, cs = '=' :: rest → symbolEqual? c = none)
      (hslash : c = '/' → cs.head? ≠ some '/') : Takes c cs (.symbol kind [c]) cs
  | stray (hp : Plain c) (hk : symbol? c = none) : Takes c cs (.stray c) cs

theorem takes_quoted (cs : List Char) : Takes '"' cs (quoted cs).1 (quoted cs).2 := by
  by_cases hq : '"' ∈ cs
  · obtain ⟨body, behind, rfl, hbody⟩ := List.eq_append_cons_of_mem hq
    rw [quoted_closed hbody]
    exact .string rfl hbody rfl
  · rw [quoted_of_not_mem hq]
    exact .unclosed rfl hq

theorem takes_numeral (hc : c.isDigit = true) (cs : List Char) :
    Takes c cs (numeral c cs).1 (numeral c cs).2 := by
  unfold numeral
  dsimp only
  split
  · next f rest hs =>
    cases hf : f.isDigit with
    | true => exact .fraction hc hs hf
    | false =>
      rw [← hs]
      refine .whole hc fun f' rest' hs' => ?_
      cases hs.symm.trans hs'
      exact hf
  · next hno => exact .whole hc fun f rest hs => absurd hs (hno f rest)

theorem takes_operator (hp : Plain c) (hslash : c = '/' → cs.head? ≠ some '/') :
    Takes c cs (operator c cs).1 (operator c cs).2 := by
  unfold operator
  split
  · exact .pair rfl ‹_›
  · next hk hno =>
    refine .single hk (fun rest hs => ?_) hslash
    exact Option.eq_none_iff_forall_ne_some.mpr fun kind he => hno rest kind hs he
  · next hk _ => exact .stray hp hk

/-- Whatever character comes first, a piece is taken by the rule for it. -/
theorem takes_first (c : Char) (cs : List Char) : Takes c cs (first c cs).1 (first c cs).2 := by
  unfold first
  split
  · next hb => exact .blank hb
  next hb =>
  split
  · next hq =>
    subst hq
    exact takes_quoted cs
  next hq =>
  split
  · next hd => exact takes_numeral hd cs
  next hd =>
  split
  · next hw => exact .word hw
  next hw =>
  split
  · next hc =>
    obtain ⟨behind, rfl⟩ := List.head?_eq_some_iff.mp hc.2
    exact .comment hc.1 rfl
  · next hc =>
    have hp : Plain c := ⟨Bool.eq_false_iff.mpr hb, hq, Bool.eq_false_iff.mpr hd, Bool.eq_false_iff.mpr hw⟩
    exact takes_operator hp fun he hs => hc ⟨he, hs⟩

/-- What the lexical grammar says of a piece. -/
inductive Fits : Piece → Prop
  | blank (hc : isBlank c = true) : Fits (.blank c)
  | comment (hb : '\n' ∉ body) : Fits (.comment body)
  | symbol (h : (spelling, kind) ∈ Lexis.symbols) : Fits (.symbol kind spelling)
  | string (hb : '"' ∉ body) : Fits (.string body)
  | number (hw : Lexis.Digits whole) (hf : ∀ d ∈ fraction, d.isDigit = true) : Fits (.number whole fraction)
  | word (hw : Lexis.Word letters) : Fits (.word letters)
  | unclosed (hb : '"' ∉ body) : Fits (.unclosed body)
  | stray : Fits (.stray c)

theorem mem_symbols_of_symbol? (h : symbol? c = some kind) : ([c], kind) ∈ Lexis.symbols := by
  unfold symbol? at h
  split at h <;> cases h <;> decide

theorem mem_symbols_of_symbolEqual? (h : symbolEqual? c = some kind) : ([c, '='], kind) ∈ Lexis.symbols := by
  unfold symbolEqual? at h
  split at h <;> cases h <;> decide

/-- Every piece is of a class, and spelt as that has it. -/
theorem Takes.fits (h : Takes c cs p rest) : Fits p := by
  cases h with
  | blank hc => exact .blank hc
  | string hc hb => exact .string hb
  | unclosed hc hb => exact .unclosed hb
  | whole hc =>
    refine .number ⟨List.cons_ne_nil _ _, List.forall_mem_cons.mpr ⟨hc, ?_⟩⟩ (by simp)
    exact fun d hd => List.mem_takeWhile_imp hd
  | fraction hc hs hf =>
    refine .number ⟨List.cons_ne_nil _ _, List.forall_mem_cons.mpr ⟨hc, ?_⟩⟩ (List.forall_mem_cons.mpr ⟨hf, ?_⟩)
    · exact fun d hd => List.mem_takeWhile_imp hd
    · exact fun d hd => List.mem_takeWhile_imp hd
  | word hc => exact .word (Lexis.word_cons_iff.mpr ⟨hc, fun d hd => List.mem_takeWhile_imp hd⟩)
  | comment hc hs => exact .comment fun hm => by simpa using List.mem_takeWhile_imp hm
  | pair hs hk => exact .symbol (mem_symbols_of_symbolEqual? hk)
  | single hk => exact .symbol (mem_symbols_of_symbol? hk)
  | stray => exact .stray

def lexicalClass : Piece → Lexis.Class
  | blank _ => .blank
  | comment _ => .comment
  | symbol .. | string _ | number .. | word _ => .lexeme
  | unclosed _ => .openString
  | stray _ => .stray

/-- A number is read as the double that it denotes. -/
theorem denotes_toDouble (whole fraction : List Char) :
    Lexis.Denotes whole fraction (Decimal.ofDigits whole fraction).toDouble :=
  ⟨_, (Decimal.ofDigits whole fraction).isNearest_nearestCode, rfl⟩

theorem lexeme_number (hw : Lexis.Digits whole) (hf : ∀ d ∈ fraction, d.isDigit = true) :
    Lexis.Lexeme (number whole fraction).chars .number
      (some (.number (Decimal.ofDigits whole fraction).toDouble)) := by
  cases fraction with
  | nil => exact .whole hw (denotes_toDouble whole [])
  | cons d fraction => exact .fraction hw ⟨List.cons_ne_nil _ _, hf⟩ (denotes_toDouble whole (d :: fraction))

theorem spells_word (hw : Lexis.Word letters) (ht : (word letters).token? line = some t) :
    Lexis.Spells t letters := by
  simp only [token?, lexeme, chars] at ht
  split at ht
  · next kind hk =>
    cases ht
    exact ⟨rfl, .keyword hw (mem_keywords_of_keyword? hk)⟩
  · next hk =>
    cases ht
    refine ⟨rfl, .name hw fun kind hm => ?_⟩
    simpa using List.lookup_eq_none_iff.mp hk _ hm

/-- The token of a piece has the kind and the literal that its lexeme is meant as. -/
theorem Fits.spells (h : Fits p) (ht : p.token? line = some t) : Lexis.Spells t p.chars := by
  cases h with
  | symbol h =>
    cases ht
    exact ⟨rfl, .symbol h⟩
  | string hb =>
    cases ht
    exact ⟨rfl, .string hb⟩
  | number hw hf =>
    cases ht
    exact ⟨rfl, lexeme_number hw hf⟩
  | word hw => exact spells_word hw ht
  | blank | comment | unclosed | stray => cases ht

/-- The lexemes are what tokens are made of. -/
theorem token?_eq_none_iff {p : Piece} : p.token? line = none ↔ p.lexicalClass ≠ .lexeme := by
  cases p with
  | word letters =>
    simp only [token?, lexicalClass]
    split <;> simp
  | _ => simp [token?, lexicalClass]

/-- A piece belongs to the class that it is told by. -/
theorem Fits.has (h : Fits p) : p.lexicalClass.Has p.chars := by
  have hlexeme (hk : p.lexicalClass = .lexeme) : Lexis.Class.Has .lexeme p.chars := by
    have hsome : p.token? 1 ≠ none := fun hn => token?_eq_none_iff.mp hn hk
    obtain ⟨t, ht⟩ := Option.ne_none_iff_exists'.mp hsome
    exact .lexeme (h.spells ht).lexeme
  cases h with
  | blank hc => exact .blank (Lexis.mem_blanks_iff.mpr hc)
  | comment hb => exact .comment hb
  | unclosed hb => exact .openString hb
  | stray => exact .stray
  | symbol | string | number | word => exact hlexeme rfl

theorem first_digit (hc : c.isDigit = true) (cs : List Char) : first c cs = numeral c cs := by
  obtain ⟨hb, -, hq⟩ := digit_head hc
  simp [first, hb, hq, hc]

theorem first_word (hc : isWordStart c = true) (cs : List Char) :
    first c cs = (word (c :: cs.takeWhile isWordChar), cs.dropWhile isWordChar) := by
  obtain ⟨hb, -, hq, hd⟩ := word_head hc
  simp [first, hb, hq, hd, hc]

theorem token?_word (letters : List Char) (line : Nat) : (word letters).token? line =
    match keyword? (String.ofList letters) with
    | some kind => some ⟨kind, String.ofList letters, none, line⟩
    | none => some ⟨.identifier, String.ofList letters, some (.text (String.ofList letters)), line⟩ := rfl

end Piece

namespace Lexis

/-- Digits denote one double only. -/
theorem Denotes.eq_toDouble (h : Denotes whole fraction x) : x = (Decimal.ofDigits whole fraction).toDouble := by
  obtain ⟨code, hn, rfl⟩ := h
  rw [hn.unique (Decimal.isNearest_nearestCode _), Decimal.toDouble]

theorem keyword?_of_mem (h : (word, kind) ∈ keywords) : keyword? word = some kind := by
  have hall : ∀ p ∈ keywords, keyword? p.1 = some p.2 := by decide
  exact hall _ h

end Lexis

end Lox
