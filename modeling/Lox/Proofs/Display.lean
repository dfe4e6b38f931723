import Lox.Proofs.Double.Written
import Lox.Proofs.Grammar.Programs
import Lox.Proofs.Likeness
import Lox.Proofs.Source.Lines
namespace Lox

def Expr.texts : Expr → List String
  | scalar (.text s) => [s]
  | scalar _ | global _ => []
  | group inner => inner.texts
  | unary _ operand => operand.texts
  | binary lhs _ rhs => lhs.texts ++ rhs.texts
  | assign _ value => value.texts

def Stmt.texts (s : Stmt) : List String := s.expr?.toList.flatMap Expr.texts

def isSolid (c : Char) : Bool := c ∉ [' ', '(', ')']

def Ends (rest : List Char) : Prop := ∀ c ∈ rest.head?, isSolid c = false

theorem ends_blank (rest : List Char) : Ends (' ' :: rest) := by
  rintro c ⟨⟩
  decide

theorem ends_close (rest : List Char) : Ends (')' :: rest) := by
  rintro c ⟨⟩
  decide

/-- What stands before the end of a part is found in one way. -/
theorem solid_append_inj (hw : ∀ c ∈ w, isSolid c = true) (hw' : ∀ c ∈ w', isSolid c = true) (hr : Ends rest)
    (hr' : Ends rest') (h : w ++ rest = w' ++ rest') : w = w' ∧ rest = rest' := by
  obtain ⟨htake, hdrop⟩ := span_append hw hr
  obtain ⟨htake', hdrop'⟩ := span_append hw' hr'
  rw [h] at htake hdrop
  exact ⟨htake.symm.trans htake', hdrop.symm.trans hdrop'⟩

theorem isSolid_of_isWordChar (h : Piece.isWordChar c = true) : isSolid c = true := by
  simp only [isSolid, List.mem_cons, List.not_mem_nil, or_false, decide_not, Bool.not_eq_true', decide_eq_false_iff_not]
  rintro (rfl | rfl | rfl)
  all_goals exact absurd h (by decide)

namespace Lexis

theorem Word.solid (h : Word text) : ∀ c ∈ text, isSolid c = true := by
  cases text with
  | nil => exact h.elim
  | cons d ds =>
    obtain ⟨hd, hds⟩ := word_cons_iff.mp h
    refine List.forall_mem_cons.mpr ⟨isSolid_of_isWordChar ?_, fun c hc => isSolid_of_isWordChar (hds c hc)⟩
    simp only [Piece.isWordStart, Piece.isWordChar, Char.isAlphanum, Bool.or_eq_true] at hd ⊢
    tauto

theorem isSolid_of_digits {text : List Char} (h : ∀ c ∈ text, c.isDigit = true) : ∀ c ∈ text, isSolid c = true := by
  intro c hc
  apply isSolid_of_isWordChar
  simp [Piece.isWordChar, Char.isAlphanum, h c hc]

/-- There is a blank in texts only, and the parentheses are lexemes of their own. -/
theorem Lexeme.solid (h : Lexeme text kind literal) (hk : kind ∉ [.leftParen, .rightParen, .string]) :
    ∀ c ∈ text, isSolid c = true := by
  cases h with
  | symbol hs =>
    have hall : ∀ s ∈ symbols, s.2 ∉ [.leftParen, .rightParen, .string] → s.1.all isSolid = true := by decide
    exact List.all_eq_true.mp (hall _ hs hk)
  | string => simp at hk
  | whole hw => exact isSolid_of_digits hw.2
  | fraction hw hf =>
    refine List.forall_mem_append.mpr ⟨isSolid_of_digits hw.2, List.forall_mem_cons.mpr ⟨by decide, ?_⟩⟩
    exact isSolid_of_digits hf.2
  | keyword hw | name hw => exact hw.solid

theorem Lexeme.text_of_print (h : Lexeme text .kwPrint literal) : text = "print".toList := by
  generalize hk : Kind.kwPrint = kind at h
  cases h with
  | symbol hs =>
    have hall : ∀ s ∈ symbols, Kind.kwPrint ≠ s.2 := by decide
    exact absurd hk (hall _ hs)
  | keyword hw hm =>
    have hall : ∀ p ∈ keywords, Kind.kwPrint = p.2 → p.1 = "print" := by decide
    rw [← hall _ hm hk, String.toList_ofList]
  | string | whole | fraction | name => cases hk

end Lexis

/-- What a token is goes with its lexeme. -/
theorem Token.alike_of_lexeme (ht : Spelt t) (hu : Spelt u) (h : t.lexeme.toList = u.lexeme.toList) : t.Alike u := by
  have hu' : Lexis.Lexeme t.lexeme.toList u.kind u.literal := h ▸ hu
  obtain ⟨hkind, hliteral⟩ := ht.unique hu'
  exact ⟨hkind, String.toList_inj.mp h, hliteral⟩

theorem Token.alike_of_print (ht : Spelt t) (hu : Spelt u) (hk : t.kind = .kwPrint) (hk' : u.kind = .kwPrint) :
    t.Alike u := by
  have htext : t.lexeme.toList = "print".toList := by
    unfold Spelt at ht
    rw [hk] at ht
    exact ht.text_of_print
  have htext' : u.lexeme.toList = "print".toList := by
    unfold Spelt at hu
    rw [hk'] at hu
    exact hu.text_of_print
  exact alike_of_lexeme ht hu (htext.trans htext'.symm)

namespace Value

/-- The kind and the literal of a lexeme that is displayed for the value; what is too large for a double is displayed
as a name would be. -/
inductive Told : Value → Kind → Option Literal → Prop
  | nil : Told .nil .kwNil none
  | true : Told (.bool true) .kwTrue none
  | false : Told (.bool false) .kwFalse none
  | finite : Told (.number x) .number (some (.number x))
  | infinite : Told (.number (Float.ofBits Double.infinity.toUInt64)) .identifier (some (.text "inf"))

def Legible (v : Value) : Prop := ∃ kind literal, Lexis.Lexeme v.display.toList kind literal ∧ v.Told kind literal

/-- Values that read alike are the same. -/
theorem Told.unique (h : Told v kind literal) (h' : Told w kind literal) : v = w := by
  cases h <;> cases h' <;> rfl

/-- A scalar that is no text can be read off its display. -/
theorem Legible.eq_of_display (hv : Legible v) (hw : Legible w) (h : v.display.toList = w.display.toList) : v = w := by
  obtain ⟨kind, literal, hlexeme, htold⟩ := hv
  obtain ⟨kind', literal', hlexeme', htold'⟩ := hw
  obtain ⟨rfl, rfl⟩ := hlexeme.unique (h ▸ hlexeme')
  exact htold.unique htold'

theorem Legible.solid (h : Legible v) : ∀ c ∈ v.display.toList, isSolid c = true := by
  obtain ⟨kind, literal, hlexeme, htold⟩ := h
  apply hlexeme.solid
  cases htold <;> decide

theorem Legible.ne_nil (h : Legible v) : v.display.toList ≠ [] := by
  obtain ⟨kind, literal, hlexeme, -⟩ := h
  exact hlexeme.ne_nil

theorem legible_keyword {v : Value} (hk : (v.display, kind) ∈ keywords) (ht : v.Told kind none) : v.Legible := by
  refine ⟨kind, none, .keyword (Lexis.word_of_keyword hk) ?_, ht⟩
  rwa [String.ofList_toList]

theorem display_toDouble (d : Decimal) : (number d.toDouble).display = Double.magnitudeText d.nearestCode := by
  have hcode := d.isNearest_nearestCode.le_infinity
  have hbits := Double.toNat_toBits_toDouble d
  have hlast : Double.infinity < Double.signBit := by decide
  have hmod : d.nearestCode % Double.signBit = d.nearestCode := Nat.mod_eq_of_lt (by omega)
  simp only [display, Double.text, hbits, hmod]
  rw [if_neg (by omega), if_pos (by omega)]

/-- A double that was read is displayed as digits, or as a name if it was too large. -/
theorem legible_toDouble (d : Decimal) : (number d.toDouble).Legible := by
  unfold Legible
  rw [display_toDouble]
  rcases Nat.lt_or_eq_of_le d.isNearest_nearestCode.le_infinity with hfinite | hinfinite
  · obtain ⟨whole, fraction, hw, hf, htext, hcode⟩ := Double.exists_numeral hfinite
    have hdouble : (Decimal.ofDigits whole fraction).toDouble = d.toDouble := by
      rw [Decimal.toDouble, hcode, Decimal.toDouble]
    refine ⟨_, _, ?_, .finite⟩
    rw [htext, ← hdouble]
    exact Piece.lexeme_number hw hf
  · rw [hinfinite, Decimal.toDouble, hinfinite]
    refine ⟨_, _, ?_, .infinite⟩
    have hword : Lexis.Word ['i', 'n', 'f'] := by decide
    have hname : ∀ p ∈ keywords, p.1 ≠ "inf" := by decide
    exact .name hword fun kind hm => hname _ hm rfl

end Value

inductive Head where
  | expr | print | var | group | global | assign
  | operator (op : Token)

namespace Head

def text : Head → List Char
  | expr => ['e', 'x', 'p', 'r']
  | print => ['p', 'r', 'i', 'n', 't']
  | var => ['v', 'a', 'r']
  | group => ['g', 'r', 'o', 'u', 'p']
  | global => ['v', 'a', 'r', 'i', 'a', 'b', 'l', 'e']
  | assign => ['a', 's', 's', 'i', 'g', 'n']
  | operator op => op.lexeme.toList

inductive Like : Head → Head → Prop
  | same : Like h h
  | operator (h : op.Alike op') : Like (.operator op) (.operator op')

end Head

def operators : List Kind := .bang :: Level.loosestFirst.flatMap Level.kinds

structure Token.Operates (t : Token) : Prop where
  spelt : t.Spelt
  kind : t.kind ∈ operators

theorem Lexis.Lexeme.symbol_of_operator (h : Lexeme text kind literal) (hk : kind ∈ operators) :
    (text, kind) ∈ symbols := by
  cases h with
  | symbol hs => exact hs
  | keyword hw hm =>
    have hall : ∀ p ∈ keywords, p.2 ∉ operators := by decide
    exact absurd hk (hall _ hm)
  | string | whole | fraction | name => exact absurd hk (by decide)

/-- No operator is spelt as a word. -/
theorem Token.Operates.ne_word {op : Token} (h : op.Operates) (hw : Lexis.Word letters) :
    op.lexeme.toList ≠ letters := by
  rintro rfl
  have hs := h.spelt.symbol_of_operator h.kind
  generalize op.lexeme.toList = text at hw hs
  obtain ⟨c, cs, rfl⟩ := List.exists_cons_of_ne_nil hw.ne_nil
  have hplain := (Lexis.symbols_cons hs).1.word
  rw [(Lexis.word_cons_iff.mp hw).1] at hplain
  cases hplain

namespace Head

def Legible : Head → Prop
  | operator op => op.Operates
  | _ => True

theorem Legible.solid (h : Legible head) : ∀ c ∈ head.text, isSolid c = true := by
  cases head with
  | operator op =>
    have hall : ∀ kind ∈ operators, kind ∉ [.leftParen, .rightParen, .string] := by decide
    exact Lexis.Lexeme.solid h.spelt (hall _ h.kind)
  | _ => exact List.all_eq_true.mp (by decide)

theorem exists_operator (h : Like (operator op) head) (ho : op.Operates) :
    ∃ op', head = operator op' ∧ op.Alike op' := by
  cases h with
  | same => exact ⟨op, rfl, Token.alike_of_lexeme ho.spelt ho.spelt rfl⟩
  | operator h => exact ⟨_, rfl, h⟩

/-- Heads are told apart by their words. -/
theorem like_of_text (ha : Legible a) (hb : Legible b) (h : a.text = b.text) : a.Like b := by
  cases a with
  | operator op =>
    cases b with
    | operator op' => exact .operator (Token.alike_of_lexeme ha.spelt hb.spelt h)
    | _ => exact absurd h (ha.ne_word (by decide))
  | _ =>
    cases b with
    | operator op => exact absurd h.symm (hb.ne_word (by decide))
    | _ => first | exact .same | exact absurd h (by decide)

end Head

structure Token.Names (t : Token) : Prop where
  spelt : t.Spelt
  kind : t.kind = .identifier

theorem Token.Names.solid {t : Token} (h : t.Names) : ∀ c ∈ t.lexeme.toList, isSolid c = true :=
  h.spelt.solid (h.kind ▸ by decide)

theorem Token.Names.append_inj {t u : Token} (ht : t.Names) (hu : u.Names) (hr : Ends rest) (hr' : Ends rest')
    (h : t.lexeme.toList ++ rest = u.lexeme.toList ++ rest') : t.Alike u ∧ rest = rest' := by
  obtain ⟨hlexeme, hrest⟩ := solid_append_inj ht.solid hu.solid hr hr' h
  exact ⟨alike_of_lexeme ht.spelt hu.spelt hlexeme, hrest⟩

namespace Expr

/-- The tree is one that is read from spelt tokens without texts among them. -/
inductive Legible : Expr → Prop
  | scalar (hv : v.Legible) : Legible (.scalar v)
  | group (h : Legible e) : Legible (.group e)
  | unary (ho : op.Operates) (h : Legible e) : Legible (.unary op e)
  | binary (hl : Legible lhs) (ho : op.Operates) (hr : Legible rhs) : Legible (.binary lhs op rhs)
  | global (hn : name.Names) : Legible (.global name)
  | assign (hn : name.Names) (h : Legible e) : Legible (.assign name e)

/-- What the display has in parentheses: a head and, behind a blank, a body. -/
inductive Shows : Expr → Head → List Char → Prop
  | group : Shows (.group e) .group e.display.toList
  | unary : Shows (.unary op e) (.operator op) e.display.toList
  | binary : Shows (.binary lhs op rhs) (.operator op) (lhs.display.toList ++ ' ' :: rhs.display.toList)
  | global : Shows (.global name) .global name.lexeme.toList
  | assign : Shows (.assign name e) .assign (name.lexeme.toList ++ ' ' :: e.display.toList)

theorem Shows.toList_display (h : Shows e head body) :
    e.display.toList = '(' :: (head.text ++ ' ' :: (body ++ [')'])) := by
  cases h <;> simp [display, Head.text]

theorem Shows.legible (h : Shows e head body) (he : e.Legible) : head.Legible := by
  cases h with
  | unary | binary =>
    cases he
    assumption
  | _ => trivial

theorem scalar_or_shows (e : Expr) : (∃ v, e = .scalar v) ∨ ∃ head body, e.Shows head body := by
  cases e with
  | scalar v => exact .inl ⟨v, rfl⟩
  | group => exact .inr ⟨_, _, .group⟩
  | unary => exact .inr ⟨_, _, .unary⟩
  | binary => exact .inr ⟨_, _, .binary⟩
  | global => exact .inr ⟨_, _, .global⟩
  | assign => exact .inr ⟨_, _, .assign⟩

/-- The display of a scalar is not in parentheses. -/
theorem Shows.ne_scalar (h : Shows e head body) (hv : Value.Legible v) :
    e.display.toList ++ rest ≠ v.display.toList ++ rest' := by
  rw [h.toList_display]
  obtain ⟨c, cs, hc⟩ := List.exists_cons_of_ne_nil hv.ne_nil
  have hsolid := hv.solid c (by simp [hc])
  intro heq
  rw [hc] at heq
  obtain ⟨rfl, -⟩ := List.cons.inj heq
  exact absurd hsolid (by decide)

/-- With the same characters in front, the other tree has a like head, and the bodies begin with the same characters. -/
theorem Shows.counterpart (h : Shows e head body) (he : Legible e) (he' : Legible e')
    (hd : e.display.toList ++ rest = e'.display.toList ++ rest') :
    ∃ head' body', e'.Shows head' body' ∧ head.Like head' ∧ body ++ ')' :: rest = body' ++ ')' :: rest' := by
  rcases e'.scalar_or_shows with ⟨v, rfl⟩ | ⟨head', body', h'⟩
  · cases he' with
    | scalar hv => exact absurd hd (h.ne_scalar hv)
  · refine ⟨head', body', h', ?_⟩
    rw [h.toList_display, h'.toList_display] at hd
    have hinner : head.text ++ ' ' :: (body ++ ')' :: rest) = head'.text ++ ' ' :: (body' ++ ')' :: rest') := by
      simpa using hd
    obtain ⟨htext, hbody⟩ := solid_append_inj (h.legible he).solid (h'.legible he').solid (ends_blank _)
      (ends_blank _) hinner
    exact ⟨Head.like_of_text (h.legible he) (h'.legible he') htext, (List.cons.inj hbody).2⟩

/-- A display is read in one way, whatever stands behind it. -/
theorem Legible.display_append_inj (h : Legible e) (h' : Legible e') (hr : Ends rest) (hr' : Ends rest')
    (hd : e.display.toList ++ rest = e'.display.toList ++ rest') : e.Like Token.Alike Eq e' ∧ rest = rest' := by
  induction h generalizing e' rest rest' with
  | @scalar v hv =>
    rcases e'.scalar_or_shows with ⟨w, rfl⟩ | ⟨head, body, hs⟩
    · cases h' with
      | scalar hw =>
        obtain ⟨hdisplay, hrest⟩ := solid_append_inj hv.solid hw.solid hr hr' hd
        exact ⟨.scalar (hv.eq_of_display hw hdisplay), hrest⟩
    · exact absurd hd.symm (hs.ne_scalar hv)
  | @group e he ih =>
    obtain ⟨_, _, hs, hlike, hbody⟩ := Shows.group.counterpart (.group he) h' hd
    cases hlike
    cases hs
    cases h' with
    | group he' =>
      obtain ⟨hinner, hrest⟩ := ih he' (ends_close rest) (ends_close rest') hbody
      exact ⟨.group hinner, (List.cons.inj hrest).2⟩
  | @unary e op ho he ih =>
    obtain ⟨_, _, hs, hlike, hbody⟩ := Shows.unary.counterpart (.unary ho he) h' hd
    obtain ⟨op', rfl, hop⟩ := Head.exists_operator hlike ho
    cases hs with
    | unary =>
      cases h' with
      | unary _ he' =>
        obtain ⟨hoperand, hrest⟩ := ih he' (ends_close rest) (ends_close rest') hbody
        exact ⟨.unary hop hoperand, (List.cons.inj hrest).2⟩
    | binary =>
      cases h' with
      | binary hl =>
        rw [List.append_assoc, List.cons_append] at hbody
        obtain ⟨-, hrest⟩ := ih hl (ends_close rest) (ends_blank _) hbody
        cases hrest
  | @binary lhs rhs op hleft ho hright ihl ihr =>
    obtain ⟨_, _, hs, hlike, hbody⟩ := Shows.binary.counterpart (.binary hleft ho hright) h' hd
    obtain ⟨op', rfl, hop⟩ := Head.exists_operator hlike ho
    rw [List.append_assoc, List.cons_append] at hbody
    cases hs with
    | unary =>
      cases h' with
      | unary _ he' =>
        obtain ⟨-, hrest⟩ := ihl he' (ends_blank _) (ends_close rest') hbody
        cases hrest
    | binary =>
      cases h' with
      | binary hl' _ hr' =>
        rw [List.append_assoc, List.cons_append] at hbody
        obtain ⟨hlhs, hbehind⟩ := ihl hl' (ends_blank _) (ends_blank _) hbody
        obtain ⟨hrhs, hrest⟩ := ihr hr' (ends_close rest) (ends_close rest') (List.cons.inj hbehind).2
        exact ⟨.binary hlhs hop hrhs, (List.cons.inj hrest).2⟩
  | @global name hn =>
    obtain ⟨_, _, hs, hlike, hbody⟩ := Shows.global.counterpart (.global hn) h' hd
    cases hlike
    cases hs
    cases h' with
    | global hn' =>
      obtain ⟨hname, hrest⟩ := hn.append_inj hn' (ends_close rest) (ends_close rest') hbody
      exact ⟨.global hname, (List.cons.inj hrest).2⟩
  | @assign name e hn he ih =>
    obtain ⟨_, _, hs, hlike, hbody⟩ := Shows.assign.counterpart (.assign hn he) h' hd
    cases hlike
    cases hs
    cases h' with
    | assign hn' he' =>
      rw [List.append_assoc, List.append_assoc, List.cons_append, List.cons_append] at hbody
      obtain ⟨hname, hbehind⟩ := hn.append_inj hn' (ends_blank _) (ends_blank _) hbody
      obtain ⟨hvalue, hrest⟩ := ih he' (ends_close rest) (ends_close rest') (List.cons.inj hbehind).2
      exact ⟨.assign hname hvalue, (List.cons.inj hrest).2⟩

/-- Trees that are alike are displayed alike. -/
theorem Like.display_eq {e e' : Expr} (h : Like Token.Alike Eq e e') : e.display = e'.display := by
  induction h with
  | scalar hv => rw [hv]
  | group _ ih => simp only [display, ih]
  | unary ho _ ih => simp only [display, ho.lexeme, ih]
  | binary _ ho _ ihl ihr => simp only [display, ho.lexeme, ihl, ihr]
  | global hn => simp only [display, hn.lexeme]
  | assign hn _ ih => simp only [display, hn.lexeme, ih]

end Expr

namespace Stmt

inductive Legible : Stmt → Prop
  | expr (h : e.Legible) : Legible (.expr e)
  | print (hs : keyword.Spelt) (hk : keyword.kind = .kwPrint) (h : e.Legible) : Legible (.print keyword e)
  | bare (hn : name.Names) : Legible (.declare name none)
  | declare (hn : name.Names) (h : e.Legible) : Legible (.declare name (some e))

inductive Shows : Stmt → Head → List Char → Prop
  | expr : Shows (.expr e) .expr e.display.toList
  | print : Shows (.print keyword e) .print e.display.toList
  | bare : Shows (.declare name none) .var name.lexeme.toList
  | declare : Shows (.declare name (some e)) .var (name.lexeme.toList ++ ' ' :: e.display.toList)

theorem Shows.toList_display (h : Shows s head body) :
    s.display.toList = '(' :: (head.text ++ ' ' :: (body ++ [')'])) := by
  cases h <;> simp [display, Head.text]

theorem exists_shows (s : Stmt) : ∃ head body, s.Shows head body ∧ head.Legible := by
  cases s with
  | expr => exact ⟨_, _, .expr, trivial⟩
  | print => exact ⟨_, _, .print, trivial⟩
  | declare name initial =>
    cases initial with
    | none => exact ⟨_, _, .bare, trivial⟩
    | some => exact ⟨_, _, .declare, trivial⟩

theorem Shows.counterpart (h : Shows s head body) (hl : head.Legible) (s' : Stmt) (hd : s.display = s'.display) :
    ∃ head' body', s'.Shows head' body' ∧ head.Like head' ∧ body ++ [')'] = body' ++ [')'] := by
  obtain ⟨head', body', h', hl'⟩ := s'.exists_shows
  refine ⟨head', body', h', ?_⟩
  have hlist := congrArg String.toList hd
  rw [h.toList_display, h'.toList_display] at hlist
  obtain ⟨htext, hbody⟩ := solid_append_inj hl.solid hl'.solid (ends_blank _) (ends_blank _) (List.cons.inj hlist).2
  exact ⟨Head.like_of_text hl hl' htext, (List.cons.inj hbody).2⟩

/-- From the same display both statements are read alike. -/
theorem Legible.like_of_display (h : Legible s) (h' : Legible s') (hd : s.display = s'.display) :
    s.Like Token.Alike Eq s' := by
  cases h with
  | expr he =>
    obtain ⟨_, _, hs, hlike, hbody⟩ := Shows.expr.counterpart trivial s' hd
    cases hlike
    cases hs
    cases h' with
    | expr he' => exact .expr (he.display_append_inj he' (ends_close []) (ends_close []) hbody).1
  | print hs hk he =>
    obtain ⟨_, _, hshows, hlike, hbody⟩ := Shows.print.counterpart trivial s' hd
    cases hlike
    cases hshows
    cases h' with
    | print hs' hk' he' =>
      have hkeyword := Token.alike_of_print hs hs' hk hk'
      exact .print hkeyword (he.display_append_inj he' (ends_close []) (ends_close []) hbody).1
  | bare hn =>
    obtain ⟨_, _, hs, hlike, hbody⟩ := Shows.bare.counterpart trivial s' hd
    cases hlike
    cases hs with
    | bare =>
      cases h' with
      | bare hn' => exact .bare (hn.append_inj hn' (ends_close []) (ends_close []) hbody).1
    | declare =>
      cases h' with
      | declare hn' he' =>
        rw [List.append_assoc, List.cons_append] at hbody
        obtain ⟨-, hrest⟩ := hn.append_inj hn' (ends_close []) (ends_blank _) hbody
        cases hrest
  | declare hn he =>
    obtain ⟨_, _, hs, hlike, hbody⟩ := Shows.declare.counterpart trivial s' hd
    cases hlike
    rw [List.append_assoc, List.cons_append] at hbody
    cases hs with
    | bare =>
      cases h' with
      | bare hn' =>
        obtain ⟨-, hrest⟩ := hn.append_inj hn' (ends_blank _) (ends_close []) hbody
        cases hrest
    | declare =>
      cases h' with
      | declare hn' he' =>
        rw [List.append_assoc, List.cons_append] at hbody
        obtain ⟨hname, hbehind⟩ := hn.append_inj hn' (ends_blank _) (ends_blank _) hbody
        exact .declare hname (he.display_append_inj he' (ends_close []) (ends_close []) (List.cons.inj hbehind).2).1

/-- The kinds of the tokens do not come into a display, nor do their lines. -/
theorem Like.display_eq (h : Like Token.Alike Eq s s') : s.display = s'.display := by
  cases h with
  | expr he => simp only [display, he.display_eq]
  | print _ he => simp only [display, he.display_eq]
  | bare hn => simp only [display, hn.lexeme]
  | declare hn he => simp only [display, hn.lexeme, he.display_eq]

theorem like_of_displays (hs : ∀ s ∈ ss, Legible s) (hr : ∀ r ∈ rs, Legible r) (hd : ss.map display = rs.map display) :
    List.Forall₂ (Like Token.Alike Eq) ss rs := by
  induction ss generalizing rs with
  | nil =>
    obtain rfl := List.map_eq_nil_iff.mp hd.symm
    exact .nil
  | cons s ss ih =>
    obtain ⟨r, rs, rfl, hhead, htail⟩ := List.map_eq_cons_iff.mp hd.symm
    obtain ⟨hs, hss⟩ := List.forall_mem_cons.mp hs
    obtain ⟨hr, hrs⟩ := List.forall_mem_cons.mp hr
    exact .cons (hs.like_of_display hr hhead.symm) (ih hss hrs htail.symm)

theorem displays_of_like (h : List.Forall₂ (Like Token.Alike Eq) ss rs) : ss.map display = rs.map display := by
  induction h with
  | nil => rfl
  | cons hs _ ih => rw [List.map_cons, List.map_cons, hs.display_eq, ih]

end Stmt

namespace Grammar

theorem Joins.operators (hj : Joins n kinds tighter) : kinds ⊆ Lox.operators := by
  cases hj <;> decide

/-- By induction on the derivation: what it takes from a token is spelt in its lexeme. -/
theorem Derives.legible (h : Derives n ts e) (ht : ∀ t ∈ ts, t.Spelt) (htexts : e.texts = []) : e.Legible := by
  induction h with
  | equality _ ih | operand _ _ ih | primary _ ih => exact ih ht htexts
  | assign hn _ _ ih =>
    obtain ⟨hname, hbehind⟩ := List.forall_mem_cons.mp ht
    exact .assign ⟨hname, hn⟩ (ih (List.forall_mem_cons.mp hbehind).2 htexts)
  | binary hj _ ho _ ihl ihr =>
    obtain ⟨hl, hbehind⟩ := List.forall_mem_append.mp ht
    obtain ⟨hop, hr⟩ := List.forall_mem_cons.mp hbehind
    obtain ⟨htl, htr⟩ := List.append_eq_nil_iff.mp htexts
    exact .binary (ihl hl htl) ⟨hop, hj.operators ho⟩ (ihr hr htr)
  | unary ho _ ih =>
    obtain ⟨hop, hoperand⟩ := List.forall_mem_cons.mp ht
    refine .unary ⟨hop, ?_⟩ (ih hoperand htexts)
    rcases ho with ho | ho <;> simp only [ho] <;> decide
  | group _ _ _ ih =>
    obtain ⟨-, hinner⟩ := List.forall_mem_cons.mp ht
    exact .group (ih (List.forall_mem_append.mp hinner).1 htexts)
  | @number t x hk hl =>
    have hspelt := ht t List.mem_cons_self
    unfold Token.Spelt at hspelt
    rw [hl] at hspelt
    obtain ⟨d, rfl⟩ := hspelt.exists_decimal
    exact .scalar (Value.legible_toDouble d)
  | string => cases htexts
  | «true» => exact .scalar (Value.legible_keyword (by decide) .true)
  | «false» => exact .scalar (Value.legible_keyword (by decide) .false)
  | nil => exact .scalar (Value.legible_keyword (by decide) .nil)
  | global hk => exact .global ⟨ht _ List.mem_cons_self, hk⟩

theorem Statement.legible (h : Statement ts s) (ht : ∀ t ∈ ts, t.Spelt) (htexts : s.texts = []) : s.Legible := by
  cases h with
  | bare _ hn =>
    obtain ⟨-, hbehind⟩ := List.forall_mem_cons.mp ht
    exact .bare ⟨hbehind _ List.mem_cons_self, hn⟩
  | initialized _ hn _ h =>
    obtain ⟨-, hbehind⟩ := List.forall_mem_cons.mp ht
    obtain ⟨hname, hbehind⟩ := List.forall_mem_cons.mp hbehind
    obtain ⟨-, hbehind⟩ := List.forall_mem_cons.mp hbehind
    have hinitial := h.legible (List.forall_mem_append.mp hbehind).1 (by simpa [Stmt.texts, Stmt.expr?] using htexts)
    exact .declare ⟨hname, hn⟩ hinitial
  | print hk h =>
    obtain ⟨hkeyword, hbehind⟩ := List.forall_mem_cons.mp ht
    have hprinted := h.legible (List.forall_mem_append.mp hbehind).1 (by simpa [Stmt.texts, Stmt.expr?] using htexts)
    exact .print hkeyword hk hprinted
  | expr h =>
    exact .expr (h.legible (List.forall_mem_append.mp ht).1 (by simpa [Stmt.texts, Stmt.expr?] using htexts))

/-- What a source is parsed into, errors or not, is legible but for texts. -/
theorem legible_of_mem_statementsOf (h : s ∈ statementsOf source) (htexts : s.texts = []) : s.Legible := by
  rw [statementsOf, ofTokens_ofSource] at h
  obtain ⟨us, hsub, hd, -⟩ := readable_of_mem_upTo h
  exact hd.legible (fun t ht => spelt_of_mem_tokensFrom (hsub ht)) htexts

end Grammar

/-- Statements without texts that two sources are parsed into, errors or not, are displayed alike just where they are
alike: of the same shape, with tokens that differ in nothing but their lines and with the same values. -/
theorem statementsOf_display_eq_iff (h : (statementsOf source).flatMap Stmt.texts = [])
    (h' : (statementsOf other).flatMap Stmt.texts = []) :
    (statementsOf source).map Stmt.display = (statementsOf other).map Stmt.display ↔
      List.Forall₂ (Stmt.Like Token.Alike Eq) (statementsOf source) (statementsOf other) := by
  rw [List.flatMap_eq_nil_iff] at h h'
  constructor
  · exact Stmt.like_of_displays (fun s hs => Grammar.legible_of_mem_statementsOf hs (h s hs))
      fun s hs => Grammar.legible_of_mem_statementsOf hs (h' s hs)
  · exact Stmt.displays_of_like

/-- The same statements in another layout, with a number spelt in another way. -/
theorem statementsOf_display_minuses :
    (statementsOf "print -1 - -x; y = (2);").flatMap Stmt.texts = [] ∧
      (statementsOf "print - 1 -\n- x; y=(2.0);").flatMap Stmt.texts = [] ∧
      List.Forall₂ (Stmt.Like Token.Alike Eq) (statementsOf "print -1 - -x; y = (2);")
        (statementsOf "print - 1 -\n- x; y=(2.0);") := by
  have hone : (statementsOf "print -1 - -x; y = (2);").flatMap Stmt.texts = [] := by decide +kernel
  have hother : (statementsOf "print - 1 -\n- x; y=(2.0);").flatMap Stmt.texts = [] := by decide +kernel
  have hdisplays : (statementsOf "print -1 - -x; y = (2);").map Stmt.display =
      (statementsOf "print - 1 -\n- x; y=(2.0);").map Stmt.display := by decide +kernel
  exact ⟨hone, hother, (statementsOf_display_eq_iff hone hother).mp hdisplays⟩

/-- A text is displayed without its quotes, so it can be taken for anything. -/
example : (statementsOf "print nil;").map Stmt.display = (statementsOf "print \"nil\";").map Stmt.display := by
  decide +kernel

end Lox
