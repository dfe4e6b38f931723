import Lox.Proofs.Double.Written
import Lox.Proofs.Execution.Room
import Lox.Proofs.Grammar.Programs
import Lox.Proofs.Reporting
import Lox.Proofs.Source.Seams
namespace Lox
open Grammar

def Value.source : Value → String
  | text s => "\"" ++ s ++ "\""
  | v => v.display

/-- There is a literal for the value: a number has to be finite, and a quote would end a text. -/
inductive Value.Writable : Value → Prop
  | nil : Writable .nil
  | bool (b : Bool) : Writable (.bool b)
  | number (h : x.isFinite = true) : Writable (.number x)
  | text (h : '"' ∉ s.toList) : Writable (.text s)

/-- Before a semicolon the characters are read as one operand that nests `n` times at most, wherever they start, and
it has the value in every store. -/
def Writes (n : Nat) (text : List Char) (v : Value) : Prop :=
  ∀ line, ∃ ts e last, tokensFrom line (text ++ [';']) = ts ++ [⟨.semicolon, ";", none, last⟩] ∧
    errorsFrom line (text ++ [';']) = [] ∧ Derives .unary ts e ∧ e.nesting ≤ n ∧ ∀ s, e.eval s = .ok v s

theorem Writes.mono (h : Writes m text v) (hmn : m ≤ n) : Writes n text v := by
  intro line
  obtain ⟨ts, e, last, htokens, herrors, hd, hn, heval⟩ := h line
  exact ⟨ts, e, last, htokens, herrors, hd, Nat.le_trans hn hmn, heval⟩

theorem scan_semicolon (line : Nat) :
    tokensFrom line [';'] = [⟨.semicolon, ";", none, line⟩] ∧ errorsFrom line [';'] = [] := by
  have hb : Piece.Before (.symbol .semicolon [';']) [] := .symbol (by decide) nofun nofun
  obtain ⟨htokens, herrors⟩ := scan_nil line
  have ht := tokensFrom_before hb line
  have he := errorsFrom_before hb line
  exact ⟨ht.trans (congrArg (_ :: ·) htokens), he.trans herrors⟩

/-- A piece that is read as an operand of its own stands for what that is. -/
theorem writes_of_piece {p : Piece} (hp : p.Before [';']) (he : ∀ line, p.error? line = none)
    (ht : ∀ line, ∃ t, p.token? line = some t ∧ Derives .primary [t] (.scalar v)) : Writes 0 p.chars v := by
  intro line
  obtain ⟨t, ht, hd⟩ := ht (line + p.newlines)
  obtain ⟨htokens, herrors⟩ := scan_semicolon (line + p.newlines)
  refine ⟨[t], .scalar v, line + p.newlines, ?_, ?_, .primary hd, Nat.le_refl 0, fun _ => rfl⟩
  · rw [tokensFrom_before hp, ht, htokens]
    rfl
  · rw [errorsFrom_before hp, he, herrors]
    rfl

theorem writes_keyword (hk : (word, kind) ∈ keywords) (hd : ∀ t, t.kind = kind → Derives .primary [t] (.scalar v)) :
    Writes 0 word.toList v := by
  refine writes_of_piece (p := .word word.toList) (.word (Lexis.word_of_keyword hk) ?_) (fun _ => rfl) fun line => ?_
  · rintro d ⟨⟩
    decide
  · refine ⟨⟨kind, word, none, line⟩, ?_, hd _ rfl⟩
    rw [Piece.token?_word, String.ofList_toList, Lexis.keyword?_of_mem hk]

theorem writes_string (h : '"' ∉ body) : Writes 0 ('"' :: (body ++ ['"'])) (.text (String.ofList body)) :=
  writes_of_piece (p := .string body) (.string h) (fun _ => rfl) fun _ => ⟨_, rfl, .string rfl rfl⟩

/-- The digits are read as the double nearest to them. -/
theorem writes_number (hw : Lexis.Digits whole) (hf : ∀ d ∈ fraction, d.isDigit = true) :
    Writes 0 (Piece.number whole fraction).chars (.number (Decimal.ofDigits whole fraction).toDouble) := by
  refine writes_of_piece (.number hw hf ?_ ?_) (fun _ => rfl) fun _ => ⟨_, rfl, .number rfl rfl⟩
  · rintro d ⟨⟩
    decide
  · intro _ d tail htail
    cases htail

/-- Nothing makes a minus longer, so what stands behind it is read as it is without one. -/
theorem Writes.neg (h : Writes n text (.number x)) : Writes (n + 1) ('-' :: text) (.number (-x)) := by
  intro line
  have hb : Piece.Before (.symbol .minus ['-']) (text ++ [';']) := by
    refine .symbol (by decide) ?_ nofun
    intro d _ other hm
    obtain ⟨c, hc, -, hsome⟩ := Piece.symbols_append hm (List.cons_ne_nil _ _)
    cases hc
    cases hsome
  obtain ⟨ts, e, last, htokens, herrors, hd, hn, heval⟩ := h line
  refine ⟨⟨.minus, "-", none, line⟩ :: ts, .unary ⟨.minus, "-", none, line⟩ e, last, ?_, ?_,
    .unary (.inr rfl) hd, Nat.succ_le_succ hn, ?_⟩
  · exact (tokensFrom_before hb line).trans (congrArg (_ :: ·) htokens)
  · exact (errorsFrom_before hb line).trans herrors
  · intro s
    rw [Expr.eval, heval]
    rfl

/-- Every value that can be written is read as itself. -/
theorem writes_source {v : Value} (h : v.Writable) : Writes 1 v.source.toList v := by
  cases h with
  | nil =>
    have hnil : ("nil", Kind.kwNil) ∈ keywords := by decide
    exact (writes_keyword hnil fun _ => .nil).mono (Nat.zero_le 1)
  | bool b =>
    cases b with
    | false =>
      have hfalse : ("false", Kind.kwFalse) ∈ keywords := by decide
      exact (writes_keyword hfalse fun _ => .false).mono (Nat.zero_le 1)
    | true =>
      have htrue : ("true", Kind.kwTrue) ∈ keywords := by decide
      exact (writes_keyword htrue fun _ => .true).mono (Nat.zero_le 1)
  | @number x hx =>
    change Writes 1 (Double.text x).toList (.number x)
    obtain ⟨whole, fraction, hw, hf, ⟨htext, hback⟩ | ⟨htext, hback⟩⟩ := Double.exists_written hx
    · rw [htext, ← hback]
      exact (writes_number hw hf).mono (Nat.zero_le 1)
    · rw [htext, ← hback]
      exact (writes_number hw hf).neg
  | @text s hs =>
    have hsource : (Value.text s).source.toList = '"' :: (s.toList ++ ['"']) := by simp [Value.source]
    have hwrites := (writes_string hs).mono (Nat.zero_le 1)
    rwa [String.ofList_toList, ← hsource] at hwrites

/-- An operand is an expression at every level. -/
theorem Grammar.Derives.of_unary (h : Derives .unary ts e) : Derives .assignment ts e :=
  .equality (.operand .equality (.operand .comparison (.operand .term (.operand .factor h))))

/-- Behind a print and a blank the characters are scanned as they are by themselves. -/
theorem scan_print (text : List Char) :
    tokensFrom 1 ("print ".toList ++ text) = ⟨.kwPrint, "print", none, 1⟩ :: tokensFrom 1 text ∧
      errorsFrom 1 ("print ".toList ++ text) = errorsFrom 1 text := by
  have hword : Piece.Before (.word ['p', 'r', 'i', 'n', 't']) (' ' :: text) := by
    refine .word (by decide) ?_
    rintro d ⟨⟩
    decide
  have hblank : Piece.Before (.blank ' ') text := .blank rfl
  constructor
  · exact (tokensFrom_before hword 1).trans (congrArg (_ :: ·) (tokensFrom_before hblank 1))
  · exact (errorsFrom_before hword 1).trans (errorsFrom_before hblank 1)

/-- What stands for a value can be printed, and that is the whole program. -/
theorem Writes.program (h : Writes n text.toList v) (hn : n ≤ maxNesting) : ∃ keyword e,
    IsClean ("print " ++ text ++ ";") ∧ statementsOf ("print " ++ text ++ ";") = [.print keyword e] ∧
      ∀ s, e.eval s = .ok v s := by
  obtain ⟨ts, e, last, htokens, herrors, hd, hnesting, heval⟩ := h 1
  obtain ⟨hscan, hnone⟩ := scan_print (text.toList ++ [';'])
  have hsource : ("print " ++ text ++ ";").toList = "print ".toList ++ (text.toList ++ [';']) := by simp
  have hprogram : Program (tokensFrom 1 ("print " ++ text ++ ";").toList)
      [.print ⟨.kwPrint, "print", none, 1⟩ e] := by
    have hprint : Statement (⟨.kwPrint, "print", none, 1⟩ :: (ts ++ [⟨.semicolon, ";", none, last⟩])) _ :=
      .print rfl hd.of_unary rfl
    have hone := Program.cons hprint .nil
    rwa [List.append_nil, ← htokens, ← hscan, ← hsource] at hone
  have hwithin : (Stmt.print ⟨.kwPrint, "print", none, 1⟩ e).NestsWithin maxNesting := by
    rintro e' ⟨⟩
    exact Nat.le_trans hnesting hn
  have hclean := isClean_iff_program.mpr ⟨by rw [hsource, hnone, herrors], hprogram, by simpa using hwithin⟩
  exact ⟨_, e, hclean.1, hclean.2, heval⟩

/-- A value that is written as a literal and printed is displayed as it would be itself, on any machine whose console
has no limit, and what is printed evaluates to that very value. -/
theorem Run.ofSource_written {v : Value} (h : v.Writable) {m : Machine} (hm : m.console.room = none) :
    let r := ofSource ("print " ++ v.source ++ ";") m
    r.error? = none ∧ r.diagnostics = [] ∧ r.machine.store = m.store ∧
      r.machine.console = { m.console with written := m.console.written ++ (v.display ++ "\n").toByteArray } ∧
      ∃ keyword e, r.parse.statements = [.print keyword e] ∧ ∀ s, e.eval s = .ok v s := by
  obtain ⟨keyword, e, hclean, hstatements, heval⟩ := (writes_source h).program (by decide)
  have hexec : m.exec (statementsOf ("print " ++ v.source ++ ";")) =
      ⟨{ m with console.written := m.console.written ++ v.line }, [.print keyword e], none⟩ := by
    obtain ⟨store, written, room, failure⟩ := m
    cases hm
    rw [hstatements]
    have hprint := Stmt.emits_print (heval store) keyword none written failure nofun
    rw [Machine.exec_cons_of_ok hprint]
    rfl
  refine ⟨?_, ?_, ?_, ?_, keyword, e, hstatements, heval⟩
  · rw [error?_of_clean hclean, hexec]
    rfl
  · rw [diagnostics_ofSource, staticDiagnostics_eq_nil_iff.mpr hclean, execution_of_clean hclean, hexec]
    rfl
  · rw [machine, execution_of_clean hclean, hexec]
  · rw [machine, execution_of_clean hclean, hexec]
    rfl

theorem Run.ofSource_writtenNegativeZero :
    (Float.ofBits 0x8000000000000000).isFinite = true ∧
      (ofSource ("print " ++ (Value.number (Float.ofBits 0x8000000000000000)).source ++ ";")
        .fresh).machine.console.written = "-0\n".toByteArray := by
  have hfinite : (Float.ofBits 0x8000000000000000).isFinite = true := by decide +kernel
  obtain ⟨-, -, -, hconsole, -⟩ := ofSource_written (.number hfinite) (m := .fresh) rfl
  refine ⟨hfinite, ?_⟩
  rw [hconsole]
  decide +kernel

end Lox
