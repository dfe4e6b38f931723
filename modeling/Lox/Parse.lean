import Lox.Parser.Expr
namespace Lox.Parser

def declared (ts : List Token) : Outcome Stmt :=
  match take? [.identifier] ts with
  | none => .failed .noVariableName [] ts
  | some (name, behind) =>
    match take? [.equal] behind with
    | none => closed .semicolon .openDeclaration (.declare name none) behind
    | some (_, initial) =>
      (expression.run initial).andThen fun e =>
        closed .semicolon .openDeclaration (.declare name (some e))

theorem rest_declared_le : (declared ts).rest.length ≤ ts.length := by
  unfold declared
  split
  · exact Nat.le_refl _
  · next named =>
    refine Nat.le_trans ?_ (Nat.le_of_lt (length_of_take? named))
    split
    · exact rest_closed_le
    · next assigned =>
      exact Nat.le_trans (expression.within_closed _ _ _ _).rest_le
        (Nat.le_of_lt (length_of_take? assigned))

def statement : Parser Stmt where
  run ts :=
    match take? [.kwVar] ts with
    | some (_, behind) => declared behind
    | none =>
      match take? [.kwPrint] ts with
      | some (keyword, behind) =>
        (expression.run behind).andThen fun e => closed .semicolon .openPrint (.print keyword e)
      | none => (expression.run ts).andThen fun e => closed .semicolon .openExpression (.expr e)
  within ts := by
    split
    · next took =>
      exact Outcome.within_of_rest_lt (Nat.lt_of_le_of_lt rest_declared_le (length_of_take? took))
    split
    · next took =>
      exact (expression.within_closed _ _ _ _).mono (Nat.le_of_lt (length_of_take? took))
    · exact expression.within_closed _ _ _ ts

theorem statement_of_var (h : t.kind = .kwVar) : statement.run (t :: ts) = declared ts := by
  simp [statement, take?, h]

theorem statement_of_print (h : t.kind = .kwPrint) : statement.run (t :: ts) =
    (expression.run ts).andThen fun e => closed .semicolon .openPrint (.print t e) := by
  simp [statement, take?, h]

theorem statement_of_other (hv : t.kind ≠ .kwVar) (hp : t.kind ≠ .kwPrint) : statement.run (t :: ts) =
    (expression.run (t :: ts)).andThen fun e => closed .semicolon .openExpression (.expr e) := by
  simp [statement, take?, hv, hp]

end Lox.Parser

namespace Lox

def Kind.stops (k : Kind) : Bool := k.opensStatement || k == .eof

def atStop (ts : List Token) : Bool := ts.head?.any (·.kind.stops)

def skip : List Token → List Token
  | [] => []
  | t :: ts => if t.kind = .semicolon || atStop ts then ts else skip ts

/-- Where to go on when a statement that began at `start` could not be read beyond `rest`. An end is kept,
and so is a keyword that opens the next statement, unless nothing was read before it. -/
def resume (start rest : List Token) : List Token :=
  if rest.length < start.length && atStop rest then rest else skip rest

theorem length_skip_le (ts : List Token) : (skip ts).length ≤ ts.length := by
  induction ts with
  | nil => exact Nat.le_refl _
  | cons t ts ih =>
    unfold skip
    split
    · exact Nat.le_succ _
    · exact Nat.le_succ_of_le ih

theorem length_skip_lt (t : Token) (ts : List Token) : (skip (t :: ts)).length < (t :: ts).length := by
  unfold skip
  split
  · exact Nat.lt_succ_self _
  · exact Nat.lt_succ_of_le (length_skip_le ts)

/-- Taking up again skips at least one token, so that the statements of any list can be read one by one. -/
theorem length_resume_lt (h : rest.length ≤ (t :: ts).length) :
    (resume (t :: ts) rest).length < (t :: ts).length := by
  unfold resume
  split
  · next kept => simp_all
  · cases rest with
    | nil => simp [skip]
    | cons u us => exact Nat.lt_of_lt_of_le (length_skip_lt u us) h

/-- What is parsed: tokens, among which there may be ends, and the end behind them all. -/
structure Buffer where
  tokens : List Token
  last : Token
  kind_last : last.kind = .eof

namespace Buffer

def toList (b : Buffer) : List Token := b.tokens ++ [b.last]

/-- Where the last token is no end, one is put behind it on its line. -/
def ofTokens (ts : List Token) : Buffer :=
  match ts.getLast? with
  | none => ⟨[], .atEnd 1, rfl⟩
  | some t => if h : t.kind = .eof then ⟨ts.dropLast, t, h⟩ else ⟨ts, .atEnd t.line, rfl⟩

theorem ofTokens_concat (ts : List Token) (h : t.kind = .eof) : ofTokens (ts ++ [t]) = ⟨ts, t, h⟩ := by
  simp [ofTokens, h]

theorem tokens_ofTokens_concat (ts : List Token) (h : t.kind ≠ .eof) : (ofTokens (ts ++ [t])).tokens = ts ++ [t] := by
  simp [ofTokens, h]

theorem ofTokens_of_no_end (h : ∀ t ∈ ts, t.kind ≠ .eof) :
    ofTokens ts = ⟨ts, .atEnd ((ts.getLast?.map (·.line)).getD 1), rfl⟩ := by
  unfold ofTokens
  cases hl : ts.getLast? with
  | none =>
    obtain rfl := List.getLast?_eq_none_iff.mp hl
    rfl
  | some t => simp [h t (List.mem_of_getLast? hl)]

end Buffer

structure Parse where
  statements : List Stmt
  errors : List SyntaxError

namespace Parse

def isEnd (t : Token) : Bool := t.kind == .eof

/-- Reads statements up to the first end; `last` is the end behind the tokens. Misplaced equals signs are
errors, but the statement stands. -/
def upTo (last : Token) (ts : List Token) : Parse :=
  match ts with
  | [] => ⟨[], []⟩
  | t :: ts =>
    if isEnd t then ⟨[], []⟩
    else
      match _ : Parser.statement.run (t :: ts) with
      | .done s misplaced rest =>
        let others := upTo last rest
        ⟨s :: others.statements, misplaced.map .invalidTarget ++ others.errors⟩
      | .failed why misplaced rest =>
        let others := upTo last (resume (t :: ts) rest)
        ⟨others.statements,
          misplaced.map .invalidTarget ++ .unexpected (rest.headD last) why :: others.errors⟩
termination_by ts.length
decreasing_by
  · exact Parser.statement.length_of_done ‹_›
  · exact length_resume_lt (Parser.statement.length_of_failed ‹_›)

@[simp] theorem upTo_nil (last : Token) : upTo last [] = ⟨[], []⟩ := by
  rw [upTo]

theorem upTo_of_isEnd (h : isEnd t = true) (last : Token) (ts : List Token) : upTo last (t :: ts) = ⟨[], []⟩ := by
  rw [upTo, if_pos h]

theorem upTo_of_done (ht : isEnd t = false) (h : Parser.statement.run (t :: ts) = .done s misplaced rest) :
    upTo last (t :: ts) = ⟨s :: (upTo last rest).statements,
      misplaced.map .invalidTarget ++ (upTo last rest).errors⟩ := by
  rw [upTo, if_neg (by simp [ht])]
  split <;> simp_all

theorem upTo_of_failed (ht : isEnd t = false) (h : Parser.statement.run (t :: ts) = .failed why misplaced rest) :
    upTo last (t :: ts) = ⟨(upTo last (resume (t :: ts) rest)).statements,
      misplaced.map .invalidTarget ++
        .unexpected (rest.headD last) why :: (upTo last (resume (t :: ts) rest)).errors⟩ := by
  rw [upTo, if_neg (by simp [ht])]
  split <;> simp_all

def ofTokens (ts : List Token) : Parse :=
  let b := Buffer.ofTokens ts
  upTo b.last b.tokens

end Parse

end Lox
