import Lox.Proofs.Grammar.Programs
import Lox.Proofs.Source.Lines
namespace Lox

def Expr.onLine (n : Nat) : Expr → Expr
  | scalar value => scalar value
  | group inner => group (inner.onLine n)
  | unary op operand => unary (op.onLine n) (operand.onLine n)
  | binary lhs op rhs => binary (lhs.onLine n) (op.onLine n) (rhs.onLine n)
  | global name => global (name.onLine n)
  | assign name value => assign (name.onLine n) (value.onLine n)

def Stmt.onLine (n : Nat) : Stmt → Stmt
  | expr e => expr (e.onLine n)
  | print keyword e => print (keyword.onLine n) (e.onLine n)
  | declare name initial => declare (name.onLine n) (initial.map (·.onLine n))

theorem Expr.nesting_onLine (n : Nat) (e : Expr) : (e.onLine n).nesting = e.nesting := by
  induction e <;> simp [onLine, nesting, *]

theorem Stmt.NestsWithin.onLine (h : NestsWithin k s) (n : Nat) : (s.onLine n).NestsWithin k := by
  intro e he
  cases s with
  | expr e' | print keyword e' =>
    cases he
    rw [Expr.nesting_onLine]
    exact h e' rfl
  | declare name initial =>
    obtain ⟨e', hi, rfl⟩ := Option.map_eq_some_iff.mp he
    rw [Expr.nesting_onLine]
    exact h e' hi

namespace Grammar

/-- The rules do not look at lines. -/
theorem Derives.onLine (h : Derives n ts e) (line : Nat) :
    Derives n (ts.map (.onLine line)) (e.onLine line) := by
  induction h with
  | assign hn he _ ih => exact .assign hn he ih
  | equality _ ih => exact .equality ih
  | operand hj _ ih => exact .operand hj ih
  | binary hj _ ho _ ihl ihr =>
    rw [List.map_append, List.map_cons]
    exact .binary hj ihl ho ihr
  | unary ho _ ih => exact .unary ho ih
  | primary _ ih => exact .primary ih
  | number hk hl => exact .number hk hl
  | string hk hl => exact .string hk hl
  | «true» hk => exact .true hk
  | «false» hk => exact .false hk
  | nil hk => exact .nil hk
  | global hk => exact .global hk
  | group ho _ hc ih =>
    rw [List.map_cons, List.map_append]
    exact .group ho ih hc

theorem Statement.onLine (h : Statement ts s) (line : Nat) :
    Statement (ts.map (.onLine line)) (s.onLine line) := by
  cases h with
  | bare hv hn hs => exact .bare hv hn hs
  | initialized hv hn he h hs =>
    rw [List.map_cons, List.map_cons, List.map_cons, List.map_append]
    exact .initialized hv hn he (h.onLine line) hs
  | print hk h hs =>
    rw [List.map_cons, List.map_append]
    exact .print hk (h.onLine line) hs
  | expr h hs =>
    rw [List.map_append]
    exact .expr (h.onLine line) hs

/-- A program on another line is the same program there. -/
theorem Program.onLine (h : Program ts ss) (line : Nat) :
    Program (ts.map (.onLine line)) (ss.map (.onLine line)) := by
  induction h with
  | nil => exact .nil
  | cons hs _ ih =>
    rw [List.map_append, List.map_cons]
    exact .cons (hs.onLine line) ih

end Grammar

end Lox
