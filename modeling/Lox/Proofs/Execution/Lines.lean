import Lox.Machine
import Lox.Proofs.Grammar.Lines
namespace Lox

def Fault.onLine (n : Nat) : Fault → Fault
  | notNumber op => notNumber (op.onLine n)
  | notNumbers op lhs rhs => notNumbers (op.onLine n) lhs rhs
  | notAddable op lhs rhs => notAddable (op.onLine n) lhs rhs
  | divisionByZero op => divisionByZero (op.onLine n)
  | undefinedVariable name => undefinedVariable (name.onLine n)
  | unknownOperator op => unknownOperator (op.onLine n)
  | writeFailed keyword failure => writeFailed (keyword.onLine n) failure

theorem Fault.token_onLine (n : Nat) (f : Fault) : (f.onLine n).token = f.token.onLine n := by
  cases f <;> rfl

theorem Fault.message_onLine (n : Nat) (f : Fault) : (f.onLine n).message = f.message := by
  cases f <;> rfl

def Effect.onLine (n : Nat) : Effect σ → Effect σ
  | .ok v s => .ok v s
  | .error f s => .error (f.onLine n) s

theorem Effect.ofExcept_onLine (n : Nat) (s : σ) (r : Except Fault Value) :
    Effect.ofExcept s (r.mapError (.onLine n)) = (Effect.ofExcept s r).onLine n := by
  cases r <;> rfl

namespace Operator

theorem unary_onLine (n : Nat) (op : Token) (v : Value) :
    unary (op.onLine n) v = (unary op v).mapError (.onLine n) := by
  unfold unary
  rw [Token.onLine_kind]
  split
  · rfl
  · split <;> rfl
  · rfl

theorem add_onLine (n : Nat) (op : Token) (lhs rhs : Value) :
    add (op.onLine n) lhs rhs = (add op lhs rhs).mapError (.onLine n) := by
  unfold add
  split <;> rfl

theorem divide_onLine (n : Nat) (op : Token) (x y : Float) :
    divide (op.onLine n) x y = (divide op x y).mapError (.onLine n) := by
  unfold divide
  split <;> rfl

/-- Only what is told of a fault has a line, and the operands have none. -/
theorem onNumbers_onLine {g h : Float → Float → Except Fault Value}
    (hg : ∀ x y, g x y = (h x y).mapError (.onLine n)) (op : Token) (lhs rhs : Value) :
    onNumbers (op.onLine n) lhs rhs g = (onNumbers op lhs rhs h).mapError (.onLine n) := by
  unfold onNumbers
  split
  · exact hg _ _
  · rfl

theorem arithmetic_onLine (n : Nat) (op : Token) (lhs rhs : Value) :
    arithmetic (op.onLine n) lhs rhs = (arithmetic op lhs rhs).mapError (.onLine n) := by
  refine onNumbers_onLine (fun x y => ?_) op lhs rhs
  rw [Token.onLine_kind]
  split
  case h_3 => exact divide_onLine n op x y
  all_goals rfl

theorem ordering_onLine (n : Nat) (op : Token) (lhs rhs : Value) :
    ordering (op.onLine n) lhs rhs = (ordering op lhs rhs).mapError (.onLine n) := by
  refine onNumbers_onLine (fun x y => ?_) op lhs rhs
  rw [Token.onLine_kind]
  split <;> rfl

theorem binary_onLine (n : Nat) (op : Token) (lhs rhs : Value) :
    binary (op.onLine n) lhs rhs = (binary op lhs rhs).mapError (.onLine n) := by
  unfold binary
  rw [Token.onLine_kind]
  split
  case h_1 => exact add_onLine n op lhs rhs
  case h_2 | h_3 | h_4 => exact arithmetic_onLine n op lhs rhs
  case h_5 | h_6 | h_7 | h_8 => exact ordering_onLine n op lhs rhs
  all_goals rfl

end Operator

/-- By induction on the expression, whose operators and names are all moved. -/
theorem Expr.eval_onLine (n : Nat) (e : Expr) (s : Store) :
    (e.onLine n).eval s = (e.eval s).onLine n := by
  induction e generalizing s with
  | scalar => rfl
  | group _ ih => exact ih s
  | unary op operand ih =>
    simp only [onLine, eval, ih]
    cases operand.eval s with
    | ok v s => simp only [Effect.onLine, Operator.unary_onLine, Effect.ofExcept_onLine]
    | error f s => rfl
  | binary lhs op rhs ihl ihr =>
    simp only [onLine, eval, ihl]
    cases lhs.eval s with
    | ok l s =>
      simp only [Effect.onLine, ihr]
      cases rhs.eval s with
      | ok r s => simp only [Effect.onLine, Operator.binary_onLine, Effect.ofExcept_onLine]
      | error f s => rfl
    | error f s => rfl
  | global name =>
    simp only [onLine, eval, Token.onLine_lexeme]
    cases s.get? name.lexeme <;> rfl
  | assign name value ih =>
    simp only [onLine, eval, ih]
    cases value.eval s with
    | ok v s =>
      simp only [Effect.onLine, Token.onLine_lexeme]
      cases s.assign? name.lexeme v <;> rfl
    | error f s => rfl

theorem Machine.eval_onLine (n : Nat) (m : Machine) (e : Expr) :
    m.eval (e.onLine n) = (m.eval e).onLine n := by
  simp only [eval, e.eval_onLine]
  cases e.eval m.store <;> rfl

theorem Stmt.exec_onLine (n : Nat) (m : Machine) (s : Stmt) :
    (s.onLine n).exec m = ((s.exec m).1, (s.exec m).2.map (.onLine n)) := by
  cases s with
  | expr e =>
    simp only [onLine, exec, m.eval_onLine]
    cases m.eval e <;> rfl
  | print keyword e =>
    simp only [onLine, exec, m.eval_onLine]
    cases m.eval e with
    | ok v m => simp [Effect.onLine, Machine.print, Fault.onLine, Function.comp_def]
    | error f m => rfl
  | declare name initial =>
    cases initial with
    | none => rfl
    | some e =>
      simp only [onLine, exec, Option.map_some, m.eval_onLine]
      cases m.eval e <;> rfl

def Execution.onLine (n : Nat) (e : Execution) : Execution :=
  ⟨e.machine, e.begun.map (.onLine n), e.fault.map (.onLine n)⟩

/-- Statements on another line do the same, and what goes wrong goes wrong there. -/
theorem Machine.exec_onLine (n : Nat) (m : Machine) (ss : List Stmt) :
    m.exec (ss.map (.onLine n)) = (m.exec ss).onLine n := by
  induction ss generalizing m with
  | nil => rfl
  | cons s others ih =>
    have hmoved := s.exec_onLine n m
    rw [List.map_cons]
    rcases h : s.exec m with ⟨m', _ | f⟩
    · rw [h] at hmoved
      rw [exec_cons_of_ok hmoved, exec_cons_of_ok h, ih]
      rfl
    · rw [h] at hmoved
      rw [exec_cons_of_fault hmoved, exec_cons_of_fault h]
      rfl

end Lox
