import Lox.Operator
namespace Lox

abbrev Effect (σ : Type) := EStateM.Result Fault σ Value

def Effect.ofExcept (s : σ) : Except Fault Value → Effect σ
  | .ok v => .ok v s
  | .error f => .error f s

/-- Operands are evaluated from the left, and both before the operator is looked at. -/
def Expr.eval : Expr → Store → Effect Store
  | scalar value, s => .ok value s
  | group inner, s => inner.eval s
  | unary op operand, s =>
    match operand.eval s with
    | .ok v s => .ofExcept s (Operator.unary op v)
    | .error f s => .error f s
  | binary lhs op rhs, s =>
    match lhs.eval s with
    | .ok l s =>
      match rhs.eval s with
      | .ok r s => .ofExcept s (Operator.binary op l r)
      | .error f s => .error f s
    | .error f s => .error f s
  | global name, s =>
    match s.get? name.lexeme with
    | some v => .ok v s
    | none => .error (.undefinedVariable name) s
  | assign name value, s =>
    match value.eval s with
    | .ok v s =>
      match s.assign? name.lexeme v with
      | some s => .ok v s
      | none => .error (.undefinedVariable name) s
    | .error f s => .error f s

structure Machine where
  store : Store
  console : Console

namespace Machine

def fresh : Machine := ⟨.empty, .unlimited⟩

def eval (m : Machine) (e : Expr) : Effect Machine :=
  match e.eval m.store with
  | .ok v store => .ok v { m with store }
  | .error f store => .error f { m with store }

def define (m : Machine) (name : Token) (v : Value) : Machine :=
  { m with store := m.store.define name.lexeme v }

def print (m : Machine) (keyword : Token) (v : Value) : Machine × Option Fault :=
  let (console, failure) := m.console.write (v.display ++ "\n").toByteArray
  ({ m with console }, failure.map (.writeFailed keyword))

end Machine

def Stmt.exec (m : Machine) : Stmt → Machine × Option Fault
  | expr e =>
    match m.eval e with
    | .ok _ m => (m, none)
    | .error f m => (m, some f)
  | print keyword e =>
    match m.eval e with
    | .ok v m => m.print keyword v
    | .error f m => (m, some f)
  | declare name none => (m.define name .nil, none)
  | declare name (some e) =>
    match m.eval e with
    | .ok v m => (m.define name v, none)
    | .error f m => (m, some f)

/-- A list of statements carried out up to the first fault. The last statement begun is the one at
fault, if there is any. -/
structure Execution where
  machine : Machine
  begun : List Stmt
  fault : Option Fault

def Machine.exec (m : Machine) : List Stmt → Execution
  | [] => ⟨m, [], none⟩
  | s :: others =>
    match s.exec m with
    | (m, some f) => ⟨m, [s], some f⟩
    | (m, none) =>
      let e := m.exec others
      { e with begun := s :: e.begun }

namespace Machine

theorem exec_cons_of_ok {s : Stmt} {m m' : Machine} (h : s.exec m = (m', none)) (others : List Stmt) :
    m.exec (s :: others) =
      ⟨(m'.exec others).machine, s :: (m'.exec others).begun, (m'.exec others).fault⟩ := by
  simp only [exec, h]

/-- Nothing is begun behind the statement at fault. -/
theorem exec_cons_of_fault {s : Stmt} {m m' : Machine} (h : s.exec m = (m', some f))
    (others : List Stmt) : m.exec (s :: others) = ⟨m', [s], some f⟩ := by
  simp only [exec, h]

/-- The second list is carried out where the first left off, if that came to its end. -/
theorem exec_append (m : Machine) (ss others : List Stmt) :
    m.exec (ss ++ others) =
      if (m.exec ss).fault.isSome then m.exec ss
      else
        let e := (m.exec ss).machine.exec others
        { e with begun := (m.exec ss).begun ++ e.begun } := by
  induction ss generalizing m with
  | nil => rfl
  | cons s ss ih =>
    rw [List.cons_append]
    rcases h : s.exec m with ⟨m', _ | f⟩
    · rw [exec_cons_of_ok h, exec_cons_of_ok h, ih]
      split <;> rfl
    · rw [exec_cons_of_fault h, exec_cons_of_fault h]
      rfl

end Machine

end Lox
