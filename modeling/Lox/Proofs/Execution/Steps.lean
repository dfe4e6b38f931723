import Lox.Machine
import Lox.Proofs.Grammar.Basic
namespace Lox

def Effect.state : Effect σ → σ
  | .ok _ s => s
  | .error _ s => s

theorem Effect.state_ofExcept (s : σ) (r : Except Fault Value) : (Effect.ofExcept s r).state = s := by
  cases r <;> rfl

theorem Effect.ofExcept_eq_error {r : Except Fault Value} (h : Effect.ofExcept s r = .error f s') :
    r = .error f := by
  cases r with
  | ok => cases h
  | error => cases h; rfl

namespace Expr

def targets : Expr → List Token
  | scalar _ | global _ => []
  | group inner => inner.targets
  | unary _ operand => operand.targets
  | binary lhs _ rhs => lhs.targets ++ rhs.targets
  | assign name value => name :: value.targets

/-- Evaluation changes a store by assignments only, so what these keep holds behind it, also at a fault. -/
theorem state_of_assignments {P : Store → Prop} {e : Expr}
    (assign : ∀ name ∈ e.targets, ∀ s v s', s.assign? name.lexeme v = some s' → P s → P s') (h : P s) :
    P (e.eval s).state := by
  induction e generalizing s with
  | scalar value => exact h
  | group inner ih => exact ih assign h
  | unary op operand ih =>
    have hoperand := ih assign h
    simp only [eval]
    split
    · next he =>
      rw [he] at hoperand
      rw [Effect.state_ofExcept]
      exact hoperand
    · next he =>
      rw [he] at hoperand
      exact hoperand
  | binary lhs op rhs ihl ihr =>
    have hlhs := ihl (fun name hn => assign name (List.mem_append_left _ hn)) h
    simp only [eval]
    split
    · next l s' hl =>
      rw [hl] at hlhs
      have hrhs : P (rhs.eval s').state := ihr (fun name hn => assign name (List.mem_append_right _ hn)) hlhs
      split
      · next hr =>
        rw [hr] at hrhs
        rw [Effect.state_ofExcept]
        exact hrhs
      · next hr =>
        rw [hr] at hrhs
        exact hrhs
    · next hl =>
      rw [hl] at hlhs
      exact hlhs
  | global name =>
    simp only [eval]
    split
    · exact h
    · exact h
  | assign name value ih =>
    have hvalue := ih (fun other hn => assign other (List.mem_cons_of_mem _ hn)) h
    simp only [eval]
    split
    · next he =>
      rw [he] at hvalue
      split
      · next ha => exact assign name List.mem_cons_self _ _ _ ha hvalue
      · exact hvalue
    · next he =>
      rw [he] at hvalue
      exact hvalue

end Expr

@[simp] theorem Machine.store_print (m : Machine) (keyword : Token) (v : Value) :
    (m.print keyword v).1.store = m.store := rfl

namespace Stmt

/-- All that a statement can do from a store. Only a print looks at the console. -/
inductive Does (s : Store) : Stmt → (Console → Machine × Option Fault) → Prop
  | evaluated (he : e.eval s = .ok v s') : Does s (.expr e) fun c => (⟨s', c⟩, none)
  | printed (he : e.eval s = .ok v s') : Does s (.print keyword e) fun c => Machine.print ⟨s', c⟩ keyword v
  | bare : Does s (.declare name none) fun c => (⟨s.define name.lexeme .nil, c⟩, none)
  | declared (he : e.eval s = .ok v s') :
      Does s (.declare name (some e)) fun c => (⟨s'.define name.lexeme v, c⟩, none)
  | faulted (hs : e ∈ stmt.expr?) (he : e.eval s = .error f s') : Does s stmt fun c => (⟨s', c⟩, some f)

/-- By cases: declarations and expressions leave the console alone. -/
theorem does_exec (stmt : Stmt) (s : Store) : Does s stmt fun c => stmt.exec ⟨s, c⟩ := by
  cases stmt with
  | expr e =>
    cases he : e.eval s with
    | ok v s' =>
      simp only [exec, Machine.eval, he]
      exact .evaluated he
    | error f s' =>
      simp only [exec, Machine.eval, he]
      exact .faulted rfl he
  | print keyword e =>
    cases he : e.eval s with
    | ok v s' =>
      simp only [exec, Machine.eval, he]
      exact .printed he
    | error f s' =>
      simp only [exec, Machine.eval, he]
      exact .faulted rfl he
  | declare name initial =>
    cases initial with
    | none => exact .bare
    | some e =>
      cases he : e.eval s with
      | ok v s' =>
        simp only [exec, Machine.eval, he]
        exact .declared he
      | error f s' =>
        simp only [exec, Machine.eval, he]
        exact .faulted rfl he

theorem exists_does (stmt : Stmt) (s : Store) :
    ∃ run, Does s stmt run ∧ ∀ c, stmt.exec ⟨s, c⟩ = run c :=
  ⟨_, stmt.does_exec s, fun _ => rfl⟩

theorem does_of_exec {stmt : Stmt} (h : stmt.exec m = r) :
    ∃ run, Does m.store stmt run ∧ run m.console = r :=
  ⟨_, stmt.does_exec m.store, h⟩

end Stmt

namespace Machine

/-- A run that comes to its end began every statement. -/
theorem begun_exec {m : Machine} (h : (m.exec ss).fault = none) : (m.exec ss).begun = ss := by
  induction ss generalizing m with
  | nil => rfl
  | cons s others ih =>
    rcases he : s.exec m with ⟨m', _ | f⟩
    · rw [exec_cons_of_ok he] at h ⊢
      rw [ih h]
    · rw [exec_cons_of_fault he] at h
      cases h

theorem exec_append_of_ok {m : Machine} (h : (m.exec ss).fault = none) (others : List Stmt) :
    m.exec (ss ++ others) =
      ⟨((m.exec ss).machine.exec others).machine, ss ++ ((m.exec ss).machine.exec others).begun,
        ((m.exec ss).machine.exec others).fault⟩ := by
  rw [exec_append, h, begun_exec h]
  rfl

/-- Behind a fault nothing is carried out. -/
theorem exec_append_of_fault {m : Machine} (h : (m.exec ss).fault = some f) (others : List Stmt) :
    m.exec (ss ++ others) = m.exec ss := by
  rw [exec_append, h]
  rfl

/-- The statements before one that was come to were carried out to their end. -/
theorem fault_of_append {m : Machine} (h : (m.exec (ss ++ others)).fault = none) : (m.exec ss).fault = none := by
  cases hf : (m.exec ss).fault with
  | none => rfl
  | some f =>
    rw [exec_append_of_fault hf, hf] at h
    cases h

/-- A fault befalls the last statement that was begun, on the machine that those before it leave. -/
theorem exists_of_fault {m : Machine} (h : (m.exec ss).fault = some f) : ∃ before stmt behind,
    ss = before ++ stmt :: behind ∧ (m.exec before).fault = none ∧
      stmt.exec (m.exec before).machine = ((m.exec ss).machine, some f) ∧
      (m.exec ss).begun = before ++ [stmt] := by
  induction ss generalizing m with
  | nil => cases h
  | cons s others ih =>
    rcases he : s.exec m with ⟨m', _ | g⟩
    · rw [exec_cons_of_ok he] at h ⊢
      obtain ⟨before, stmt, behind, rfl, hb, hs, hbegun⟩ := ih h
      refine ⟨s :: before, stmt, behind, rfl, ?_, ?_, ?_⟩
      · rw [exec_cons_of_ok he]
        exact hb
      · rw [exec_cons_of_ok he]
        exact hs
      · rw [hbegun]
        rfl
    · rw [exec_cons_of_fault he] at h ⊢
      cases h
      exact ⟨[], s, others, rfl, rfl, he, rfl⟩

end Machine

end Lox
