import Lox.Proofs.Cursor.Basic
namespace Lox.Cursor

/-- A property of readers that those have which all others are made of, and that is kept where readers are put together.
So it holds of all readers of expressions and declarations. -/
class Compositional (P : (α : Type) → Reader α → Prop) : Prop where
  holds_pure (a : α) : P α (pure a)
  holds_bind {p : Reader α} {f : α → Reader β} (hp : P α p) (hf : ∀ a, P β (f a)) : P β (p >>= f)
  holds_get : P Cursor get
  holds_current : P Token current
  holds_advance : P Token advance
  holds_refuse (why : Complaint) : P α (refuse why)
  holds_report (e : SyntaxError) : P Unit (report e)
  holds_nested {p : Reader Expr} (hp : P Expr p) : P Expr (nested p)

section
open Compositional
variable {P : (α : Type) → Reader α → Prop} [Compositional P]

theorem holds_pass? (kinds : List Kind) : P (Option Token) (pass? kinds) := by
  refine holds_bind holds_current fun t => ?_
  split
  · exact holds_bind holds_advance fun t => holds_pure (some t)
  · exact holds_pure none

theorem holds_consume (kind : Kind) (why : Complaint) : P Token (consume kind why) := by
  refine holds_bind holds_current fun t => ?_
  split
  · exact holds_advance
  · exact holds_refuse why

/-- By induction on how many operators there may be. -/
theorem holds_chainFrom (h : P Expr operand) (n : Nat) (lhs : Expr) : P Expr (chainFrom kinds operand n lhs) := by
  induction n generalizing lhs with
  | zero => exact holds_pure lhs
  | succ n ih =>
    refine holds_bind (holds_pass? kinds) fun op => ?_
    cases op with
    | none => exact holds_pure lhs
    | some op => exact holds_bind h fun rhs => ih _

theorem holds_chain (h : P Expr operand) (kinds : List Kind) : P Expr (chain kinds operand) :=
  holds_bind h fun lhs => holds_bind holds_get fun _ => holds_chainFrom h _ lhs

structure Inner.Holds (P : (α : Type) → Reader α → Prop) (inner : Inner) : Prop where
  unary : P Expr inner.unary
  assignment : P Expr inner.assignment

namespace Inner.Holds

variable {inner : Inner} (h : inner.Holds P)
include h

theorem group : P Expr (group inner) := by
  refine holds_bind (holds_consume _ _) fun _ => holds_bind (holds_nested h.assignment) fun e => ?_
  exact holds_bind (holds_consume _ _) fun _ => holds_pure _

theorem primary : P Expr (primary inner) := by
  refine holds_bind holds_current fun t => ?_
  split
  · exact holds_bind holds_advance fun _ => holds_pure _
  · exact h.group
  · exact holds_refuse _
  · exact holds_refuse _

theorem operand : P Expr (Cursor.unary inner) := by
  refine holds_bind (holds_pass? _) fun op => ?_
  cases op with
  | some op => exact holds_bind (holds_nested h.unary) fun e => holds_pure _
  | none => exact h.primary

theorem binary (levels : List Level) : P Expr (binary inner levels) := by
  induction levels with
  | nil => exact h.operand
  | cons l tighter ih => exact holds_chain ih l.kinds

/-- A target that is none is reported, and the reader goes on. -/
theorem value : P Expr (Cursor.assignment inner) := by
  refine holds_bind (h.binary _) fun target => holds_bind (holds_pass? _) fun equals => ?_
  cases equals with
  | none => exact holds_pure target
  | some equals =>
    refine holds_bind (holds_nested h.assignment) fun e => ?_
    split
    · exact holds_pure _
    · exact holds_bind (holds_report _) fun _ => holds_pure target

theorem declared : P Stmt (declared inner) := by
  refine holds_bind (holds_consume _ _) fun name => holds_bind (holds_pass? _) fun equals => ?_
  cases equals with
  | none => exact holds_bind (holds_consume _ _) fun _ => holds_pure _
  | some equals => exact holds_bind h.value fun e => holds_bind (holds_consume _ _) fun _ => holds_pure _

theorem declaration : P Stmt (declaration inner) := by
  refine holds_bind (holds_pass? _) fun keyword => ?_
  cases keyword with
  | some keyword => exact h.declared
  | none =>
    refine holds_bind (holds_pass? _) fun keyword => ?_
    cases keyword with
    | some keyword => exact holds_bind h.value fun e => holds_bind (holds_consume _ _) fun _ => holds_pure _
    | none => exact holds_bind h.value fun e => holds_bind (holds_consume _ _) fun _ => holds_pure _

end Inner.Holds

/-- What is called where something is nested has the property by induction on how often that can be. -/
theorem holds_readersWithin (n : Nat) : (readersWithin n).Holds P := by
  induction n with
  | zero => exact ⟨holds_refuse _, holds_refuse _⟩
  | succ n ih => exact ⟨ih.operand, ih.value⟩

end

end Lox.Cursor
