import Lox.Tree
namespace Lox

/-- The most groups, unary operators and assignments on a way from the root to a leaf. -/
def Expr.nesting : Expr → Nat
  | scalar _ | global _ => 0
  | group inner => inner.nesting + 1
  | unary _ operand => operand.nesting + 1
  | binary lhs _ rhs => max lhs.nesting rhs.nesting
  | assign _ value => value.nesting + 1

/-- The expression that a statement is about; a bare declaration has none. -/
def Stmt.expr? : Stmt → Option Expr
  | expr e => some e
  | print _ e => some e
  | declare _ initial => initial

def Stmt.NestsWithin (n : Nat) (s : Stmt) : Prop := ∀ e ∈ s.expr?, e.nesting ≤ n

namespace Grammar

inductive Nonterminal where
  | assignment | equality | comparison | term | factor | unary | primary
deriving DecidableEq, Repr

/-- A rule `n → tighter (kinds tighter)*`, read from the left. -/
inductive Joins : Nonterminal → List Kind → Nonterminal → Prop
  | equality : Joins .equality [.bangEqual, .equalEqual] .comparison
  | comparison : Joins .comparison [.greater, .greaterEqual, .less, .lessEqual] .term
  | term : Joins .term [.minus, .plus] .factor
  | factor : Joins .factor [.slash, .star] .unary

/-- The tokens stand for the expression. Operators and names go into the tree as they are; of the other
tokens only the kind counts, and of a literal what it carries. -/
inductive Derives : Nonterminal → List Token → Expr → Prop
  | assign (hn : name.kind = .identifier) (he : equals.kind = .equal) (hv : Derives .assignment ts e) :
      Derives .assignment (name :: equals :: ts) (.assign name e)
  | equality (h : Derives .equality ts e) : Derives .assignment ts e
  | operand (hj : Joins n kinds tighter) (h : Derives tighter ts e) : Derives n ts e
  | binary (hj : Joins n kinds tighter) (hl : Derives n ts lhs) (ho : op.kind ∈ kinds)
      (hr : Derives tighter us rhs) : Derives n (ts ++ op :: us) (.binary lhs op rhs)
  | unary (ho : op.kind = .bang ∨ op.kind = .minus) (h : Derives .unary ts e) :
      Derives .unary (op :: ts) (.unary op e)
  | primary (h : Derives .primary ts e) : Derives .unary ts e
  | number (hk : t.kind = .number) (hl : t.literal = some (.number x)) :
      Derives .primary [t] (.scalar (.number x))
  | string (hk : t.kind = .string) (hl : t.literal = some (.text s)) :
      Derives .primary [t] (.scalar (.text s))
  | true (hk : t.kind = .kwTrue) : Derives .primary [t] (.scalar (.bool true))
  | false (hk : t.kind = .kwFalse) : Derives .primary [t] (.scalar (.bool false))
  | nil (hk : t.kind = .kwNil) : Derives .primary [t] (.scalar .nil)
  | global (hk : t.kind = .identifier) : Derives .primary [t] (.global t)
  | group (ho : opening.kind = .leftParen) (h : Derives .assignment ts e)
      (hc : closing.kind = .rightParen) : Derives .primary (opening :: (ts ++ [closing])) (.group e)

inductive Statement : List Token → Stmt → Prop
  | bare (hv : var.kind = .kwVar) (hn : name.kind = .identifier) (hs : semicolon.kind = .semicolon) :
      Statement [var, name, semicolon] (.declare name none)
  | initialized (hv : var.kind = .kwVar) (hn : name.kind = .identifier) (he : equals.kind = .equal)
      (h : Derives .assignment ts e) (hs : semicolon.kind = .semicolon) :
      Statement (var :: name :: equals :: (ts ++ [semicolon])) (.declare name (some e))
  | print (hk : keyword.kind = .kwPrint) (h : Derives .assignment ts e)
      (hs : semicolon.kind = .semicolon) : Statement (keyword :: (ts ++ [semicolon])) (.print keyword e)
  | expr (h : Derives .assignment ts e) (hs : semicolon.kind = .semicolon) :
      Statement (ts ++ [semicolon]) (.expr e)

inductive Program : List Token → List Stmt → Prop
  | nil : Program [] []
  | cons (h : Statement ts s) (hs : Program us ss) : Program (ts ++ us) (s :: ss)

/-- A bare name stands for itself at every level. -/
theorem Derives.of_global (h : Derives n ts (.global name)) : ts = [name] ∧ name.kind = .identifier := by
  generalize he : Expr.global name = e at h
  induction h with
  | equality _ ih => exact ih he
  | operand _ _ ih => exact ih he
  | primary _ ih => exact ih he
  | global hk =>
    cases he
    exact ⟨rfl, hk⟩
  | _ => cases he

theorem Program.append (h : Program ts ss) (hu : Program us rs) : Program (ts ++ us) (ss ++ rs) := by
  induction h with
  | nil => exact hu
  | cons hs _ ih =>
    rw [List.append_assoc]
    exact .cons hs ih

end Grammar

end Lox
