import Lox.Parser.Outcome
import Lox.Tree
namespace Lox

inductive Level where
  | equality | comparison | term | factor
deriving DecidableEq, Repr

namespace Level

def kinds : Level → List Kind
  | equality => [.bangEqual, .equalEqual]
  | comparison => [.greater, .greaterEqual, .less, .lessEqual]
  | term => [.minus, .plus]
  | factor => [.slash, .star]

def loosestFirst : List Level := [equality, comparison, term, factor]

end Level

inductive Opening where
  | whole (e : Expr)
  | operator
  | group

def Opening.of (t : Token) : Except Complaint Opening :=
  match t.kind with
  | .bang | .minus => .ok .operator
  | .leftParen => .ok .group
  | .kwNil => .ok (.whole (.scalar .nil))
  | .kwTrue => .ok (.whole (.scalar (.bool true)))
  | .kwFalse => .ok (.whole (.scalar (.bool false)))
  | .identifier => .ok (.whole (.global t))
  | .number =>
    match t.literal with
    | some (.number x) => .ok (.whole (.scalar (.number x)))
    | _ => .error .malformedNumber
  | .string =>
    match t.literal with
    | some (.text s) => .ok (.whole (.scalar (.text s)))
    | _ => .error .malformedString
  | _ => .error .noExpression

namespace Parser

/-- Reads on behind an operand: what is read so far becomes the left operand of the next operator. -/
def chainFrom (kinds : List Kind) (operand : Parser Expr) (lhs : Expr) (ts : List Token) : Outcome Expr :=
  match _ : take? kinds ts with
  | none => .done lhs [] ts
  | some (op, behind) =>
    match _ : operand.run behind with
    | .done rhs misplaced rest => (chainFrom kinds operand (.binary lhs op rhs) rest).after misplaced
    | .failed why misplaced rest => .failed why misplaced rest
termination_by ts.length
decreasing_by exact Nat.lt_trans (operand.length_of_done ‹_›) (length_of_take? ‹_›)

theorem chainFrom_of_none {operand : Parser Expr} (h : take? kinds ts = none) :
    chainFrom kinds operand lhs ts = .done lhs [] ts := by
  unfold chainFrom
  split
  · rfl
  · next took =>
    rw [h] at took
    cases took

/-- Behind an operator of the level an operand is read, and both with what is to their left become the next left
operand. -/
theorem chainFrom_cons {operand : Parser Expr} (ho : op.kind ∈ kinds) :
    chainFrom kinds operand lhs (op :: ts) =
      (operand.run ts).andThen fun rhs rest => chainFrom kinds operand (.binary lhs op rhs) rest := by
  have took : take? kinds (op :: ts) = some (op, ts) := take?_eq_some_iff.2 ⟨rfl, ho⟩
  rw [chainFrom]
  split
  · next none =>
    rw [took] at none
    cases none
  · next op' ts' some =>
    rw [took] at some
    cases some
    split
    · next read => rw [read, Outcome.andThen]
    · next read => rw [read, Outcome.andThen]

/-- A chain takes no tokens back, even where it is refused. -/
theorem rest_chainFrom_le (operand : Parser Expr) :
    (chainFrom kinds operand lhs ts).rest.length ≤ ts.length := by
  fun_induction chainFrom kinds operand lhs ts with
  | case1 => exact Nat.le_refl _
  | case2 lhs ts op behind took rhs misplaced rest read ih =>
    rw [Outcome.rest_after]
    exact Nat.le_trans ih
      (Nat.le_of_lt (Nat.lt_trans (operand.length_of_done read) (length_of_take? took)))
  | case3 lhs ts op behind took why misplaced rest read =>
    exact Nat.le_trans (operand.length_of_failed read) (Nat.le_of_lt (length_of_take? took))

def chain (kinds : List Kind) (operand : Parser Expr) : Parser Expr where
  run ts := (operand.run ts).andThen (chainFrom kinds operand)
  within ts := (operand.within ts).andThen fun _ _ => rest_chainFrom_le operand

def binary (operand : Parser Expr) : List Level → Parser Expr
  | [] => operand
  | level :: tighter => chain level.kinds (binary operand tighter)

/-- Ends a left side, or reads on behind an equals sign. A right side without a name to its left is
dropped. -/
def assignTo (value : Parser Expr) (target : Expr) (ts : List Token) : Outcome Expr :=
  match take? [.equal] ts with
  | none => .done target [] ts
  | some (equals, behind) =>
    (value.run behind).andThen fun e rest =>
      match target with
      | .global name => .done (.assign name e) [] rest
      | _ => .done target [equals] rest

theorem rest_assignTo_le (value : Parser Expr) : (assignTo value target ts).rest.length ≤ ts.length := by
  unfold assignTo
  split
  · exact Nat.le_refl _
  · next equals behind took =>
    refine Nat.le_trans (Outcome.Within.rest_le ((value.within behind).andThen ?_))
      (Nat.le_of_lt (length_of_take? took))
    intro e rest
    split <;> exact Nat.le_refl _

def assignment (target value : Parser Expr) : Parser Expr where
  run ts := (target.run ts).andThen (assignTo value)
  within ts := (target.within ts).andThen fun _ _ => rest_assignTo_le value

def refuse (why : Complaint) : Parser Expr where
  run ts := .failed why [] ts
  within _ := Nat.le_refl _

def grouped (inner : Parser Expr) (ts : List Token) : Outcome Expr :=
  match take? [.leftParen] ts with
  | none => .failed .noGroup [] ts
  | some (_, behind) => (inner.run behind).andThen fun e => closed .rightParen .openGroup (.group e)

theorem grouped_cons {inner : Parser Expr} (h : t.kind = .leftParen) :
    grouped inner (t :: ts) =
      (inner.run ts).andThen fun e => closed .rightParen .openGroup (.group e) := by
  simp [grouped, take?, h]

theorem within_grouped (inner : Parser Expr) : (grouped inner ts).Within ts.length := by
  unfold grouped
  split
  · exact Nat.le_refl _
  · next took => exact (inner.within_closed _ _ _ _).mono (Nat.le_of_lt (length_of_take? took))

def operand (nested inner : Parser Expr) : Parser Expr where
  run
    | [] => .failed .noExpression [] []
    | t :: rest =>
      match Opening.of t with
      | .error why => .failed why [] (t :: rest)
      | .ok (.whole e) => .done e [] rest
      | .ok .operator => (nested.run rest).map (.unary t)
      | .ok .group => grouped inner (t :: rest)
  within ts := by
    cases ts with
    | nil => exact Nat.le_refl _
    | cons t rest =>
      dsimp only
      split
      · exact Nat.le_refl _
      · exact Nat.lt_succ_self _
      · exact ((nested.within rest).map _).mono (Nat.le_succ _)
      · exact within_grouped inner

end Parser

/-- Readers that agree on how much deeper they may go. Groups, operands of unary operators and right sides of
assignments are nested, and the readers recurse on how often that may still be. -/
structure Layer where
  unary : Parser Expr
  assignment : Parser Expr

namespace Layer

def around (inner : Layer) : Layer :=
  let unary := Parser.operand inner.unary inner.assignment
  ⟨unary, Parser.assignment (Parser.binary unary Level.loosestFirst) inner.assignment⟩

def nesting : Nat → Layer
  | 0 => around ⟨Parser.refuse .tooMuchNesting, Parser.refuse .tooMuchNesting⟩
  | n + 1 => around (nesting n)

end Layer

def maxNesting : Nat := 128

def Parser.expression : Parser Expr := (Layer.nesting maxNesting).assignment

end Lox
