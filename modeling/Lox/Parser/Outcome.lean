import Lox.SyntaxError
namespace Lox

/-- Either way with the equals signs met so far that have no name to their left, in the order in which
their right sides ended. -/
inductive Outcome (α : Type) where
  | done (tree : α) (misplaced : List Token) (rest : List Token)
  | failed (why : Complaint) (misplaced : List Token) (rest : List Token)

namespace Outcome

def rest : Outcome α → List Token
  | done _ _ rest => rest
  | failed _ _ rest => rest

def after (earlier : List Token) : Outcome α → Outcome α
  | done tree misplaced rest => done tree (earlier ++ misplaced) rest
  | failed why misplaced rest => failed why (earlier ++ misplaced) rest

def andThen (o : Outcome α) (next : α → List Token → Outcome β) : Outcome β :=
  match o with
  | done tree misplaced rest => (next tree rest).after misplaced
  | failed why misplaced rest => failed why misplaced rest

def map (f : α → β) (o : Outcome α) : Outcome β := o.andThen fun tree rest => done (f tree) [] rest

/-- From `n` tokens: a tree took one at least, a complaint took none back. So readers can be repeated without a bound.
-/
def Within (n : Nat) : Outcome α → Prop
  | done _ _ rest => rest.length < n
  | failed _ _ rest => rest.length ≤ n

@[simp] theorem rest_after (earlier : List Token) (o : Outcome α) : (o.after earlier).rest = o.rest := by
  cases o <;> rfl

@[simp] theorem after_nil (o : Outcome α) : o.after [] = o := by
  cases o <;> rfl

/-- A tree is read behind misplaced equals signs as it is without them, and these come first. -/
theorem after_eq_done_iff {o : Outcome α} {rest : List Token} :
    o.after earlier = .done tree misplaced rest ↔
      ∃ later, o = .done tree later rest ∧ misplaced = earlier ++ later := by
  cases o with
  | done => simp only [after, done.injEq]; grind
  | failed => simp [after]

/-- Both readers have to come to a tree, the second one on what the first has left. -/
theorem andThen_eq_done_iff {o : Outcome α} {next : α → List Token → Outcome β} {rest : List Token} :
    o.andThen next = .done tree misplaced rest ↔ ∃ part earlier behind later,
      o = .done part earlier behind ∧ next part behind = .done tree later rest ∧
      misplaced = earlier ++ later := by
  cases o with
  | done part earlier behind =>
    simp only [andThen, after_eq_done_iff, done.injEq]
    grind
  | failed => simp [andThen]

theorem Within.rest_le {o : Outcome α} (h : o.Within n) : o.rest.length ≤ n := by
  cases o with
  | done => exact Nat.le_of_lt h
  | failed => exact h

theorem Within.mono {o : Outcome α} (h : o.Within m) (hmn : m ≤ n) : o.Within n := by
  cases o with
  | done => exact Nat.lt_of_lt_of_le h hmn
  | failed => exact Nat.le_trans h hmn

theorem within_of_rest_lt {o : Outcome α} (h : o.rest.length < n) : o.Within n := by
  cases o with
  | done => exact h
  | failed => exact Nat.le_of_lt h

/-- What goes on behind a tree need not take a token of its own. -/
theorem Within.andThen {o : Outcome α} {next : α → List Token → Outcome β} (h : o.Within n)
    (hn : ∀ tree rest, (next tree rest).rest.length ≤ rest.length) : (o.andThen next).Within n := by
  cases o with
  | done tree misplaced rest =>
    apply within_of_rest_lt
    rw [Outcome.andThen, rest_after]
    exact Nat.lt_of_le_of_lt (hn tree rest) h
  | failed => exact h

theorem Within.map {o : Outcome α} (h : o.Within n) (f : α → β) : (o.map f).Within n :=
  h.andThen fun _ _ => Nat.le_refl _

end Outcome

structure Parser (α : Type) where
  run : List Token → Outcome α
  within : ∀ ts, (run ts).Within ts.length

namespace Parser

/-- A tree takes at least one token. -/
theorem length_of_done (p : Parser α) (h : p.run ts = .done tree misplaced rest) :
    rest.length < ts.length := by
  have within := p.within ts
  rwa [h] at within

theorem length_of_failed (p : Parser α) (h : p.run ts = .failed why misplaced rest) :
    rest.length ≤ ts.length := by
  have within := p.within ts
  rwa [h] at within

end Parser

def take? (kinds : List Kind) : List Token → Option (Token × List Token)
  | t :: rest => if t.kind ∈ kinds then some (t, rest) else none
  | [] => none

theorem take?_eq_some_iff : take? kinds ts = some (t, rest) ↔ ts = t :: rest ∧ t.kind ∈ kinds := by
  cases ts with
  | nil => simp [take?]
  | cons u us => grind [take?]

theorem take?_eq_none_iff : take? kinds ts = none ↔ ∀ t ∈ ts.head?, t.kind ∉ kinds := by
  cases ts with
  | nil => simp [take?]
  | cons t rest => simp [take?]

theorem length_of_take? (h : take? kinds ts = some (t, rest)) : rest.length < ts.length := by
  obtain ⟨rfl, -⟩ := take?_eq_some_iff.1 h
  simp

def closed (kind : Kind) (why : Complaint) (tree : α) (ts : List Token) : Outcome α :=
  match take? [kind] ts with
  | some (_, rest) => .done tree [] rest
  | none => .failed why [] ts

theorem closed_eq_done_iff : closed kind why tree ts = .done other misplaced rest ↔
    other = tree ∧ misplaced = [] ∧ ∃ t, t.kind = kind ∧ ts = t :: rest := by
  unfold closed
  split
  · next t behind took =>
    obtain ⟨rfl, hk⟩ := take?_eq_some_iff.1 took
    simp only [Outcome.done.injEq, List.cons.injEq]
    grind
  · next h =>
    rw [take?_eq_none_iff] at h
    grind

theorem rest_closed_le : (closed kind why tree ts).rest.length ≤ ts.length := by
  unfold closed
  split
  · next h => exact Nat.le_of_lt (length_of_take? h)
  · exact Nat.le_refl _

theorem Parser.within_closed (p : Parser α) (kind : Kind) (why : Complaint) (f : α → β) (ts : List Token) :
    ((p.run ts).andThen fun tree => closed kind why (f tree)).Within ts.length :=
  (p.within ts).andThen fun _ _ => rest_closed_le

end Lox
