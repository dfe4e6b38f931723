import Lox.Parse
namespace Lox

/-- Readers of expressions are made in four ways only. What holds of assignments may be another thing than what
holds of operands and chains. -/
theorem Layer.nesting_induction_pair {P Q : Parser Expr → Prop}
    (refuse : P (.refuse .tooMuchNesting) ∧ Q (.refuse .tooMuchNesting))
    (operand : ∀ nested inner, P nested → Q inner → P (.operand nested inner))
    (chain : ∀ (l : Level) p, P p → P (.chain l.kinds p))
    (assignment : ∀ target value, P target → Q value → Q (.assignment target value)) (depth : Nat) :
    P (nesting depth).unary ∧ Q (nesting depth).assignment := by
  have around : ∀ layer, P layer.unary → Q layer.assignment →
      P (Layer.around layer).unary ∧ Q (Layer.around layer).assignment := by
    intro layer hu ha
    have hu' := operand _ _ hu ha
    exact ⟨hu', assignment _ _ (chain _ _ (chain _ _ (chain _ _ (chain _ _ hu')))) ha⟩
  induction depth with
  | zero => exact around _ refuse.1 refuse.2
  | succ depth ih => exact around _ ih.1 ih.2

/-- What is kept by the four ways of building readers holds of all of them, by induction on how deep they nest. -/
theorem Layer.nesting_induction {P : Parser Expr → Prop} (refuse : P (.refuse .tooMuchNesting))
    (operand : ∀ nested inner, P nested → P inner → P (.operand nested inner))
    (chain : ∀ (l : Level) p, P p → P (.chain l.kinds p))
    (assignment : ∀ target value, P target → P value → P (.assignment target value)) (depth : Nat) :
    P (nesting depth).unary ∧ P (nesting depth).assignment :=
  nesting_induction_pair ⟨refuse, refuse⟩ operand chain assignment depth

/-- A token of this kind ends a statement or opens the next, or ends them all. -/
def Kind.bounds (k : Kind) : Bool := k == .semicolon || k.stops

def Outcome.extend (more : List Token) : Outcome α → Outcome α
  | done tree misplaced rest => done tree misplaced (rest ++ more)
  | failed why misplaced rest => failed why misplaced (rest ++ more)

theorem Outcome.extend_after (o : Outcome α) :
    (o.after earlier).extend more = (o.extend more).after earlier := by
  cases o <;> rfl

/-- More tokens behind are passed on from reader to reader. -/
theorem Outcome.extend_andThen {o : Outcome α} {next : α → List Token → Outcome β}
    (h : ∀ a us, next a (us ++ more) = (next a us).extend more) :
    (o.extend more).andThen next = (o.andThen next).extend more := by
  cases o with
  | done a misplaced rest =>
    change (next a (rest ++ more)).after misplaced = ((next a rest).after misplaced).extend more
    rw [h, extend_after]
  | failed => rfl

namespace Parser

/-- What is left is the end of what there was, and nothing before it bounds a statement. -/
def TakesFront (ts rest : List Token) : Prop :=
  ∃ us, ts = us ++ rest ∧ ∀ t ∈ us, t.kind.bounds = false

theorem TakesFront.refl (ts : List Token) : TakesFront ts ts := ⟨[], rfl, by simp⟩

theorem TakesFront.trans (h : TakesFront ts us) (h' : TakesFront us vs) : TakesFront ts vs := by
  obtain ⟨xs, rfl, hx⟩ := h
  obtain ⟨ys, rfl, hy⟩ := h'
  refine ⟨xs ++ ys, by simp, fun t ht => ?_⟩
  rcases List.mem_append.mp ht with ht | ht
  · exact hx t ht
  · exact hy t ht

theorem TakesFront.cons (hk : t.kind.bounds = false) (h : TakesFront ts us) : TakesFront (t :: ts) us := by
  obtain ⟨xs, rfl, hx⟩ := h
  exact ⟨t :: xs, rfl, List.forall_mem_cons.mpr ⟨hk, hx⟩⟩

/-- Two readers one behind the other take a front each. -/
theorem TakesFront.andThen {o : Outcome α} {next : α → List Token → Outcome β} (h : TakesFront ts o.rest)
    (hn : ∀ a us, TakesFront us (next a us).rest) : TakesFront ts (o.andThen next).rest := by
  cases o with
  | done a misplaced rest =>
    rw [Outcome.andThen, Outcome.rest_after]
    exact h.trans (hn a rest)
  | failed => exact h

theorem takesFront_of_take? (h : take? kinds ts = some (t, rest)) (hk : ∀ k ∈ kinds, k.bounds = false) :
    TakesFront ts rest := by
  obtain ⟨rfl, ht⟩ := take?_eq_some_iff.mp h
  exact .cons (hk _ ht) (.refl _)

theorem bounds_of_mem_kinds (l : Level) : ∀ k ∈ l.kinds, k.bounds = false := by
  cases l <;> decide

/-- A chain takes operators and what its operands take. -/
theorem takesFront_chainFrom {operand : Parser Expr} (hk : ∀ k ∈ kinds, k.bounds = false)
    (ho : ∀ ts, TakesFront ts (operand.run ts).rest) (lhs : Expr) (ts : List Token) :
    TakesFront ts (chainFrom kinds operand lhs ts).rest := by
  fun_induction chainFrom kinds operand lhs ts with
  | case1 => exact .refl _
  | case2 lhs ts op behind took rhs misplaced rest read ih =>
    have hr := ho behind
    rw [read] at hr
    rw [Outcome.rest_after]
    exact ((takesFront_of_take? took hk).trans hr).trans ih
  | case3 lhs ts op behind took why misplaced rest read =>
    have hr := ho behind
    rw [read] at hr
    exact (takesFront_of_take? took hk).trans hr

theorem takesFront_closed (hk : kind.bounds = false) (tree : α) (ts : List Token) :
    TakesFront ts (closed kind why tree ts).rest := by
  unfold closed
  split
  · next t rest took => exact takesFront_of_take? took (by simpa using hk)
  · exact .refl _

theorem bounds_of_opening (h : Opening.of t = .ok o) : t.kind.bounds = false := by
  unfold Opening.of at h
  repeat' split at h
  all_goals first | cases h; done | simp_all [Kind.bounds, Kind.stops, Kind.opensStatement]

theorem takesFront_grouped {inner : Parser Expr} (hi : ∀ ts, TakesFront ts (inner.run ts).rest) (ts : List Token) :
    TakesFront ts (grouped inner ts).rest := by
  unfold grouped
  split
  · exact .refl _
  · next took =>
    refine (takesFront_of_take? took (by decide)).trans ((hi _).andThen fun _ us => ?_)
    exact takesFront_closed (by decide) _ us

theorem takesFront_operand {nested inner : Parser Expr} (hn : ∀ ts, TakesFront ts (nested.run ts).rest)
    (hi : ∀ ts, TakesFront ts (inner.run ts).rest) (ts : List Token) :
    TakesFront ts ((operand nested inner).run ts).rest := by
  cases ts with
  | nil => exact .refl _
  | cons t ts =>
    simp only [operand]
    split
    · exact .refl _
    · next h => exact .cons (bounds_of_opening h) (.refl _)
    · next h => exact .cons (bounds_of_opening h) ((hn ts).andThen fun _ _ => .refl _)
    · exact takesFront_grouped hi (t :: ts)

theorem takesFront_assignment {target value : Parser Expr} (ht : ∀ ts, TakesFront ts (target.run ts).rest)
    (hv : ∀ ts, TakesFront ts (value.run ts).rest) (ts : List Token) :
    TakesFront ts ((assignment target value).run ts).rest := by
  refine (ht ts).andThen fun lhs us => ?_
  unfold assignTo
  split
  · exact .refl _
  · next took =>
    refine (takesFront_of_take? took (by decide)).trans ((hv _).andThen fun e vs => ?_)
    split <;> exact .refl _

/-- No expression takes a token that bounds a statement. -/
theorem takesFront_expression (ts : List Token) : TakesFront ts (expression.run ts).rest :=
  (Layer.nesting_induction (P := fun p => ∀ ts, TakesFront ts (p.run ts).rest)
    (fun _ => .refl _) (fun _ _ => takesFront_operand)
    (fun l _ h ts => (h ts).andThen (takesFront_chainFrom (bounds_of_mem_kinds l) h))
    (fun _ _ => takesFront_assignment) maxNesting).2 ts

/-- The first token, if there is one, bounds a statement. -/
def Barrier (more : List Token) : Prop := ∀ t ∈ more.head?, t.kind.bounds

/-- A barrier is read like the end of the tokens. -/
def StopsAtBarriers (p : Parser Expr) : Prop :=
  ∀ us more, Barrier more → p.run (us ++ more) = (p.run us).extend more

/-- Nothing is taken of a barrier. -/
theorem take?_append (hk : ∀ k ∈ kinds, k.bounds = false) (hm : Barrier more) (us : List Token) :
    take? kinds (us ++ more) = (take? kinds us).map fun (t, rest) => (t, rest ++ more) := by
  cases us with
  | cons t us =>
    simp only [List.cons_append, take?]
    split <;> rfl
  | nil =>
    refine take?_eq_none_iff.mpr fun t ht hin => ?_
    have hb := hm t ht
    rw [hk _ hin] at hb
    cases hb

/-- At a barrier a chain is over. -/
theorem chainFrom_append {operand : Parser Expr} (hk : ∀ k ∈ kinds, k.bounds = false)
    (ho : StopsAtBarriers operand) (hm : Barrier more) (lhs : Expr) (us : List Token) :
    chainFrom kinds operand lhs (us ++ more) = (chainFrom kinds operand lhs us).extend more := by
  fun_induction chainFrom kinds operand lhs us with
  | case1 lhs us none =>
    rw [chainFrom_of_none (by rw [take?_append hk hm, none]; rfl)]
    rfl
  | case2 lhs us op behind took rhs misplaced rest read ih =>
    obtain ⟨rfl, hop⟩ := take?_eq_some_iff.mp took
    have hr := ho behind more hm
    rw [read] at hr
    rw [List.cons_append, chainFrom_cons hop, hr, Outcome.extend_after, ← ih]
    rfl
  | case3 lhs us op behind took why misplaced rest read =>
    obtain ⟨rfl, hop⟩ := take?_eq_some_iff.mp took
    have hr := ho behind more hm
    rw [read] at hr
    rw [List.cons_append, chainFrom_cons hop, hr]
    rfl

theorem StopsAtBarriers.chain (h : StopsAtBarriers p) (l : Level) : StopsAtBarriers (.chain l.kinds p) := by
  intro us more hm
  simp only [Parser.chain, h us more hm]
  exact Outcome.extend_andThen fun lhs vs => chainFrom_append (bounds_of_mem_kinds l) h hm lhs vs

theorem StopsAtBarriers.assignment (ht : StopsAtBarriers target) (hv : StopsAtBarriers value) :
    StopsAtBarriers (.assignment target value) := by
  intro us more hm
  simp only [Parser.assignment, ht us more hm]
  refine Outcome.extend_andThen fun lhs vs => ?_
  unfold assignTo
  rw [take?_append (by decide) hm]
  cases take? [.equal] vs with
  | none => rfl
  | some took =>
    simp only [Option.map_some, hv _ more hm]
    refine Outcome.extend_andThen fun e ws => ?_
    split <;> rfl

theorem closed_append (hk : kind.bounds = false) (hm : Barrier more) (tree : α) (us : List Token) :
    closed kind why tree (us ++ more) = (closed kind why tree us).extend more := by
  unfold closed
  rw [take?_append (by simpa using hk) hm]
  cases take? [kind] us <;> rfl

/-- No operand begins with a token that bounds a statement. -/
theorem opening_of_bounds (h : t.kind.bounds) : Opening.of t = .error .noExpression := by
  cases ho : Opening.of t with
  | ok o =>
    rw [bounds_of_opening ho] at h
    cases h
  | error why =>
    unfold Opening.of at ho
    repeat' split at ho
    all_goals first | (cases ho; done) | simp_all [Kind.bounds, Kind.stops, Kind.opensStatement]

theorem grouped_append {inner : Parser Expr} (hi : StopsAtBarriers inner) (hm : Barrier more) (us : List Token) :
    grouped inner (us ++ more) = (grouped inner us).extend more := by
  unfold grouped
  rw [take?_append (by decide) hm]
  cases take? [.leftParen] us with
  | none => rfl
  | some took =>
    simp only [Option.map_some, hi _ more hm]
    exact Outcome.extend_andThen fun e vs => closed_append (by decide) hm _ vs

/-- By the token that an operand begins with. -/
theorem StopsAtBarriers.operand {nested inner : Parser Expr} (hn : StopsAtBarriers nested)
    (hi : StopsAtBarriers inner) : StopsAtBarriers (.operand nested inner) := by
  intro us more hm
  cases us with
  | nil =>
    cases more with
    | nil => rfl
    | cons t more =>
      have hb := opening_of_bounds (hm t rfl)
      simp only [List.nil_append, Parser.operand, hb]
      rfl
  | cons t us =>
    simp only [List.cons_append, Parser.operand]
    split
    · rfl
    · rfl
    · rw [hn us more hm]
      exact Outcome.extend_andThen fun _ _ => rfl
    · exact grouped_append hi hm (t :: us)

/-- What bounds a statement keeps the reader from what is behind it. -/
theorem expression_append (hm : Barrier more) (us : List Token) :
    expression.run (us ++ more) = (expression.run us).extend more :=
  (Layer.nesting_induction (P := StopsAtBarriers) (fun _ _ _ => rfl) (fun _ _ => .operand)
    (fun l _ h => h.chain l) (fun _ _ => .assignment) maxNesting).2 us more hm

end Parser

end Lox
