import Lox.Proofs.Execution.Definedness
import Lox.Proofs.Grammar.Programs
namespace Lox

/-- Each operator is one that the grammar has, with as many operands. -/
def Expr.KnownOperators : Expr → Prop
  | scalar _ | global _ => True
  | group inner => inner.KnownOperators
  | unary op operand => (op.kind = .bang ∨ op.kind = .minus) ∧ operand.KnownOperators
  | binary lhs op rhs => (∃ l : Level, op.kind ∈ l.kinds) ∧ lhs.KnownOperators ∧ rhs.KnownOperators
  | assign _ value => value.KnownOperators

def Stmt.KnownOperators (s : Stmt) : Prop := ∀ e ∈ s.expr?, e.KnownOperators

namespace Grammar

theorem Joins.level (hj : Joins n kinds tighter) : ∃ l : Level, l.kinds = kinds := by
  obtain ⟨-, -, l, hl, -⟩ := hj.levels_eq
  exact ⟨l, hl⟩

/-- By induction on the derivation: each level has its operators. -/
theorem Derives.knownOperators (h : Derives n ts e) : e.KnownOperators := by
  induction h with
  | equality _ ih | operand _ _ ih | primary _ ih | assign _ _ _ ih | group _ _ _ ih => exact ih
  | binary hj _ ho _ ihl ihr =>
    obtain ⟨l, rfl⟩ := hj.level
    exact ⟨⟨l, ho⟩, ihl, ihr⟩
  | unary ho _ ih => exact ⟨ho, ih⟩
  | number | string | «true» | «false» | nil | global => trivial

/-- Also with errors every statement that is kept is one of the grammar. -/
theorem knownOperators_of_mem_ofTokens (h : s ∈ (Parse.ofTokens ts).statements) : s.KnownOperators := by
  obtain ⟨us, -, hd, -⟩ := readable_of_mem_upTo h
  intro e he
  obtain ⟨vs, hv⟩ := hd.derives_expr he
  exact hv.knownOperators

end Grammar

def Fault.HasRule : Fault → Prop
  | unknownOperator _ => False
  | _ => True

namespace Operator

theorem hasRule_of_unary (h : op.kind = .bang ∨ op.kind = .minus) (hf : unary op v = .error f) :
    f.HasRule := by
  unfold unary at hf
  rcases h with h | h
  · simp only [h] at hf
    cases hf
  · simp only [h] at hf
    split at hf
    · cases hf
    · cases hf
      trivial

theorem hasRule_of_add (hf : add op lhs rhs = .error f) : f.HasRule := by
  unfold add at hf
  split at hf
  all_goals cases hf
  trivial

theorem hasRule_of_divide (hf : divide op x y = .error f) : f.HasRule := by
  unfold divide at hf
  split at hf
  · cases hf
    trivial
  · cases hf

/-- With operands of another type the operator is not looked at. -/
theorem hasRule_of_onNumbers {g : Float → Float → Except Fault Value}
    (hg : ∀ x y f, g x y = .error f → f.HasRule) (hf : onNumbers op lhs rhs g = .error f) : f.HasRule := by
  unfold onNumbers at hf
  split at hf
  · exact hg _ _ _ hf
  · cases hf
    trivial

theorem hasRule_of_arithmetic (h : op.kind ∈ [.minus, .star, .slash])
    (hf : arithmetic op lhs rhs = .error f) : f.HasRule := by
  refine hasRule_of_onNumbers (fun x y f hf => ?_) hf
  simp only [List.mem_cons, List.not_mem_nil, or_false] at h
  rcases h with h | h | h
  · rw [h] at hf
    cases hf
  · rw [h] at hf
    cases hf
  · rw [h] at hf
    exact hasRule_of_divide hf

theorem hasRule_of_ordering (h : op.kind ∈ Level.comparison.kinds)
    (hf : ordering op lhs rhs = .error f) : f.HasRule := by
  refine hasRule_of_onNumbers (fun x y f hf => ?_) hf
  simp only [Level.kinds, List.mem_cons, List.not_mem_nil, or_false] at h
  rcases h with h | h | h | h
  all_goals
    rw [h] at hf
    cases hf

/-- The operators of each level are sent to a table that has them. -/
theorem hasRule_of_binary (h : op.kind ∈ Level.kinds l) (hf : binary op lhs rhs = .error f) :
    f.HasRule := by
  cases l with
  | equality =>
    simp only [Level.kinds, List.mem_cons, List.not_mem_nil, or_false] at h
    rcases h with h | h
    all_goals
      simp only [binary, h] at hf
      cases hf
  | comparison =>
    have hsent : binary op lhs rhs = ordering op lhs rhs := by
      simp only [Level.kinds, List.mem_cons, List.not_mem_nil, or_false] at h
      rcases h with h | h | h | h <;> simp only [binary, h]
    rw [hsent] at hf
    exact hasRule_of_ordering h hf
  | term =>
    simp only [Level.kinds, List.mem_cons, List.not_mem_nil, or_false] at h
    rcases h with h | h
    · simp only [binary, h] at hf
      exact hasRule_of_arithmetic (by simp [h]) hf
    · simp only [binary, h] at hf
      exact hasRule_of_add hf
  | factor =>
    simp only [Level.kinds, List.mem_cons, List.not_mem_nil, or_false] at h
    rcases h with h | h
    all_goals
      simp only [binary, h] at hf
      exact hasRule_of_arithmetic (by simp [h]) hf

end Operator

theorem Expr.KnownOperators.of_child (e c : Expr) (hc : c ∈ e.children) (h : e.KnownOperators) :
    c.KnownOperators := by
  cases e with
  | scalar | global => cases hc
  | binary lhs op rhs =>
    simp only [Expr.children, List.mem_cons, List.not_mem_nil, or_false] at hc
    rcases hc with rfl | rfl
    · exact h.2.1
    · exact h.2.2
  | unary =>
    obtain rfl := List.mem_singleton.mp hc
    exact h.2
  | group | assign =>
    obtain rfl := List.mem_singleton.mp hc
    exact h

/-- The fault befell a part, and that has an operator of the grammar too. -/
theorem Expr.hasRule_of_eval {e : Expr} (h : e.KnownOperators) (hf : e.eval s = .error f s') :
    f.HasRule := by
  obtain ⟨p, hp, hfaults⟩ := faults_of_eval hf
  have hknown := forall_parts KnownOperators.of_child h p hp
  cases hfaults with
  | unary hu => exact Operator.hasRule_of_unary hknown.1 hu
  | binary hb =>
    obtain ⟨⟨l, ho⟩, -, -⟩ := hknown
    exact Operator.hasRule_of_binary ho hb
  | unread | unassigned => trivial

theorem Machine.hasRule_of_eval {m : Machine} (h : e.KnownOperators) (hf : m.eval e = .error f m') :
    f.HasRule := by
  unfold eval at hf
  split at hf
  · cases hf
  · next he =>
    cases hf
    exact e.hasRule_of_eval h he

theorem Machine.hasRule_of_print {m : Machine} (hf : (m.print keyword v).2 = some f) : f.HasRule := by
  obtain ⟨failure, -, rfl⟩ := Option.map_eq_some_iff.mp hf
  trivial

theorem Stmt.hasRule_of_exec {s : Stmt} (h : s.KnownOperators) (hf : (s.exec m).2 = some f) :
    f.HasRule := by
  cases s with
  | expr e =>
    simp only [exec] at hf
    split at hf
    · cases hf
    · next he =>
      cases hf
      exact Machine.hasRule_of_eval (h e rfl) he
  | print keyword e =>
    simp only [exec] at hf
    split at hf
    · exact Machine.hasRule_of_print hf
    · next he =>
      cases hf
      exact Machine.hasRule_of_eval (h e rfl) he
  | declare name initial =>
    cases initial with
    | none => cases hf
    | some e =>
      simp only [exec] at hf
      split at hf
      · cases hf
      · next he =>
        cases hf
        exact Machine.hasRule_of_eval (h e rfl) he

/-- Of known operators a run never comes to one without a rule. -/
theorem Machine.hasRule_of_exec {m : Machine} (h : ∀ s ∈ ss, s.KnownOperators)
    (hf : (m.exec ss).fault = some f) : f.HasRule := by
  induction ss generalizing m with
  | nil => cases hf
  | cons s others ih =>
    obtain ⟨hs, ho⟩ := List.forall_mem_cons.mp h
    rcases he : s.exec m with ⟨m', _ | g⟩
    · rw [exec_cons_of_ok he] at hf
      exact ih ho hf
    · rw [exec_cons_of_fault he] at hf
      cases hf
      exact s.hasRule_of_exec hs (congrArg Prod.snd he)

/-- Whatever tokens statements are parsed from, no run of them stops at an operator without a rule. -/
theorem exec_ne_unknownOperator (ts : List Token) (m : Machine) (op : Token) :
    (m.exec (Parse.ofTokens ts).statements).fault ≠ some (.unknownOperator op) := by
  intro hf
  have hknown : ∀ s ∈ (Parse.ofTokens ts).statements, s.KnownOperators :=
    fun s hs => Grammar.knownOperators_of_mem_ofTokens hs
  exact Machine.hasRule_of_exec hknown hf

end Lox
