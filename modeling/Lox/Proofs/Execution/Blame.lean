import Lox.Proofs.Execution.Operators
import Lox.Proofs.Grammar.Stored
namespace Lox

namespace Expr

/-- What can befall an expression when those within it have their values. -/
inductive Incurs : Expr → Fault → Prop
  | notNumber (hk : op.kind = .minus) : Incurs (unary op operand) (.notNumber op)
  | notNumbers (hk : op.kind ∈ [.minus, .star, .slash, .greater, .greaterEqual, .less, .lessEqual]) :
      Incurs (binary lhs op rhs) (.notNumbers op l r)
  | notAddable (hk : op.kind = .plus) : Incurs (binary lhs op rhs) (.notAddable op l r)
  | divisionByZero (hk : op.kind = .slash) : Incurs (binary lhs op rhs) (.divisionByZero op)
  | unread : Incurs (global name) (.undefinedVariable name)
  | unassigned : Incurs (assign name value) (.undefinedVariable name)

theorem tokens_of_child {e : Expr} (h : c ∈ e.children) : c.tokens ⊆ e.tokens := by
  cases e with
  | scalar | global => cases h
  | binary lhs op rhs =>
    simp only [children, List.mem_cons, List.not_mem_nil, or_false] at h
    rcases h with rfl | rfl
    · exact List.subset_append_left _ _
    · exact List.Subset.trans (List.subset_cons_self op _) (List.subset_append_right _ _)
  | group =>
    obtain rfl := List.mem_singleton.mp h
    exact List.Subset.refl _
  | unary | assign =>
    obtain rfl := List.mem_singleton.mp h
    exact List.subset_cons_self _ _

theorem tokens_of_part {e : Expr} (h : p ∈ e.parts) : p.tokens ⊆ e.tokens := by
  refine forall_parts (P := fun p => p.tokens ⊆ e.tokens) ?_ (List.Subset.refl _) p h
  intro e' c hc hsub
  exact List.Subset.trans (tokens_of_child hc) hsub

theorem Incurs.token_mem (h : Incurs p f) : f.token ∈ p.tokens := by
  cases h <;> simp [Fault.token, tokens]

/-- With the grammar's operators only, what goes wrong is among what can befall the expression. -/
theorem Incurs.of_faults (h : Faults s p f) (hr : f.HasRule) : Incurs p f := by
  cases h with
  | unary h =>
    cases Operator.unaryFault_of_unary h with
    | notNumber hk => exact .notNumber hk
    | unknown => cases hr
  | binary h =>
    cases Operator.binaryFault_of_binary h with
    | notAddable hk => exact .notAddable hk
    | notNumbers hk => exact .notNumbers hk
    | divisionByZero hk => exact .divisionByZero hk
    | unknown => cases hr
  | unread => exact .unread
  | unassigned => exact .unassigned

end Expr

namespace Stmt

inductive Incurs : Stmt → Fault → Prop
  | evaluated (he : e ∈ Stmt.expr? s) (hp : p ∈ e.parts) (h : p.Incurs f) : Incurs s f
  | unwritten : Incurs (.print keyword e) (.writeFailed keyword why)

theorem Incurs.token_mem (h : Incurs s f) : f.token ∈ s.tokens := by
  cases h with
  | evaluated he hp h => exact tokens_of_expr he (Expr.tokens_of_part hp h.token_mem)
  | unwritten => exact List.mem_cons_self

/-- What stops a statement is in its expression, or else its line could not be written. -/
theorem incurs_of_exec {s : Stmt} (h : s.exec m = (m', some f)) (hr : f.HasRule) : s.Incurs f := by
  obtain ⟨run, hdoes, hrun⟩ := does_of_exec h
  cases hdoes with
  | evaluated | bare | declared => cases hrun
  | printed =>
    obtain ⟨failure, -, hf⟩ := Option.map_eq_some_iff.mp (congrArg Prod.snd hrun)
    cases hf
    exact .unwritten
  | faulted hs he =>
    cases hrun
    obtain ⟨p, hp, hf⟩ := Expr.faults_of_eval he
    exact .evaluated hs hp (.of_faults hf hr)

end Stmt

def Fault.kinds : Fault → List Kind
  | notNumber _ => [.minus]
  | notNumbers _ _ _ => [.minus, .star, .slash, .greater, .greaterEqual, .less, .lessEqual]
  | notAddable _ _ _ => [.plus]
  | divisionByZero _ => [.slash]
  | undefinedVariable _ => [.identifier]
  | unknownOperator _ => []
  | writeFailed _ _ => [.kwPrint]

namespace Grammar

theorem Derives.kind_of_incurs (h : Derives n us e) (hp : p ∈ e.parts) (hi : p.Incurs f) :
    f.token.kind ∈ f.kinds := by
  induction h with
  | equality _ ih | operand _ _ ih | primary _ ih => exact ih hp
  | assign hn _ _ ih =>
    rcases List.mem_cons.mp hp with rfl | hp
    · cases hi
      exact List.mem_singleton.mpr hn
    · exact ih hp
  | binary _ _ _ _ ihl ihr =>
    rcases List.mem_cons.mp hp with rfl | hp
    · cases hi with
      | notNumbers hk => exact hk
      | notAddable hk | divisionByZero hk => exact List.mem_singleton.mpr hk
    rcases List.mem_append.mp hp with hp | hp
    · exact ihl hp
    · exact ihr hp
  | unary _ _ ih =>
    rcases List.mem_cons.mp hp with rfl | hp
    · cases hi with
      | notNumber hk => exact List.mem_singleton.mpr hk
    · exact ih hp
  | group _ _ _ ih =>
    rcases List.mem_cons.mp hp with rfl | hp
    · cases hi
    · exact ih hp
  | global hk =>
    obtain rfl := List.mem_singleton.mp hp
    cases hi
    exact List.mem_singleton.mpr hk
  | number | string | «true» | «false» | nil =>
    obtain rfl := List.mem_singleton.mp hp
    cases hi

/-- A fault is about an operator of the right kind, a name or a print. -/
theorem Statement.kind_of_incurs (h : Statement us s) (hi : s.Incurs f) : f.token.kind ∈ f.kinds := by
  cases hi with
  | evaluated he hp hi =>
    obtain ⟨vs, hd⟩ := h.derives_expr he
    exact hd.kind_of_incurs hp hi
  | unwritten =>
    cases h with
    | print hk => exact List.mem_singleton.mpr hk

end Grammar

/-- A run of parsed statements stops at one that can come to the fault, and the fault is about a token kept in it. -/
theorem Machine.incurs_of_exec {m : Machine} (h : (m.exec (Parse.ofTokens ts).statements).fault = some f) :
    ∃ before s behind, (Parse.ofTokens ts).statements = before ++ s :: behind ∧ (m.exec before).fault = none ∧
      s.exec (m.exec before).machine = ((m.exec (Parse.ofTokens ts).statements).machine, some f) ∧
      (m.exec (Parse.ofTokens ts).statements).begun = before ++ [s] ∧
      s.Incurs f ∧ f.token ∈ s.tokens ∧ f.token.kind ∈ f.kinds := by
  have hr : f.HasRule := hasRule_of_exec (fun s hs => Grammar.knownOperators_of_mem_ofTokens hs) h
  obtain ⟨before, s, behind, hss, hbefore, hs, hbegun⟩ := exists_of_fault h
  have hi := Stmt.incurs_of_exec hs hr
  have hmem : s ∈ (Parse.ofTokens ts).statements := by simp [hss]
  obtain ⟨us, -, hd, -⟩ := Grammar.readable_of_mem_upTo hmem
  exact ⟨before, s, behind, hss, hbefore, hs, hbegun, hi, hi.token_mem, hd.kind_of_incurs hi⟩

end Lox
