import Lox.Proofs.Execution.Mentioned
namespace Lox

def Stmt.Assigns (x : String) (s : Stmt) : Prop := ∃ e ∈ s.expr?, ∃ t ∈ e.targets, t.lexeme = x

theorem Stmt.declares_or_assigns {s : Stmt} (h : t ∈ s.targets) : s.Declares t.lexeme ∨ s.Assigns t.lexeme := by
  cases s with
  | expr e | print _ e => exact .inr ⟨e, rfl, t, h, rfl⟩
  | declare name initial =>
    cases initial with
    | none =>
      obtain rfl := List.mem_singleton.mp h
      exact .inl rfl
    | some e =>
      rcases List.mem_cons.mp h with rfl | h
      · exact .inl rfl
      · exact .inr ⟨e, rfl, t, h, rfl⟩

namespace Expr

/-- The right side of an assignment is evaluated first, and what it did stays done when the name turns out unbound. -/
theorem eval_assign_of_not_binds {s : Store} (h : ¬s.Binds name.lexeme) (value : Expr) :
    ∃ f, (assign name value).eval s = .error f (value.eval s).state ∧
      ∀ v s', value.eval s = .ok v s' → f = .undefinedVariable name := by
  cases he : value.eval s with
  | error f s' =>
    refine ⟨f, ?_, ?_⟩
    · simp only [eval, he, Effect.state]
    · intro v s'' hv
      cases hv
  | ok v s' =>
    have hu : s'.assign? name.lexeme v = none := by
      rw [Store.assign?_eq_none_iff, binds_of_eval_ok he]
      exact h
    refine ⟨.undefinedVariable name, ?_, ?_⟩
    · simp only [eval, he, hu, Effect.state]
    · intro _ _ _
      rfl

end Expr

namespace Machine

/-- Evaluation prints nothing. -/
theorem console_eval (m : Machine) (e : Expr) : (m.eval e).state.console = m.console := by
  unfold eval
  split <;> rfl

theorem store_eval (m : Machine) (e : Expr) : (m.eval e).state.store = (e.eval m.store).state := by
  unfold eval
  split <;> simp only [Effect.state, *]

end Machine

/-- The statements that came to their end: all that were begun but one at fault. -/
def Execution.completed (e : Execution) : List Stmt :=
  if e.fault.isSome then e.begun.dropLast else e.begun

namespace Machine

theorem completed_of_ok {m : Machine} (h : (m.exec ss).fault = none) : (m.exec ss).completed = ss := by
  rw [Execution.completed, h, begun_exec h]
  rfl

/-- The statement at fault stands right behind those that came to their end. -/
theorem completed_of_fault {m : Machine} (h : (m.exec ss).fault = some f) : ∃ stmt behind,
    ss = (m.exec ss).completed ++ stmt :: behind ∧ (m.exec (m.exec ss).completed).fault = none ∧
      stmt.exec (m.exec (m.exec ss).completed).machine = ((m.exec ss).machine, some f) := by
  obtain ⟨before, stmt, behind, hss, hbefore, hstmt, hbegun⟩ := exists_of_fault h
  have hcompleted : (m.exec ss).completed = before := by
    rw [Execution.completed, h, hbegun]
    simp
  rw [hcompleted]
  exact ⟨stmt, behind, hss, hbefore, hstmt⟩

theorem fault_completed (m : Machine) (ss : List Stmt) : (m.exec (m.exec ss).completed).fault = none := by
  cases h : (m.exec ss).fault with
  | none => rwa [completed_of_ok h]
  | some f =>
    obtain ⟨_, _, -, hbefore, -⟩ := completed_of_fault h
    exact hbefore

/-- A statement at fault adds no name to those that the statements before it leave. -/
theorem binds_completed (m : Machine) (ss : List Stmt) (x : String) :
    (m.exec ss).machine.store.Binds x ↔ (m.exec (m.exec ss).completed).machine.store.Binds x := by
  cases h : (m.exec ss).fault with
  | none => rw [completed_of_ok h]
  | some f =>
    obtain ⟨_, _, -, -, hstmt⟩ := completed_of_fault h
    exact Stmt.binds_of_fault hstmt x

/-- Names are bound from the start or by a declaration that came to its end, and by nothing else. -/
theorem binds_exec_iff (m : Machine) (ss : List Stmt) (x : String) :
    (m.exec ss).machine.store.Binds x ↔ m.store.Binds x ∨ ∃ s ∈ (m.exec ss).completed, s.Declares x := by
  rw [binds_completed, binds_exec (fault_completed m ss)]

theorem binds_mono {m : Machine} (h : before <+: ss) (hb : (m.exec before).machine.store.Binds x) :
    (m.exec ss).machine.store.Binds x := by
  obtain ⟨behind, rfl⟩ := h
  cases hf : (m.exec before).fault with
  | some f => rwa [exec_append_of_fault hf]
  | none =>
    rw [exec_append_of_ok hf]
    exact (binds_exec_iff _ behind x).mpr (.inl hb)

/-- Whatever becomes of a run, it leaves alone what it does not name. -/
theorem get?_of_untouched {ss : List Stmt} (h : ∀ s ∈ ss, ¬s.Declares x ∧ ¬s.Assigns x) (m : Machine) :
    (m.exec ss).machine.store.get? x = m.store.get? x := by
  have hkeeps : m.store.AgreeOn (· = x) (m.exec ss).machine.store := by
    apply exec_keeps
    rintro s hs t ht rfl
    rcases Stmt.declares_or_assigns ht with hd | ha
    · exact (h s hs).1 hd
    · exact (h s hs).2 ha
  exact (hkeeps x rfl).symm

/-- What a run does to the variables, whether it comes to its end or to a fault. It binds the names of the declarations
that came to their end, which are those before the statement at fault, and unbinds none. Names that it neither declares
nor assigns to keep their values. An assignment to an unbound name leaves what its right side left, and no expression
binds a name or prints. -/
theorem exec_bindings (m : Machine) (ss : List Stmt) :
    ((m.exec ss).fault = none → (m.exec ss).completed = ss) ∧
    (∀ f, (m.exec ss).fault = some f → ∃ stmt behind, ss = (m.exec ss).completed ++ stmt :: behind ∧
      (m.exec (m.exec ss).completed).fault = none ∧
      stmt.exec (m.exec (m.exec ss).completed).machine = ((m.exec ss).machine, some f)) ∧
    (∀ x, (m.exec ss).machine.store.Binds x ↔
      m.store.Binds x ∨ ∃ s ∈ (m.exec ss).completed, s.Declares x) ∧
    (∀ before x, before <+: ss → (m.exec before).machine.store.Binds x → (m.exec ss).machine.store.Binds x) ∧
    (∀ x, (∀ s ∈ ss, ¬s.Declares x ∧ ¬s.Assigns x) →
      (m.exec ss).machine.store.get? x = m.store.get? x) ∧
    (∀ s name value, ¬s.Binds name.lexeme → ∃ f, (Expr.assign name value).eval s = .error f (value.eval s).state ∧
      ∀ v s', value.eval s = .ok v s' → f = .undefinedVariable name) ∧
    ∀ (m : Machine) e, (m.eval e).state.console = m.console ∧
      ∀ x, (m.eval e).state.store.Binds x ↔ m.store.Binds x := by
  refine ⟨completed_of_ok, ?_, binds_exec_iff m ss, ?_, ?_, ?_, ?_⟩
  · intro f hf
    exact completed_of_fault hf
  · intro before x hprefix hb
    exact binds_mono hprefix hb
  · intro x hx
    exact get?_of_untouched hx m
  · intro s name value hu
    exact Expr.eval_assign_of_not_binds hu value
  · intro m e
    refine ⟨m.console_eval e, ?_⟩
    intro x
    rw [store_eval]
    exact e.binds_eval m.store x

/-- `var a; var d = (a = true) + (e = nil);`, which stops in the second declaration. -/
def faultInDeclaration : List Stmt :=
  [.declare ⟨.identifier, "a", some (.text "a"), 1⟩ none,
    .declare ⟨.identifier, "d", some (.text "d"), 1⟩
      (some (.binary (.group (.assign ⟨.identifier, "a", some (.text "a"), 1⟩ (.scalar (.bool true))))
        ⟨.plus, "+", none, 1⟩ (.group (.assign ⟨.identifier, "e", some (.text "e"), 1⟩ (.scalar .nil)))))]

def machineWithC : Machine := ⟨⟨[("c", .text "x")]⟩, .unlimited⟩

/-- The declaration at fault binds nothing, but the assignment in it stays. -/
theorem exec_faultInDeclaration :
    (machineWithC.exec faultInDeclaration).fault =
      some (.undefinedVariable ⟨.identifier, "e", some (.text "e"), 1⟩) ∧
    (machineWithC.exec faultInDeclaration).completed = faultInDeclaration.take 1 ∧
    (∀ x, (machineWithC.exec faultInDeclaration).machine.store.Binds x ↔ x = "c" ∨ x = "a") ∧
    (machineWithC.exec faultInDeclaration).machine.store.get? "a" = some (.bool true) ∧
    (machineWithC.exec faultInDeclaration).machine.store.get? "c" = machineWithC.store.get? "c" := by
  have hfault : (machineWithC.exec faultInDeclaration).fault =
      some (.undefinedVariable ⟨.identifier, "e", some (.text "e"), 1⟩) := rfl
  have hcompleted : (machineWithC.exec faultInDeclaration).completed = faultInDeclaration.take 1 := rfl
  obtain ⟨-, -, hbinds, -, hkeeps, -, -⟩ := exec_bindings machineWithC faultInDeclaration
  have hstart (x : String) : machineWithC.store.Binds x ↔ x = "c" := by
    by_cases hx : x = "c" <;> simp [Store.Binds, Store.get?, machineWithC, List.lookup_cons, hx, beq_false_of_ne]
  have huntouched : ∀ s ∈ faultInDeclaration, ¬s.Declares "c" ∧ ¬s.Assigns "c" := by
    simp [faultInDeclaration, Stmt.Declares, Stmt.Assigns, Stmt.expr?, Expr.targets]
  refine ⟨hfault, hcompleted, fun x => ?_, rfl, hkeeps "c" huntouched⟩
  rw [hbinds, hcompleted, hstart]
  simp [faultInDeclaration, Stmt.Declares]

end Machine

end Lox
