import Lox.Proofs.Execution.Faults
import Lox.Proofs.Execution.Steps
namespace Lox

namespace Store

def Binds (s : Store) (name : String) : Prop := (s.get? name).isSome

theorem binds_of_get? {s : Store} (h : s.get? name = some v) : s.Binds name := by
  simp [Binds, h]

theorem not_binds_of_get? {s : Store} (h : s.get? name = none) : ¬s.Binds name := by
  simp [Binds, h]

theorem binds_define (s : Store) (name : String) (v : Value) (x : String) :
    (s.define name v).Binds x ↔ x = name ∨ s.Binds x := by
  unfold Binds
  rw [get?_define]
  split <;> simp [*]

theorem assign?_eq_some_iff {s : Store} :
    s.assign? name v = some s' ↔ s.Binds name ∧ s.define name v = s' := by
  simp [assign?, Binds]

theorem assign?_eq_none_iff {s : Store} : s.assign? name v = none ↔ ¬s.Binds name := by
  simp [assign?, Binds]

theorem binds_assign? {s : Store} (h : s.assign? name v = some s') (x : String) : s'.Binds x ↔ s.Binds x := by
  obtain ⟨hn, rfl⟩ := assign?_eq_some_iff.mp h
  rw [binds_define]
  constructor
  · rintro (rfl | hx)
    · exact hn
    · exact hx
  · exact .inr

end Store

namespace Expr

def names : Expr → List Token
  | scalar _ => []
  | group inner => inner.names
  | unary _ operand => operand.names
  | binary lhs _ rhs => lhs.names ++ rhs.names
  | global name => [name]
  | assign name value => name :: value.names

/-- Evaluation leaves the same names bound, also when it comes to a fault. -/
theorem binds_eval (e : Expr) (s : Store) (x : String) : (e.eval s).state.Binds x ↔ s.Binds x := by
  apply state_of_assignments (P := fun s' => s'.Binds x ↔ s.Binds x)
  · intro name _ s' v s'' ha hs
    exact (Store.binds_assign? ha x).trans hs
  · rfl

theorem binds_of_eval_ok {e : Expr} (h : e.eval s = .ok v s') (x : String) : s'.Binds x ↔ s.Binds x := by
  have hstate := e.binds_eval s x
  rw [h] at hstate
  exact hstate

theorem binds_of_eval_error {e : Expr} (h : e.eval s = .error f s') (x : String) : s'.Binds x ↔ s.Binds x := by
  have hstate := e.binds_eval s x
  rw [h] at hstate
  exact hstate

/-- A value takes every part of its expression, so it takes that every name in it is bound. -/
theorem binds_names_of_eval {e : Expr} (h : e.eval s = .ok v s') : ∀ t ∈ e.names, s.Binds t.lexeme := by
  induction e generalizing s v s' with
  | scalar value => simp [names]
  | group inner ih => exact ih h
  | unary op operand ih =>
    simp only [eval] at h
    split at h
    · next he => exact ih he
    · cases h
  | binary lhs op rhs ihl ihr =>
    simp only [eval] at h
    split at h
    · next hl =>
      split at h
      · next hr =>
        intro t ht
        rcases List.mem_append.mp ht with ht | ht
        · exact ihl hl t ht
        · exact (binds_of_eval_ok hl _).mp (ihr hr t ht)
      · cases h
    · cases h
  | global name =>
    simp only [eval] at h
    split at h
    · next hget => simpa [names] using Store.binds_of_get? hget
    · cases h
  | assign name value ih =>
    simp only [eval] at h
    split at h
    · next he =>
      split at h
      · next ha =>
        have hbound := (binds_of_eval_ok he _).mp (Store.assign?_eq_some_iff.mp ha).1
        exact List.forall_mem_cons.mpr ⟨hbound, ih he⟩
      · cases h
    · cases h

def parts : Expr → List Expr
  | scalar value => [scalar value]
  | group inner => group inner :: inner.parts
  | unary op operand => unary op operand :: operand.parts
  | binary lhs op rhs => binary lhs op rhs :: (lhs.parts ++ rhs.parts)
  | global name => [global name]
  | assign name value => assign name value :: value.parts

theorem mem_parts (e : Expr) : e ∈ e.parts := by
  cases e <;> simp [parts]

def children : Expr → List Expr
  | scalar _ | global _ => []
  | group inner => [inner]
  | unary _ operand => [operand]
  | binary lhs _ rhs => [lhs, rhs]
  | assign _ value => [value]

/-- What goes over from each expression to those right below it holds of all parts. -/
theorem forall_parts {P : Expr → Prop} (down : ∀ e c, c ∈ e.children → P e → P c) (h : P e) : ∀ p ∈ e.parts, P p := by
  induction e with
  | scalar | global => exact List.forall_mem_singleton.mpr h
  | group inner ih => exact List.forall_mem_cons.mpr ⟨h, ih (down _ _ List.mem_cons_self h)⟩
  | unary op operand ih => exact List.forall_mem_cons.mpr ⟨h, ih (down _ _ List.mem_cons_self h)⟩
  | binary lhs op rhs ihl ihr =>
    have hl := ihl (down _ _ List.mem_cons_self h)
    have hr := ihr (down _ _ (List.mem_cons_of_mem _ List.mem_cons_self) h)
    exact List.forall_mem_cons.mpr ⟨h, List.forall_mem_append.mpr ⟨hl, hr⟩⟩
  | assign name value ih => exact List.forall_mem_cons.mpr ⟨h, ih (down _ _ List.mem_cons_self h)⟩

theorem names_of_child {e : Expr} (h : c ∈ e.children) : c.names ⊆ e.names := by
  cases e with
  | scalar | global => cases h
  | binary lhs op rhs =>
    simp only [children, List.mem_cons, List.not_mem_nil, or_false] at h
    rcases h with rfl | rfl
    · exact List.subset_append_left _ _
    · exact List.subset_append_right _ _
  | group | unary =>
    obtain rfl := List.mem_singleton.mp h
    exact List.Subset.refl _
  | assign =>
    obtain rfl := List.mem_singleton.mp h
    exact List.subset_cons_self _ _

theorem names_of_part {e : Expr} (h : p ∈ e.parts) : p.names ⊆ e.names := by
  refine forall_parts (P := fun p => p.names ⊆ e.names) ?_ (List.Subset.refl _) p h
  intro e' c hc hsub
  exact List.Subset.trans (names_of_child hc) hsub

/-- What goes wrong at an expression itself, with all within it evaluated. -/
inductive Faults (s : Store) : Expr → Fault → Prop
  | unary (h : Operator.unary op v = .error f) : Faults s (unary op operand) f
  | binary (h : Operator.binary op l r = .error f) : Faults s (binary lhs op rhs) f
  | unread (h : ¬s.Binds name.lexeme) : Faults s (global name) (.undefinedVariable name)
  | unassigned (h : ¬s.Binds name.lexeme) : Faults s (assign name value) (.undefinedVariable name)

/-- What goes wrong at a part depends on which names are bound, not on their values. -/
theorem Faults.of_binds {s s' : Store} (h : Faults s' p f) (hb : ∀ x, s'.Binds x ↔ s.Binds x) : Faults s p f := by
  cases h with
  | unary h => exact .unary h
  | binary h => exact .binary h
  | unread h => exact .unread fun hs => h ((hb _).mpr hs)
  | unassigned h => exact .unassigned fun hs => h ((hb _).mpr hs)

/-- What stops an evaluation went wrong at one part. Evaluation up to there has not bound a name. -/
theorem faults_of_eval {e : Expr} (h : e.eval s = .error f s') : ∃ p ∈ e.parts, p.Faults s f := by
  induction e generalizing s s' with
  | scalar value => cases h
  | group inner ih =>
    obtain ⟨p, hp, hf⟩ := ih h
    exact ⟨p, List.mem_cons_of_mem _ hp, hf⟩
  | unary op operand ih =>
    simp only [eval] at h
    split at h
    · exact ⟨_, mem_parts _, .unary (Effect.ofExcept_eq_error h)⟩
    · next he =>
      cases h
      obtain ⟨p, hp, hf⟩ := ih he
      exact ⟨p, List.mem_cons_of_mem _ hp, hf⟩
  | binary lhs op rhs ihl ihr =>
    simp only [eval] at h
    split at h
    · next hl =>
      split at h
      · exact ⟨_, mem_parts _, .binary (Effect.ofExcept_eq_error h)⟩
      · next hr =>
        cases h
        obtain ⟨p, hp, hf⟩ := ihr hr
        exact ⟨p, List.mem_cons_of_mem _ (List.mem_append_right _ hp), hf.of_binds (binds_of_eval_ok hl)⟩
    · next hl =>
      cases h
      obtain ⟨p, hp, hf⟩ := ihl hl
      exact ⟨p, List.mem_cons_of_mem _ (List.mem_append_left _ hp), hf⟩
  | global name =>
    simp only [eval] at h
    split at h
    · cases h
    · next hget =>
      cases h
      exact ⟨_, mem_parts _, .unread (Store.not_binds_of_get? hget)⟩
  | assign name value ih =>
    simp only [eval] at h
    split at h
    · next he =>
      split at h
      · cases h
      · next ha =>
        cases h
        have hu := Store.assign?_eq_none_iff.mp ha
        rw [binds_of_eval_ok he] at hu
        exact ⟨_, mem_parts _, .unassigned hu⟩
    · next he =>
      cases h
      obtain ⟨p, hp, hf⟩ := ih he
      exact ⟨p, List.mem_cons_of_mem _ hp, hf⟩

/-- A name is undefined where it is met without a value. -/
theorem unbound_of_eval {e : Expr} (h : e.eval s = .error (.undefinedVariable t) s') :
    t ∈ e.names ∧ ¬s.Binds t.lexeme := by
  obtain ⟨p, hp, hf⟩ := faults_of_eval h
  cases hf with
  | unary hf => cases Operator.unaryFault_of_unary hf
  | binary hf => cases Operator.binaryFault_of_binary hf
  | unread hu => exact ⟨names_of_part hp (List.mem_singleton_self _), hu⟩
  | unassigned hu => exact ⟨names_of_part hp List.mem_cons_self, hu⟩

end Expr

def Stmt.Declares (x : String) : Stmt → Prop
  | declare name _ => x = name.lexeme
  | _ => False

namespace Stmt

/-- A statement that comes to its end binds the name that it declares, and nothing else. -/
theorem binds_exec {s : Stmt} (h : s.exec m = (m', none)) (x : String) :
    m'.store.Binds x ↔ m.store.Binds x ∨ s.Declares x := by
  obtain ⟨run, hdoes, hrun⟩ := does_of_exec h
  have hstore : (run m.console).1.store = m'.store := by rw [hrun]
  rw [← hstore]
  cases hdoes with
  | evaluated he | printed he => simpa [Declares] using Expr.binds_of_eval_ok he x
  | bare =>
    rw [Store.binds_define, or_comm]
    rfl
  | declared he =>
    rw [Store.binds_define, or_comm, Expr.binds_of_eval_ok he]
    rfl
  | faulted => cases hrun

/-- A statement that comes to a fault binds nothing. -/
theorem binds_of_fault {s : Stmt} (h : s.exec m = (m', some f)) (x : String) :
    m'.store.Binds x ↔ m.store.Binds x := by
  obtain ⟨run, hdoes, hrun⟩ := does_of_exec h
  have hstore : (run m.console).1.store = m'.store := by rw [hrun]
  rw [← hstore]
  cases hdoes with
  | evaluated | bare | declared => cases hrun
  | printed he => exact Expr.binds_of_eval_ok he x
  | faulted _ he => exact Expr.binds_of_eval_error he x

theorem binds_names_of_exec {s : Stmt} (h : s.exec m = (m', none)) (he : e ∈ s.expr?) :
    ∀ t ∈ e.names, m.store.Binds t.lexeme := by
  obtain ⟨run, hdoes, hrun⟩ := does_of_exec h
  cases hdoes with
  | evaluated hv | printed hv | declared hv =>
    cases he
    exact Expr.binds_names_of_eval hv
  | bare => cases he
  | faulted => cases hrun

theorem unbound_of_exec {s : Stmt} (h : s.exec m = (m', some (.undefinedVariable t))) :
    ∃ e ∈ s.expr?, t ∈ e.names ∧ ¬m.store.Binds t.lexeme := by
  obtain ⟨run, hdoes, hrun⟩ := does_of_exec h
  cases hdoes with
  | evaluated | bare | declared => cases hrun
  | printed =>
    -- What goes wrong behind the evaluation is that the console is full.
    obtain ⟨why, -, hf⟩ := Option.map_eq_some_iff.mp (congrArg Prod.snd hrun)
    cases hf
  | faulted hs he =>
    cases hrun
    exact ⟨_, hs, Expr.unbound_of_eval he⟩

end Stmt

/-- Statements that come to their end have bound what they declare. -/
theorem Machine.binds_exec {m : Machine} (h : (m.exec ss).fault = none) (x : String) :
    (m.exec ss).machine.store.Binds x ↔ m.store.Binds x ∨ ∃ s ∈ ss, s.Declares x := by
  induction ss generalizing m with
  | nil => simp [exec]
  | cons s others ih =>
    rcases he : s.exec m with ⟨m', _ | f⟩
    · rw [exec_cons_of_ok he] at h ⊢
      rw [ih h, Stmt.binds_exec he, or_assoc]
      simp
    · rw [exec_cons_of_fault he] at h
      cases h

/-- Every name in a statement has a value from the start, or a statement before it declares the name. -/
def DeclaredBeforeUse (store : Store) (ss : List Stmt) : Prop :=
  ∀ before s behind, ss = before ++ s :: behind → ∀ e ∈ s.expr?, ∀ t ∈ e.names,
    store.Binds t.lexeme ∨ ∃ d ∈ before, d.Declares t.lexeme

namespace Machine

/-- A run that comes to its end has met no name without a value. -/
theorem declaredBeforeUse_of_exec {m : Machine} (h : (m.exec ss).fault = none) :
    DeclaredBeforeUse m.store ss := by
  rintro before s behind rfl e he t ht
  have hbefore := fault_of_append h
  rw [exec_append_of_ok hbefore] at h
  rcases hs : s.exec (m.exec before).machine with ⟨m', _ | f⟩
  · rw [← binds_exec hbefore]
    exact Stmt.binds_names_of_exec hs he t ht
  · rw [exec_cons_of_fault hs] at h
    cases h

/-- Where a name is undefined, it has no value before the statement and none behind it. -/
theorem unbound_of_exec {m : Machine} (h : (m.exec ss).fault = some (.undefinedVariable t)) :
    ∃ before s behind e, ss = before ++ s :: behind ∧ (m.exec before).fault = none ∧
      (m.exec ss).begun = before ++ [s] ∧ e ∈ s.expr? ∧ t ∈ e.names ∧
      ¬(m.exec before).machine.store.Binds t.lexeme ∧ ¬(m.exec ss).machine.store.Binds t.lexeme := by
  obtain ⟨before, s, behind, hss, hbefore, hs, hbegun⟩ := exists_of_fault h
  obtain ⟨e, he, ht, hu⟩ := Stmt.unbound_of_exec hs
  have hafter : ¬(m.exec ss).machine.store.Binds t.lexeme := by
    rw [Stmt.binds_of_fault hs]
    exact hu
  exact ⟨before, s, behind, e, hss, hbefore, hbegun, he, ht, hu, hafter⟩

/-- With every name declared before its use no name is undefined, and without that a run does not come to
its end. An undefined name is one of the statement at fault, which leaves it as unbound as it found it. -/
theorem exec_declared (m : Machine) (ss : List Stmt) :
    (DeclaredBeforeUse m.store ss → ∀ t, (m.exec ss).fault ≠ some (.undefinedVariable t)) ∧
    ((m.exec ss).fault = none → DeclaredBeforeUse m.store ss) ∧
    ∀ t, (m.exec ss).fault = some (.undefinedVariable t) →
      ∃ before s behind e, ss = before ++ s :: behind ∧ (m.exec before).fault = none ∧
        (m.exec ss).begun = before ++ [s] ∧ e ∈ s.expr? ∧ t ∈ e.names ∧
        ¬(m.exec before).machine.store.Binds t.lexeme ∧ ¬(m.exec ss).machine.store.Binds t.lexeme := by
  refine ⟨?_, declaredBeforeUse_of_exec, fun t => unbound_of_exec⟩
  intro hdeclared t h
  obtain ⟨before, s, behind, e, hss, hbefore, -, he, ht, hu, -⟩ := unbound_of_exec h
  rw [binds_exec hbefore] at hu
  exact hu (hdeclared before s behind hss e he t ht)

/-- A name is not declared yet in its own declaration: `var x = x;`. -/
def selfInitial : List Stmt :=
  [.declare ⟨.identifier, "x", some (.text "x"), 1⟩ (some (.global ⟨.identifier, "x", some (.text "x"), 1⟩))]

def bareFirst : List Stmt := .declare ⟨.identifier, "x", some (.text "x"), 1⟩ none :: selfInitial

/-- The initial value is evaluated before the name is bound. -/
theorem exec_selfInitial :
    (fresh.exec selfInitial).fault = some (.undefinedVariable ⟨.identifier, "x", some (.text "x"), 1⟩) ∧
    ¬(fresh.exec selfInitial).machine.store.Binds "x" ∧ ¬DeclaredBeforeUse fresh.store selfInitial ∧
    (fresh.exec bareFirst).fault = none ∧ DeclaredBeforeUse fresh.store bareFirst ∧
    ∀ t, (fresh.exec bareFirst).fault ≠ some (.undefinedVariable t) := by
  have hfault : (fresh.exec selfInitial).fault =
      some (.undefinedVariable ⟨.identifier, "x", some (.text "x"), 1⟩) := rfl
  have hnone : (fresh.exec bareFirst).fault = none := rfl
  obtain ⟨hself, -, hundefined⟩ := exec_declared fresh selfInitial
  obtain ⟨hbare, hended, -⟩ := exec_declared fresh bareFirst
  obtain ⟨before, s, behind, e, -, -, -, -, -, -, hunbound⟩ := hundefined _ hfault
  have hdeclared := hended hnone
  refine ⟨hfault, hunbound, ?_, hnone, hdeclared, hbare hdeclared⟩
  intro h
  exact hself h _ hfault

end Machine

end Lox
