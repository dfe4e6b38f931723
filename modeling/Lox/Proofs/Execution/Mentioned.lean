import Lox.Proofs.Execution.Definedness
namespace Lox

/-- The same value, or none, for each of these names. -/
def Store.AgreeOn (X : String → Prop) (s s' : Store) : Prop := ∀ x, X x → s.get? x = s'.get? x

namespace Store.AgreeOn

theorem refl (X : String → Prop) (s : Store) : s.AgreeOn X s := by
  intro x _
  rfl

theorem trans {s s' s'' : Store} (h : s.AgreeOn X s') (h' : s'.AgreeOn X s'') : s.AgreeOn X s'' := by
  intro x hx
  exact (h x hx).trans (h' x hx)

/-- A new value is the same on both sides, and so is what is left alone. -/
theorem define {s s' : Store} (h : s.AgreeOn X s') (name : String) (v : Value) :
    (s.define name v).AgreeOn X (s'.define name v) := by
  intro x hx
  rw [get?_define, get?_define, h x hx]

/-- A name that does not count may be bound to anything. -/
theorem define_other {s s' : Store} (h : s.AgreeOn X s') (hn : ¬X name) (v : Value) :
    s.AgreeOn X (s'.define name v) := by
  intro x hx
  have hother : x ≠ name := by
    rintro rfl
    exact hn hx
  rw [get?_define, if_neg hother]
  exact h x hx

end Store.AgreeOn

inductive Effect.AgreeOn (X : String → Prop) : Effect Store → Effect Store → Prop
  | ok (h : s.AgreeOn X s') : AgreeOn X (.ok v s) (.ok v s')
  | error (h : s.AgreeOn X s') : AgreeOn X (.error f s) (.error f s')

theorem Effect.AgreeOn.ofExcept {s s' : Store} (h : s.AgreeOn X s') (r : Except Fault Value) :
    Effect.AgreeOn X (.ofExcept s r) (.ofExcept s' r) := by
  cases r with
  | ok => exact .ok h
  | error => exact .error h

namespace Expr

theorem targets_subset_names (e : Expr) : e.targets ⊆ e.names := by
  induction e with
  | scalar | global => exact List.nil_subset _
  | group _ ih | unary _ _ ih => exact ih
  | binary _ _ _ ihl ihr =>
    intro t ht
    rcases List.mem_append.mp ht with ht | ht
    · exact List.mem_append_left _ (ihl ht)
    · exact List.mem_append_right _ (ihr ht)
  | assign name _ ih => exact List.cons_subset_cons name ih

/-- Operands on the right are evaluated where those on the left leave off, also with assignments in them, and the two
stores still agree there. -/
theorem eval_agree {e : Expr} (hX : ∀ t ∈ e.names, X t.lexeme) (h : s.AgreeOn X s') :
    Effect.AgreeOn X (e.eval s) (e.eval s') := by
  induction e generalizing s s' with
  | scalar value => exact .ok h
  | group inner ih => exact ih hX h
  | unary op operand ih =>
    have hoperand := ih hX h
    simp only [eval]
    generalize operand.eval s = r, operand.eval s' = r' at hoperand
    cases hoperand with
    | ok h => exact .ofExcept h _
    | error h => exact .error h
  | binary lhs op rhs ihl ihr =>
    have hlhs := ihl (fun t ht => hX t (List.mem_append_left _ ht)) h
    simp only [eval]
    generalize lhs.eval s = r, lhs.eval s' = r' at hlhs
    cases hlhs with
    | error h => exact .error h
    | @ok l s s' h =>
      -- What the left operand assigned, it assigned in both stores.
      have hrhs := ihr (fun t ht => hX t (List.mem_append_right _ ht)) h
      dsimp only
      generalize rhs.eval s = r, rhs.eval s' = r' at hrhs
      cases hrhs with
      | ok h => exact .ofExcept h _
      | error h => exact .error h
  | global name =>
    have hget := h name.lexeme (hX name (List.mem_singleton_self _))
    simp only [eval, hget]
    split
    · exact .ok h
    · exact .error h
  | assign name value ih =>
    obtain ⟨hname, hvalue⟩ := List.forall_mem_cons.mp hX
    have heval := ih hvalue h
    simp only [eval]
    generalize value.eval s = r, value.eval s' = r' at heval
    cases heval with
    | error h => exact .error h
    | @ok v s s' h =>
      have hget := h name.lexeme hname
      simp only [Store.assign?, hget]
      by_cases hbound : (s'.get? name.lexeme).isSome
      · simp only [if_pos hbound]
        exact .ok (h.define name.lexeme v)
      · simp only [if_neg hbound]
        exact .error h

/-- Only what is assigned to changes, whatever comes of the evaluation. -/
theorem eval_keeps {e : Expr} (hX : ∀ t ∈ e.targets, ¬X t.lexeme) (s : Store) :
    s.AgreeOn X (e.eval s).state := by
  apply state_of_assignments (P := fun s' => s.AgreeOn X s')
  · intro name hn s' v s'' ha hs
    obtain ⟨-, rfl⟩ := Store.assign?_eq_some_iff.mp ha
    exact hs.define_other (hX name hn) v
  · exact .refl X s

theorem keeps_of_eval_ok {e : Expr} (h : e.eval s = .ok v s') (hX : ∀ t ∈ e.targets, ¬X t.lexeme) :
    s.AgreeOn X s' := by
  have hkeeps := eval_keeps hX s
  rw [h] at hkeeps
  exact hkeeps

theorem keeps_of_eval_error {e : Expr} (h : e.eval s = .error f s') (hX : ∀ t ∈ e.targets, ¬X t.lexeme) :
    s.AgreeOn X s' := by
  have hkeeps := eval_keeps hX s
  rw [h] at hkeeps
  exact hkeeps

end Expr

structure Machine.AgreeOn (X : String → Prop) (m m' : Machine) : Prop where
  store : m.store.AgreeOn X m'.store
  console : m.console = m'.console

namespace Stmt

def names : Stmt → List Token
  | expr e | print _ e => e.names
  | declare name none => [name]
  | declare name (some e) => name :: e.names

def targets : Stmt → List Token
  | expr e | print _ e => e.targets
  | declare name none => [name]
  | declare name (some e) => name :: e.targets

theorem targets_subset_names (s : Stmt) : s.targets ⊆ s.names := by
  cases s with
  | expr e | print _ e => exact e.targets_subset_names
  | declare name initial =>
    cases initial with
    | none => exact List.Subset.refl _
    | some e => exact List.cons_subset_cons name e.targets_subset_names

/-- A statement that names only what both stores agree on does the same with them. -/
theorem exec_agree {stmt : Stmt} (hX : ∀ t ∈ stmt.names, X t.lexeme) (h : m.AgreeOn X m') :
    (stmt.exec m).1.AgreeOn X (stmt.exec m').1 ∧ (stmt.exec m).2 = (stmt.exec m').2 := by
  obtain ⟨s, c⟩ := m
  obtain ⟨s', c'⟩ := m'
  obtain ⟨hs, rfl⟩ : s.AgreeOn X s' ∧ c = c' := ⟨h.store, h.console⟩
  cases stmt with
  | expr e =>
    have heval := Expr.eval_agree hX hs
    simp only [exec, Machine.eval]
    generalize e.eval s = r, e.eval s' = r' at heval
    cases heval with
    | ok h | error h => exact ⟨⟨h, rfl⟩, rfl⟩
  | print keyword e =>
    have heval := Expr.eval_agree hX hs
    simp only [exec, Machine.eval]
    generalize e.eval s = r, e.eval s' = r' at heval
    cases heval with
    | ok h | error h => exact ⟨⟨h, rfl⟩, rfl⟩
  | declare name initial =>
    cases initial with
    | none => exact ⟨⟨hs.define name.lexeme .nil, rfl⟩, rfl⟩
    | some e =>
      have heval := Expr.eval_agree (List.forall_mem_cons.mp hX).2 hs
      simp only [exec, Machine.eval]
      generalize e.eval s = r, e.eval s' = r' at heval
      cases heval with
      | ok h => exact ⟨⟨h.define name.lexeme _, rfl⟩, rfl⟩
      | error h => exact ⟨⟨h, rfl⟩, rfl⟩

theorem targets_of_expr {s : Stmt} (h : e ∈ s.expr?) : e.targets ⊆ s.targets := by
  cases s with
  | expr | print =>
    cases h
    exact List.Subset.refl _
  | declare =>
    cases h
    exact List.subset_cons_self _ _

/-- A statement changes what it declares or assigns to, and nothing else. -/
theorem exec_keeps {stmt : Stmt} (hX : ∀ t ∈ stmt.targets, ¬X t.lexeme) (m : Machine) :
    m.store.AgreeOn X (stmt.exec m).1.store := by
  obtain ⟨run, hdoes, hrun⟩ := does_of_exec (rfl : stmt.exec m = _)
  rw [← hrun]
  cases hdoes with
  | evaluated he | printed he => exact Expr.keeps_of_eval_ok he hX
  | bare => exact (Store.AgreeOn.refl X _).define_other (hX _ (List.mem_singleton_self _)) _
  | declared he =>
    obtain ⟨hname, hinitial⟩ := List.forall_mem_cons.mp hX
    exact (Expr.keeps_of_eval_ok he hinitial).define_other hname _
  | faulted hs he =>
    refine Expr.keeps_of_eval_error he ?_
    intro t ht
    exact hX t (targets_of_expr hs ht)

end Stmt

structure Execution.AgreeOn (X : String → Prop) (e e' : Execution) : Prop where
  machine : e.machine.AgreeOn X e'.machine
  begun : e.begun = e'.begun
  fault : e.fault = e'.fault

/-- The name is in one of the statements: read, assigned to or declared. -/
def Mentioned (ss : List Stmt) (x : String) : Prop := ∃ s ∈ ss, ∃ t ∈ s.names, t.lexeme = x

instance (ss : List Stmt) (x : String) : Decidable (Mentioned ss x) :=
  inferInstanceAs (Decidable (∃ s ∈ ss, ∃ t ∈ s.names, t.lexeme = x))

namespace Machine

theorem exec_agree {m m' : Machine} (hX : ∀ s ∈ ss, ∀ t ∈ s.names, X t.lexeme) (h : m.AgreeOn X m') :
    (m.exec ss).AgreeOn X (m'.exec ss) := by
  induction ss generalizing m m' with
  | nil => exact ⟨h, rfl, rfl⟩
  | cons s others ih =>
    obtain ⟨hs, hothers⟩ := List.forall_mem_cons.mp hX
    obtain ⟨hmachine, hfault⟩ := Stmt.exec_agree hs h
    rcases he : s.exec m with ⟨n, f⟩
    rcases he' : s.exec m' with ⟨n', f'⟩
    simp only [he, he'] at hmachine hfault
    subst hfault
    cases f with
    | none =>
      obtain ⟨hend, hbegun, hf⟩ := ih hothers hmachine
      rw [exec_cons_of_ok he, exec_cons_of_ok he']
      exact ⟨hend, congrArg (s :: ·) hbegun, hf⟩
    | some f =>
      rw [exec_cons_of_fault he, exec_cons_of_fault he']
      exact ⟨hmachine, rfl, rfl⟩

theorem exec_keeps {ss : List Stmt} (hX : ∀ s ∈ ss, ∀ t ∈ s.targets, ¬X t.lexeme) (m : Machine) :
    m.store.AgreeOn X (m.exec ss).machine.store := by
  induction ss generalizing m with
  | nil => exact .refl X m.store
  | cons s others ih =>
    obtain ⟨hs, hothers⟩ := List.forall_mem_cons.mp hX
    have hkeeps := Stmt.exec_keeps hs m
    rcases he : s.exec m with ⟨m', _ | f⟩
    · rw [he] at hkeeps
      rw [exec_cons_of_ok he]
      exact hkeeps.trans (ih hothers m')
    · rw [he] at hkeeps
      rw [exec_cons_of_fault he]
      exact hkeeps

/-- What no statement names is left alone. -/
theorem exec_keeps_unmentioned (m : Machine) (ss : List Stmt) :
    m.store.AgreeOn (fun x => ¬Mentioned ss x) (m.exec ss).machine.store := by
  apply exec_keeps
  intro s hs t ht hx
  exact hx ⟨s, hs, t, s.targets_subset_names ht, rfl⟩

/-- With the same values of the names in the statements, and the same console, a run does the same and comes to the
same end. These names agree behind it again, be it at a fault in the middle, and all others are left alone. -/
theorem exec_mentioned (ss : List Stmt) (s s' : Store) (c : Console) (h : s.AgreeOn (Mentioned ss) s') :
    (exec ⟨s, c⟩ ss).fault = (exec ⟨s', c⟩ ss).fault ∧ (exec ⟨s, c⟩ ss).begun = (exec ⟨s', c⟩ ss).begun ∧
    (exec ⟨s, c⟩ ss).machine.console = (exec ⟨s', c⟩ ss).machine.console ∧
    (exec ⟨s, c⟩ ss).machine.store.AgreeOn (Mentioned ss) (exec ⟨s', c⟩ ss).machine.store ∧
    (∀ x, ¬Mentioned ss x → (exec ⟨s, c⟩ ss).machine.store.get? x = s.get? x) ∧
    ∀ x, ¬Mentioned ss x → (exec ⟨s', c⟩ ss).machine.store.get? x = s'.get? x := by
  have hX : ∀ stmt ∈ ss, ∀ t ∈ stmt.names, Mentioned ss t.lexeme := by
    intro stmt hstmt t ht
    exact ⟨stmt, hstmt, t, ht, rfl⟩
  have hstart : AgreeOn (Mentioned ss) ⟨s, c⟩ ⟨s', c⟩ := ⟨h, rfl⟩
  obtain ⟨hend, hbegun, hfault⟩ := exec_agree hX hstart
  refine ⟨hfault, hbegun, hend.console, hend.store, ?_, ?_⟩
  · intro x hx
    exact (exec_keeps_unmentioned ⟨s, c⟩ ss x hx).symm
  · intro x hx
    exact (exec_keeps_unmentioned ⟨s', c⟩ ss x hx).symm

/-- `print a; print (b = a) + nil;`, which stops at the plus. -/
def faultBehindAssignment : List Stmt :=
  [.print ⟨.kwPrint, "print", none, 1⟩ (.global ⟨.identifier, "a", some (.text "a"), 1⟩),
    .print ⟨.kwPrint, "print", none, 2⟩
      (.binary (.group (.assign ⟨.identifier, "b", some (.text "b"), 2⟩
        (.global ⟨.identifier, "a", some (.text "a"), 2⟩))) ⟨.plus, "+", none, 2⟩ (.scalar .nil))]

def storeWithC : Store := ⟨[("c", .bool true), ("a", .text "x"), ("b", .nil)]⟩

def storeWithoutC : Store := ⟨[("b", .nil), ("a", .text "x"), ("d", .bool false)]⟩

/-- The assignment before the fault is made in both stores. -/
theorem exec_faultBehindAssignment :
    storeWithC.AgreeOn (Mentioned faultBehindAssignment) storeWithoutC ∧
    (exec ⟨storeWithC, .unlimited⟩ faultBehindAssignment).fault =
      (exec ⟨storeWithoutC, .unlimited⟩ faultBehindAssignment).fault ∧
    (exec ⟨storeWithC, .unlimited⟩ faultBehindAssignment).fault.isSome ∧
    (exec ⟨storeWithC, .unlimited⟩ faultBehindAssignment).machine.console =
      (exec ⟨storeWithoutC, .unlimited⟩ faultBehindAssignment).machine.console ∧
    (exec ⟨storeWithC, .unlimited⟩ faultBehindAssignment).machine.store.get? "b" = some (.text "x") ∧
    (exec ⟨storeWithoutC, .unlimited⟩ faultBehindAssignment).machine.store.get? "b" = some (.text "x") ∧
    (exec ⟨storeWithoutC, .unlimited⟩ faultBehindAssignment).machine.store.get? "d" = some (.bool false) := by
  have hagree : storeWithC.AgreeOn (Mentioned faultBehindAssignment) storeWithoutC := by
    rintro x ⟨s, hs, t, ht, rfl⟩
    simp only [faultBehindAssignment, List.mem_cons, List.not_mem_nil, or_false] at hs
    rcases hs with rfl | rfl
    · simp only [Stmt.names, Expr.names, List.mem_singleton] at ht
      subst ht
      rfl
    · simp only [Stmt.names, Expr.names, List.append_nil, List.mem_cons, List.not_mem_nil, or_false] at ht
      rcases ht with rfl | rfl
      · rfl
      · rfl
  have hb : Mentioned faultBehindAssignment "b" := by decide
  have hd : ¬Mentioned faultBehindAssignment "d" := by decide
  obtain ⟨hfault, -, hconsole, hstore, -, hother⟩ :=
    exec_mentioned faultBehindAssignment storeWithC storeWithoutC .unlimited hagree
  have hset : (exec ⟨storeWithC, .unlimited⟩ faultBehindAssignment).machine.store.get? "b" = some (.text "x") := rfl
  exact ⟨hagree, hfault, rfl, hconsole, hset, (hstore "b" hb).symm.trans hset, hother "d" hd⟩

end Machine

end Lox
