import Lox.Proofs.Execution.Lines
import Lox.Proofs.Likeness
import Lox.Proofs.Reporting
namespace Lox

theorem Token.Alike.onLine_eq (h : Alike t u) (n : Nat) : t.onLine n = u.onLine n := by
  obtain ⟨hk, hlexeme, hliteral⟩ := h
  simp only [onLine, hk, hlexeme, hliteral]

theorem Opening.like_of_alike (h : t.Alike u) : Opening.Like Token.Alike Eq (of t) (of u) := by
  unfold of
  rw [h.kind, h.literal]
  split
  case h_1 | h_2 => exact .operator
  case h_3 => exact .group
  case h_4 | h_5 | h_6 => exact .whole (.scalar rfl)
  case h_7 => exact .whole (.global h)
  case h_8 | h_9 =>
    split
    · exact .whole (.scalar rfl)
    · exact .none
  case h_10 => exact .none

/-- No reader looks at the lines of its tokens. -/
theorem likeness_alike : Likeness Token.Alike Eq where
  kind h := h.kind
  opening h := Opening.like_of_alike h
  atEnd _ := ⟨rfl, rfl, rfl⟩

theorem Expr.Like.onLine_eq {e e' : Expr} (h : e.Like Token.Alike Eq e') (n : Nat) : e.onLine n = e'.onLine n := by
  induction h with
  | scalar hv => rw [hv]
  | group _ ih => simp only [onLine, ih]
  | unary ho _ ih => simp only [onLine, ho.onLine_eq n, ih]
  | binary _ ho _ ihl ihr => simp only [onLine, ho.onLine_eq n, ihl, ihr]
  | global hn => simp only [onLine, hn.onLine_eq n]
  | assign hn _ ih => simp only [onLine, hn.onLine_eq n, ih]

theorem Stmt.Like.onLine_eq (h : Like Token.Alike Eq s r) (n : Nat) : s.onLine n = r.onLine n := by
  cases h with
  | expr he => simp only [onLine, he.onLine_eq n]
  | print hk he => simp only [onLine, hk.onLine_eq n, he.onLine_eq n]
  | bare hn => simp only [onLine, hn.onLine_eq n, Option.map_none]
  | declare hn he => simp only [onLine, hn.onLine_eq n, Option.map_some, he.onLine_eq n]

/-- Put on one line, statements that are alike are the same. -/
theorem Stmt.map_onLine_eq (h : List.Forall₂ (Like Token.Alike Eq) ss rs) (n : Nat) :
    ss.map (onLine n) = rs.map (onLine n) := by
  induction h with
  | nil => rfl
  | cons hs _ ih => rw [List.map_cons, List.map_cons, hs.onLine_eq n, ih]

theorem SyntaxError.Like.message_eq (h : Like Token.Alike e d) : e.message = d.message := by
  cases h with
  | unexpected ht | invalidTarget ht => simp only [message, place, ht.kind, ht.lexeme]

theorem SyntaxError.map_message_eq (h : List.Forall₂ (Like Token.Alike) es ds) :
    es.map message = ds.map message := by
  induction h with
  | nil => rfl
  | cons he _ ih => rw [List.map_cons, List.map_cons, he.message_eq, ih]

/-- Faults of the same kind, with the same values, that may have befallen different lines. -/
def Fault.Alike (f g : Fault) : Prop := f.onLine g.line = g

theorem Fault.onLine_line (f : Fault) : f.onLine f.line = f := by
  cases f <;> rfl

theorem Fault.Alike.message_eq (h : Alike f g) : f.message = g.message := by
  rw [← f.message_onLine g.line, h]

/-- Faults that are the same on every line differ in their lines only. -/
theorem Fault.alike_of_onLine_eq (h : ∀ n, f?.map (onLine n) = g?.map (onLine n)) : Option.Rel Alike f? g? := by
  cases f? with
  | none =>
    have hg : g? = none := by simpa using (h 0).symm
    rw [hg]
    exact .none
  | some f =>
    cases g? with
    | none => cases h 0
    | some g =>
      have hg : f.onLine g.line = g.onLine g.line := by simpa using h g.line
      exact .some (hg.trans g.onLine_line)

theorem Fault.messages_eq (h : Option.Rel Alike f? g?) : f?.toList.map message = g?.toList.map message := by
  cases h with
  | none => rfl
  | some h => simp [h.message_eq]

/-- Statements that are alike leave the same machine, and are stopped by faults that are alike, or by none. -/
theorem Machine.exec_alike (m : Machine) (h : List.Forall₂ (Stmt.Like Token.Alike Eq) ss rs) :
    (m.exec ss).machine = (m.exec rs).machine ∧ Option.Rel Fault.Alike (m.exec ss).fault (m.exec rs).fault := by
  have hmoved : ∀ n, (m.exec ss).onLine n = (m.exec rs).onLine n := by
    intro n
    rw [← exec_onLine, ← exec_onLine, Stmt.map_onLine_eq h n]
  have hmachine := congrArg Execution.machine (hmoved 0)
  have hfault : ∀ n, (m.exec ss).fault.map (Fault.onLine n) = (m.exec rs).fault.map (Fault.onLine n) := by
    intro n
    exact congrArg Execution.fault (hmoved n)
  exact ⟨hmachine, Fault.alike_of_onLine_eq hfault⟩

inductive RunError.Alike : RunError → RunError → Prop
  | static (count : Nat) : Alike (.static count) (.static count)
  | runtime (h : f.Alike g) : Alike (.runtime f) (.runtime g)

theorem RunError.alike_runtime (h : Option.Rel Fault.Alike f? g?) :
    Option.Rel Alike (f?.map runtime) (g?.map runtime) := by
  cases h with
  | none => exact .none
  | some h => exact .some (.runtime h)

/-- Runs that differ in nothing but lines. -/
structure Run.Alike (r q : Run) : Prop where
  parse : r.parse.Like Token.Alike Eq q.parse
  machine : r.machine = q.machine
  messages : r.diagnostics.map (·.message) = q.diagnostics.map (·.message)
  error? : Option.Rel RunError.Alike r.error? q.error?

theorem Run.messages_ofSource (source : String) (m : Machine) :
    (ofSource source m).diagnostics.map (·.message) =
      (Scan.ofSource source).errors.map LexicalError.message ++
        (Parse.ofTokens (Scan.ofSource source).tokens).errors.map SyntaxError.message ++
          (ofSource source m).execution.fault.toList.map Fault.message := by
  rw [diagnostics_ofSource, staticDiagnostics]
  simp only [List.map_append, List.map_map]
  rfl

section
variable {source other : String} (hs : (Scan.ofSource source).errors = []) (ho : (Scan.ofSource other).errors = [])
  (ht : List.Forall₂ Token.Alike (Scan.ofSource source).tokens (Scan.ofSource other).tokens)
include hs ho ht

/-- Layout has no errors of its own. -/
theorem isClean_iff_of_layout : IsClean source ↔ IsClean other := by
  have hcount := (Parse.like_ofTokens likeness_alike ht).errors.length_eq
  simp only [IsClean, hs, ho, true_and]
  rw [← List.length_eq_zero_iff, ← List.length_eq_zero_iff, hcount]

/-- Either both sources are executed or neither is. -/
theorem Run.execution_alike (m : Machine) :
    (ofSource source m).machine = (ofSource other m).machine ∧
      Option.Rel Fault.Alike (ofSource source m).execution.fault (ofSource other m).execution.fault := by
  have hiff := isClean_iff_of_layout hs ho ht
  by_cases hclean : IsClean source
  · have hclean' := hiff.mp hclean
    rw [machine, machine, execution_of_clean hclean, execution_of_clean hclean']
    apply m.exec_alike
    exact (Parse.like_ofTokens likeness_alike ht).statements
  · have hclean' := mt hiff.mpr hclean
    rw [machine, machine, execution_of_not_clean hclean, execution_of_not_clean hclean']
    exact ⟨rfl, .none⟩

/-- Layout does not matter: a run does not depend on the lines that tokens stand on, but for the lines that it
tells. -/
theorem Run.alike_of_layout (m : Machine) : (ofSource source m).Alike (ofSource other m) := by
  have hparse := Parse.like_ofTokens likeness_alike ht
  have hmessages := SyntaxError.map_message_eq hparse.errors
  have hcount : (ofSource source m).staticErrors = (ofSource other m).staticErrors := by
    rw [staticErrors_ofSource, staticErrors_ofSource, length_staticDiagnostics, length_staticDiagnostics, hs, ho,
      hparse.errors.length_eq]
  obtain ⟨hmachine, hfault⟩ := execution_alike hs ho ht m
  refine ⟨hparse, hmachine, ?_, ?_⟩
  · rw [messages_ofSource, messages_ofSource, hs, ho, hmessages, Fault.messages_eq hfault]
  · simp only [error?, hcount]
    split
    · exact RunError.alike_runtime hfault
    · exact .some (.static _)

end

def oneLine : String := "var a = 1; print a / (a - 1);"

def fourLines : String := "// one\nvar a = 1; print\r\n  a / // two\n(a - 1) ;"

instance : DecidableEq Literal := fun
  | .text s, .text t => decidable_of_iff (s = t) (by simp)
  | .number x, .number y => decidable_of_iff (x = y) (by simp)
  | .text _, .number _ | .number _, .text _ => .isFalse nofun

instance : DecidableRel Token.Alike := fun t u =>
  decidable_of_iff (t.kind = u.kind ∧ t.lexeme = u.lexeme ∧ t.literal = u.literal)
    ⟨fun ⟨hk, hlexeme, hliteral⟩ => ⟨hk, hlexeme, hliteral⟩, fun h => ⟨h.kind, h.lexeme, h.literal⟩⟩

theorem run_fourLines :
    List.Forall₂ Token.Alike (Scan.ofSource oneLine).tokens (Scan.ofSource fourLines).tokens ∧
    (Run.ofSource oneLine .fresh).Alike (Run.ofSource fourLines .fresh) ∧
    (Run.ofSource oneLine .fresh).diagnostics = [⟨1, "Division by zero."⟩] ∧
    (Run.ofSource fourLines .fresh).diagnostics = [⟨3, "Division by zero."⟩] := by
  have ht : List.Forall₂ Token.Alike (Scan.ofSource oneLine).tokens (Scan.ofSource fourLines).tokens := by
    decide +kernel
  have hs : (Scan.ofSource oneLine).errors = [] := by decide +kernel
  have ho : (Scan.ofSource fourLines).errors = [] := by decide +kernel
  have hone : (Run.ofSource oneLine .fresh).diagnostics = [⟨1, "Division by zero."⟩] := by decide +kernel
  have hfour : (Run.ofSource fourLines .fresh).diagnostics = [⟨3, "Division by zero."⟩] := by decide +kernel
  exact ⟨ht, Run.alike_of_layout hs ho ht .fresh, hone, hfour⟩

end Lox
