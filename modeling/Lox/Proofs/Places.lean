import Lox.Proofs.Execution.Blame
import Lox.Proofs.Recovery.Order
import Lox.Proofs.Reporting
namespace Lox

theorem Piece.line_of_error? {p : Piece} (h : p.error? line = some e) : e.line = line := by
  cases p with
  | stray | unclosed =>
    cases h
    rfl
  | _ => cases h

theorem le_line_of_mem_tokensFrom (h : t ∈ tokensFrom line text) : line ≤ t.line := by
  obtain ⟨⟨p, n⟩, hp, ht⟩ := List.mem_filterMap.mp h
  rw [Piece.line_of_token? ht]
  exact (bounds_of_mem_numbered hp).1

def HasLine (source : String) (line : Nat) : Prop := 1 ≤ line ∧ line ≤ 1 + source.toList.count '\n'

/-- A token is not further down than the text has lines. -/
theorem hasLine_of_token (h : t ∈ (Scan.ofSource source).tokens) : HasLine source t.line := by
  rw [ofSource_eq] at h
  rcases List.mem_append.mp h with h | h
  · exact ⟨le_line_of_mem_tokensFrom h, line_of_mem_tokensFrom h⟩
  · obtain rfl := List.mem_singleton.mp h
    exact ⟨Nat.le_add_right 1 _, Nat.le_refl _⟩

theorem hasLine_of_lexicalError (h : e ∈ (Scan.ofSource source).errors) : HasLine source e.line := by
  rw [ofSource_eq] at h
  obtain ⟨⟨p, n⟩, hp, he⟩ := List.mem_filterMap.mp h
  have hbounds := bounds_of_mem_numbered hp
  rw [chars_pieces] at hbounds
  rw [Piece.line_of_error? he]
  exact hbounds

/-- A complaint of the parser is about a token of the scan, be it the end. -/
theorem token_of_syntaxError (h : e ∈ (Parse.ofTokens (Scan.ofSource source).tokens).errors) :
    e.token ∈ (Scan.ofSource source).tokens := by
  have hno : ∀ t ∈ tokensFrom 1 source.toList, t.kind ≠ .eof := by
    intro t ht
    exact tokensFrom_ne_eof ht
  obtain ⟨attempts, htokens, hstands, herrors⟩ := exists_attempts (.atEnd (1 + source.toList.count '\n')) hno
  rw [ofTokens_ofSource, ← herrors] at h
  rw [ofSource_eq, ← htokens]
  exact Attempt.mem_of_mem_errorsInTurn hstands e.token (List.mem_map_of_mem h)

namespace Run

/-- A run that ends in a fault was a run of all that was parsed. -/
theorem fault_of_runtime (h : (ofSource source m).error? = some (.runtime f)) :
    (ofSource source m).execution = m.exec (statementsOf source) ∧ (m.exec (statementsOf source)).fault = some f := by
  by_cases hclean : IsClean source
  · rw [error?_of_clean hclean] at h
    obtain ⟨g, hg, he⟩ := Option.map_eq_some_iff.mp h
    cases he
    exact ⟨execution_of_clean hclean m, hg⟩
  · rw [error?_of_not_clean hclean] at h
    cases h

theorem fault_of_execution (h : (ofSource source m).execution.fault = some f) :
    (ofSource source m).error? = some (.runtime f) := by
  by_cases hclean : IsClean source
  · rw [execution_of_clean hclean] at h
    rw [error?_of_clean hclean, h]
    rfl
  · rw [execution_of_not_clean hclean] at h
    cases h

/-- What the result of a run says of the statement at which it stopped. -/
structure StoppedBy (r : Run) (m : Machine) (f : Fault) (s : Stmt) : Prop where
  stopped : ∃ before behind, r.parse.statements = before ++ s :: behind ∧ r.execution.begun = before ++ [s] ∧
    (m.exec before).fault = none ∧ s.exec (m.exec before).machine = (r.machine, some f)
  incurs : s.Incurs f
  stored : f.token ∈ s.tokens
  kind : f.token.kind ∈ f.kinds

/-- A fault is about a token that is kept in the statement that stopped. -/
theorem exists_stoppedBy (h : (ofSource source m).error? = some (.runtime f)) :
    ∃ s ∈ (ofSource source m).parse.statements, (ofSource source m).StoppedBy m f s := by
  obtain ⟨hexec, hfault⟩ := fault_of_runtime h
  obtain ⟨before, s, behind, hss, hbefore, hs, hbegun, hi, ht, hk⟩ := Machine.incurs_of_exec hfault
  have hmem : s ∈ (ofSource source m).parse.statements := by
    change s ∈ (Parse.ofTokens (Scan.ofSource source).tokens).statements
    simp [hss]
  refine ⟨s, hmem, ⟨before, behind, hss, ?_, hbefore, ?_⟩, hi, ht, hk⟩
  · rw [hexec]
    exact hbegun
  · rw [machine, hexec]
    exact hs

/-- The tokens kept in statements and those that errors are about are tokens of the scan. A run that stops at a
fault stops at a statement that can come to it, and the fault is about a token kept there. So all diagnostics are
about lines of the source. -/
theorem places_ofSource (source : String) (m : Machine) :
    (∀ s ∈ (ofSource source m).parse.statements, ∀ t ∈ s.tokens, t ∈ (ofSource source m).scan.tokens) ∧
    (∀ e ∈ (ofSource source m).parse.errors, e.token ∈ (ofSource source m).scan.tokens) ∧
    (∀ f, (ofSource source m).error? = some (.runtime f) →
      ∃ s ∈ (ofSource source m).parse.statements, (ofSource source m).StoppedBy m f s) ∧
    ∀ d ∈ (ofSource source m).diagnostics, HasLine source d.line := by
  have hstored : ∀ s ∈ (ofSource source m).parse.statements, ∀ t ∈ s.tokens, t ∈ (Scan.ofSource source).tokens := by
    intro s hs t ht
    exact Grammar.mem_of_stored hs ht
  have herrors : ∀ e ∈ (ofSource source m).parse.errors, e.token ∈ (Scan.ofSource source).tokens := by
    intro e he
    exact token_of_syntaxError he
  refine ⟨hstored, herrors, fun f => exists_stoppedBy, ?_⟩
  intro d hd
  simp only [diagnostics, List.mem_append, List.mem_map, Option.mem_toList] at hd
  rcases hd with (⟨e, he, rfl⟩ | ⟨e, he, rfl⟩) | ⟨f, hf, rfl⟩
  · exact hasLine_of_lexicalError he
  · exact hasLine_of_token (herrors e he)
  · obtain ⟨s, hs, hstop⟩ := exists_stoppedBy (fault_of_execution hf)
    exact hasLine_of_token (hstored s hs f.token hstop.stored)

example : (ofSource "print 1;\nprint -nil;" .fresh).diagnostics = [⟨2, "Operand must be a number."⟩] := by
  decide +kernel

end Run

end Lox
