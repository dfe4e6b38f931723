import Lox.Proofs.Execution.Lines
import Lox.Proofs.Reporting
namespace Lox

/-- A line that is a source of its own. -/
structure IsSourceLine (source : String) : Prop where
  line : '\n' ∉ source.toList
  clean : IsClean source

namespace IsSourceLine

theorem isCleanLine (h : IsSourceLine source) : IsCleanLine source.toList :=
  (isCleanLine_iff h.line 1).mpr h.clean.1

/-- On any line of a source a line has the statements that it has alone, moved there. -/
theorem program (h : IsSourceLine source) (n : Nat) :
    Grammar.Program (tokensFrom n source.toList) ((statementsOf source).map (.onLine n)) ∧
      ∀ s ∈ (statementsOf source).map (Stmt.onLine n), s.NestsWithin maxNesting := by
  obtain ⟨-, hp, hd⟩ := Grammar.isClean_iff_program.mp ⟨h.clean, rfl⟩
  refine ⟨?_, List.forall_mem_map.mpr fun s hs => (hd s hs).onLine n⟩
  rw [tokensFrom_onLine h.line 1 n]
  exact hp.onLine n

theorem statementsOf_onLine (h : IsSourceLine source) :
    (statementsOf source).map (.onLine 1) = statementsOf source := by
  obtain ⟨hp, hd⟩ := h.program 1
  exact (Grammar.isClean_iff_program.mpr ⟨h.clean.1, hp, hd⟩).2.symm

/-- The blanks at its end do not matter. -/
theorem trimEnd (h : IsSourceLine source) :
    IsClean (Text.trimEnd source) ∧ statementsOf (Text.trimEnd source) = statementsOf source := by
  obtain ⟨hclean, htokens⟩ := h.isCleanLine.trimEnd
  obtain ⟨-, hp, hd⟩ := Grammar.isClean_iff_program.mp ⟨h.clean, rfl⟩
  refine Grammar.isClean_iff_program.mpr ⟨(isCleanLine_iff hclean.line 1).mp hclean, ?_, hd⟩
  rw [htokens]
  exact hp

/-- What goes wrong in a line by itself goes wrong on line 1. -/
theorem line_of_fault {m : Machine} {f : Fault} (h : IsSourceLine source)
    (hf : (m.exec (statementsOf source)).fault = some f) : f.line = 1 := by
  have hmoved := m.exec_onLine 1 (statementsOf source)
  rw [h.statementsOf_onLine] at hmoved
  rw [hmoved] at hf
  obtain ⟨g, -, rfl⟩ := Option.map_eq_some_iff.mp hf
  rw [Fault.line, Fault.token_onLine]
  rfl

end IsSourceLine

def statementsOfLines (line : Nat) : List String → List Stmt
  | [] => []
  | source :: others => (statementsOf source).map (.onLine line) ++ statementsOfLines (line + 1) others

theorem program_lines (h : ∀ source ∈ sources, IsSourceLine source) (line : Nat) :
    Grammar.Program (tokensOfLines line (sources.map String.toList)) (statementsOfLines line sources) ∧
      ∀ s ∈ statementsOfLines line sources, s.NestsWithin maxNesting := by
  induction sources generalizing line with
  | nil => exact ⟨.nil, by simp [statementsOfLines]⟩
  | cons source others ih =>
    obtain ⟨hs, ho⟩ := List.forall_mem_cons.mp h
    obtain ⟨hp, hd⟩ := hs.program line
    obtain ⟨hp', hd'⟩ := ih ho (line + 1)
    exact ⟨hp.append hp', List.forall_mem_append.mpr ⟨hd, hd'⟩⟩

/-- The source made of the lines is as clean as each of them, and has the statements of all. -/
theorem isClean_lines (h : ∀ source ∈ sources, IsSourceLine source) :
    IsClean ("\n".intercalate sources) ∧
      statementsOf ("\n".intercalate sources) = statementsOfLines 1 sources := by
  have hlines : ∀ text ∈ sources.map String.toList, IsCleanLine text :=
    List.forall_mem_map.mpr fun source hs => (h source hs).isCleanLine
  obtain ⟨htokens, herrors⟩ := scan_lines hlines 1
  have htext : ("\n".intercalate sources).toList = ['\n'].intercalate (sources.map String.toList) :=
    String.toList_intercalate
  rw [Grammar.isClean_iff_program, htext, htokens]
  exact ⟨herrors, program_lines h 1⟩

namespace Session

/-- Sources run in turn on one machine up to the first that fails. -/
def untilFailure (m : Machine) : List String → Session
  | [] => ⟨[], m⟩
  | source :: others =>
    let run := Run.ofSource source m
    if run.error?.isSome then ⟨[run], run.machine⟩
    else
      let s := untilFailure run.machine others
      ⟨run :: s.runs, s.machine⟩

/-- The sources behind the one that fails are not run. -/
theorem untilFailure_of_fault (h : IsClean source) (hf : (m.exec (statementsOf source)).fault = some f)
    (others : List String) :
    untilFailure m (source :: others) =
      ⟨[Run.ofSource source m], (m.exec (statementsOf source)).machine⟩ := by
  simp [untilFailure, Run.error?_of_clean h, hf, Run.machine, Run.execution_of_clean h]

theorem untilFailure_of_ok (h : IsClean source) (hf : (m.exec (statementsOf source)).fault = none)
    (others : List String) :
    untilFailure m (source :: others) =
      ⟨Run.ofSource source m :: (untilFailure (m.exec (statementsOf source)).machine others).runs,
        (untilFailure (m.exec (statementsOf source)).machine others).machine⟩ := by
  simp [untilFailure, Run.error?_of_clean h, hf, Run.machine, Run.execution_of_clean h]

end Session

/-- The lines from `line` on, carried out at once, end as they do in turn. A fault in the last that was begun
is on that line. -/
inductive EndsAs (line count : Nat) (e : Execution) (s : Session) : Prop
  | ok (hf : e.fault = none) (hl : s.runs.length = count) (hr : ∀ r ∈ s.runs, r.error? = none)
  | fault (hl : s.runs.length = k + 1) (hr : s.runs.getLast? = some r) (he : r.error? = some (.runtime f))
      (h1 : f.line = 1) (hf : e.fault = some (f.onLine (line + k)))

/-- A line that comes to its end goes before the others. -/
theorem EndsAs.cons (h : EndsAs (line + 1) count e s) (hr : r.error? = none) (hf : e'.fault = e.fault) :
    EndsAs line (count + 1) e' ⟨r :: s.runs, m⟩ := by
  cases h with
  | ok hf' hl hr' => exact .ok (hf.trans hf') (by simp [hl]) (List.forall_mem_cons.mpr ⟨hr, hr'⟩)
  | @fault k last f hl hlast he h1 hf' =>
    have hcount : (r :: s.runs).length = (k + 1) + 1 := by simp [hl]
    refine .fault hcount (by simp [List.getLast?_cons, hlast]) he h1 ?_
    rw [hf, hf', Nat.add_assoc, Nat.add_comm 1 k]

/-- By induction on the lines: what one of them leaves is what the next begins with. -/
theorem exec_lines (h : ∀ source ∈ sources, IsSourceLine source) (line : Nat) (m : Machine) :
    (m.exec (statementsOfLines line sources)).machine =
      (Session.untilFailure m (sources.map Text.trimEnd)).machine ∧
    EndsAs line sources.length (m.exec (statementsOfLines line sources))
      (Session.untilFailure m (sources.map Text.trimEnd)) := by
  induction sources generalizing line m with
  | nil => exact ⟨rfl, .ok rfl rfl (by simp [Session.untilFailure])⟩
  | cons source others ih =>
    obtain ⟨hs, ho⟩ := List.forall_mem_cons.mp h
    obtain ⟨hclean, hsame⟩ := hs.trimEnd
    have herror := Run.error?_of_clean hclean m
    rw [statementsOfLines, m.exec_append, m.exec_onLine, List.map_cons]
    cases hf : (m.exec (statementsOf source)).fault with
    | some f =>
      rw [Session.untilFailure_of_fault hclean (by rw [hsame, hf])]
      simp only [Execution.onLine, hf, Option.map_some, Option.isSome_some, reduceIte, hsame]
      rw [hsame, hf] at herror
      exact ⟨trivial, .fault rfl rfl herror (hs.line_of_fault hf) rfl⟩
    | none =>
      obtain ⟨hm, he⟩ := ih ho (line + 1) (m.exec (statementsOf source)).machine
      rw [Session.untilFailure_of_ok hclean (by rw [hsame, hf])]
      simp only [Execution.onLine, hf, Option.map_none, Option.isSome_none, Bool.false_eq_true, reduceIte,
        hsame]
      rw [hsame, hf] at herror
      exact ⟨hm, he.cons herror rfl⟩

/-- Running a file and running its lines in turn agree. -/
theorem run_lines (sources : List String) (m : Machine) (hn : ∀ source ∈ sources, '\n' ∉ source.toList)
    (hc : ∀ source ∈ sources, IsClean source) :
    let whole := Run.ofSource ("\n".intercalate sources) m
    let s := Session.untilFailure m (sources.map Text.trimEnd)
    whole.machine = s.machine ∧
    ((whole.error? = none ∧ s.runs.length = sources.length ∧ ∀ r ∈ s.runs, r.error? = none) ∨
      ∃ r f g, s.runs.getLast? = some r ∧ r.error? = some (.runtime f) ∧ f.line = 1 ∧
        whole.error? = some (.runtime g) ∧ g.line = s.runs.length ∧
        g = f.onLine s.runs.length ∧ g.message = f.message) := by
  intro whole s
  have hlines : ∀ source ∈ sources, IsSourceLine source := fun source hs => ⟨hn source hs, hc source hs⟩
  obtain ⟨hclean, hstatements⟩ := isClean_lines hlines
  obtain ⟨hm, hend⟩ := exec_lines hlines 1 m
  rw [← hstatements] at hm hend
  have hmachine : whole.machine = (m.exec (statementsOf ("\n".intercalate sources))).machine := by
    rw [Run.machine, Run.execution_of_clean hclean]
  have herror := Run.error?_of_clean hclean m
  refine ⟨hmachine.trans hm, ?_⟩
  cases hend with
  | ok hf hl hr => exact .inl ⟨by rw [herror, hf]; rfl, hl, hr⟩
  | @fault k r f hl hr he h1 hf =>
    rw [Nat.add_comm, ← hl] at hf
    refine .inr ⟨r, f, f.onLine s.runs.length, hr, he, h1, ?_, ?_, rfl, f.message_onLine _⟩
    · rw [herror, hf]
      rfl
    · rw [Fault.line, Fault.token_onLine]
      rfl

def threeLines : List String := ["var a = 1; ", "print a; // one\u00a0", "print b;"]

theorem run_threeLines :
    (∀ source ∈ threeLines, '\n' ∉ source.toList) ∧ (∀ source ∈ threeLines, IsClean source) ∧
    (Run.ofSource ("\n".intercalate threeLines) .fresh).machine =
      (Session.untilFailure .fresh (threeLines.map Text.trimEnd)).machine := by
  have hn : ∀ source ∈ threeLines, '\n' ∉ source.toList := by decide
  have hc : ∀ source ∈ threeLines, IsClean source := by
    unfold IsClean
    decide +kernel
  exact ⟨hn, hc, (run_lines threeLines .fresh hn hc).1⟩

end Lox
