import Mathlib.Algebra.GroupWithZero.Nat
import Lox.Journal
import Lox.Proofs.Source.Tokens
namespace Lox

instance : DecidablePred IsClean := fun _ => inferInstanceAs (Decidable (_ ∧ _))

/-- The static errors of a source as they are told: first the lexical ones, then those of syntax. -/
def staticDiagnostics (source : String) : List Diagnostic :=
  (Scan.ofSource source).errors.map (·.diagnostic) ++
    (Parse.ofTokens (Scan.ofSource source).tokens).errors.map (·.diagnostic)

theorem length_staticDiagnostics (source : String) : (staticDiagnostics source).length =
    (Scan.ofSource source).errors.length +
      (Parse.ofTokens (Scan.ofSource source).tokens).errors.length := by
  simp [staticDiagnostics]

/-- A source is clean where there is nothing to be told of it. -/
theorem staticDiagnostics_eq_nil_iff : staticDiagnostics source = [] ↔ IsClean source := by
  simp [staticDiagnostics, IsClean]

namespace Run

theorem staticErrors_ofSource (source : String) (m : Machine) :
    (ofSource source m).staticErrors = (staticDiagnostics source).length :=
  (length_staticDiagnostics source).symm

/-- Static errors are told before a fault, and never together with one. -/
theorem diagnostics_ofSource (source : String) (m : Machine) :
    (ofSource source m).diagnostics = staticDiagnostics source ++
      (ofSource source m).execution.fault.toList.map (·.diagnostic) := rfl

theorem execution_of_clean (h : IsClean source) (m : Machine) :
    (ofSource source m).execution = m.exec (statementsOf source) := by
  simp [ofSource, h.1, h.2, statementsOf]

theorem error?_of_clean (h : IsClean source) (m : Machine) :
    (ofSource source m).error? = (m.exec (statementsOf source)).fault.map .runtime := by
  have hstatic : (ofSource source m).staticErrors = 0 := by
    rw [staticErrors_ofSource, staticDiagnostics_eq_nil_iff.mpr h]
    rfl
  rw [error?, if_pos hstatic, execution_of_clean h]

/-- Nothing is executed, not even the statements without an error. -/
theorem execution_of_not_clean (h : ¬IsClean source) (m : Machine) :
    (ofSource source m).execution = ⟨m, [], none⟩ := by
  have hclean : ((Scan.ofSource source).errors.isEmpty &&
      (Parse.ofTokens (Scan.ofSource source).tokens).errors.isEmpty) = false := by
    rw [Bool.eq_false_iff]
    intro he
    simp only [Bool.and_eq_true, List.isEmpty_iff] at he
    exact h he
  simp only [ofSource, hclean, Bool.false_eq_true, reduceIte]

theorem error?_of_not_clean (h : ¬IsClean source) (m : Machine) :
    (ofSource source m).error? = some (.static (staticDiagnostics source).length) := by
  have hstatic : (ofSource source m).staticErrors ≠ 0 := by
    rw [staticErrors_ofSource, ne_eq, List.length_eq_zero_iff, staticDiagnostics_eq_nil_iff]
    exact h
  rw [error?, if_neg hstatic, staticErrors_ofSource]

end Run

def RunError.isStatic : RunError → Bool
  | static _ => true
  | runtime _ => false

def Run.failsStatically (r : Run) : Bool := r.error?.any (·.isStatic)

theorem Run.failsStatically_iff {source : String} {m : Machine} :
    (ofSource source m).failsStatically ↔ ¬IsClean source := by
  by_cases h : IsClean source
  · simp [failsStatically, error?_of_clean h, h, RunError.isStatic, Option.any_eq_true]
  · simp [failsStatically, error?_of_not_clean h, h, RunError.isStatic]

/-- By how much a run raises the count of reports, as its result tells. -/
def Run.share (r : Run) : Nat :=
  match r.error? with
  | none => 0
  | some (.static count) => count
  | some (.runtime _) => 1

def Entry.report? : Entry → Option Diagnostic
  | report d => some d
  | _ => none

/-- What the result of a source's run tells of the reports and of the machine that it was run on. -/
structure Run.Accounts (source : String) (m : Machine) (r : Run) : Prop where
  static_iff : ∀ count, r.error? = some (.static count) ↔
    ¬IsClean source ∧ count = (Scan.ofSource source).errors.length +
      (Parse.ofTokens (Scan.ofSource source).tokens).errors.length
  static : ∀ count, r.error? = some (.static count) →
    r.diagnostics = staticDiagnostics source ∧ r.diagnostics.length = count ∧ r.machine = m
  runtime : ∀ fault, r.error? = some (.runtime fault) → r.diagnostics = [⟨fault.line, fault.message⟩]
  success : r.error? = none → r.diagnostics = []
  journal : r.journal.filterMap Entry.report? = r.diagnostics

/-- Records between the reports do not change them or their order. -/
theorem Run.filterMap_journal (r : Run) : r.journal.filterMap Entry.report? = r.diagnostics := by
  have hrecords : ∀ records : List Record, (records.map Entry.record).filterMap Entry.report? = [] := by
    intro records
    simp [Entry.report?]
  simp only [journal, diagnostics, List.filterMap_append, hrecords]
  simp [List.filterMap_map, Function.comp_def, Entry.report?]

/-- By whether the source is clean. -/
theorem Run.accounts_ofSource (source : String) (m : Machine) : (ofSource source m).Accounts source m := by
  have hjournal := (ofSource source m).filterMap_journal
  have hdiagnostics := diagnostics_ofSource source m
  by_cases h : IsClean source
  · have herror := error?_of_clean h m
    rw [staticDiagnostics_eq_nil_iff.mpr h, execution_of_clean h, List.nil_append] at hdiagnostics
    refine ⟨fun count => ?_, fun count hs => ?_, fun fault hr => ?_, fun hn => ?_, hjournal⟩
    · simp [herror, h]
    · simp [herror] at hs
    · rw [herror, Option.map_eq_some_iff] at hr
      obtain ⟨f, hf, he⟩ := hr
      cases he
      rw [hdiagnostics, hf]
      rfl
    · rw [herror, Option.map_eq_none_iff] at hn
      rw [hdiagnostics, hn]
      rfl
  · have herror := error?_of_not_clean h m
    have hexecution := execution_of_not_clean h m
    rw [hexecution, Option.toList_none, List.map_nil, List.append_nil] at hdiagnostics
    refine ⟨fun count => ?_, fun count hs => ?_, fun fault hr => ?_, fun hn => ?_, hjournal⟩
    · simp [herror, h, length_staticDiagnostics, eq_comm]
    · rw [herror] at hs
      cases hs
      exact ⟨hdiagnostics, by rw [hdiagnostics], by rw [machine, hexecution]⟩
    · simp [herror] at hr
    · simp [herror] at hn

theorem Run.length_diagnostics (source : String) (m : Machine) :
    (ofSource source m).diagnostics.length = (ofSource source m).share := by
  have h := accounts_ofSource source m
  unfold share
  split
  · next hn => rw [h.success hn, List.length_nil]
  · next count hs => exact (h.static count hs).2.1
  · next fault hr => rw [h.runtime fault hr, List.length_singleton]

theorem Run.machine_of_failsStatically (h : (ofSource source m).failsStatically) :
    (ofSource source m).machine = m := by
  rw [machine, execution_of_not_clean (failsStatically_iff.mp h)]

/-- Numbering goes on from the number of reports before. -/
theorem Entry.announced_append (n : Nat) (es others : List Entry) :
    announced n (es ++ others) =
      announced n es ++ announced (n + (es.filterMap report?).length) others := by
  fun_induction announced n es with
  | case1 n => simp
  | case2 n d es ih =>
    have hone : (report d :: es).filterMap report? = d :: es.filterMap report? := rfl
    rw [List.cons_append, announced, ih, hone, List.length_cons, Nat.add_right_comm, ← Nat.add_assoc]
    rfl
  | case3 n e es hreport ih =>
    have hnone : e.report? = none := by
      cases e with
      | report d => exact absurd rfl (hreport d)
      | record | line => rfl
    rw [List.cons_append, announced, ih, List.filterMap_cons_none hnone]
    · rfl
    · exact hreport

namespace Session

/-- The reports of each run, numbered on from those of the runs before it as their results tell. -/
def announcedInTurn (n : Nat) : List Run → List Entry
  | [] => []
  | r :: others => Entry.announced n r.journal ++ announcedInTurn (n + r.share) others

theorem length_runs (m : Machine) (sources : List String) :
    (ofSources m sources).runs.length = sources.length := by
  induction sources generalizing m with
  | nil => rfl
  | cons source others ih => exact congrArg Nat.succ (ih _)

/-- Each source is run on the machine that those before it leave. -/
theorem getElem?_runs (m : Machine) (sources : List String) (i : Fin sources.length) :
    (ofSources m sources).runs[i.val]? =
      some (Run.ofSource sources[i] (ofSources m (sources.take i)).machine) := by
  induction sources generalizing m with
  | nil => exact i.elim0
  | cons source others ih =>
    cases i using Fin.cases with
    | zero => rfl
    | succ i => exact ih (Run.ofSource source m).machine i

/-- Runs that fail statically leave the machine as it was, so those behind them are the same without them. -/
theorem ofSources_filter (m : Machine) (sources : List String) :
    ofSources m (sources.filter (IsClean ·)) =
      ⟨(ofSources m sources).runs.filter (!·.failsStatically), (ofSources m sources).machine⟩ := by
  induction sources generalizing m with
  | nil => rfl
  | cons source others ih =>
    by_cases h : IsClean source
    · have hkept : (Run.ofSource source m).failsStatically = false := by
        rw [Bool.eq_false_iff, ne_eq, Run.failsStatically_iff, not_not]
        exact h
      simp [ofSources, h, ih, hkept]
    · have hfails := Run.failsStatically_iff (m := m).mpr h
      simp [ofSources, h, ih, hfails, Run.machine_of_failsStatically hfails]

theorem announced_journals (m : Machine) (sources : List String) (n : Nat) :
    Entry.announced n ((ofSources m sources).runs.flatMap (·.journal)) =
      announcedInTurn n (ofSources m sources).runs := by
  induction sources generalizing m n with
  | nil => rfl
  | cons source others ih =>
    simp only [ofSources, List.flatMap_cons, announcedInTurn]
    rw [Entry.announced_append, Run.filterMap_journal, Run.length_diagnostics, ih]

/-- There are as many reports as the results of the runs tell. -/
theorem length_reports (m : Machine) (sources : List String) :
    ((ofSources m sources).runs.flatMap (·.diagnostics)).length =
      ((ofSources m sources).runs.map (·.share)).sum := by
  induction sources generalizing m with
  | nil => rfl
  | cons source others ih =>
    simp only [ofSources, List.flatMap_cons, List.length_append, List.map_cons, List.sum_cons,
      Run.length_diagnostics, ih]

/-- Each source reports what its result tells, static errors all and once, and with them it leaves the
machine as it was: without such sources the other results and the machine behind them are the same. The
reports are counted on from those before the session by what the results tell. -/
theorem ofSources_accounts (m : Machine) (sources : List String) (reported : Nat) :
    (ofSources m sources).runs.length = sources.length ∧
    (∀ i : Fin sources.length, ∃ r, (ofSources m sources).runs[i.val]? = some r ∧
      r.Accounts sources[i] (ofSources m (sources.take i)).machine) ∧
    ofSources m (sources.filter (IsClean ·)) =
      ⟨(ofSources m sources).runs.filter (!·.failsStatically), (ofSources m sources).machine⟩ ∧
    ((ofSources m sources).runs.flatMap (·.diagnostics)).length =
      ((ofSources m sources).runs.map (·.share)).sum ∧
    Entry.announced reported ((ofSources m sources).runs.flatMap (·.journal)) =
      announcedInTurn reported (ofSources m sources).runs := by
  refine ⟨length_runs m sources, fun i => ?_, ofSources_filter m sources, length_reports m sources,
    announced_journals m sources reported⟩
  exact ⟨_, getElem?_runs m sources i, Run.accounts_ofSource _ _⟩

end Session

end Lox
