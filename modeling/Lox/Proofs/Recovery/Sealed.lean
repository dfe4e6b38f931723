import Lox.Proofs.Readers
namespace Lox.Parser

/-- What closes a segment: its semicolon, or else a keyword or an end behind it. -/
def Sealed (tail rest : List Token) : Prop :=
  (∃ t, tail = [t] ∧ t.kind = .semicolon) ∨ tail = [] ∧ ∀ t ∈ rest.head?, t.kind.stops

theorem Sealed.barriers (h : Sealed tail rest) : Barrier tail ∧ Barrier (tail ++ rest) := by
  rcases h with ⟨t, rfl, ht⟩ | ⟨rfl, hr⟩
  · have hb : t.kind.bounds = true := by simp [Kind.bounds, ht]
    exact ⟨by simpa [Barrier] using hb, by simpa [Barrier] using hb⟩
  · exact ⟨by simp [Barrier], fun t ht => by simp [Kind.bounds, hr t ht]⟩

theorem closed_sealed (h : Sealed tail rest) (why : Complaint) (tree : α) (us : List Token) :
    closed .semicolon why tree (us ++ (tail ++ rest)) =
      (closed .semicolon why tree (us ++ tail)).extend rest := by
  cases us with
  | cons t us =>
    simp only [List.cons_append, closed, take?]
    split <;> split at * <;> simp_all [Outcome.extend]
  | nil =>
    rcases h with ⟨t, rfl, ht⟩ | ⟨rfl, hr⟩
    · simp [closed, take?, ht, Outcome.extend]
    · have hnone : take? [.semicolon] rest = none := by
        refine take?_eq_none_iff.mpr fun t ht hin => ?_
        have ho := hr t ht
        rw [List.mem_singleton.mp hin] at ho
        cases ho
      simp only [List.nil_append, closed, hnone]
      rfl

/-- No reader of expressions looks beyond what closes the statement. -/
theorem expression_sealed (h : Sealed tail rest) (why : Complaint) (f : Expr → Stmt) (us : List Token) :
    ((expression.run (us ++ (tail ++ rest))).andThen fun e => closed .semicolon why (f e)) =
      ((expression.run (us ++ tail)).andThen fun e => closed .semicolon why (f e)).extend rest := by
  rw [expression_append h.barriers.1, expression_append h.barriers.2]
  cases expression.run us with
  | done e misplaced vs =>
    change (closed .semicolon why (f e) (vs ++ (tail ++ rest))).after misplaced =
      ((closed .semicolon why (f e) (vs ++ tail)).after misplaced).extend rest
    rw [closed_sealed h, Outcome.extend_after]
  | failed why misplaced vs => simp [Outcome.extend, Outcome.andThen]

theorem declared_sealed (h : Sealed tail rest) (us : List Token) :
    declared (us ++ (tail ++ rest)) = (declared (us ++ tail)).extend rest := by
  unfold declared
  rw [take?_append (by decide) h.barriers.1, take?_append (by decide) h.barriers.2]
  cases take? [.identifier] us with
  | none => simp [Outcome.extend]
  | some named =>
    obtain ⟨name, vs⟩ := named
    simp only [Option.map_some]
    rw [take?_append (by decide) h.barriers.1, take?_append (by decide) h.barriers.2]
    cases take? [.equal] vs with
    | none => exact closed_sealed h _ _ vs
    | some assigned => exact expression_sealed h _ _ assigned.2

/-- A statement that is closed is read, or refused, as if nothing came later. -/
theorem statement_sealed (h : Sealed tail rest) (hn : us ++ tail ≠ []) :
    statement.run (us ++ (tail ++ rest)) = (statement.run (us ++ tail)).extend rest := by
  cases us with
  | nil =>
    -- A lone semicolon: nothing that opens a statement comes before it.
    rcases h with ⟨t, rfl, ht⟩ | ⟨rfl, _⟩
    · have hs : Sealed [t] rest := .inl ⟨t, rfl, ht⟩
      have he := expression_sealed hs .openExpression .expr []
      simpa [statement, take?, ht] using he
    · simp at hn
  | cons t us =>
    rw [List.cons_append, List.cons_append]
    by_cases hv : t.kind = .kwVar
    · rw [statement_of_var hv, statement_of_var hv]
      exact declared_sealed h us
    by_cases hp : t.kind = .kwPrint
    · rw [statement_of_print hp, statement_of_print hp]
      exact expression_sealed h _ _ us
    · rw [statement_of_other hv hp, statement_of_other hv hp]
      exact expression_sealed h _ _ (t :: us)

/-- Where a statement is read to: behind its own semicolon, or not as far as any. -/
def Ends (ts : List Token) : Outcome Stmt → Prop
  | .done _ _ rest => ∃ us t, ts = us ++ t :: rest ∧ t.kind = .semicolon
  | .failed _ _ rest => ∃ us, ts = us ++ rest ∧ ∀ t ∈ us, t.kind ≠ .semicolon

theorem Ends.behind (us : List Token) (hu : ∀ t ∈ us, t.kind ≠ .semicolon) (h : Ends ts o) :
    Ends (us ++ ts) o := by
  cases o with
  | done =>
    obtain ⟨vs, t, rfl, ht⟩ := h
    exact ⟨us ++ vs, t, (List.append_assoc ..).symm, ht⟩
  | failed =>
    obtain ⟨vs, rfl, hv⟩ := h
    refine ⟨us ++ vs, (List.append_assoc ..).symm, fun t ht => ?_⟩
    rcases List.mem_append.mp ht with ht | ht
    · exact hu t ht
    · exact hv t ht

theorem Ends.suffix (h : Ends ts o) : o.rest <:+ ts := by
  cases o with
  | done s misplaced rest =>
    obtain ⟨us, t, rfl, -⟩ := h
    exact (List.suffix_cons t rest).trans (List.suffix_append us (t :: rest))
  | failed why misplaced rest =>
    obtain ⟨us, rfl, -⟩ := h
    exact List.suffix_append us rest

theorem Ends.after (h : Ends ts o) (earlier : List Token) : Ends ts (o.after earlier) := by
  cases o <;> exact h

theorem ends_closed (why : Complaint) (s : Stmt) (ts : List Token) :
    Ends ts (closed .semicolon why s ts) := by
  unfold closed
  split
  · next t rest took =>
    obtain ⟨rfl, ht⟩ := take?_eq_some_iff.mp took
    exact ⟨[], t, rfl, List.mem_singleton.mp ht⟩
  · exact ⟨[], rfl, by simp⟩

theorem ends_expression (why : Complaint) (f : Expr → Stmt) (ts : List Token) :
    Ends ts ((expression.run ts).andThen fun e => closed .semicolon why (f e)) := by
  obtain ⟨us, hts, hu⟩ := takesFront_expression ts
  have hu : ∀ t ∈ us, t.kind ≠ .semicolon := by
    intro t ht hk
    have hb := hu t ht
    simp [Kind.bounds, hk] at hb
  generalize expression.run ts = o at hts ⊢
  subst hts
  cases o with
  | done e misplaced rest => exact ((ends_closed why (f e) rest).after misplaced).behind us hu
  | failed => exact ⟨us, rfl, hu⟩

theorem ends_declared (ts : List Token) : Ends ts (declared ts) := by
  unfold declared
  split
  · exact ⟨[], rfl, by simp⟩
  · next name behind took =>
    obtain ⟨rfl, hn⟩ := take?_eq_some_iff.mp took
    rw [List.mem_singleton] at hn
    refine Ends.behind [name] (by simp [hn]) ?_
    split
    · exact ends_closed _ _ _
    · next equals initial took' =>
      obtain ⟨rfl, he⟩ := take?_eq_some_iff.mp took'
      rw [List.mem_singleton] at he
      exact Ends.behind [equals] (by simp [he]) (ends_expression _ _ _)

/-- A statement that is read ends behind its first semicolon, and one that is refused does not reach it. -/
theorem ends_statement (t : Token) (ts : List Token) : Ends (t :: ts) (statement.run (t :: ts)) := by
  by_cases hv : t.kind = .kwVar
  · rw [statement_of_var hv]
    exact Ends.behind [t] (by simp [hv]) (ends_declared ts)
  by_cases hp : t.kind = .kwPrint
  · rw [statement_of_print hp]
    exact Ends.behind [t] (by simp [hp]) (ends_expression _ _ ts)
  · rw [statement_of_other hv hp]
    exact ends_expression _ _ (t :: ts)

/-- What is left is the end of what there was. -/
theorem statement_suffix (h : statement.run (t :: ts) = o) : o.rest <:+ t :: ts := by
  rw [← h]
  exact (ends_statement t ts).suffix

end Lox.Parser
