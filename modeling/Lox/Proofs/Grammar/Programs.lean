import Lox.Proofs.Grammar.Completeness
import Lox.Proofs.Recovery.Ends
import Lox.Proofs.Source.Tokens
namespace Lox.Grammar

/-- A statement that may be read: its rule holds and its expression is not nested too deep. -/
def Readable (ts : List Token) (s : Stmt) : Prop := Statement ts s ∧ s.NestsWithin maxNesting

/-- A rule that ends in an expression and a semicolon, at its end. -/
theorem closed_sound {f : Expr → Stmt} (front : List Token)
    (hrule : ∀ us e semicolon, Derives .assignment us e → semicolon.kind = .semicolon →
      Statement (front ++ (us ++ [semicolon])) (f e))
    (hexpr : ∀ e, (f e).expr? = some e)
    (h : ((Parser.expression.run ts).andThen fun e => closed .semicolon why (f e)) =
      .done s misplaced rest) :
    Reads Readable (front ++ ts) s misplaced rest := by
  obtain ⟨e, earlier, behind, later, hr, hc, rfl⟩ := Outcome.andThen_eq_done_iff.mp h
  obtain ⟨rfl, rfl, semicolon, hs, rfl⟩ := closed_eq_done_iff.mp hc
  obtain ⟨us, hd, hsub, hall⟩ := expression_sound hr
  have hn : (f e).NestsWithin maxNesting := by
    intro e' he
    rw [hexpr, Option.mem_some] at he
    exact he ▸ Nat.le_of_lt_succ hd.2
  refine ⟨front ++ (us ++ [semicolon]), ⟨hrule us e semicolon hd.1 hs, hn⟩, ?_, ?_⟩
  · simpa using hsub
  · intro hm
    simp [hall (List.append_eq_nil_iff.mp hm).1]

theorem declared_sound (hv : var.kind = .kwVar) (h : Parser.declared ts = .done s misplaced rest) :
    Reads Readable (var :: ts) s misplaced rest := by
  unfold Parser.declared at h
  split at h
  · cases h
  · next name behind took =>
    obtain ⟨rfl, hn⟩ := take?_eq_some_iff.mp took
    rw [List.mem_singleton] at hn
    split at h
    · obtain ⟨rfl, rfl, semicolon, hs, rfl⟩ := closed_eq_done_iff.mp h
      exact ⟨[var, name, semicolon], ⟨.bare hv hn hs, nofun⟩, List.Sublist.refl _, fun _ => rfl⟩
    · next equals initial took' =>
      obtain ⟨rfl, he⟩ := take?_eq_some_iff.mp took'
      rw [List.mem_singleton] at he
      exact closed_sound [var, name, equals] (fun _ _ _ hd hs => .initialized hv hn he hd hs) (fun _ => rfl) h

/-- Whatever a statement is read as, the grammar derives it from the tokens it took. -/
theorem statement_sound (h : Parser.statement.run ts = .done s misplaced rest) :
    Reads Readable ts s misplaced rest := by
  simp only [Parser.statement] at h
  split at h
  · next var behind took =>
    obtain ⟨rfl, hv⟩ := take?_eq_some_iff.mp took
    exact declared_sound (List.mem_singleton.mp hv) h
  split at h
  · next keyword behind took =>
    obtain ⟨rfl, hk⟩ := take?_eq_some_iff.mp took
    rw [List.mem_singleton] at hk
    exact closed_sound [keyword] (fun _ _ _ hd hs => .print hk hd hs) (fun _ => rfl) h
  · exact closed_sound [] (fun _ _ _ hd hs => .expr hd hs) (fun _ => rfl) h

/-- Where no token went to an invalid target, statements stand for all tokens. -/
theorem upTo_sound (hend : ∀ t ∈ ts, t.kind ≠ .eof) (h : (Parse.upTo last ts).errors = []) :
    Program ts (Parse.upTo last ts).statements ∧
      ∀ s ∈ (Parse.upTo last ts).statements, s.NestsWithin maxNesting := by
  fun_induction Parse.upTo last ts with
  | case1 => exact ⟨.nil, by simp⟩
  | case2 t ts ht => exact absurd (by simpa [Parse.isEnd] using ht) (hend t List.mem_cons_self)
  | case3 t ts ht s misplaced rest read others ih =>
    obtain ⟨hm, ho⟩ := List.append_eq_nil_iff.mp h
    obtain ⟨us, hd, _, hall⟩ := statement_sound read
    rw [hall (List.map_eq_nil_iff.mp hm)] at hend ⊢
    obtain ⟨hp, hn⟩ := ih (fun u hu => hend u (List.mem_append_right _ hu)) ho
    exact ⟨.cons hd.1 hp, List.forall_mem_cons.mpr ⟨hd.2, hn⟩⟩
  | case4 t ts ht why misplaced rest read others ih => simp at h

theorem Statement.derives_expr (h : Statement us s) (he : e ∈ s.expr?) : ∃ vs, Derives .assignment vs e := by
  cases h with
  | bare => cases he
  | initialized _ _ _ h | print _ h | expr h =>
    cases he
    exact ⟨_, h⟩

/-- A statement that is kept was read from tokens that were there, with or without errors about it. -/
theorem readable_of_mem_upTo (h : s ∈ (Parse.upTo last ts).statements) : ∃ us, us ⊆ ts ∧ Readable us s := by
  fun_induction Parse.upTo last ts with
  | case1 | case2 => cases h
  | case3 t ts _ s' misplaced rest read others ih =>
    rcases List.mem_cons.mp h with rfl | h
    · obtain ⟨us, hd, hsub, -⟩ := statement_sound read
      exact ⟨us, ((List.sublist_append_left us rest).trans hsub).subset, hd⟩
    · obtain ⟨us, hsub, hd⟩ := ih h
      exact ⟨us, List.Subset.trans hsub (Parser.statement_suffix read).subset, hd⟩
  | case4 t ts _ why misplaced rest read others ih =>
    obtain ⟨us, hsub, hd⟩ := ih h
    have hgo : resume (t :: ts) rest <:+ t :: ts := (resume_suffix _ rest).trans (Parser.statement_suffix read)
    exact ⟨us, List.Subset.trans hsub hgo.subset, hd⟩

/-- No expression begins with a keyword that statements begin with. -/
theorem Derives.head (h : Derives n ts e) :
    ∃ t us, ts = t :: us ∧ t.kind ≠ .kwVar ∧ t.kind ≠ .kwPrint := by
  induction h with
  | equality _ ih => exact ih
  | operand _ _ ih => exact ih
  | primary _ ih => exact ih
  | binary _ _ _ _ ihl _ =>
    obtain ⟨t, us, rfl, ht⟩ := ihl
    exact ⟨t, _, List.cons_append, ht⟩
  | unary ho => exact ⟨_, _, rfl, by rcases ho with ho | ho <;> simp [ho]⟩
  | assign hk => exact ⟨_, _, rfl, by simp [hk]⟩
  | group hk => exact ⟨_, _, rfl, by simp [hk]⟩
  | number hk => exact ⟨_, _, rfl, by simp [hk]⟩
  | string hk => exact ⟨_, _, rfl, by simp [hk]⟩
  | «true» hk => exact ⟨_, _, rfl, by simp [hk]⟩
  | «false» hk => exact ⟨_, _, rfl, by simp [hk]⟩
  | nil hk => exact ⟨_, _, rfl, by simp [hk]⟩
  | global hk => exact ⟨_, _, rfl, by simp [hk]⟩

/-- An expression that is read leaves its semicolon, whatever is behind it. -/
theorem Derives.run_closed (h : Derives .assignment us e) (hd : e.nesting ≤ maxNesting)
    (hs : semicolon.kind = .semicolon) (why : Complaint) (f : Expr → Stmt) (rest : List Token) :
    ((Parser.expression.run (us ++ semicolon :: rest)).andThen fun e => closed .semicolon why (f e)) =
      .done (f e) [] rest := by
  have hr := (h.run hd).1 (semicolon :: rest) (.of_kind (.inr hs))
  change Parser.expression.run (us ++ semicolon :: rest) = _ at hr
  simp only [hr, Outcome.andThen]
  simp [closed, take?, hs]

/-- A statement that the grammar derives is read, whatever is behind it. -/
theorem Statement.run (h : Statement us s) (hd : s.NestsWithin maxNesting) (rest : List Token) :
    Parser.statement.run (us ++ rest) = .done s [] rest := by
  cases h with
  | bare hv hn hs =>
    rw [List.cons_append, Parser.statement_of_var hv]
    simp [Parser.declared, closed, take?, hn, hs]
  | @initialized ts e var name equals semicolon hv hn he h hs =>
    have hr := h.run_closed (hd _ rfl) hs .openDeclaration (fun e => .declare name (some e)) rest
    rw [List.cons_append, Parser.statement_of_var hv]
    simpa [Parser.declared, take?, hn, he] using hr
  | @print ts e keyword semicolon hk h hs =>
    have hr := h.run_closed (hd _ rfl) hs .openPrint (.print keyword) rest
    rw [List.cons_append, Parser.statement_of_print hk]
    simpa using hr
  | expr h hs =>
    have hr := h.run_closed (hd _ rfl) hs .openExpression .expr rest
    obtain ⟨t, ts, rfl, hv, hp⟩ := h.head
    rw [List.append_assoc, List.cons_append, Parser.statement_of_other hv hp]
    exact hr

theorem Statement.ne_nil (h : Statement us s) : us ≠ [] := by
  cases h with
  | bare | initialized | print => exact List.cons_ne_nil _ _
  | expr => simp

theorem Program.upTo_eq (h : Program ts ss) (hd : ∀ s ∈ ss, s.NestsWithin maxNesting)
    (hend : ∀ t ∈ ts, t.kind ≠ .eof) (last : Token) : Parse.upTo last ts = ⟨ss, []⟩ := by
  induction h with
  | nil => exact Parse.upTo_nil last
  | @cons us s rest others hs _ ih =>
    obtain ⟨hd, hds⟩ := List.forall_mem_cons.mp hd
    obtain ⟨t, us, rfl⟩ := List.exists_cons_of_ne_nil hs.ne_nil
    have ht := Parse.isEnd_eq_false_iff.mpr (hend t List.mem_cons_self)
    have hrun := hs.run hd rest
    rw [List.cons_append] at hrun ⊢
    rw [Parse.upTo_of_done ht hrun, ih hds fun u hu => hend u (List.mem_append_right _ hu)]
    rfl

/-- A source is clean where its text scans without an error and the grammar derives its tokens. -/
theorem isClean_iff_program :
    (IsClean source ∧ statementsOf source = ss) ↔
      errorsFrom 1 source.toList = [] ∧ Program (tokensFrom 1 source.toList) ss ∧
        ∀ s ∈ ss, s.NestsWithin maxNesting := by
  rw [IsClean, statementsOf, ofTokens_ofSource]
  constructor
  · rintro ⟨⟨hs, hp⟩, rfl⟩
    exact ⟨hs, upTo_sound (fun t => tokensFrom_ne_eof) hp⟩
  · rintro ⟨hs, hp, hd⟩
    rw [hp.upTo_eq hd fun t => tokensFrom_ne_eof]
    exact ⟨⟨hs, rfl⟩, rfl⟩

/-- A parse without errors is a derivation: of all tokens before the first end, by the rules of the grammar,
with no expression nested beyond the limit. -/
theorem ofTokens_eq_iff_program (ts : List Token) (ss : List Stmt) :
    ((Parse.ofTokens ts).errors = [] ∧ (Parse.ofTokens ts).statements = ss) ↔
      Program (ts.takeWhile (·.kind != .eof)) ss ∧ ∀ s ∈ ss, ∀ e ∈ s.expr?, e.nesting ≤ maxNesting := by
  change _ ↔ Program (ts.takeWhile (!Parse.isEnd ·)) ss ∧ _
  have hend : ∀ t ∈ ts.takeWhile (!Parse.isEnd ·), t.kind ≠ .eof := by
    intro t ht
    simpa [Parse.isEnd] using List.mem_takeWhile_imp ht
  obtain ⟨last, hread⟩ := Parse.exists_last ts
  rw [hread]
  constructor
  · rintro ⟨he, rfl⟩
    exact upTo_sound hend he
  · rintro ⟨hp, hd⟩
    have heq := hp.upTo_eq hd hend last
    simp only [heq, and_self]

end Lox.Grammar
