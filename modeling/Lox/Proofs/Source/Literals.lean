import Lox.Proofs.Grammar.Soundness
import Lox.Proofs.Recovery.Ends
import Lox.Proofs.Source.Split
namespace Lox

/-- A complaint about tokens that a scan does not make. -/
def Complaint.isDefensive : Complaint → Bool
  | malformedNumber | malformedString | noGroup => true
  | _ => false

structure Token.CarriesLiteral (t : Token) : Prop where
  number : t.kind = .number → ∃ x, t.literal = some (.number x)
  text : t.kind = .string → ∃ s, t.literal = some (.text s)

/-- A defensive complaint is about a token without its literal. -/
def Outcome.Warranted : Outcome α → Prop
  | done _ _ _ => True
  | failed why _ rest => why.isDefensive = true → ∃ t ∈ rest.head?, ¬t.CarriesLiteral

namespace Outcome

theorem warranted_failed {misplaced rest : List Token} (hw : why.isDefensive = false) :
    Warranted (.failed why misplaced rest : Outcome α) := by
  intro h
  rw [hw] at h
  cases h

theorem Warranted.after {o : Outcome α} (h : o.Warranted) (earlier : List Token) : (o.after earlier).Warranted := by
  cases o <;> exact h

/-- A complaint comes from one of the two readers. -/
theorem Warranted.andThen {o : Outcome α} {next : α → List Token → Outcome β} (h : o.Warranted)
    (hn : ∀ a us, (next a us).Warranted) : (o.andThen next).Warranted := by
  cases o with
  | done a misplaced rest => exact (hn a rest).after misplaced
  | failed => exact h

end Outcome

namespace Parser

theorem warranted_closed (hw : why.isDefensive = false) (tree : α) (ts : List Token) :
    (closed kind why tree ts).Warranted := by
  unfold closed
  split
  · trivial
  · exact Outcome.warranted_failed hw

theorem warranted_chainFrom {operand : Parser Expr} (ho : ∀ ts, (operand.run ts).Warranted) (lhs : Expr)
    (ts : List Token) : (chainFrom kinds operand lhs ts).Warranted := by
  fun_induction chainFrom kinds operand lhs ts with
  | case1 => trivial
  | case2 lhs ts op behind took rhs misplaced rest read ih => exact ih.after misplaced
  | case3 lhs ts op behind took why misplaced rest read =>
    have h := ho behind
    rw [read] at h
    exact h

theorem warranted_assignTo {value : Parser Expr} (hv : ∀ ts, (value.run ts).Warranted) (target : Expr)
    (ts : List Token) : (assignTo value target ts).Warranted := by
  unfold assignTo
  split
  · trivial
  · next equals behind took =>
    refine (hv behind).andThen fun e us => ?_
    split
    · trivial
    · trivial

/-- Where a group is read there is its parenthesis. -/
theorem warranted_grouped {inner : Parser Expr} (hi : ∀ ts, (inner.run ts).Warranted)
    (ho : opening.kind = .leftParen) (ts : List Token) : (grouped inner (opening :: ts)).Warranted := by
  rw [grouped_cons ho]
  exact (hi ts).andThen fun e us => warranted_closed rfl _ us

/-- Of a literal it is complained only where there is none. -/
theorem not_carriesLiteral_of_opening (h : Opening.of t = .error why) (hw : why.isDefensive = true) :
    ¬t.CarriesLiteral := by
  intro hc
  unfold Opening.of at h
  split at h
  case h_8 hk =>
    obtain ⟨x, hx⟩ := hc.number hk
    simp only [hx] at h
    cases h
  case h_9 hk =>
    obtain ⟨s, hs⟩ := hc.text hk
    simp only [hs] at h
    cases h
  case h_10 =>
    cases h
    cases hw
  all_goals cases h

theorem warranted_operand {nested inner : Parser Expr} (hn : ∀ ts, (nested.run ts).Warranted)
    (hi : ∀ ts, (inner.run ts).Warranted) (ts : List Token) : ((operand nested inner).run ts).Warranted := by
  cases ts with
  | nil => exact Outcome.warranted_failed rfl
  | cons t ts =>
    simp only [operand]
    split
    · next h => exact fun hw => ⟨t, rfl, not_carriesLiteral_of_opening h hw⟩
    · trivial
    · exact (hn ts).andThen fun _ _ => trivial
    · next h => exact warranted_grouped hi (Grammar.kind_of_group h) ts

/-- By induction on how deep readers may nest. -/
theorem warranted_expression (ts : List Token) : (expression.run ts).Warranted :=
  (Layer.nesting_induction (P := fun p => ∀ ts, (p.run ts).Warranted)
    (fun _ => Outcome.warranted_failed rfl) (fun _ _ => warranted_operand)
    (fun _ _ h ts => (h ts).andThen (warranted_chainFrom h))
    (fun _ _ ht hv ts => (ht ts).andThen (warranted_assignTo hv)) maxNesting).2 ts

theorem warranted_tail (why : Complaint) (hw : why.isDefensive = false) (f : Expr → Stmt) (ts : List Token) :
    ((expression.run ts).andThen fun e => closed .semicolon why (f e)).Warranted :=
  (warranted_expression ts).andThen fun _ us => warranted_closed hw _ us

theorem warranted_declared (ts : List Token) : (declared ts).Warranted := by
  unfold declared
  split
  · exact Outcome.warranted_failed rfl
  split
  · exact warranted_closed rfl _ _
  · exact warranted_tail _ rfl _ _

theorem warranted_statement (ts : List Token) : (statement.run ts).Warranted := by
  simp only [statement]
  split
  · exact warranted_declared _
  split
  · exact warranted_tail _ rfl _ _
  · exact warranted_tail _ rfl _ _

end Parser

/-- A defensive complaint is about one of the tokens, and that one is without its literal. -/
theorem Parse.upTo_warranted (h : .unexpected t why ∈ (upTo last ts).errors) (hw : why.isDefensive = true) :
    t ∈ ts ∧ ¬t.CarriesLiteral := by
  fun_induction upTo last ts with
  | case1 | case2 => cases h
  | case3 u us hend s misplaced rest read others ih =>
    have hothers : .unexpected t why ∈ others.errors := by simpa using h
    obtain ⟨ht, hc⟩ := ih hothers
    exact ⟨(Parser.statement_suffix read).subset ht, hc⟩
  | case4 u us hend why' misplaced rest read others ih =>
    have hrest : rest <:+ u :: us := Parser.statement_suffix read
    have hblame := Parser.warranted_statement (u :: us)
    rw [read] at hblame
    have hany : .unexpected t why = SyntaxError.unexpected (rest.headD last) why' ∨
        .unexpected t why ∈ others.errors := by simpa using h
    rcases hany with he | hothers
    · cases he
      obtain ⟨v, hv, hc⟩ := hblame hw
      rw [List.headD_eq_head?_getD, hv]
      exact ⟨hrest.subset (List.mem_of_head? hv), hc⟩
    · obtain ⟨ht, hc⟩ := ih hothers
      exact ⟨hrest.subset ((resume_suffix _ rest).subset ht), hc⟩

theorem Lexis.Lexeme.carriesLiteral (h : Lexeme text kind literal) :
    Token.CarriesLiteral ⟨kind, lexeme, literal, line⟩ := by
  cases h with
  | symbol hs =>
    have hall : ∀ s ∈ symbols, s.2 ≠ .number ∧ s.2 ≠ .string := by decide
    exact ⟨fun hk => absurd hk (hall _ hs).1, fun hk => absurd hk (hall _ hs).2⟩
  | string => exact ⟨nofun, fun _ => ⟨_, rfl⟩⟩
  | whole => exact ⟨fun _ => ⟨_, rfl⟩, nofun⟩
  | fraction => exact ⟨fun _ => ⟨_, rfl⟩, nofun⟩
  | keyword hw hm =>
    have hall : ∀ p ∈ keywords, p.2 ≠ .number ∧ p.2 ≠ .string := by decide
    exact ⟨fun hk => absurd hk (hall _ hm).1, fun hk => absurd hk (hall _ hm).2⟩
  | name => exact ⟨nofun, nofun⟩

/-- Scanned numbers and strings come with what the parser takes from them. -/
theorem carriesLiteral_of_mem_tokensFrom (h : t ∈ tokensFrom line text) : t.CarriesLiteral :=
  (spelt_of_mem_tokensFrom h).carriesLiteral

/-- The three messages are those of the defensive complaints, and of no others. -/
theorem isDefensive_of_message {why : Complaint}
    (h : why.message ∈ ["Malformed number literal.", "Malformed string literal.", "Expect '('."]) :
    why.isDefensive = true := by
  cases why with
  | malformedNumber | malformedString | noGroup => rfl
  | _ => exact absurd h (by decide)

/-- The numbers and strings of a source carry their literals, no end has to be put behind its tokens, and none of the
defensive complaints is ever made. -/
theorem ofSource_well_formed (source : String) :
    (∀ t ∈ (Scan.ofSource source).tokens, t.CarriesLiteral) ∧
    (Buffer.ofTokens (Scan.ofSource source).tokens).toList = (Scan.ofSource source).tokens ∧
    ∀ t why, .unexpected t why ∈ (Parse.ofTokens (Scan.ofSource source).tokens).errors →
      why.message ∉ ["Malformed number literal.", "Malformed string literal.", "Expect '('."] := by
  refine ⟨fun t ht => ?_, ?_, fun t why he hm => ?_⟩
  · rw [ofSource_eq] at ht
    rcases List.mem_append.mp ht with ht | ht
    · exact carriesLiteral_of_mem_tokensFrom ht
    · obtain rfl := List.mem_singleton.mp ht
      exact ⟨nofun, nofun⟩
  · rw [buffer_ofSource, ofSource_eq]
    rfl
  · have hw : why.isDefensive = true := isDefensive_of_message hm
    rw [ofTokens_ofSource] at he
    obtain ⟨ht, hc⟩ := Parse.upTo_warranted he hw
    exact hc (carriesLiteral_of_mem_tokensFrom ht)

end Lox
