import Lox.Proofs.Grammar.Programs
namespace Lox

/-- How deep evaluation and display recurse. -/
def Expr.height : Expr → Nat
  | scalar _ | global _ => 1
  | group inner => inner.height + 1
  | unary _ operand => operand.height + 1
  | binary lhs _ rhs => max lhs.height rhs.height + 1
  | assign _ value => value.height + 1

/-- The operators at the root that stand each at the left of the one before. -/
def Expr.spine : Expr → Nat
  | binary lhs _ _ => lhs.spine + 1
  | _ => 0

/-- The longest spine in the tree. -/
def Expr.chain : Expr → Nat
  | scalar _ | global _ => 0
  | group inner => inner.chain
  | unary _ operand => operand.chain
  | binary lhs _ rhs => max (max lhs.chain rhs.chain) (lhs.spine + 1)
  | assign _ value => value.chain

theorem Expr.spine_le_chain (e : Expr) : e.spine ≤ e.chain := by
  cases e with
  | binary => exact Nat.le_max_right _ _
  | _ => exact Nat.zero_le _

theorem Expr.spine_lt_height (e : Expr) : e.spine < e.height := by
  induction e with
  | binary lhs op rhs ihl _ =>
    simp only [spine, height]
    omega
  | _ => simp [spine, height]

theorem Expr.chain_lt_height (e : Expr) : e.chain < e.height := by
  induction e with
  | scalar | global => exact Nat.one_pos
  | group _ ih | unary _ _ ih | assign _ _ ih => exact Nat.lt_succ_of_lt ih
  | binary lhs op rhs ihl ihr =>
    have hs := lhs.spine_lt_height
    simp only [chain, height]
    omega

namespace Grammar

/-- How many times an operand can be a spine of its own before it has to be unary. -/
def Nonterminal.spines : Nonterminal → Nat
  | assignment | equality => 3
  | comparison => 2
  | term => 1
  | factor | unary | primary => 0

theorem Nonterminal.spines_le (n : Nonterminal) : n.spines ≤ 3 := by
  cases n <;> decide

theorem Derives.spine_of_primary (h : Derives .primary ts e) : e.spine = 0 := by
  cases h with
  | operand hj | binary hj => cases hj
  | _ => rfl

/-- Only binary operators make a spine. -/
theorem Derives.spine_of_unary (h : Derives .unary ts e) : e.spine = 0 := by
  cases h with
  | operand hj | binary hj => cases hj
  | unary => rfl
  | primary h => exact h.spine_of_primary

/-- An operand has one spine less to spend than what it is an operand of. -/
theorem Joins.spines_le (hj : Joins n kinds tighter) (h : Derives tighter ts e) (hm : e.chain ≤ m) :
    e.spine + tighter.spines * m ≤ n.spines * m := by
  have hs := e.spine_le_chain
  cases hj with
  | equality | comparison | term =>
    simp only [Nonterminal.spines]
    omega
  | factor => simp [Nonterminal.spines, h.spine_of_unary]

/-- Inside a group, unary operator or assignment there may be four spines on the way to the next. -/
theorem nested_height_le {e : Expr} {n : Nonterminal}
    (h : e.height ≤ e.spine + n.spines * m + e.nesting * (4 * m + 1) + 1) (hm : e.chain ≤ m) :
    e.height + 1 ≤ (e.nesting + 1) * (4 * m + 1) + 1 := by
  have hspine := Nat.le_trans e.spine_le_chain hm
  have hn := Nat.mul_le_mul_right m n.spines_le
  rw [Nat.succ_mul]
  omega

/-- By induction on the derivation: each nesting may begin a few spines anew, none longer than the longest chain. -/
theorem Derives.height_le (h : Derives n ts e) (hm : e.chain ≤ m) :
    e.height ≤ e.spine + n.spines * m + e.nesting * (4 * m + 1) + 1 := by
  induction h with
  | number | string | «true» | «false» | nil | global => simp [Expr.height]
  | equality _ ih | primary _ ih => exact ih hm
  | operand hj h ih =>
    have hroom := hj.spines_le h hm
    have := ih hm
    omega
  | @binary n kinds tighter ts lhs us rhs op hj hl ho hr ihl ihr =>
    simp only [Expr.chain, Nat.max_le] at hm
    have hroom := hj.spines_le hr hm.1.2
    have hleft := ihl hm.1.1
    have hright := ihr hm.1.2
    have hnl := Nat.mul_le_mul_right (4 * m + 1) (Nat.le_max_left lhs.nesting rhs.nesting)
    have hnr := Nat.mul_le_mul_right (4 * m + 1) (Nat.le_max_right lhs.nesting rhs.nesting)
    simp only [Expr.height, Expr.spine, Expr.nesting]
    omega
  | assign _ _ _ ih | unary _ _ ih | group _ _ _ ih =>
    have hinner := nested_height_le (ih hm) hm
    simp only [Expr.height, Expr.spine, Expr.nesting]
    omega

end Grammar

def treesOf (source : String) : List Expr := (statementsOf source).filterMap Stmt.expr?

/-- Chains apart, the limit on nesting bounds the height. -/
theorem height_le_of_mem_treesOf (h : e ∈ treesOf source) :
    e.height ≤ (maxNesting + 1) * (4 * e.chain + 1) := by
  obtain ⟨s, hs, he⟩ := List.mem_filterMap.mp h
  rw [statementsOf, ofTokens_ofSource] at hs
  obtain ⟨us, -, hd, hn⟩ := Grammar.readable_of_mem_upTo hs
  obtain ⟨vs, hd⟩ := hd.derives_expr he
  have hheight := hd.height_le (Nat.le_refl e.chain)
  have hspine := e.spine_le_chain
  have hnest := Nat.mul_le_mul_right (4 * e.chain + 1) (hn e he)
  rw [Nat.succ_mul]
  simp only [Grammar.Nonterminal.spines] at hheight
  omega

def sumTail : Nat → List Char
  | 0 => [';']
  | n + 1 => '+' :: '1' :: sumTail n

def sumSource (n : Nat) : String := String.ofList ('1' :: sumTail n)

def sumPlus : Token := ⟨.plus, "+", none, 1⟩

def sumOne : Token := ⟨.number, "1", some (.number (Decimal.ofDigits ['1'] []).toDouble), 1⟩

def sumTokens : Nat → List Token
  | 0 => []
  | n + 1 => sumPlus :: sumOne :: sumTokens n

def sumEnd : Token := ⟨.semicolon, ";", none, 1⟩

theorem pieces_one (n : Nat) : pieces ('1' :: sumTail n) = .number ['1'] [] :: pieces (sumTail n) := by
  rw [pieces]
  cases n <;> rfl

theorem pieces_sumTail (n : Nat) :
    pieces (sumTail (n + 1)) = .symbol .plus ['+'] :: .number ['1'] [] :: pieces (sumTail n) := by
  rw [sumTail, pieces, ← pieces_one]
  rfl

theorem pieces_sumEnd : pieces [';'] = [.symbol .semicolon [';']] := by
  rw [pieces]
  simp [Piece.first, Piece.operator, Piece.isBlank, Piece.isWordStart, Piece.symbol?, pieces]

theorem tokensFrom_sumTail (n : Nat) :
    tokensFrom 1 (sumTail n) = sumTokens n ++ [sumEnd] ∧ errorsFrom 1 (sumTail n) = [] := by
  induction n with
  | zero =>
    rw [sumTail, tokensFrom, errorsFrom, pieces_sumEnd]
    exact ⟨rfl, rfl⟩
  | succ n ih =>
    rw [tokensFrom, errorsFrom, pieces_sumTail]
    exact ⟨congrArg _ (congrArg _ ih.1), ih.2⟩

/-- The sum scans to its numbers and signs, without an error. -/
theorem tokensFrom_sumSource (n : Nat) :
    tokensFrom 1 (sumSource n).toList = sumOne :: sumTokens n ++ [sumEnd] ∧
      errorsFrom 1 (sumSource n).toList = [] := by
  rw [sumSource, String.toList_ofList, tokensFrom, errorsFrom, pieces_one]
  exact ⟨congrArg _ (tokensFrom_sumTail n).1, (tokensFrom_sumTail n).2⟩

/-- Every plus sign makes the sum before it the left operand of a new one. -/
theorem sum_derives (n : Nat) (h : Grammar.Derives .term us lhs) (hd : lhs.nesting = 0) :
    ∃ e, Grammar.Derives .term (us ++ sumTokens n) e ∧ e.nesting = 0 ∧ n + lhs.height ≤ e.height := by
  induction n generalizing us lhs with
  | zero => exact ⟨lhs, by simpa [sumTokens] using h, hd, by simp⟩
  | succ n ih =>
    have hone : Grammar.Derives .factor [sumOne] (.scalar (.number (Decimal.ofDigits ['1'] []).toDouble)) :=
      .operand .factor (.primary (.number rfl rfl))
    have hsum : Grammar.Derives .term (us ++ [sumPlus, sumOne]) (.binary lhs sumPlus _) :=
      .binary .term h (by simp [sumPlus]) hone
    obtain ⟨e, he, hn, hh⟩ := ih hsum (by simp [Expr.nesting, hd])
    refine ⟨e, by simpa [sumTokens] using he, hn, ?_⟩
    simp only [Expr.height] at hh
    omega

/-- A sum is clean, and its tree is higher than it has plus signs. -/
theorem sum_height (n : Nat) : IsClean (sumSource n) ∧ ∃ e ∈ treesOf (sumSource n), n < e.height := by
  obtain ⟨htokens, herrors⟩ := tokensFrom_sumSource n
  have hone : Grammar.Derives .term [sumOne] (.scalar (.number (Decimal.ofDigits ['1'] []).toDouble)) :=
    .operand .term (.operand .factor (.primary (.number rfl rfl)))
  obtain ⟨e, hd, hnest, hheight⟩ := sum_derives n hone rfl
  have hassign : Grammar.Derives .assignment (sumOne :: sumTokens n) e :=
    .equality (.operand .equality (.operand .comparison hd))
  have hprogram : Grammar.Program (sumOne :: sumTokens n ++ [sumEnd]) [.expr e] := by
    simpa using Grammar.Program.cons (.expr hassign rfl) .nil
  have hwithin : ∀ s ∈ [Stmt.expr e], s.NestsWithin maxNesting := by
    simp [Stmt.NestsWithin, Stmt.expr?, hnest]
  rw [← htokens] at hprogram
  obtain ⟨hclean, hstatements⟩ := Grammar.isClean_iff_program.mpr ⟨herrors, hprogram, hwithin⟩
  refine ⟨hclean, e, by simp [treesOf, hstatements, Stmt.expr?], ?_⟩
  simp only [Expr.height] at hheight
  omega

/-- Over any sources the trees are of bounded height if and only if their chains of operators are of bounded
length: a tree is deeper than its longest chain, and not deeper than the limit on nesting allows with chains
of this length. -/
theorem height_bounded_iff_chain_bounded (P : String → Prop) :
    (∀ source, P source → ∀ e ∈ treesOf source,
      e.chain < e.height ∧ e.height ≤ (maxNesting + 1) * (4 * e.chain + 1)) ∧
    ((∃ k, ∀ source, P source → ∀ e ∈ treesOf source, e.height ≤ k) ↔
      ∃ m, ∀ source, P source → ∀ e ∈ treesOf source, e.chain ≤ m) := by
  refine ⟨fun source _ e he => ⟨e.chain_lt_height, height_le_of_mem_treesOf he⟩, ?_, ?_⟩
  · rintro ⟨k, hk⟩
    refine ⟨k, fun source hs e he => ?_⟩
    exact Nat.le_of_lt (Nat.lt_of_lt_of_le e.chain_lt_height (hk source hs e he))
  · rintro ⟨m, hm⟩
    refine ⟨(maxNesting + 1) * (4 * m + 1), fun source hs e he => ?_⟩
    refine Nat.le_trans (height_le_of_mem_treesOf he) (Nat.mul_le_mul_left _ ?_)
    have := hm source hs e he
    omega

/-- No height is enough for all sources, not even for those without an error. -/
theorem height_unbounded : ¬∃ k, ∀ source, IsClean source → ∀ e ∈ treesOf source, e.height ≤ k := by
  rintro ⟨k, hk⟩
  obtain ⟨hclean, e, he, hheight⟩ := sum_height k
  exact Nat.not_le_of_lt hheight (hk _ hclean e he)

end Lox
