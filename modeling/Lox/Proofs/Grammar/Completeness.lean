import Lox.Proofs.Grammar.Soundness
namespace Lox.Grammar

def levels : Nonterminal → List Level
  | .assignment | .equality => [.equality, .comparison, .term, .factor]
  | .comparison => [.comparison, .term, .factor]
  | .term => [.term, .factor]
  | .factor => [.factor]
  | .unary | .primary => []

def reader (layer : Layer) : Nonterminal → Parser Expr
  | .assignment => layer.assignment
  | n => Parser.binary layer.unary (levels n)

/-- Nothing here goes on a tree of this nonterminal. -/
def Quiet (n : Nonterminal) (rest : List Token) : Prop :=
  ∀ t ∈ rest.head?, (n = .assignment → t.kind ≠ .equal) ∧ ∀ l ∈ levels n, t.kind ∉ l.kinds

theorem Joins.unique (hj : Joins n kinds tighter) (hj' : Joins n kinds' tighter') :
    kinds = kinds' ∧ tighter = tighter' := by
  cases hj <;> cases hj' <;> exact ⟨rfl, rfl⟩

theorem Joins.reader_eq (hj : Joins n kinds tighter) (layer : Layer) :
    reader layer n = Parser.chain kinds (reader layer tighter) := by
  cases hj <;> rfl

/-- Down one rule, the operators of one level less may go on a tree. -/
theorem Joins.levels_eq (hj : Joins n kinds tighter) :
    n ≠ .assignment ∧ tighter ≠ .assignment ∧
      ∃ l, l.kinds = kinds ∧ levels n = l :: levels tighter := by
  cases hj
  · exact ⟨nofun, nofun, .equality, rfl, rfl⟩
  · exact ⟨nofun, nofun, .comparison, rfl, rfl⟩
  · exact ⟨nofun, nofun, .term, rfl, rfl⟩
  · exact ⟨nofun, nofun, .factor, rfl, rfl⟩

/-- No operator belongs to two levels. -/
theorem Joins.quiet_operator (hj : Joins n kinds tighter) (ho : op.kind ∈ kinds) :
    Quiet tighter (op :: ts) := by
  intro t ht
  cases ht
  refine ⟨fun h => absurd h hj.levels_eq.2.1, fun l hl hk => ?_⟩
  cases hj <;> simp only [levels, List.mem_cons, List.not_mem_nil, or_false] at hl <;> grind [Level.kinds]

theorem Joins.take?_of_quiet (hj : Joins n kinds tighter) (hq : Quiet n rest) : take? kinds rest = none := by
  obtain ⟨_, _, l, rfl, hl⟩ := hj.levels_eq
  exact take?_eq_none_iff.mpr fun t ht => (hq t ht).2 l (by simp [hl])

/-- What goes on no tree of a level goes on none of a tighter one. -/
theorem Quiet.of_joins (hq : Quiet n rest) (hj : Joins n kinds tighter) : Quiet tighter rest := by
  obtain ⟨_, ha, l, _, hl⟩ := hj.levels_eq
  exact fun t ht => ⟨fun h => absurd h ha, fun l' hl' => (hq t ht).2 l' (by simp [hl, hl'])⟩

theorem Quiet.equality (hq : Quiet .assignment rest) : Quiet .equality rest :=
  fun t ht => ⟨nofun, (hq t ht).2⟩

theorem Quiet.unary : Quiet .unary rest := by simp [Quiet, levels]

theorem Quiet.primary : Quiet .primary rest := by simp [Quiet, levels]

theorem Quiet.of_kind (hk : t.kind = .rightParen ∨ t.kind = .semicolon) : Quiet n (t :: rest) := by
  intro u hu
  cases hu
  refine ⟨fun _ h => ?_, fun l _ h => ?_⟩
  · rw [h] at hk
    simp at hk
  · rcases hk with hk | hk <;> rw [hk] at h <;> cases l <;> simp [Level.kinds] at h

theorem quiet_equality_equals (he : equals.kind = .equal) : Quiet .equality (equals :: rest) := by
  intro t ht
  cases ht
  refine ⟨nofun, fun l _ h => ?_⟩
  rw [he] at h
  cases l <;> simp [Level.kinds] at h

/-- An operand stands at every level where no operator follows it. -/
theorem run_binary_of_quiet {p : Parser Expr} (h : p.run ts = .done e [] rest)
    (hq : ∀ t ∈ rest.head?, ∀ l ∈ ls, t.kind ∉ l.kinds) :
    (Parser.binary p ls).run ts = .done e [] rest := by
  induction ls with
  | nil => exact h
  | cons l ls ih =>
    have htighter := ih fun t ht l' hl' => hq t ht l' (List.mem_cons_of_mem _ hl')
    have hnone : take? l.kinds rest = none :=
      take?_eq_none_iff.mpr fun t ht => hq t ht l List.mem_cons_self
    simp only [Parser.binary, Parser.chain, htighter, Outcome.andThen, Parser.chainFrom_of_none hnone]
    rfl

theorem nesting_unary (depth : Nat) :
    ∃ nested inner, (Layer.nesting depth).unary = Parser.operand nested inner := by
  cases depth <;> exact ⟨_, _, rfl⟩

theorem nesting_assignment (depth : Nat) : ∃ value,
    (Layer.nesting depth).assignment = Parser.assignment (reader (Layer.nesting depth) .equality) value := by
  cases depth <;> exact ⟨_, rfl⟩

theorem run_of_whole (h : Opening.of t = .ok (.whole e)) :
    (Layer.nesting depth).unary.run (t :: rest) = .done e [] rest := by
  obtain ⟨nested, inner, he⟩ := nesting_unary depth
  simp only [he, Parser.operand, h]

theorem opening_of_operator (ho : op.kind = .bang ∨ op.kind = .minus) : Opening.of op = .ok .operator := by
  rcases ho with h | h <;> simp [Opening.of, h]

/-- An operator before an operand takes one nesting. -/
theorem run_of_nested (ho : op.kind = .bang ∨ op.kind = .minus)
    (h : (Layer.nesting depth).unary.run ts = .done e [] rest) :
    (Layer.nesting (depth + 1)).unary.run (op :: ts) = .done (.unary op e) [] rest := by
  simp only [Layer.nesting, Layer.around, Parser.operand, opening_of_operator ho, h]
  rfl

/-- A group takes one nesting, and its parenthesis ends what is in it. -/
theorem run_of_inner (ho : opening.kind = .leftParen) (hc : closing.kind = .rightParen)
    (h : (Layer.nesting depth).assignment.run ts = .done e [] (closing :: rest)) :
    (Layer.nesting (depth + 1)).unary.run (opening :: ts) = .done (.group e) [] rest := by
  have hg : Opening.of opening = .ok .group := by simp [Opening.of, ho]
  simp only [Layer.nesting, Layer.around, Parser.operand, hg, Parser.grouped_cons ho, h, Outcome.andThen]
  simp [closed, take?, hc, Outcome.after]

/-- An assignment takes one nesting for its right side. -/
theorem run_of_value (hn : name.kind = .identifier) (he : equals.kind = .equal)
    (h : (Layer.nesting depth).assignment.run ts = .done e [] rest) :
    (Layer.nesting (depth + 1)).assignment.run (name :: equals :: ts) = .done (.assign name e) [] rest := by
  have hname : (Layer.nesting (depth + 1)).unary.run (name :: equals :: ts) =
      .done (.global name) [] (equals :: ts) := run_of_whole (by simp [Opening.of, hn])
  have htarget := run_binary_of_quiet hname fun t ht => (quiet_equality_equals he t ht).2
  have htake : take? [.equal] (equals :: ts) = some (equals, ts) := by simp [take?, he]
  change ((Parser.binary (Layer.nesting (depth + 1)).unary (levels .equality)).run _).andThen
    (Parser.assignTo (Layer.nesting depth).assignment) = _
  rw [htarget]
  simp only [Outcome.andThen, Parser.assignTo, htake, h]
  rfl

/-- Read up to the end of the tree. At a level of binary operators the tree may be the left operand of more:
that is what carries the induction through a chain, whose derivation ends where the reader goes on. -/
def RunsAs (depth : Nat) (n : Nonterminal) (us : List Token) (e : Expr) : Prop :=
  (∀ rest, Quiet n rest → (reader (Layer.nesting depth) n).run (us ++ rest) = .done e [] rest) ∧
  (∀ kinds tighter rest, Joins n kinds tighter → Quiet tighter rest →
    (reader (Layer.nesting depth) n).run (us ++ rest) =
      Parser.chainFrom kinds (reader (Layer.nesting depth) tighter) e rest)

/-- A token that is a tree of its own. -/
theorem RunsAs.whole (h : Opening.of t = .ok (.whole e)) : RunsAs depth .primary [t] e :=
  ⟨fun _ _ => run_of_whole h, fun _ _ _ hj => by cases hj⟩

/-- What is read as the beginning of a chain is read as a tree where the chain goes no further. -/
theorem RunsAs.of_chain (hj : Joins n kinds tighter)
    (h : ∀ rest, Quiet tighter rest → (reader (Layer.nesting depth) n).run (us ++ rest) =
      Parser.chainFrom kinds (reader (Layer.nesting depth) tighter) e rest) : RunsAs depth n us e := by
  refine ⟨fun rest hq => ?_, fun kinds' tighter' rest hj' hq => ?_⟩
  · rw [h rest (hq.of_joins hj), Parser.chainFrom_of_none (hj.take?_of_quiet hq)]
  · obtain ⟨rfl, rfl⟩ := hj.unique hj'
    exact h rest hq

/-- What is derived is read by any layer that nests deep enough for it. -/
theorem Derives.run (h : Derives n us e) (hd : e.nesting ≤ depth) : RunsAs depth n us e := by
  induction h generalizing depth with
  | assign hn he hv ih =>
    refine ⟨fun rest hq => ?_, fun _ _ _ hj => by cases hj⟩
    cases depth with
    | zero => cases hd
    | succ depth => exact run_of_value hn he ((ih (Nat.le_of_succ_le_succ hd)).1 rest hq)
  | equality h ih =>
    refine ⟨fun rest hq => ?_, fun _ _ _ hj => by cases hj⟩
    obtain ⟨value, ha⟩ := nesting_assignment depth
    have hnone : take? [.equal] rest = none :=
      take?_eq_none_iff.mpr fun t ht => by simpa using (hq t ht).1 rfl
    have hr := (ih hd).1 rest hq.equality
    simp only [reader, ha, Parser.assignment] at hr ⊢
    rw [hr]
    simp only [Outcome.andThen, Parser.assignTo, hnone]
    rfl
  | operand hj h ih =>
    refine .of_chain hj fun rest hq => ?_
    simp only [hj.reader_eq, Parser.chain, (ih hd).1 rest hq, Outcome.andThen, Outcome.after_nil]
  | binary hj hl ho hr ihl ihr =>
    obtain ⟨hdl, hdr⟩ := Nat.max_le.mp hd
    refine .of_chain hj fun rest hq => ?_
    have hrhs := (ihr hdr).1 rest hq
    rw [List.append_assoc, List.cons_append, (ihl hdl).2 _ _ _ hj (hj.quiet_operator ho),
      Parser.chainFrom_cons ho, hrhs, Outcome.andThen, Outcome.after_nil]
  | unary ho h ih =>
    refine ⟨fun rest hq => ?_, fun _ _ _ hj => by cases hj⟩
    cases depth with
    | zero => cases hd
    | succ depth => exact run_of_nested ho ((ih (Nat.le_of_succ_le_succ hd)).1 rest .unary)
  | primary h ih => exact ⟨fun rest _ => (ih hd).1 rest .primary, fun _ _ _ hj => by cases hj⟩
  | number hk hl => exact .whole (by simp [Opening.of, hk, hl])
  | string hk hl => exact .whole (by simp [Opening.of, hk, hl])
  | «true» hk => exact .whole (by simp [Opening.of, hk])
  | «false» hk => exact .whole (by simp [Opening.of, hk])
  | nil hk => exact .whole (by simp [Opening.of, hk])
  | global hk => exact .whole (by simp [Opening.of, hk])
  | group ho h hc ih =>
    refine ⟨fun rest hq => ?_, fun _ _ _ hj => by cases hj⟩
    cases depth with
    | zero => cases hd
    | succ depth =>
      rw [List.cons_append, List.append_assoc]
      exact run_of_inner ho hc ((ih (Nat.le_of_succ_le_succ hd)).1 _ (.of_kind (.inl hc)))

/-- A layer that nests deep enough for both trees reads them from the same tokens. -/
theorem Derives.unique (h : Derives n ts e) (h' : Derives n ts e') : e = e' := by
  have hq : Quiet n [] := nofun
  have hr := (h.run (Nat.le_max_left e.nesting e'.nesting)).1 [] hq
  have hr' := (h'.run (Nat.le_max_right e.nesting e'.nesting)).1 [] hq
  rw [hr] at hr'
  cases hr'
  rfl

end Lox.Grammar
