import Lox.Parse
import Lox.Proofs.Grammar.Basic
namespace Lox

/-- A tree read from the front of some tokens. Behind a misplaced equals sign tokens are taken and dropped,
so only without one has everything taken gone into the tree. -/
def Reads (derives : List Token → α → Prop) (ts : List Token) (tree : α)
    (misplaced rest : List Token) : Prop :=
  ∃ us, derives us tree ∧ (us ++ rest).Sublist ts ∧ (misplaced = [] → ts = us ++ rest)

namespace Grammar

def DerivesBelow (depth : Nat) (n : Nonterminal) (ts : List Token) (e : Expr) : Prop :=
  Derives n ts e ∧ e.nesting < depth

def Sound (depth : Nat) (n : Nonterminal) (p : Parser Expr) : Prop :=
  ∀ ts e misplaced rest, p.run ts = .done e misplaced rest →
    Reads (DerivesBelow depth n) ts e misplaced rest

/-- An operator between two operands nests neither of them. -/
theorem DerivesBelow.binary (hj : Joins n kinds tighter) (hl : DerivesBelow depth n ts lhs)
    (ho : op.kind ∈ kinds) (hr : DerivesBelow depth tighter us rhs) :
    DerivesBelow depth n (ts ++ op :: us) (.binary lhs op rhs) :=
  ⟨.binary hj hl.1 ho hr.1, Nat.max_lt.mpr ⟨hl.2, hr.2⟩⟩

/-- What the chain takes goes on from what its left operand was derived from. -/
theorem chainFrom_sound {operand : Parser Expr} (hj : Joins n kinds tighter)
    (hs : Sound depth tighter operand) (hl : DerivesBelow depth n vs lhs)
    (h : Parser.chainFrom kinds operand lhs ts = .done e misplaced rest) :
    Reads (fun us => DerivesBelow depth n (vs ++ us)) ts e misplaced rest := by
  fun_induction Parser.chainFrom kinds operand lhs ts generalizing vs misplaced with
  | case1 lhs ts none =>
    cases h
    exact ⟨[], by simpa using hl, by simp, by simp⟩
  | case2 lhs ts op behind took rhs earlier next hread ih =>
    obtain ⟨rfl, ho⟩ := take?_eq_some_iff.mp took
    obtain ⟨later, hgo, rfl⟩ := Outcome.after_eq_done_iff.mp h
    obtain ⟨us, hr, hsub, hall⟩ := hs _ _ _ _ hread
    obtain ⟨ws, hd, hsub', hall'⟩ := ih (hl.binary hj ho hr) hgo
    refine ⟨op :: (us ++ ws), by simpa using hd, ?_, ?_⟩
    · rw [List.cons_append, List.append_assoc]
      exact (((List.Sublist.refl us).append hsub').trans hsub).cons_cons op
    · intro hm
      obtain ⟨he, hl'⟩ := List.append_eq_nil_iff.mp hm
      simp [hall he, hall' hl']
  | case3 => cases h

theorem Sound.chain {operand : Parser Expr} (hj : Joins n kinds tighter) (hs : Sound depth tighter operand) :
    Sound depth n (Parser.chain kinds operand) := by
  intro ts e misplaced rest h
  obtain ⟨lhs, earlier, behind, later, hl, hgo, rfl⟩ := Outcome.andThen_eq_done_iff.mp h
  obtain ⟨us, hd, hsub, hall⟩ := hs _ _ _ _ hl
  obtain ⟨ws, hd', hsub', hall'⟩ := chainFrom_sound hj hs ⟨.operand hj hd.1, hd.2⟩ hgo
  refine ⟨us ++ ws, hd', ?_, ?_⟩
  · rw [List.append_assoc]
    exact ((List.Sublist.refl us).append hsub').trans hsub
  · intro hm
    obtain ⟨he, hl'⟩ := List.append_eq_nil_iff.mp hm
    simp [hall he, hall' hl']

/-- One level after the other, from the tightest. -/
theorem Sound.levels {unary : Parser Expr} (hs : Sound depth .unary unary) :
    Sound depth .equality (Parser.binary unary Level.loosestFirst) :=
  Sound.chain .equality (Sound.chain .comparison (Sound.chain .term (Sound.chain .factor hs)))

/-- Only the right side is nested. Without a name to its left it is dropped, and the left side stands. -/
theorem Sound.assignment {target value : Parser Expr} (ht : Sound (depth + 1) .equality target)
    (hv : Sound depth .assignment value) :
    Sound (depth + 1) .assignment (Parser.assignment target value) := by
  intro ts e misplaced rest h
  obtain ⟨lhs, earlier, behind, later, hl, hgo, rfl⟩ := Outcome.andThen_eq_done_iff.mp h
  obtain ⟨us, hd, hsub, hall⟩ := ht _ _ _ _ hl
  unfold Parser.assignTo at hgo
  split at hgo
  · cases hgo
    exact ⟨us, ⟨.equality hd.1, hd.2⟩, hsub, by simpa using hall⟩
  · next equals inner took =>
    obtain ⟨rfl, he⟩ := take?_eq_some_iff.mp took
    obtain ⟨v, before, after, last, hr, hkeep, rfl⟩ := Outcome.andThen_eq_done_iff.mp hgo
    clear hgo
    obtain ⟨ws, hw, hsub', hall'⟩ := hv _ _ _ _ hr
    split at hkeep
    · next name =>
      cases hkeep
      obtain ⟨rfl, hn⟩ := hd.1.of_global
      refine ⟨name :: equals :: ws, ⟨.assign hn (by simpa using he) hw.1, Nat.succ_lt_succ hw.2⟩, ?_, ?_⟩
      · exact ((hsub'.cons_cons equals).cons_cons name).trans hsub
      · intro hm
        simp only [List.append_nil, List.append_eq_nil_iff] at hm
        simp [hall hm.1, hall' hm.2]
    · -- The right side is read but not kept.
      cases hkeep
      refine ⟨us, ⟨.equality hd.1, hd.2⟩, ?_, by simp⟩
      have hrest := ((List.sublist_append_right ws rest).trans hsub').cons equals
      exact ((List.Sublist.refl us).append hrest).trans hsub

/-- What is refused is not read, so there is nothing to be derived. -/
theorem Sound.refuse (why : Complaint) : Sound 0 n (Parser.refuse why) := by
  intro ts e misplaced rest h
  cases h

theorem derives_of_whole (h : Opening.of t = .ok (.whole e)) : Derives .primary [t] e ∧ e.nesting = 0 := by
  unfold Opening.of at h
  repeat' split at h
  all_goals cases h
  all_goals refine ⟨?_, rfl⟩
  · exact .nil ‹_›
  · exact .true ‹_›
  · exact .false ‹_›
  · exact .global ‹_›
  · exact .number ‹_› ‹_›
  · exact .string ‹_› ‹_›

theorem kind_of_operator (h : Opening.of t = .ok .operator) : t.kind = .bang ∨ t.kind = .minus := by
  unfold Opening.of at h
  repeat' split at h
  all_goals cases h
  · exact .inl ‹_›
  · exact .inr ‹_›

theorem kind_of_group (h : Opening.of t = .ok .group) : t.kind = .leftParen := by
  unfold Opening.of at h
  repeat' split at h
  all_goals cases h
  assumption

/-- Groups and operators before operands are nested in what may nest once less. -/
theorem Sound.operand {nested inner : Parser Expr} (hn : Sound depth .unary nested)
    (hi : Sound depth .assignment inner) : Sound (depth + 1) .unary (Parser.operand nested inner) := by
  intro ts e misplaced rest h
  cases ts with
  | nil => cases h
  | cons t ts =>
    simp only [Parser.operand] at h
    split at h
    · cases h
    · next whole =>
      cases h
      obtain ⟨hd, hz⟩ := derives_of_whole whole
      exact ⟨[t], ⟨.primary hd, by omega⟩, List.Sublist.refl _, fun _ => rfl⟩
    · next operator =>
      obtain ⟨a, earlier, behind, later, hr, hgo, rfl⟩ := Outcome.andThen_eq_done_iff.mp h
      cases hgo
      obtain ⟨us, hd, hsub, hall⟩ := hn _ _ _ _ hr
      refine ⟨t :: us, ⟨.unary (kind_of_operator operator) hd.1, Nat.succ_lt_succ hd.2⟩,
        hsub.cons_cons t, ?_⟩
      intro hm
      simp [hall (List.append_eq_nil_iff.mp hm).1]
    · next group =>
      rw [Parser.grouped_cons (kind_of_group group)] at h
      obtain ⟨a, earlier, behind, later, hr, hgo, rfl⟩ := Outcome.andThen_eq_done_iff.mp h
      obtain ⟨rfl, rfl, closing, hc, rfl⟩ := closed_eq_done_iff.mp hgo
      obtain ⟨us, hd, hsub, hall⟩ := hi _ _ _ _ hr
      refine ⟨t :: (us ++ [closing]),
        ⟨.primary (.group (kind_of_group group) hd.1 hc), Nat.succ_lt_succ hd.2⟩, ?_, ?_⟩
      · simpa using hsub
      · intro hm
        simp [hall (List.append_eq_nil_iff.mp hm).1]

/-- A layer reads what nests no deeper than it may. -/
theorem sound_nesting (depth : Nat) : Sound (depth + 1) .unary (Layer.nesting depth).unary ∧
    Sound (depth + 1) .assignment (Layer.nesting depth).assignment := by
  induction depth with
  | zero =>
    have hu := Sound.operand (Sound.refuse .tooMuchNesting) (Sound.refuse .tooMuchNesting)
    exact ⟨hu, Sound.assignment (Sound.levels hu) (Sound.refuse .tooMuchNesting)⟩
  | succ depth ih =>
    have hu := Sound.operand ih.1 ih.2
    exact ⟨hu, Sound.assignment (Sound.levels hu) ih.2⟩

/-- An expression that is read is derived from the tokens it took, and nests within the limit. -/
theorem expression_sound (h : Parser.expression.run ts = .done e misplaced rest) :
    Reads (DerivesBelow (maxNesting + 1) .assignment) ts e misplaced rest :=
  (sound_nesting maxNesting).2 _ _ _ _ h

end Grammar

end Lox
