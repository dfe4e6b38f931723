import Mathlib.Data.List.Forall2
import Lox.Proofs.Readers
namespace Lox

/-- Trees of the same shape, with related tokens and values at the same places. -/
inductive Expr.Like (R : Token → Token → Prop) (V : Value → Value → Prop) : Expr → Expr → Prop
  | scalar (hv : V v w) : Like R V (.scalar v) (.scalar w)
  | group (h : Like R V e e') : Like R V (.group e) (.group e')
  | unary (ho : R op op') (h : Like R V e e') : Like R V (.unary op e) (.unary op' e')
  | binary (hl : Like R V lhs lhs') (ho : R op op') (hr : Like R V rhs rhs') :
      Like R V (.binary lhs op rhs) (.binary lhs' op' rhs')
  | global (hn : R name name') : Like R V (.global name) (.global name')
  | assign (hn : R name name') (h : Like R V e e') : Like R V (.assign name e) (.assign name' e')

inductive Stmt.Like (R : Token → Token → Prop) (V : Value → Value → Prop) : Stmt → Stmt → Prop
  | expr (h : e.Like R V e') : Like R V (.expr e) (.expr e')
  | print (hk : R keyword keyword') (h : e.Like R V e') : Like R V (.print keyword e) (.print keyword' e')
  | bare (hn : R name name') : Like R V (.declare name none) (.declare name' none)
  | declare (hn : R name name') (h : e.Like R V e') :
      Like R V (.declare name (some e)) (.declare name' (some e'))

inductive SyntaxError.Like (R : Token → Token → Prop) : SyntaxError → SyntaxError → Prop
  | unexpected (ht : R t u) : Like R (.unexpected t why) (.unexpected u why)
  | invalidTarget (ht : R t u) : Like R (.invalidTarget t) (.invalidTarget u)

inductive Opening.Like (R : Token → Token → Prop) (V : Value → Value → Prop) :
    Except Complaint Opening → Except Complaint Opening → Prop
  | none : Like R V (.error why) (.error why)
  | whole (h : e.Like R V e') : Like R V (.ok (.whole e)) (.ok (.whole e'))
  | operator : Like R V (.ok .operator) (.ok .operator)
  | group : Like R V (.ok .group) (.ok .group)

/-- Readers cannot tell related tokens apart. -/
structure Likeness (R : Token → Token → Prop) (V : Value → Value → Prop) : Prop where
  kind : R t u → t.kind = u.kind
  opening : R t u → Opening.Like R V (Opening.of t) (Opening.of u)
  atEnd : R t u → R (.atEnd t.line) (.atEnd u.line)

inductive Outcome.Like (R : Token → Token → Prop) (S : α → α → Prop) : Outcome α → Outcome α → Prop
  | done (ha : S a b) (hm : List.Forall₂ R signs signs') (hr : List.Forall₂ R ts us) :
      Like R S (.done a signs ts) (.done b signs' us)
  | failed (hm : List.Forall₂ R signs signs') (hr : List.Forall₂ R ts us) :
      Like R S (.failed why signs ts) (.failed why signs' us)

section
variable {R : Token → Token → Prop} {V : Value → Value → Prop}

namespace Outcome

/-- Misplaced signs on both sides are related, too. -/
theorem Like.after {o o' : Outcome α} (h : o.Like R S o') (he : List.Forall₂ R earlier earlier') :
    (o.after earlier).Like R S (o'.after earlier') := by
  cases h with
  | done ha hm hr => exact .done ha (List.rel_append he hm) hr
  | failed hm hr => exact .failed (List.rel_append he hm) hr

/-- Readers that go on from related trees and tokens come to related outcomes. -/
theorem Like.andThen {o o' : Outcome α} {next next' : α → List Token → Outcome β} (h : o.Like R S o')
    (hn : ∀ a b ts us, S a b → List.Forall₂ R ts us → (next a ts).Like R Q (next' b us)) :
    (o.andThen next).Like R Q (o'.andThen next') := by
  cases h with
  | done ha hm hr => exact (hn _ _ _ _ ha hr).after hm
  | failed hm hr => exact .failed hm hr

theorem Like.here (ha : S a b) (h : List.Forall₂ R ts us) : Like R S (.done a [] ts) (.done b [] us) :=
  .done ha .nil h

end Outcome

/-- The same is taken from related tokens, or from neither. -/
theorem Likeness.take? (hR : Likeness R V) (h : List.Forall₂ R ts us) (kinds : List Kind) :
    (Lox.take? kinds ts = none ∧ Lox.take? kinds us = none) ∨
      ∃ t ts' u us', ts = t :: ts' ∧ us = u :: us' ∧ t.kind ∈ kinds ∧ u.kind ∈ kinds ∧
        R t u ∧ List.Forall₂ R ts' us' := by
  cases h with
  | nil => exact .inl ⟨rfl, rfl⟩
  | @cons t u ts us ht hts =>
    by_cases hk : t.kind ∈ kinds
    · exact .inr ⟨t, ts, u, us, rfl, rfl, hk, hR.kind ht ▸ hk, ht, hts⟩
    · have hk' : u.kind ∉ kinds := hR.kind ht ▸ hk
      exact .inl ⟨by simp [Lox.take?, hk], by simp [Lox.take?, hk']⟩

theorem take?_cons_of_mem (h : t.kind ∈ kinds) : take? kinds (t :: ts) = some (t, ts) := by
  simp [take?, h]

namespace Parser

def Respects (R : Token → Token → Prop) (S : α → α → Prop) (p : Parser α) : Prop :=
  ∀ ts us, List.Forall₂ R ts us → (p.run ts).Like R S (p.run us)

theorem like_closed (hR : Likeness R V) (h : List.Forall₂ R ts us) (kind : Kind) (why : Complaint) (ha : S a b) :
    (closed kind why a ts).Like R S (closed kind why b us) := by
  unfold closed
  rcases hR.take? h [kind] with ⟨ht, hu⟩ | ⟨t, ts', u, us', rfl, rfl, ht, hu, -, hrest⟩
  · rw [ht, hu]
    exact .failed .nil h
  · rw [take?_cons_of_mem ht, take?_cons_of_mem hu]
    exact .here ha hrest

/-- Related operators are of one level, so both chains go on or neither does. -/
theorem like_chainFrom (hR : Likeness R V) {operand : Parser Expr} (ho : operand.Respects R (Expr.Like R V))
    (hl : lhs.Like R V lhs') (h : List.Forall₂ R ts us) :
    (chainFrom kinds operand lhs ts).Like R (Expr.Like R V) (chainFrom kinds operand lhs' us) := by
  fun_induction chainFrom kinds operand lhs ts generalizing lhs' us with
  | case1 lhs ts none =>
    rcases hR.take? h kinds with ⟨-, hu⟩ | ⟨t, ts', u, us', rfl, rfl, ht, -⟩
    · rw [chainFrom_of_none hu]
      exact .here hl h
    · rw [take?_cons_of_mem ht] at none
      cases none
  | case2 lhs ts op behind took rhs misplaced rest read ih =>
    rcases hR.take? h kinds with ⟨ht, -⟩ | ⟨t, ts', u, us', rfl, rfl, ht, hu, hop, hrest⟩
    · rw [took] at ht
      cases ht
    · rw [take?_cons_of_mem ht] at took
      cases took
      have hr := ho _ _ hrest
      rw [read] at hr
      rw [chainFrom_cons hu]
      generalize operand.run us' = o at hr
      cases hr with
      | done ha hm hrest => exact (ih (.binary hl hop ha) hrest).after hm
  | case3 lhs ts op behind took why misplaced rest read =>
    rcases hR.take? h kinds with ⟨ht, -⟩ | ⟨t, ts', u, us', rfl, rfl, ht, hu, hop, hrest⟩
    · rw [took] at ht
      cases ht
    · rw [take?_cons_of_mem ht] at took
      cases took
      have hr := ho _ _ hrest
      rw [read] at hr
      rw [chainFrom_cons hu]
      generalize operand.run us' = o at hr
      cases hr with
      | failed hm hrest => exact .failed hm hrest

theorem Respects.chain (hR : Likeness R V) (hp : p.Respects R (Expr.Like R V)) (l : Level) :
    (chain l.kinds p).Respects R (Expr.Like R V) := by
  intro ts us h
  apply (hp ts us h).andThen
  intro lhs lhs' ts us hl h
  exact like_chainFrom hR hp hl h

theorem Respects.refuse (why : Complaint) : (refuse why).Respects R S := by
  intro ts us h
  exact .failed .nil h

theorem like_grouped (hR : Likeness R V) {inner : Parser Expr} (hi : inner.Respects R (Expr.Like R V))
    (h : List.Forall₂ R ts us) : (grouped inner ts).Like R (Expr.Like R V) (grouped inner us) := by
  unfold grouped
  rcases hR.take? h [.leftParen] with ⟨ht, hu⟩ | ⟨t, ts', u, us', rfl, rfl, ht, hu, -, hrest⟩
  · rw [ht, hu]
    exact .failed .nil h
  · rw [take?_cons_of_mem ht, take?_cons_of_mem hu]
    apply (hi ts' us' hrest).andThen
    intro e e' ts us he h
    exact like_closed hR h _ _ (.group he)

/-- Related tokens open operands of the same sort. -/
theorem Respects.operand (hR : Likeness R V) {nested inner : Parser Expr}
    (hn : nested.Respects R (Expr.Like R V)) (hi : inner.Respects R (Expr.Like R V)) :
    (operand nested inner).Respects R (Expr.Like R V) := by
  intro ts us h
  cases h with
  | nil => exact .failed .nil .nil
  | @cons t u ts us ht hts =>
    have hopening := hR.opening ht
    simp only [Parser.operand]
    generalize Opening.of t = o at hopening
    generalize Opening.of u = o' at hopening
    cases hopening with
    | none => exact .failed .nil (.cons ht hts)
    | whole h => exact .here h hts
    | operator =>
      apply (hn ts us hts).andThen
      intro e e' ts us he h
      exact .here (.unary ht he) h
    | group => exact like_grouped hR hi (.cons ht hts)

/-- Both targets are names, or neither is. -/
theorem like_assignTo (hR : Likeness R V) {value : Parser Expr} (hv : value.Respects R (Expr.Like R V))
    (ht : target.Like R V target') (h : List.Forall₂ R ts us) :
    (assignTo value target ts).Like R (Expr.Like R V) (assignTo value target' us) := by
  unfold assignTo
  rcases hR.take? h [.equal] with ⟨hnone, hnone'⟩ | ⟨t, ts', u, us', rfl, rfl, hequal, hequal', hequals, hrest⟩
  · rw [hnone, hnone']
    exact .here ht h
  · rw [take?_cons_of_mem hequal, take?_cons_of_mem hequal']
    apply (hv ts' us' hrest).andThen
    intro e e' ts us he h
    cases ht with
    | global hn => exact .here (.assign hn he) h
    | scalar hv => exact .done (.scalar hv) (.cons hequals .nil) h
    | group hg => exact .done (.group hg) (.cons hequals .nil) h
    | unary ho hg => exact .done (.unary ho hg) (.cons hequals .nil) h
    | binary hl ho hr => exact .done (.binary hl ho hr) (.cons hequals .nil) h
    | assign hn hg => exact .done (.assign hn hg) (.cons hequals .nil) h

theorem Respects.assignment (hR : Likeness R V) {target value : Parser Expr}
    (ht : target.Respects R (Expr.Like R V)) (hv : value.Respects R (Expr.Like R V)) :
    (assignment target value).Respects R (Expr.Like R V) := by
  intro ts us h
  apply (ht ts us h).andThen
  intro lhs lhs' ts us hl h
  exact like_assignTo hR hv hl h

theorem respects_expression (hR : Likeness R V) : expression.Respects R (Expr.Like R V) :=
  (Layer.nesting_induction (P := fun p => p.Respects R (Expr.Like R V)) (Respects.refuse _)
    (fun _ _ => Respects.operand hR) (fun l _ hp => hp.chain hR l) (fun _ _ => Respects.assignment hR)
    maxNesting).2

theorem like_ended (hR : Likeness R V) (h : List.Forall₂ R ts us) (why : Complaint) {f g : Expr → Stmt}
    (hf : ∀ e e', e.Like R V e' → (f e).Like R V (g e')) :
    ((expression.run ts).andThen fun e => closed .semicolon why (f e)).Like R (Stmt.Like R V)
      ((expression.run us).andThen fun e => closed .semicolon why (g e)) := by
  apply (respects_expression hR ts us h).andThen
  intro e e' ts us he h
  exact like_closed hR h _ why (hf e e' he)

theorem like_declared (hR : Likeness R V) (h : List.Forall₂ R ts us) :
    (declared ts).Like R (Stmt.Like R V) (declared us) := by
  unfold declared
  rcases hR.take? h [.identifier] with ⟨ht, hu⟩ | ⟨t, ts', u, us', rfl, rfl, ht, hu, hname, hrest⟩
  · rw [ht, hu]
    exact .failed .nil h
  rw [take?_cons_of_mem ht, take?_cons_of_mem hu]
  rcases hR.take? hrest [.equal] with ⟨ht, hu⟩ | ⟨t', ts, u', us, rfl, rfl, ht, hu, -, hrest⟩
  · simp only [ht, hu]
    exact like_closed hR hrest _ _ (.bare hname)
  · simp only [take?_cons_of_mem ht, take?_cons_of_mem hu]
    exact like_ended hR hrest _ fun e e' he => .declare hname he

/-- Which statement it is depends on kinds alone. -/
theorem respects_statement (hR : Likeness R V) : statement.Respects R (Stmt.Like R V) := by
  intro ts us h
  simp only [statement]
  rcases hR.take? h [.kwVar] with ⟨ht, hu⟩ | ⟨t, ts', u, us', rfl, rfl, ht, hu, -, hrest⟩
  · rw [ht, hu]
    rcases hR.take? h [.kwPrint] with ⟨ht, hu⟩ | ⟨t, ts', u, us', rfl, rfl, ht, hu, hprint, hrest⟩
    · simp only [ht, hu]
      exact like_ended hR h _ fun e e' he => .expr he
    · simp only [take?_cons_of_mem ht, take?_cons_of_mem hu]
      exact like_ended hR hrest _ fun e e' he => .print hprint he
  · rw [take?_cons_of_mem ht, take?_cons_of_mem hu]
    exact like_declared hR hrest

end Parser

namespace Likeness

theorem atStop (hR : Likeness R V) (h : List.Forall₂ R ts us) : Lox.atStop ts = Lox.atStop us := by
  cases h with
  | nil => rfl
  | cons ht _ => simp [Lox.atStop, hR.kind ht]

/-- As much is skipped on both sides. -/
theorem skip (hR : Likeness R V) (h : List.Forall₂ R ts us) : List.Forall₂ R (Lox.skip ts) (Lox.skip us) := by
  induction h with
  | nil => exact .nil
  | cons ht hts ih =>
    simp only [Lox.skip, hR.kind ht, hR.atStop hts]
    split
    · exact hts
    · exact ih

/-- Reading is taken up again at related tokens. -/
theorem resume (hR : Likeness R V) (hs : List.Forall₂ R start start') (h : List.Forall₂ R ts us) :
    List.Forall₂ R (Lox.resume start ts) (Lox.resume start' us) := by
  simp only [Lox.resume, hs.length_eq, h.length_eq, hR.atStop h]
  split
  · exact h
  · exact hR.skip h

end Likeness

theorem SyntaxError.like_invalidTarget (h : List.Forall₂ R ts us) :
    List.Forall₂ (SyntaxError.Like R) (ts.map .invalidTarget) (us.map .invalidTarget) := by
  induction h with
  | nil => exact .nil
  | cons ht _ ih => exact .cons (.invalidTarget ht) ih

structure Parse.Like (R : Token → Token → Prop) (V : Value → Value → Prop) (p q : Parse) : Prop where
  statements : List.Forall₂ (Stmt.Like R V) p.statements q.statements
  errors : List.Forall₂ (SyntaxError.Like R) p.errors q.errors

namespace Parse

theorem isEnd_eq (hR : Likeness R V) (h : R t u) : isEnd t = isEnd u := by
  rw [isEnd, isEnd, hR.kind h]

theorem like_headD (hl : R last last') (h : List.Forall₂ R ts us) : R (ts.headD last) (us.headD last') := by
  cases h with
  | nil => exact hl
  | cons ht _ => exact ht

/-- By induction on the tokens left, since whatever happens to a statement some are taken. -/
theorem like_upTo (hR : Likeness R V) (hl : R last last') (h : List.Forall₂ R ts us) :
    (upTo last ts).Like R V (upTo last' us) := by
  fun_induction upTo last ts generalizing us
  case case1 =>
    cases h
    rw [upTo_nil]
    exact ⟨.nil, .nil⟩
  case case2 t ts hend =>
    cases h with
    | cons ht _ =>
      rw [upTo_of_isEnd (isEnd_eq hR ht ▸ hend)]
      exact ⟨.nil, .nil⟩
  case case3 t ts hend s misplaced rest read others ih =>
    have hread := Parser.respects_statement hR _ _ h
    rw [read] at hread
    cases h with
    | @cons _ u _ us ht hts =>
      generalize hus : Parser.statement.run (u :: us) = o at hread
      have hend' : isEnd u = false := isEnd_eq hR ht ▸ Bool.eq_false_iff.mpr hend
      cases hread with
      | done hs hm hrest =>
        rw [upTo_of_done hend' hus]
        obtain ⟨hstatements, herrors⟩ := ih hrest
        exact ⟨.cons hs hstatements, List.rel_append (SyntaxError.like_invalidTarget hm) herrors⟩
  case case4 t ts hend why misplaced rest read others ih =>
    have hread := Parser.respects_statement hR _ _ h
    rw [read] at hread
    cases h with
    | @cons _ u _ us ht hts =>
      generalize hus : Parser.statement.run (u :: us) = o at hread
      have hend' : isEnd u = false := isEnd_eq hR ht ▸ Bool.eq_false_iff.mpr hend
      cases hread with
      | failed hm hrest =>
        rw [upTo_of_failed hend' hus]
        obtain ⟨hstatements, herrors⟩ := ih (hR.resume (.cons ht hts) hrest)
        have hstop := like_headD hl hrest
        exact ⟨hstatements, List.rel_append (SyntaxError.like_invalidTarget hm) (.cons (.unexpected hstop) herrors)⟩

theorem like_getLast (h : List.Forall₂ R (t :: ts) (u :: us)) :
    R ((t :: ts).getLast (List.cons_ne_nil _ _)) ((u :: us).getLast (List.cons_ne_nil _ _)) := by
  induction ts generalizing t u us with
  | nil =>
    obtain ⟨ht, hts⟩ := List.forall₂_cons.mp h
    cases hts
    exact ht
  | cons t' ts ih =>
    obtain ⟨ht, hts⟩ := List.forall₂_cons.mp h
    cases us with
    | nil => cases hts
    | cons u' us =>
      rw [List.getLast_cons_cons, List.getLast_cons_cons]
      exact ih hts

theorem like_dropLast (h : List.Forall₂ R ts us) : List.Forall₂ R ts.dropLast us.dropLast := by
  induction h with
  | nil => exact .nil
  | cons ht hts ih =>
    cases hts with
    | nil => exact .nil
    | cons ht' hts => exact .cons ht ih

/-- An end that is not there is put on the line of the last token. -/
theorem like_buffer (hR : Likeness R V) (h : List.Forall₂ R (t :: ts) (u :: us)) :
    List.Forall₂ R (Buffer.ofTokens (t :: ts)).tokens (Buffer.ofTokens (u :: us)).tokens ∧
      R (Buffer.ofTokens (t :: ts)).last (Buffer.ofTokens (u :: us)).last := by
  have hlast := like_getLast h
  simp only [Buffer.ofTokens, List.getLast?_eq_some_getLast (List.cons_ne_nil _ _), hR.kind hlast]
  split
  · exact ⟨like_dropLast h, hlast⟩
  · exact ⟨h, hR.atEnd hlast⟩

/-- Related tokens are parsed into related statements, and what is wrong with them is related. -/
theorem like_ofTokens (hR : Likeness R V) (h : List.Forall₂ R ts us) : (ofTokens ts).Like R V (ofTokens us) := by
  cases h with
  | nil =>
    simp only [ofTokens, Buffer.ofTokens, List.getLast?_nil, upTo_nil]
    exact ⟨.nil, .nil⟩
  | cons ht hts =>
    obtain ⟨htokens, hlast⟩ := like_buffer hR (.cons ht hts)
    exact like_upTo hR hlast htokens

end Parse

end

end Lox
