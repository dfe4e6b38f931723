import Lox.Proofs.Grammar.Programs
namespace Lox

def Expr.tokens : Expr → List Token
  | scalar _ => []
  | group inner => inner.tokens
  | unary op operand => op :: operand.tokens
  | binary lhs op rhs => lhs.tokens ++ op :: rhs.tokens
  | global name => [name]
  | assign name value => name :: value.tokens

def Stmt.tokens : Stmt → List Token
  | expr e => e.tokens
  | print keyword e => keyword :: e.tokens
  | declare name none => [name]
  | declare name (some e) => name :: e.tokens

theorem Stmt.tokens_of_expr {s : Stmt} (h : e ∈ s.expr?) : e.tokens ⊆ s.tokens := by
  cases s with
  | expr =>
    cases h
    exact List.Subset.refl _
  | print =>
    cases h
    exact List.subset_cons_self _ _
  | declare =>
    cases h
    exact List.subset_cons_self _ _

namespace Grammar

/-- A tree keeps tokens it was derived from, in their order. -/
theorem Derives.tokens_sublist (h : Derives n us e) : e.tokens.Sublist us := by
  induction h with
  | equality _ ih | operand _ _ ih | primary _ ih => exact ih
  | assign _ _ _ ih => exact (ih.cons _).cons_cons _
  | binary _ _ _ _ ihl ihr => exact ihl.append (ihr.cons_cons _)
  | unary _ _ ih => exact ih.cons_cons _
  | group _ _ _ ih => exact (ih.trans (List.sublist_append_left _ _)).cons _
  | global => exact List.Sublist.refl _
  | number | string | «true» | «false» | nil => exact List.nil_sublist _

theorem Statement.tokens_sublist (h : Statement us s) : s.tokens.Sublist us := by
  cases h with
  | bare => exact ((List.nil_sublist _).cons_cons _).cons _
  | @initialized ts e _ _ _ semicolon _ _ _ h =>
    have hall : e.tokens.Sublist (ts ++ [semicolon]) := h.tokens_sublist.trans (List.sublist_append_left _ _)
    exact ((hall.cons _).cons_cons _).cons _
  | print _ h => exact (h.tokens_sublist.trans (List.sublist_append_left _ _)).cons_cons _
  | expr h => exact h.tokens_sublist.trans (List.sublist_append_left _ _)

/-- A statement keeps tokens that were taken for it, and the next one begins behind these. -/
theorem upTo_tokens_sublist (last : Token) (ts : List Token) :
    ((Parse.upTo last ts).statements.flatMap Stmt.tokens).Sublist ts := by
  fun_induction Parse.upTo last ts with
  | case1 | case2 => exact List.nil_sublist _
  | case3 t ts _ s misplaced rest read others ih =>
    obtain ⟨us, hd, hsub, -⟩ := statement_sound read
    exact (hd.1.tokens_sublist.append ih).trans hsub
  | case4 t ts _ why misplaced rest read others ih =>
    have hgo : resume (t :: ts) rest <:+ t :: ts := (resume_suffix _ rest).trans (Parser.statement_suffix read)
    exact ih.trans hgo.sublist

/-- No token is kept twice, and none is moved before another. -/
theorem ofTokens_tokens_sublist (ts : List Token) :
    ((Parse.ofTokens ts).statements.flatMap Stmt.tokens).Sublist ts := by
  obtain ⟨last, hread⟩ := Parse.exists_last ts
  rw [hread]
  exact (upTo_tokens_sublist last _).trans (List.takeWhile_sublist _)

/-- Every token in a tree is one of the tokens that were parsed. -/
theorem mem_of_stored (hs : s ∈ (Parse.ofTokens ts).statements) (ht : t ∈ s.tokens) : t ∈ ts :=
  (ofTokens_tokens_sublist ts).subset (List.mem_flatMap_of_mem hs ht)

end Grammar

end Lox
