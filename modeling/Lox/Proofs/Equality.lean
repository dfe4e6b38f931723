import Lox.Proofs.Double.Written
import Lox.Proofs.Likeness
import Lox.Proofs.Source.Split
namespace Lox

abbrev Equals [BEq α] (a b : α) : Prop := (a == b) = true

theorem forall₂_iff_equals [BEq α] {xs ys : List α} : List.Forall₂ Equals xs ys ↔ Equals xs ys := by
  induction xs generalizing ys with
  | nil => cases ys <;> simp [Equals]
  | cons x xs ih => cases ys <;> simp [Equals, ih]

/-- Literals are equal when both are missing, or the same text, or equal numbers. -/
theorem Literal.cases_of_equals {l l' : Option Literal} (h : Equals l l') :
    (l = none ∧ l' = none) ∨ (∃ s, l = some (.text s) ∧ l' = some (.text s)) ∨
      ∃ x y, l = some (.number x) ∧ l' = some (.number y) ∧ Equals x y := by
  rcases l with _ | ⟨s | x⟩ <;> rcases l' with _ | ⟨s' | y⟩
  case none.none => exact .inl ⟨rfl, rfl⟩
  case some.text.some.text =>
    obtain rfl : s = s' := beq_iff_eq.mp h
    exact .inr (.inl ⟨s, rfl, rfl⟩)
  case some.number.some.number => exact .inr (.inr ⟨x, y, rfl, rfl, h⟩)
  all_goals cases h

theorem Literal.equals_number {x y : Float} (h : Equals x y) : Equals (some (number x)) (some (number y)) := h

/-- Tokens are equal part by part. -/
theorem Token.equals_iff {t u : Token} : Equals t u ↔
    t.kind = u.kind ∧ t.lexeme = u.lexeme ∧ Equals t.literal u.literal ∧ t.line = u.line := by
  have hbeq : (t == u) = (t.kind == u.kind && (t.lexeme == u.lexeme && (t.literal == u.literal && t.line == u.line))) :=
    rfl
  simp [Equals, hbeq]

/-- Equal tokens open operands alike, with equal values in them. -/
theorem Opening.like_of_equals (h : Equals t u) : Opening.Like Equals Equals (of t) (of u) := by
  obtain ⟨hkind, -, hliteral, -⟩ := Token.equals_iff.mp h
  unfold of
  rw [hkind]
  split
  case h_1 | h_2 => exact .operator
  case h_3 => exact .group
  case h_4 | h_5 | h_6 => exact .whole (.scalar rfl)
  case h_7 => exact .whole (.global h)
  case h_8 | h_9 =>
    rcases Literal.cases_of_equals hliteral with ⟨hl, hl'⟩ | ⟨s, hl, hl'⟩ | ⟨x, y, hl, hl', hxy⟩
    · rw [hl, hl']
      exact .none
    · rw [hl, hl']
      first | exact .none | exact .whole (.scalar (beq_self_eq_true s))
    · rw [hl, hl']
      first | exact .none | exact .whole (.scalar hxy)
  case h_10 => exact .none

/-- No reader can tell equal tokens apart. -/
theorem likeness_equals : Likeness Equals Equals where
  kind h := (Token.equals_iff.mp h).1
  opening h := Opening.like_of_equals h
  atEnd h := Token.equals_iff.mpr ⟨rfl, rfl, rfl, (Token.equals_iff.mp h).2.2.2⟩

/-- Trees that are alike up to equal tokens and values are equal. -/
theorem Expr.Like.equals {e e' : Expr} (h : Like Equals Equals e e') : Equals e e' := by
  induction h with
  | scalar hv => exact hv
  | group _ ih => exact ih
  | unary ho _ ih => exact Bool.and_eq_true_iff.mpr ⟨ho, ih⟩
  | binary _ ho _ ihl ihr => exact Bool.and_eq_true_iff.mpr ⟨ihl, Bool.and_eq_true_iff.mpr ⟨ho, ihr⟩⟩
  | global hn => exact hn
  | assign hn _ ih => exact Bool.and_eq_true_iff.mpr ⟨hn, ih⟩

theorem Stmt.Like.equals {s r : Stmt} (h : Like Equals Equals s r) : Equals s r := by
  cases h with
  | expr h => exact h.equals
  | print hk h => exact Bool.and_eq_true_iff.mpr ⟨hk, h.equals⟩
  | bare hn => exact Bool.and_eq_true_iff.mpr ⟨hn, rfl⟩
  | declare hn h => exact Bool.and_eq_true_iff.mpr ⟨hn, h.equals⟩

theorem SyntaxError.Like.equals {e d : SyntaxError} (h : Like Equals e d) : Equals e d := by
  cases h with
  | @unexpected t u why ht => exact Bool.and_eq_true_iff.mpr ⟨ht, beq_self_eq_true why⟩
  | invalidTarget ht => exact ht

/-- No decimal is read as NaN. -/
theorem Decimal.equals_toDouble (d : Decimal) : Equals d.toDouble d.toDouble := by
  apply Double.beq_self
  rw [Double.toNat_toBits_toDouble]
  exact Nat.le_trans (Nat.mod_le _ _) d.isNearest_nearestCode.le_infinity

/-- A spelt token has no literal that differs from itself. -/
theorem Token.Spelt.equals_self (h : Spelt t) : Equals t t := by
  refine equals_iff.mpr ⟨rfl, rfl, ?_, rfl⟩
  unfold Spelt at h
  rcases hl : t.literal with _ | s | x
  · rfl
  · exact beq_self_eq_true s
  · rw [hl] at h
    obtain ⟨d, rfl⟩ := h.exists_decimal
    exact Literal.equals_number d.equals_toDouble

theorem equals_tokens (source : String) : Equals (Scan.ofSource source).tokens (Scan.ofSource source).tokens := by
  rw [ofSource_eq, ← forall₂_iff_equals, List.forall₂_same]
  intro t ht
  rcases List.mem_append.mp ht with ht | ht
  · exact (spelt_of_mem_tokensFrom ht).equals_self
  · obtain rfl := List.mem_singleton.mp ht
    exact Token.equals_iff.mpr ⟨rfl, rfl, rfl, rfl⟩

namespace Parse

theorem equals_of_equals (h : Equals ts us) :
    Equals (ofTokens ts).statements (ofTokens us).statements ∧ Equals (ofTokens ts).errors (ofTokens us).errors := by
  obtain ⟨hstatements, herrors⟩ := like_ofTokens likeness_equals (forall₂_iff_equals.mpr h)
  exact ⟨forall₂_iff_equals.mp (hstatements.imp fun _ _ => Stmt.Like.equals),
    forall₂_iff_equals.mp (herrors.imp fun _ _ => SyntaxError.Like.equals)⟩

/-- Equal tokens are parsed into equal statements and errors, and a source has tokens, statements and errors that equal
themselves. -/
theorem beq_ofTokens :
    (∀ ts us : List Token, (ts == us) = true →
      ((ofTokens ts).statements == (ofTokens us).statements) = true ∧
        ((ofTokens ts).errors == (ofTokens us).errors) = true) ∧
      ∀ source : String, ((Scan.ofSource source).tokens == (Scan.ofSource source).tokens) = true ∧
        ((ofTokens (Scan.ofSource source).tokens).statements ==
          (ofTokens (Scan.ofSource source).tokens).statements) = true ∧
        ((ofTokens (Scan.ofSource source).tokens).errors ==
          (ofTokens (Scan.ofSource source).tokens).errors) = true :=
  ⟨fun _ _ h => equals_of_equals h, fun source => ⟨equals_tokens source, equals_of_equals (equals_tokens source)⟩⟩

def numberPrint (x : Float) : List Token :=
  [⟨.kwPrint, "print", none, 1⟩, ⟨.number, "0", some (.number x), 1⟩, ⟨.semicolon, ";", none, 1⟩]

/-- The two zeros are equal but not the same, and neither are their statements. -/
theorem beq_ofTokens_zeros : (numberPrint 0 == numberPrint (-0)) = true ∧
    ((ofTokens (numberPrint 0)).statements == (ofTokens (numberPrint (-0))).statements) = true := by
  have hzeros : (numberPrint 0 == numberPrint (-0)) = true := by decide +kernel
  exact ⟨hzeros, (beq_ofTokens.1 _ _ hzeros).1⟩

/-- Of tokens that no source has, parses may be the same and not equal. -/
example : ((ofTokens (numberPrint (0 / 0))).statements == (ofTokens (numberPrint (0 / 0))).statements) = false := by
  decide +kernel

end Parse

end Lox
