import Lox.Proofs.Grammar.Soundness
import Lox.Proofs.Recovery.Ends
import Lox.Proofs.Source.Tokens
namespace Lox

/-- Misplaced equals signs one behind the other, each with those in its right side. -/
inductive Slips where
  | none
  | cons (equals : Token) (nested others : Slips)

namespace Slips

/-- The signs as they are recorded: each when its right side has been read. -/
def recorded : Slips → List Token
  | none => []
  | cons equals nested others => nested.recorded ++ equals :: others.recorded

/-- No sign is on a later line than one in whose right side it is. -/
def Flat : Slips → Prop
  | none => True
  | cons equals nested others => (∀ t ∈ nested.recorded, t.line ≤ equals.line) ∧ nested.Flat ∧ others.Flat

def append : Slips → Slips → Slips
  | none, later => later
  | cons equals nested others, later => cons equals nested (others.append later)

theorem recorded_append (earlier later : Slips) :
    (earlier.append later).recorded = earlier.recorded ++ later.recorded := by
  induction earlier with
  | none => rfl
  | cons equals nested others _ ih => simp [append, recorded, ih]

end Slips

def Kind.delimits (k : Kind) : Bool := k == .leftParen || k == .rightParen || k == .semicolon

def Kind.closes (k : Kind) : Bool := k == .rightParen || k == .semicolon

/-- Each parenthesis has its partner, and there is no semicolon. -/
inductive Balanced : List Token → Prop
  | nil : Balanced []
  | single (h : t.kind.delimits = false) : Balanced [t]
  | group (ho : opening.kind = .leftParen) (h : Balanced us) (hc : closing.kind = .rightParen) :
      Balanced (opening :: (us ++ [closing]))
  | append (h : Balanced us) (h' : Balanced vs) : Balanced (us ++ vs)

namespace Slips

/-- Where the signs stand. The right side of each is everything up to the parenthesis that closes the group
it is in, or to the semicolon. If the last one has none of these behind it, its right side is everything up to
the end of the tokens; only with `toEnd` this may be so. -/
inductive Stands : Bool → Slips → List Token → Prop
  | none : Stands toEnd none us
  | cons (he : equals.kind = .equal) (hi : Stands Bool.true nested value) (hv : Balanced value)
      (hc : closing.kind.closes = true) (ho : Stands toEnd others behind) :
      Stands toEnd (cons equals nested others) (before ++ equals :: (value ++ closing :: behind))
  | last (he : equals.kind = .equal) (hi : Stands Bool.true nested value) (hv : Balanced value) :
      Stands Bool.true (cons equals nested none) (before ++ equals :: value)

theorem Stands.weaken (h : Stands toEnd slips us) : Stands true slips us := by
  induction h with
  | none => exact .none
  | cons he hi hv hc _ _ ih => exact .cons he hi hv hc ih
  | last he hi hv => exact .last he hi hv

theorem Stands.behind (h : Stands toEnd slips us) (before : List Token) :
    Stands toEnd slips (before ++ us) := by
  cases h with
  | none => exact .none
  | cons he hi hv hc ho =>
    rw [← List.append_assoc]
    exact .cons he hi hv hc ho
  | last he hi hv =>
    rw [← List.append_assoc]
    exact .last he hi hv

/-- Where no right side is open, what follows stands apart. -/
theorem Stands.append (h : Stands false slips us) (h' : Stands toEnd later vs) :
    Stands toEnd (slips.append later) (us ++ vs) := by
  generalize hb : false = b at h
  induction h with
  | none => exact h'.behind _
  | cons he hi hv hc ho _ ih =>
    rw [List.append_assoc, List.cons_append, List.append_assoc, List.cons_append]
    exact .cons he hi hv hc (ih hb)
  | last => cases hb

/-- Behind what closes it, nothing belongs to a right side any more. -/
theorem Stands.close (h : Stands toEnd slips us) (hc : closing.kind.closes = true) :
    Stands false slips (us ++ [closing]) := by
  induction h with
  | none => exact .none
  | cons he hi hv hc' ho _ ih =>
    rw [List.append_assoc, List.cons_append, List.append_assoc, List.cons_append]
    exact .cons he hi hv hc' ih
  | last he hi hv =>
    rw [List.append_assoc, List.cons_append]
    exact .cons he hi hv hc .none

theorem Stands.mem (h : Stands toEnd slips us) : ∀ t ∈ slips.recorded, t ∈ us := by
  induction h with
  | none => simp [recorded]
  | cons he hi hv hc ho ihi iho =>
    intro t ht
    simp only [recorded, List.mem_append, List.mem_cons] at ht ⊢
    grind
  | last he hi hv ih =>
    intro t ht
    simp only [recorded, List.mem_append, List.mem_cons, List.not_mem_nil] at ht ⊢
    grind

end Slips

def InOrder (ts : List Token) : Prop := ts.Pairwise (·.line ≤ ·.line)

theorem inOrder_append : InOrder (us ++ vs) ↔
    InOrder us ∧ InOrder vs ∧ ∀ t ∈ us, ∀ u ∈ vs, t.line ≤ u.line := List.pairwise_append

theorem inOrder_cons : InOrder (t :: ts) ↔ (∀ u ∈ ts, t.line ≤ u.line) ∧ InOrder ts := List.pairwise_cons

/-- Where tokens on both sides of one are in order with those behind it, only those before it count. -/
theorem inOrder_append_cons (ht : ∀ v ∈ vs, t.line ≤ v.line) (hcross : ∀ u ∈ us, ∀ v ∈ vs, u.line ≤ v.line) :
    InOrder (us ++ t :: vs) ↔ (∀ u ∈ us, u.line ≤ t.line) ∧ InOrder us ∧ InOrder vs := by
  rw [inOrder_append, inOrder_cons]
  constructor
  · rintro ⟨hu, ⟨-, hv⟩, hall⟩
    exact ⟨fun u hm => hall u hm t List.mem_cons_self, hu, hv⟩
  · rintro ⟨hline, hu, hv⟩
    refine ⟨hu, ⟨ht, hv⟩, fun u hm w hw => ?_⟩
    rcases List.mem_cons.mp hw with rfl | hw
    · exact hline u hm
    · exact hcross u hm w hw

/-- The signs are in order when none is moved over a line by those of its right side. -/
theorem Slips.Stands.inOrder_iff (h : Stands toEnd slips us) (hus : InOrder us) :
    InOrder slips.recorded ↔ slips.Flat := by
  induction h with
  | none => simp [InOrder, recorded, Flat]
  | cons he hi hv hc ho ihi iho =>
    obtain ⟨-, hbehind, -⟩ := inOrder_append.mp hus
    obtain ⟨hsign, hrest⟩ := inOrder_cons.mp hbehind
    obtain ⟨hvalue, hmore, hcross⟩ := inOrder_append.mp hrest
    rw [recorded, inOrder_append_cons, ihi hvalue, iho (inOrder_cons.mp hmore).2, Flat]
    · exact fun t ht => hsign t (List.mem_append_right _ (List.mem_cons_of_mem _ (ho.mem t ht)))
    · exact fun t ht u hu => hcross t (hi.mem t ht) u (List.mem_cons_of_mem _ (ho.mem u hu))
  | last he hi hv ih =>
    obtain ⟨-, hbehind, -⟩ := inOrder_append.mp hus
    rw [recorded, recorded, inOrder_append_cons (by simp) (by simp), ih (inOrder_cons.mp hbehind).2, Flat]
    simp [InOrder, Flat]

def Outcome.misplaced : Outcome α → List Token
  | done _ misplaced _ => misplaced
  | failed _ misplaced _ => misplaced

namespace Parser
open Slips

/-- The signs recorded stand in the tokens that were taken. -/
def Tells (ts : List Token) (o : Outcome α) : Prop :=
  ∃ us slips, ts = us ++ o.rest ∧ Stands true slips us ∧ o.misplaced = slips.recorded

/-- Also the tokens of a tree are balanced, and only with `toEnd` may a right side end where the tree does. -/
def Keeps (toEnd : Bool) (ts : List Token) : Outcome α → Prop
  | .done _ misplaced rest =>
    ∃ us slips, ts = us ++ rest ∧ Balanced us ∧ Stands toEnd slips us ∧ misplaced = slips.recorded
  | .failed why misplaced rest => Tells ts (.failed why misplaced rest : Outcome α)

theorem Tells.cons (h : Tells ts o) (t : Token) : Tells (t :: ts) o := by
  obtain ⟨us, slips, rfl, hs, hm⟩ := h
  exact ⟨t :: us, slips, rfl, hs.behind [t], hm⟩

theorem Keeps.here (tree : α) (ts : List Token) : Keeps toEnd ts (.done tree [] ts) :=
  ⟨[], .none, rfl, .nil, .none, rfl⟩

theorem tells_here (why : Complaint) (ts : List Token) : Tells ts (.failed why [] ts : Outcome α) :=
  ⟨[], .none, rfl, .none, rfl⟩

theorem Keeps.cons (hk : t.kind.delimits = false) (h : Keeps toEnd ts o) :
    Keeps toEnd (t :: ts) o := by
  cases o with
  | done =>
    obtain ⟨us, slips, rfl, hb, hs, hm⟩ := h
    exact ⟨t :: us, slips, rfl, .append (.single hk) hb, hs.behind [t], hm⟩
  | failed => exact Tells.cons h t

/-- What is taken behind a tree goes on from it, unless a right side is still open there. -/
theorem Keeps.after {a : α} {o : Outcome β} (h : Keeps false ts (.done a misplaced rest))
    (h' : Keeps toEnd rest o) : Keeps toEnd ts (o.after misplaced) := by
  obtain ⟨us, slips, rfl, hb, hs, rfl⟩ := h
  cases o with
  | done tree misplaced behind =>
    obtain ⟨vs, later, rfl, hb', hs', rfl⟩ := h'
    exact ⟨us ++ vs, slips.append later, (List.append_assoc ..).symm, .append hb hb', hs.append hs',
      (recorded_append slips later).symm⟩
  | failed why misplaced behind =>
    obtain ⟨vs, later, (rfl : rest = vs ++ behind), hs', (rfl : misplaced = later.recorded)⟩ := h'
    exact ⟨us ++ vs, slips.append later, (List.append_assoc ..).symm, hs.append hs',
      (recorded_append slips later).symm⟩

/-- A reader that leaves no right side open may be followed by any other. -/
theorem Keeps.andThen {o : Outcome α} {next : α → List Token → Outcome β} (h : Keeps false ts o)
    (hn : ∀ a us, Keeps toEnd us (next a us)) : Keeps toEnd ts (o.andThen next) := by
  cases o with
  | done a misplaced rest => exact h.after (hn a rest)
  | failed => exact h

/-- Operators between operands close nothing, and so they move no sign. -/
theorem keeps_chainFrom {operand : Parser Expr} (hk : ∀ k ∈ kinds, k.delimits = false)
    (ho : ∀ ts, Keeps false ts (operand.run ts)) (lhs : Expr) (ts : List Token) :
    Keeps false ts (chainFrom kinds operand lhs ts) := by
  fun_induction chainFrom kinds operand lhs ts with
  | case1 => exact .here _ _
  | case2 lhs ts op behind took rhs misplaced rest read ih =>
    obtain ⟨rfl, hop⟩ := take?_eq_some_iff.mp took
    have hr := ho behind
    rw [read] at hr
    exact (hr.cons (hk _ hop)).after ih
  | case3 lhs ts op behind took why misplaced rest read =>
    obtain ⟨rfl, hop⟩ := take?_eq_some_iff.mp took
    have hr := ho behind
    rw [read] at hr
    exact hr.cons (hk _ hop)

theorem delimits_of_mem_kinds (l : Level) : ∀ k ∈ l.kinds, k.delimits = false := by
  cases l <;> decide

theorem delimits_of_whole (h : Opening.of t = .ok (.whole e)) : t.kind.delimits = false := by
  unfold Opening.of at h
  repeat' split at h
  all_goals first | cases h; done | simp_all [Kind.delimits]

/-- A tree ends at the token that was asked for, or it is refused without taking any. -/
theorem closed_cases (kind : Kind) (why : Complaint) (tree : α) (ts : List Token) :
    (∃ t rest, t.kind = kind ∧ ts = t :: rest ∧ closed kind why tree ts = .done tree [] rest) ∨
      closed kind why tree ts = .failed why [] ts := by
  unfold closed
  split
  · next t rest took =>
    obtain ⟨rfl, hk⟩ := take?_eq_some_iff.mp took
    exact .inl ⟨t, rest, List.mem_singleton.mp hk, rfl, rfl⟩
  · exact .inr rfl

/-- No right side is open behind the group it is in. -/
theorem keeps_group {o : Outcome Expr} (ho : opening.kind = .leftParen) (h : Keeps true ts o) :
    Keeps false (opening :: ts) (o.andThen fun e => closed .rightParen .openGroup (Expr.group e)) := by
  cases o with
  | failed => exact Tells.cons h opening
  | done e misplaced rest =>
    obtain ⟨us, slips, rfl, hb, hs, rfl⟩ := h
    rw [Outcome.andThen]
    rcases closed_cases .rightParen .openGroup (Expr.group e) rest with ⟨closing, behind, hk, rfl, hc⟩ | hc
    · rw [hc, Outcome.after, List.append_nil]
      refine ⟨opening :: (us ++ [closing]), slips, by simp, .group ho hb hk, ?_, rfl⟩
      exact (hs.close (by rw [hk]; rfl)).behind [opening]
    · rw [hc, Outcome.after, List.append_nil]
      exact ⟨opening :: us, slips, rfl, hs.behind [opening], rfl⟩

/-- Only a group has room for signs of its own. -/
theorem keeps_operand {nested inner : Parser Expr} (hn : ∀ ts, Keeps false ts (nested.run ts))
    (hi : ∀ ts, Keeps true ts (inner.run ts)) (ts : List Token) :
    Keeps false ts ((operand nested inner).run ts) := by
  cases ts with
  | nil => exact tells_here _ _
  | cons t ts =>
    simp only [operand]
    split
    · exact tells_here _ _
    · next h => exact .cons (delimits_of_whole h) (.here _ _)
    · next h =>
      have hk : t.kind.delimits = false := by
        rcases Grammar.kind_of_operator h with hk | hk <;> rw [hk] <;> rfl
      exact .cons hk ((hn ts).andThen fun a us => .here _ _)
    · next h =>
      have ho := Grammar.kind_of_group h
      rw [grouped_cons ho]
      exact keeps_group ho (hi ts)

/-- A sign without a name to its left is recorded behind those of its right side, which ends with the tree. -/
theorem keeps_assignTo {value : Parser Expr} (hv : ∀ ts, Keeps true ts (value.run ts)) (target : Expr)
    (ts : List Token) : Keeps true ts (assignTo value target ts) := by
  unfold assignTo
  split
  · exact .here _ _
  · next equals behind took =>
    obtain ⟨rfl, he⟩ := take?_eq_some_iff.mp took
    have he : equals.kind = .equal := List.mem_singleton.mp he
    have hk : equals.kind.delimits = false := by rw [he]; rfl
    have hr := hv behind
    cases h : value.run behind with
    | failed why misplaced rest =>
      rw [h] at hr
      exact Tells.cons hr equals
    | done e misplaced rest =>
      rw [h] at hr
      obtain ⟨us, slips, rfl, hb, hs, rfl⟩ := hr
      rw [Outcome.andThen]
      split
      · rw [Outcome.after, List.append_nil]
        exact ⟨equals :: us, slips, rfl, .append (.single hk) hb, hs.behind [equals], rfl⟩
      · -- The sign is misplaced, and what was recorded so far is in its right side.
        have hlast : Stands true (.cons equals slips .none) ([] ++ equals :: us) := .last he hs hb
        exact ⟨equals :: us, _, rfl, .append (.single hk) hb, hlast, rfl⟩

/-- By induction on how deep readers may nest. -/
theorem keeps_expression (ts : List Token) : Keeps true ts (expression.run ts) :=
  (Layer.nesting_induction_pair
    (P := fun p => ∀ ts, Keeps false ts (p.run ts)) (Q := fun p => ∀ ts, Keeps true ts (p.run ts))
    ⟨tells_here _, tells_here _⟩ (fun _ _ => keeps_operand)
    (fun l _ h ts => (h ts).andThen (keeps_chainFrom (delimits_of_mem_kinds l) h))
    (fun _ _ ht hv ts => (ht ts).andThen (keeps_assignTo hv)) maxNesting).2 ts

theorem tells_closed {o : Outcome Expr} (h : Keeps true ts o) (why : Complaint) (f : Expr → Stmt) :
    Tells ts (o.andThen fun e => closed .semicolon why (f e)) := by
  cases o with
  | failed => exact h
  | done e misplaced rest =>
    obtain ⟨us, slips, rfl, hb, hs, rfl⟩ := h
    rw [Outcome.andThen]
    rcases closed_cases .semicolon why (f e) rest with ⟨closing, behind, hk, rfl, hc⟩ | hc
    · rw [hc, Outcome.after, List.append_nil]
      exact ⟨us ++ [closing], slips, by simp [Outcome.rest], (hs.close (by rw [hk]; rfl)).weaken, rfl⟩
    · rw [hc, Outcome.after, List.append_nil]
      exact ⟨us, slips, rfl, hs, rfl⟩

theorem tells_bare (why : Complaint) (s : Stmt) (ts : List Token) : Tells ts (closed .semicolon why s ts) := by
  rcases closed_cases .semicolon why s ts with ⟨closing, behind, -, rfl, hc⟩ | hc
  · rw [hc]
    exact ⟨[closing], .none, rfl, .none, rfl⟩
  · rw [hc]
    exact tells_here _ _

theorem tells_declared (ts : List Token) : Tells ts (declared ts) := by
  unfold declared
  split
  · exact tells_here _ _
  · next name behind took =>
    obtain ⟨rfl, -⟩ := take?_eq_some_iff.mp took
    refine Tells.cons ?_ name
    split
    · exact tells_bare _ _ behind
    · next equals initial took' =>
      obtain ⟨rfl, -⟩ := take?_eq_some_iff.mp took'
      exact (tells_closed (keeps_expression initial) _ _).cons equals

/-- Whether a statement is read or refused, the signs recorded for it are among the tokens it took. -/
theorem tells_statement (t : Token) (ts : List Token) : Tells (t :: ts) (statement.run (t :: ts)) := by
  by_cases hv : t.kind = .kwVar
  · rw [statement_of_var hv]
    exact (tells_declared ts).cons t
  by_cases hp : t.kind = .kwPrint
  · rw [statement_of_print hp]
    exact (tells_closed (keeps_expression ts) _ _).cons t
  · rw [statement_of_other hv hp]
    exact tells_closed (keeps_expression (t :: ts)) _ _

end Parser

/-- A statement read or given up: the tokens taken for it, the misplaced signs in them, the tokens passed over
before the next one, and why it was given up, if it was. -/
structure Attempt where
  taken : List Token
  slips : Slips
  passed : List Token
  stop : Option Complaint

namespace Attempt

def tokens (as : List Attempt) : List Token := as.flatMap fun a => a.taken ++ a.passed

def errors (next : Token) (a : Attempt) : List SyntaxError :=
  a.slips.recorded.map .invalidTarget ++ (a.stop.map (.unexpected (a.passed.headD next))).toList

def errorsInTurn (last : Token) : List Attempt → List SyntaxError
  | [] => []
  | a :: others => a.errors ((tokens others).headD last) ++ errorsInTurn last others

end Attempt

theorem headD_append (xs ys : List α) (d : α) : (xs ++ ys).headD d = xs.headD (ys.headD d) := by
  cases xs <;> rfl

/-- Every parse is made of attempts. -/
theorem exists_attempts (last : Token) (he : ∀ t ∈ ts, t.kind ≠ .eof) : ∃ attempts,
    Attempt.tokens attempts = ts ∧ (∀ a ∈ attempts, a.slips.Stands true a.taken) ∧
    Attempt.errorsInTurn last attempts = (Parse.upTo last ts).errors := by
  fun_induction Parse.upTo last ts with
  | case1 => exact ⟨[], rfl, by simp, rfl⟩
  | case2 t ts hend =>
    have ht := Parse.isEnd_eq_false_iff.mpr (he t List.mem_cons_self)
    rw [hend] at ht
    cases ht
  | case3 t ts hend s misplaced rest read others ih =>
    have htells := Parser.tells_statement t ts
    rw [read] at htells
    obtain ⟨us, slips, hts, hs, hm⟩ := htells
    obtain ⟨attempts, htokens, hstands, herrors⟩ := ih fun u hu => he u (hts ▸ List.mem_append_right _ hu)
    refine ⟨⟨us, slips, [], none⟩ :: attempts, ?_, List.forall_mem_cons.mpr ⟨hs, hstands⟩, ?_⟩
    · rw [hts, Attempt.tokens, List.flatMap_cons, ← Attempt.tokens, htokens, List.append_nil]
      rfl
    · rw [Attempt.errorsInTurn, herrors, Attempt.errors, ← hm]
      simp [others, Outcome.misplaced]
  | case4 t ts hend why misplaced rest read others ih =>
    have htells := Parser.tells_statement t ts
    rw [read] at htells
    obtain ⟨us, slips, hts, hs, hm⟩ := htells
    obtain ⟨passed, hpassed⟩ := resume_suffix (t :: ts) rest
    obtain ⟨attempts, htokens, hstands, herrors⟩ := ih fun u hu =>
      he u (hts ▸ List.mem_append_right _ (hpassed ▸ List.mem_append_right _ hu))
    refine ⟨⟨us, slips, passed, some why⟩ :: attempts, ?_, List.forall_mem_cons.mpr ⟨hs, hstands⟩, ?_⟩
    · rw [hts, Attempt.tokens, List.flatMap_cons, ← Attempt.tokens, htokens, List.append_assoc, hpassed]
      rfl
    · -- The complaint is about the first token left, whether or not it is passed over.
      have hhead : passed.headD ((Attempt.tokens attempts).headD last) = rest.headD last := by
        rw [htokens, ← headD_append, hpassed]
      rw [Attempt.errorsInTurn, herrors, Attempt.errors, ← hm, hhead]
      simp [others, Outcome.misplaced]

namespace Attempt

theorem tokens_cons (a : Attempt) (others : List Attempt) :
    tokens (a :: others) = a.taken ++ (a.passed ++ tokens others) := by
  simp [tokens]

/-- The complaint of an attempt is about the first token that it did not take. -/
theorem map_token_errors (a : Attempt) (ts : List Token) (last : Token) : ∃ head tail,
    a.passed ++ (ts ++ [last]) = head :: tail ∧
    (a.errors (ts.headD last)).map (·.token) = a.slips.recorded ++ (a.stop.map fun _ => head).toList := by
  have hhead : a.passed.headD (ts.headD last) = (a.passed ++ (ts ++ [last])).headD last := by
    rw [headD_append, headD_append]
    rfl
  obtain ⟨head, tail, hl⟩ := List.exists_cons_of_ne_nil (l := a.passed ++ (ts ++ [last])) (by simp)
  refine ⟨head, tail, hl, ?_⟩
  rw [errors, hhead, hl]
  cases a.stop <;> simp [SyntaxError.token, Function.comp_def]

/-- Every error is about one of the tokens, or about the end. -/
theorem mem_of_mem_errorsInTurn {attempts : List Attempt} (hs : ∀ a ∈ attempts, a.slips.Stands true a.taken) :
    ∀ t ∈ (errorsInTurn last attempts).map (·.token), t ∈ tokens attempts ++ [last] := by
  induction attempts with
  | nil => simp [errorsInTurn]
  | cons a others ih =>
    obtain ⟨ha, hothers⟩ := List.forall_mem_cons.mp hs
    obtain ⟨head, tail, hl, herrors⟩ := a.map_token_errors (tokens others) last
    intro t ht
    rw [errorsInTurn, List.map_append, herrors] at ht
    rw [tokens_cons, List.append_assoc, List.append_assoc]
    rcases List.mem_append.mp ht with ht | ht
    · rcases List.mem_append.mp ht with ht | ht
      · exact List.mem_append_left _ (ha.mem t ht)
      · obtain ⟨why, -, rfl⟩ : ∃ why, a.stop = some why ∧ head = t := by simpa using ht
        exact List.mem_append_right _ (hl ▸ List.mem_cons_self)
    · exact List.mem_append_right _ (List.mem_append_right _ (ih hothers t ht))

/-- The errors are in order when the signs of each attempt are. -/
theorem inOrder_errorsInTurn {attempts : List Attempt} (hs : ∀ a ∈ attempts, a.slips.Stands true a.taken)
    (hin : InOrder (tokens attempts ++ [last])) :
    InOrder ((errorsInTurn last attempts).map (·.token)) ↔ ∀ a ∈ attempts, a.slips.Flat := by
  induction attempts with
  | nil => simp [errorsInTurn, InOrder]
  | cons a others ih =>
    obtain ⟨ha, hothers⟩ := List.forall_mem_cons.mp hs
    obtain ⟨head, tail, hl, herrors⟩ := a.map_token_errors (tokens others) last
    rw [tokens_cons, List.append_assoc, List.append_assoc, hl, inOrder_append] at hin
    obtain ⟨htaken, hbehind, hcross⟩ := hin
    have hmem : ∀ t ∈ (errorsInTurn last others).map (·.token), t ∈ head :: tail := fun t ht =>
      hl ▸ List.mem_append_right _ (mem_of_mem_errorsInTurn hothers t ht)
    have hstop : ∀ t ∈ (a.stop.map fun _ => head).toList, t = head := by simp
    have hfirst : ∀ t ∈ head :: tail, head.line ≤ t.line := by simpa using (inOrder_cons.mp hbehind).1
    have hlater : InOrder (tokens others ++ [last]) := (inOrder_append.mp (hl ▸ hbehind)).2.1
    have hstops : InOrder (a.stop.map fun _ => head).toList := by
      cases a.stop <;> simp [InOrder]
    rw [errorsInTurn, List.map_append, herrors, List.append_assoc, inOrder_append, inOrder_append,
      ha.inOrder_iff htaken, ih hothers hlater, List.forall_mem_cons]
    constructor
    · rintro ⟨hflat, ⟨-, hall, -⟩, -⟩
      exact ⟨hflat, hall⟩
    · rintro ⟨hflat, hall⟩
      refine ⟨hflat, ⟨hstops, hall, fun t ht u hu => ?_⟩, fun t ht u hu => hcross t (ha.mem t ht) u ?_⟩
      · rw [hstop t ht]
        exact hfirst u (hmem u hu)
      · rcases List.mem_append.mp hu with hu | hu
        · rw [hstop u hu]
          exact List.mem_cons_self
        · exact hmem u hu

end Attempt

/-- A parse is made of attempts that share out the tokens, and its errors are those of the attempts in turn. So
they come in the order of their lines exactly when no misplaced sign is on a later line than one in whose right
side it is. -/
theorem errors_inOrder_iff (source : String) : ∃ attempts : List Attempt,
    (Scan.ofSource source).tokens = Attempt.tokens attempts ++ [.atEnd (1 + source.toList.count '\n')] ∧
    (∀ a ∈ attempts, a.slips.Stands true a.taken) ∧
    (Parse.ofTokens (Scan.ofSource source).tokens).errors =
      Attempt.errorsInTurn (.atEnd (1 + source.toList.count '\n')) attempts ∧
    (((Parse.ofTokens (Scan.ofSource source).tokens).errors.map (·.line)).Pairwise (· ≤ ·) ↔
      ∀ a ∈ attempts, a.slips.Flat) := by
  obtain ⟨attempts, htokens, hstands, herrors⟩ :=
    exists_attempts (.atEnd (1 + source.toList.count '\n')) fun t (ht : t ∈ tokensFrom 1 source.toList) =>
      tokensFrom_ne_eof ht
  have hin : InOrder (Attempt.tokens attempts ++ [.atEnd (1 + source.toList.count '\n')]) := by
    rw [htokens, inOrder_append]
    refine ⟨tokensFrom_pairwise 1 _, by simp [InOrder], fun t ht u hu => ?_⟩
    rw [List.mem_singleton.mp hu]
    exact line_of_mem_tokensFrom ht
  have hlines := Attempt.inOrder_errorsInTurn hstands hin
  rw [InOrder, List.pairwise_map] at hlines
  refine ⟨attempts, by rw [ofSource_eq, htokens], hstands, ?_, ?_⟩
  · rw [ofTokens_ofSource, herrors]
  · rw [ofTokens_ofSource, ← herrors, List.pairwise_map]
    exact hlines

/-- The sign of the second line is recorded before that of the first. -/
theorem errors_not_inOrder :
    ¬((Parse.ofTokens (Scan.ofSource "1 =\n2 =\n3;").tokens).errors.map (·.line)).Pairwise (· ≤ ·) := by
  decide +kernel

end Lox
