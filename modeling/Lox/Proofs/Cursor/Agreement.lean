import Lox.Proofs.Cursor.Basic
import Lox.Proofs.Grammar.Soundness
import Lox.Proofs.Recovery.Ends
import Lox.Proofs.Stateful
namespace Lox.Cursor

variable {c : Cursor}

theorem nest_eq (c : Cursor) :
    nest c = if maxNesting ≤ c.depth then refuse .tooMuchNesting c else .ok () c.enter := by
  change (if maxNesting ≤ c.depth then refuse .tooMuchNesting else modify enter) c = _
  split <;> rfl

/-- Below the limit what is nested begins one deeper, and is left on both its ways out. -/
theorem nested_of_lt (h : c.depth < maxNesting) (p : Reader α) : nested p c =
    match p c.enter with
    | .ok a c' => .ok a c'.leave
    | .error e c' => .error e c'.leave := by
  have hnest : nest c = .ok () c.enter := by rw [nest_eq, if_neg (Nat.not_le_of_gt h)]
  rw [nested, bind_of_ok hnest]
  simp only [tryFinally, tryFinally', Functor.map, EStateM.map]
  cases p c.enter <;> rfl

/-- At the limit nothing is nested, whatever there is to be. -/
theorem nested_of_le (h : maxNesting ≤ c.depth) (p : Reader α) :
    nested p c = (refuse .tooMuchNesting : Reader α) c := by
  rw [nested, bind_eq, nest_eq, if_pos h, refuse, refuse, bind_eq, bind_eq]
  cases current c <;> rfl

def InRange (c : Cursor) : Prop := c.position ≤ c.buffer.tokens.length

/-- The tokens from the cursor on, without the end behind them all. -/
def ahead (c : Cursor) : List Token := c.buffer.tokens.drop c.position

theorem ahead_move (h : c.ahead = t :: ts) : c.move.ahead = ts := by
  unfold ahead move at *
  rw [← List.tail_drop, h, List.tail_cons]

theorem inRange_move (h : c.ahead = t :: ts) : c.move.InRange := by
  have hlength := congrArg List.length h
  simp only [ahead, List.length_drop, List.length_cons] at hlength
  unfold InRange move
  dsimp only
  omega

theorem getElem?_position (h : c.InRange) : c.buffer.toList[c.position]? = some (c.ahead.headD c.buffer.last) := by
  unfold InRange at h
  rw [List.headD_eq_head?_getD, ahead, List.head?_drop, Buffer.toList]
  rcases Nat.lt_or_eq_of_le h with h | h
  · rw [List.getElem?_append_left h, List.getElem?_eq_getElem h, Option.getD_some]
  · rw [h]
    simp

theorem current_eq (h : c.InRange) : current c = .ok (c.ahead.headD c.buffer.last) c := by
  rw [current, getElem?_position h]

/-- From one cursor to another with these errors reported, and these tokens left. -/
structure Goes (c : Cursor) (reported : List SyntaxError) (rest : List Token) (c' : Cursor) : Prop where
  buffer : c'.buffer = c.buffer
  inRange : c'.InRange
  ahead : c'.ahead = rest
  errors : c'.errors = c.errors ++ reported
  depth : c'.depth = c.depth

theorem Goes.refl (h : c.InRange) : c.Goes [] c.ahead c := ⟨rfl, h, rfl, by simp, rfl⟩

theorem Goes.trans (h : c.Goes es rest c') (h' : c'.Goes es' rest' c'') : c.Goes (es ++ es') rest' c'' where
  buffer := h'.buffer.trans h.buffer
  inRange := h'.inRange
  ahead := h'.ahead
  errors := by rw [h'.errors, h.errors, List.append_assoc]
  depth := h'.depth.trans h.depth

theorem goes_move (h : c.ahead = t :: ts) : c.Goes [] ts c.move :=
  ⟨rfl, inRange_move h, ahead_move h, by simp [move], rfl⟩

/-- A reader from the cursor on has come to the same as a reader of the tokens. -/
inductive Follows (c : Cursor) : EStateM.Result Stop Cursor α → Outcome α → Prop
  | done {rest : List Token} (h : c.Goes (signs.map .invalidTarget) rest c') : Follows c (.ok a c') (.done a signs rest)
  | failed {rest : List Token} (h : c.Goes (signs.map .invalidTarget) rest c') :
      Follows c (.error (.refused (.unexpected (rest.headD c.buffer.last) why)) c') (.failed why signs rest)

theorem Follows.after {r : EStateM.Result Stop Cursor α} (hg : c.Goes (signs.map .invalidTarget) rest c')
    (h : Follows c' r o) : Follows c r (o.after signs) := by
  cases h with
  | done h =>
    have hgoes := hg.trans h
    rw [← List.map_append] at hgoes
    exact .done hgoes
  | failed h =>
    have hgoes := hg.trans h
    rw [← List.map_append] at hgoes
    rw [hg.buffer]
    exact .failed hgoes

/-- What is left to read where nothing is reported in between. -/
theorem Follows.behind {r : EStateM.Result Stop Cursor α} (hg : c.Goes [] rest c') (h : Follows c' r o) :
    Follows c r o := by
  have hafter : Follows c r (o.after []) := h.after hg
  rwa [Outcome.after_nil] at hafter

/-- Readers are put together on both sides alike. -/
theorem Follows.bind {p : Reader α} {f : α → Reader β} {next : α → List Token → Outcome β} (h : Follows c (p c) o)
    (hn : ∀ a signs rest c', o = .done a signs rest → c.Goes (signs.map .invalidTarget) rest c' →
      Follows c' (f a c') (next a rest)) :
    Follows c ((p >>= f) c) (o.andThen next) := by
  rw [bind_eq]
  generalize p c = r at h
  cases h with
  | done h => exact (hn _ _ _ _ rfl h).after h
  | failed h => exact .failed h

theorem follows_here (h : c.InRange) (a : α) : Follows c ((pure a : Reader α) c) (.done a [] c.ahead) := .done (.refl h)

theorem refuse_eq (h : c.InRange) (why : Complaint) : (refuse why : Reader α) c =
    .error (.refused (.unexpected (c.ahead.headD c.buffer.last) why)) c := by
  rw [refuse, bind_of_ok (current_eq h)]
  rfl

theorem follows_refuse (h : c.InRange) (why : Complaint) :
    Follows c ((refuse why : Reader α) c) (.failed why [] c.ahead) := by
  rw [refuse_eq h]
  exact .failed (.refl h)

theorem advance_eq (ht : t.kind ≠ .eof) (h : c.ahead = t :: ts) (hc : c.InRange) : advance c = .ok t c.move := by
  have hcurrent := current_eq hc
  rw [h, List.headD_cons] at hcurrent
  have hend : Parse.isEnd t = false := Parse.isEnd_eq_false_iff.mpr ht
  rw [advance, bind_of_ok hcurrent, hend]
  rfl

/-- Passes what is taken from the tokens ahead, if there is anything. -/
theorem pass?_cases (hc : c.InRange) (kinds : List Kind) (hk : .eof ∉ kinds) :
    (take? kinds c.ahead = none ∧ pass? kinds c = .ok none c) ∨
      ∃ t ts, take? kinds c.ahead = some (t, ts) ∧ pass? kinds c = .ok (some t) c.move ∧ c.Goes [] ts c.move := by
  have hcurrent := current_eq hc
  rw [pass?, bind_of_ok hcurrent]
  cases ha : c.ahead with
  | nil =>
    have hlast : c.buffer.last.kind ∉ kinds := c.buffer.kind_last ▸ hk
    rw [List.headD_nil, if_neg hlast]
    exact .inl ⟨rfl, rfl⟩
  | cons t ts =>
    rw [List.headD_cons]
    by_cases ht : t.kind ∈ kinds
    · have hadvance := advance_eq (fun he => hk (he ▸ ht)) ha hc
      refine .inr ⟨t, ts, take?_eq_some_iff.mpr ⟨rfl, ht⟩, ?_, goes_move ha⟩
      rw [if_pos ht, bind_of_ok hadvance]
      rfl
    · rw [if_neg ht]
      exact .inl ⟨by simp [take?, ht], rfl⟩

/-- A token is passed where it is of the right kind, and otherwise complained of where the cursor stands. -/
theorem consume_cases (hc : c.InRange) (kind : Kind) (hk : kind ≠ .eof) (why : Complaint) :
    (take? [kind] c.ahead = none ∧
      consume kind why c = .error (.refused (.unexpected (c.ahead.headD c.buffer.last) why)) c) ∨
      ∃ t ts, take? [kind] c.ahead = some (t, ts) ∧ consume kind why c = .ok t c.move ∧ c.Goes [] ts c.move := by
  have hcurrent := current_eq hc
  rw [consume, bind_of_ok hcurrent]
  cases ha : c.ahead with
  | nil =>
    have hlast : c.buffer.last.kind ≠ kind := c.buffer.kind_last ▸ hk.symm
    exact .inl ⟨rfl, by rw [List.headD_nil, if_neg hlast, refuse_eq hc, ha, List.headD_nil]⟩
  | cons t ts =>
    rw [List.headD_cons]
    by_cases ht : t.kind = kind
    · refine .inr ⟨t, ts, take?_eq_some_iff.mpr ⟨rfl, by simp [ht]⟩, ?_, goes_move ha⟩
      rw [if_pos ht, advance_eq (ht ▸ hk) ha hc]
    · exact .inl ⟨by simp [take?, ht], by rw [if_neg ht, refuse_eq hc, ha, List.headD_cons]⟩

/-- What ends a tree is no end of the tokens, so the cursor goes beyond it. -/
theorem follows_closed (hc : c.InRange) (hk : kind ≠ .eof) (why : Complaint) (a : α) :
    Follows c ((consume kind why >>= fun _ => pure a) c) (closed kind why a c.ahead) := by
  unfold closed
  rcases consume_cases hc kind hk why with ⟨ht, hconsume⟩ | ⟨t, ts, ht, hconsume, hg⟩
  · rw [ht, bind_of_error hconsume]
    exact .failed (.refl hc)
  · rw [ht, bind_of_ok hconsume]
    exact .done hg

def Agrees (d : Nat) (p : Reader α) (q : Parser α) : Prop :=
  ∀ c : Cursor, c.InRange → c.depth = d → Follows c (p c) (q.run c.ahead)

theorem Goes.leave (h : c.enter.Goes es rest c') : c.Goes es rest c'.leave where
  buffer := h.buffer
  inRange := h.inRange
  ahead := h.ahead
  errors := h.errors
  depth := by simp [Cursor.leave, h.depth, Cursor.enter]

/-- Nesting counts up here and takes from what is left there. -/
theorem Agrees.nested (hd : d < maxNesting) (h : Agrees (d + 1) p q) : Agrees d (nested p) q := by
  intro c hc hdepth
  have hp : Follows c.enter (p c.enter) (q.run c.ahead) := h c.enter hc (by rw [enter, hdepth])
  rw [nested_of_lt (hdepth ▸ hd)]
  generalize p c.enter = r at hp
  generalize q.run c.ahead = o at hp
  cases hp with
  | done hg => exact .done hg.leave
  | failed hg => exact .failed hg.leave

/-- At the limit both refuse what is to be nested. -/
theorem agrees_refuse (hd : maxNesting ≤ d) (p : Reader Expr) :
    Agrees d (nested p) (Parser.refuse .tooMuchNesting) := by
  intro c hc hdepth
  rw [nested_of_le (hdepth ▸ hd)]
  exact follows_refuse hc .tooMuchNesting

/-- As often as there are tokens ahead is often enough, since each operator takes one. -/
theorem follows_chainFrom (hk : .eof ∉ kinds) (h : Agrees d p q) (hc : c.InRange) (hd : c.depth = d)
    (hn : c.ahead.length ≤ n) (lhs : Expr) :
    Follows c (chainFrom kinds p n lhs c) (Parser.chainFrom kinds q lhs c.ahead) := by
  induction n generalizing c lhs with
  | zero =>
    have hnone : take? kinds c.ahead = none := by
      rw [List.length_eq_zero_iff.mp (Nat.le_zero.mp hn)]
      rfl
    rw [Parser.chainFrom_of_none hnone]
    exact follows_here hc lhs
  | succ n ih =>
    rw [chainFrom]
    rcases pass?_cases hc kinds hk with ⟨ht, hpass⟩ | ⟨op, behind, ht, hpass, hg⟩
    · rw [Parser.chainFrom_of_none ht, bind_of_ok hpass]
      exact follows_here hc lhs
    · obtain ⟨ha, hop⟩ := take?_eq_some_iff.mp ht
      have hoperand := h c.move hg.inRange (hg.depth.trans hd)
      rw [hg.ahead] at hoperand
      rw [ha, Parser.chainFrom_cons hop, bind_of_ok hpass]
      refine .behind hg (hoperand.bind ?_)
      intro rhs signs rest c' ho hg'
      have hshort := q.length_of_done ho
      have hlength := congrArg List.length ha
      rw [List.length_cons] at hlength
      rw [← hg'.ahead] at hshort ⊢
      exact ih hg'.inRange (hg'.depth.trans (hg.depth.trans hd)) (by omega) _

theorem Agrees.chain (hk : .eof ∉ kinds) (h : Agrees d p q) : Agrees d (chain kinds p) (Parser.chain kinds q) := by
  intro c hc hd
  refine (h c hc hd).bind ?_
  intro lhs signs rest c' _ hg
  have hn : c'.ahead.length ≤ c'.buffer.tokens.length := by
    rw [ahead, List.length_drop]
    exact Nat.sub_le _ _
  rw [← hg.ahead]
  exact follows_chainFrom hk h hg.inRange (hg.depth.trans hd) hn lhs

structure Inner.Agrees (d : Nat) (inner : Inner) (l : Layer) : Prop where
  unary : Cursor.Agrees d (nested inner.unary) l.unary
  assignment : Cursor.Agrees d (nested inner.assignment) l.assignment

variable {inner : Inner}

theorem Inner.Agrees.group (h : Inner.Agrees d inner l) (hc : c.InRange) (hd : c.depth = d) :
    Follows c (group inner c) (Parser.grouped l.assignment c.ahead) := by
  unfold Parser.grouped
  rcases consume_cases hc .leftParen (by decide) .noGroup with
    ⟨ht, hconsume⟩ | ⟨t, behind, ht, hconsume, hg⟩
  · rw [ht, Cursor.group, bind_of_error hconsume]
    exact .failed (.refl hc)
  · have hinner := h.assignment c.move hg.inRange (hg.depth.trans hd)
    rw [hg.ahead] at hinner
    rw [ht, Cursor.group, bind_of_ok hconsume]
    refine .behind hg (hinner.bind ?_)
    intro e signs rest c' _ hg'
    rw [← hg'.ahead]
    exact follows_closed hg'.inRange (by decide) _ _

theorem Inner.Agrees.primary (h : Inner.Agrees d inner l) (hc : c.InRange) (hd : c.depth = d)
    (hnone : take? [.bang, .minus] c.ahead = none) :
    Follows c (primary inner c) ((Parser.operand l.unary l.assignment).run c.ahead) := by
  have hcurrent := current_eq hc
  have hgroup := h.group hc hd
  rw [Cursor.primary, bind_of_ok hcurrent]
  cases ha : c.ahead with
  | nil =>
    have hopening : Opening.of c.buffer.last = .error .noExpression := by simp [Opening.of, c.buffer.kind_last]
    have hrefuse := follows_refuse hc (α := Expr) .noExpression
    rw [ha] at hrefuse
    rw [List.headD_nil, hopening]
    exact hrefuse
  | cons t ts =>
    rw [ha] at hnone hgroup
    simp only [List.headD_cons, Parser.operand]
    cases ho : Opening.of t with
    | error why => simpa only [ha] using follows_refuse hc why
    | ok opening =>
      cases opening with
      | group => exact hgroup
      | operator =>
        have hk := Grammar.kind_of_operator ho
        simp [take?, hk] at hnone
      | whole e =>
        have hend : t.kind ≠ .eof := by
          intro he
          simp [Opening.of, he] at ho
        change Follows c ((advance >>= fun _ => pure e) c) (.done e [] ts)
        rw [bind_of_ok (advance_eq hend ha hc)]
        exact .done (goes_move ha)

/-- An operator before an operand nests it; anything else is looked at as a primary expression. -/
theorem Inner.Agrees.operand (h : Inner.Agrees d inner l) :
    Cursor.Agrees d (Cursor.unary inner) (Parser.operand l.unary l.assignment) := by
  intro c hc hd
  rw [Cursor.unary]
  rcases pass?_cases hc [.bang, .minus] (by decide) with ⟨ht, hpass⟩ | ⟨op, behind, ht, hpass, hg⟩
  · rw [bind_of_ok hpass]
    exact h.primary hc hd ht
  · obtain ⟨ha, hop⟩ := take?_eq_some_iff.mp ht
    have hopening : Opening.of op = .ok .operator := by
      simp only [List.mem_cons, List.not_mem_nil, or_false] at hop
      rcases hop with hop | hop <;> simp [Opening.of, hop]
    have hoperand := h.unary c.move hg.inRange (hg.depth.trans hd)
    rw [hg.ahead] at hoperand
    rw [bind_of_ok hpass, ha]
    simp only [Parser.operand, hopening]
    refine .behind hg (hoperand.bind ?_)
    intro e signs rest c' _ hg'
    rw [← hg'.ahead]
    exact follows_here hg'.inRange _

theorem eof_notMem_kinds (l : Level) : Kind.eof ∉ l.kinds := by
  cases l <;> decide

/-- Each level reads its operands with the levels that bind tighter. -/
theorem Agrees.binary (h : Agrees d (Cursor.unary inner) u) (levels : List Level) :
    Agrees d (Cursor.binary inner levels) (Parser.binary u levels) := by
  induction levels with
  | nil => exact h
  | cons l tighter ih => exact ih.chain (eof_notMem_kinds l)

/-- One layer more on the one side is one call deeper on the other. -/
theorem Inner.Agrees.assignment_around (h : Inner.Agrees d inner l) :
    Cursor.Agrees d (Cursor.assignment inner) l.around.assignment := by
  intro c hc hd
  refine (h.operand.binary Level.loosestFirst c hc hd).bind ?_
  intro target signs rest c' _ hg
  unfold Parser.assignTo
  rw [← hg.ahead]
  rcases pass?_cases hg.inRange [.equal] (by decide) with ⟨ht, hpass⟩ | ⟨equals, behind, ht, hpass, hg'⟩
  · rw [ht, bind_of_ok hpass]
    exact follows_here hg.inRange target
  · have hvalue := h.assignment c'.move hg'.inRange (hg'.depth.trans (hg.depth.trans hd))
    rw [hg'.ahead] at hvalue
    rw [ht, bind_of_ok hpass]
    refine .behind hg' (hvalue.bind ?_)
    intro e signs' rest' c'' _ hg''
    rw [← hg''.ahead]
    cases target with
    | global name => exact follows_here hg''.inRange (Expr.assign name e)
    | _ => exact .done ⟨rfl, hg''.inRange, rfl, rfl, rfl⟩

/-- Readers that can be called often enough within each other agree with those that may nest as much as the counter
leaves. -/
theorem agrees_readersWithin (hd : d + n = maxNesting) (hm : n < m) :
    Agrees d (readersWithin m).unary (Layer.nesting n).unary ∧
      Agrees d (readersWithin m).assignment (Layer.nesting n).assignment := by
  -- By induction on what is left of the limit: each level of nesting takes one from it and adds one to the counter.
  induction n generalizing d m with
  | zero =>
    obtain ⟨m, rfl⟩ := Nat.exists_eq_add_of_lt hm
    rw [Nat.zero_add]
    have hlimit : maxNesting ≤ d := by omega
    have hinner : Inner.Agrees d (readersWithin m) ⟨.refuse .tooMuchNesting, .refuse .tooMuchNesting⟩ :=
      ⟨agrees_refuse hlimit _, agrees_refuse hlimit _⟩
    exact ⟨hinner.operand, hinner.assignment_around⟩
  | succ n ih =>
    obtain ⟨m, rfl⟩ : ∃ k, m = k + 1 := ⟨m - 1, by omega⟩
    have hlower := ih (d := d + 1) (m := m) (by omega) (by omega)
    have hroom : d < maxNesting := by omega
    have hinner : Inner.Agrees d (readersWithin m) (Layer.nesting n) :=
      ⟨hlower.1.nested hroom, hlower.2.nested hroom⟩
    exact ⟨hinner.operand, hinner.assignment_around⟩

theorem follows_expression (hc : c.InRange) (hd : c.depth = 0) :
    Follows c (assignment readers c) (Parser.expression.run c.ahead) :=
  (agrees_readersWithin (Nat.zero_add maxNesting) (Nat.lt_add_of_pos_right Nat.zero_lt_two)).2 c hc hd

/-- An expression, and the token that ends it. -/
theorem follows_ended (hc : c.InRange) (hd : c.depth = 0) (hk : kind ≠ .eof) (why : Complaint) (f : Expr → Stmt) :
    Follows c ((assignment readers >>= fun e => consume kind why >>= fun _ => pure (f e)) c)
      ((Parser.expression.run c.ahead).andThen fun e => closed kind why (f e)) := by
  refine (follows_expression hc hd).bind ?_
  intro e signs rest c' _ hg
  rw [← hg.ahead]
  exact follows_closed hg.inRange hk why (f e)

theorem follows_declared (hc : c.InRange) (hd : c.depth = 0) :
    Follows c (declared readers c) (Parser.declared c.ahead) := by
  unfold Parser.declared
  rcases consume_cases hc .identifier (by decide) .noVariableName with ⟨ht, hconsume⟩ | ⟨name, behind, ht, hconsume, hg⟩
  · rw [ht, declared, bind_of_error hconsume]
    exact .failed (.refl hc)
  · rw [ht, declared, bind_of_ok hconsume]
    dsimp only
    rw [← hg.ahead]
    refine .behind hg ?_
    rcases pass?_cases hg.inRange [.equal] (by decide) with ⟨ht', hpass⟩ | ⟨equals, initial, ht', hpass, hg'⟩
    · rw [ht', bind_of_ok hpass]
      exact follows_closed hg.inRange (by decide) _ _
    · rw [ht', bind_of_ok hpass]
      dsimp only
      rw [← hg'.ahead]
      exact .behind hg' (follows_ended hg'.inRange (hg'.depth.trans (hg.depth.trans hd)) (by decide) _ _)

/-- Whatever was read before, a declaration has the whole limit to nest. -/
theorem follows_declaration (hc : c.InRange) (hd : c.depth = 0) :
    Follows c (declaration readers c) (Parser.statement.run c.ahead) := by
  unfold Parser.statement
  dsimp only
  rw [declaration]
  rcases pass?_cases hc [.kwVar] (by decide) with ⟨ht, hpass⟩ | ⟨keyword, behind, ht, hpass, hg⟩
  · rw [ht, bind_of_ok hpass]
    dsimp only
    rcases pass?_cases hc [.kwPrint] (by decide) with ⟨ht', hpass'⟩ | ⟨keyword, behind, ht', hpass', hg⟩
    · rw [ht', bind_of_ok hpass']
      exact follows_ended hc hd (by decide) _ _
    · rw [ht', bind_of_ok hpass']
      dsimp only
      rw [← hg.ahead]
      exact .behind hg (follows_ended hg.inRange (hg.depth.trans hd) (by decide) _ _)
  · rw [ht, bind_of_ok hpass]
    dsimp only
    rw [← hg.ahead]
    exact .behind hg (follows_declared hg.inRange (hg.depth.trans hd))

end Lox.Cursor
