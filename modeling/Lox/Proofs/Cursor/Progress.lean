import Lox.Proofs.Cursor.Composition
import Lox.Proofs.Cursor.Turns
namespace Lox.Cursor

variable {c c' c'' : Cursor} {fails : Stop → Prop}

/-- There is a token at this position, and no end before it. -/
structure Readable (b : Buffer) (position : Nat) : Prop where
  bound : position < b.toList.length
  before : ∀ t ∈ b.toList.take position, t.kind ≠ .eof

structure Valid (b : Buffer) (c : Cursor) : Prop extends Readable b c.position where
  buffer : c.buffer = b

/-- The one cursor is valid among the tokens of the other, and has come there from it by single steps forward. -/
structure Onward (c c' : Cursor) : Prop extends Valid c.buffer c' where
  forward : c.position ≤ c'.position
  path : c'.path = c.path ++ List.range' (c.position + 1) (c'.position - c.position)

/-- Behind no end, one cannot be before an end and behind it. -/
theorem Readable.of_le (h : Readable b q) (hp : p ≤ q) : Readable b p where
  bound := Nat.lt_of_le_of_lt hp h.bound
  before := by
    intro t ht
    exact h.before t ((List.take_subset_take_left _ hp) ht)

theorem Onward.refl (h : Valid c.buffer c) : Onward c c := ⟨h, Nat.le_refl _, by simp⟩

theorem Onward.valid (h : Onward c c') : Valid c'.buffer c' := h.buffer.symm ▸ h.toValid

theorem Onward.trans (h : Onward c c') (h' : Onward c' c'') : Onward c c'' where
  toValid := h.buffer ▸ h'.toValid
  forward := Nat.le_trans h.forward h'.forward
  path := by
    have hle := h.forward
    have hle' := h'.forward
    have hmiddle : c'.position + 1 = c.position + 1 + (c'.position - c.position) := by omega
    have hlength : c''.position - c.position = (c'.position - c.position) + (c''.position - c'.position) := by omega
    rw [h'.path, h.path, List.append_assoc, hmiddle, List.range'_append_1, hlength]

theorem onward_of_eq (h : Valid c.buffer c) (hb : c'.buffer = c.buffer) (hp : c'.position = c.position)
    (hpath : c'.path = c.path) : Onward c c' := by
  refine ⟨⟨?_, hb⟩, Nat.le_of_eq hp.symm, ?_⟩
  · rw [hp]
    exact h.toReadable
  · simp [hp, hpath]

theorem length_toList (b : Buffer) : b.toList.length = b.tokens.length + 1 := by
  simp [Buffer.toList]

theorem Valid.inRange (h : Valid b c) : c.InRange := by
  have hposition := h.bound
  rw [← h.buffer, length_toList] at hposition
  exact Nat.le_of_lt_succ hposition

def here? (c : Cursor) : Option Token := c.buffer.toList[c.position]?

def back? (c : Cursor) : Option (Option Token) :=
  if c.position = 0 then some none else c.buffer.toList[c.position - 1]?.map some

theorem current_eq_look : current = look here? .outOfRange := by
  funext c
  rw [current, look, here?]
  cases c.buffer.toList[c.position]? <;> rfl

theorem previous_eq_look : previous = look back? .outOfRange := by
  funext c
  rw [previous, look, back?]
  by_cases hp : c.position = 0
  · rw [if_pos hp, if_pos hp]
  · rw [if_neg hp, if_neg hp]
    cases c.buffer.toList[c.position - 1]? <;> rfl

/-- From a valid cursor there is always a token to look at. -/
theorem Valid.exists_here (h : Valid c.buffer c) : ∃ t, c.here? = some t :=
  ⟨_, List.getElem?_eq_getElem h.bound⟩

theorem Valid.exists_back (h : Valid c.buffer c) : ∃ t, c.back? = some t := by
  rw [back?]
  split
  · exact ⟨none, rfl⟩
  · have hposition := h.bound
    have hlt : c.position - 1 < c.buffer.toList.length := by omega
    exact ⟨some c.buffer.toList[c.position - 1], by rw [List.getElem?_eq_getElem hlt, Option.map_some]⟩

/-- The last token is an end, so behind another one there is one more. -/
theorem Valid.move (h : Valid c.buffer c) (ht : c.here? = some t) (hk : t.kind ≠ .eof) : Valid c.buffer c.move where
  bound := by
    have hposition := h.bound
    have hne : c.position ≠ c.buffer.tokens.length := by
      intro he
      rw [here?, he, Buffer.toList, List.getElem?_concat_length] at ht
      cases ht
      exact hk c.buffer.kind_last
    rw [length_toList] at hposition ⊢
    simp only [Cursor.move]
    omega
  before := by
    intro u hu
    rw [here?] at ht
    simp only [Cursor.move, List.take_add_one, ht, Option.toList_some, List.mem_append, List.mem_singleton] at hu
    rcases hu with hu | rfl
    · exact h.before u hu
    · exact hk
  buffer := rfl

theorem onward_move (h : Valid c.buffer c.move) : Onward c c.move := by
  refine ⟨h, Nat.le_succ _, ?_⟩
  simp [Cursor.move]

/-- From a valid cursor on the reader goes forward only, by single steps, however it ends. -/
def Forward (fails : Stop → Prop) {α : Type} (p : Reader α) : Prop :=
  ∀ c, Valid c.buffer c → Leaves (Onward c) fails (p c)

theorem Forward.from (h : Forward fails p) (hc : Onward c c') : Leaves (Onward c) fails (p c') :=
  (h c' hc.valid).mono fun _ h => hc.trans h

/-- However far the first reader went, the second one goes forward from there. -/
theorem Forward.bind {p : Reader α} {f : α → Reader β} (hp : Forward fails p) (hf : ∀ a, Forward fails (f a)) :
    Forward fails (p >>= f) :=
  fun c hc => (hp c hc).bind fun a _ h => (hf a).from h

/-- Where a reader failed, it has gone forward, and what handles the failure goes on from there. -/
theorem Forward.tryCatch {p : Reader α} {handle : Stop → Reader α} (hp : Forward caught p)
    (hh : ∀ e, caught e → Forward fails (handle e)) : Forward fails (tryCatch p handle) :=
  fun c hc => (hp c hc).tryCatch fun e _ he h => (hh e he).from h

theorem Forward.tryFinally {p : Reader α} {q : Reader β} (hp : Forward fails p) (hq : Forward fails q) :
    Forward fails (tryFinally p q) :=
  fun c hc => (hp c hc).tryFinally fun _ h => hq.from h

theorem forward_pure (a : α) : Forward fails (pure a) := fun _ hc => .ok (.refl hc) a

theorem forward_get : Forward fails get := fun c hc => .ok (.refl hc) c

theorem forward_throw (he : fails e) : Forward fails (throw e : Reader α) := fun _ hc => .error (.refl hc) he

/-- What leaves the tokens and the position alone may change the rest. -/
theorem forward_modify {f : Cursor → Cursor}
    (h : ∀ c, (f c).buffer = c.buffer ∧ (f c).position = c.position ∧ (f c).path = c.path) :
    Forward fails (modify f) := by
  intro c hc
  obtain ⟨hbuffer, hposition, hpath⟩ := h c
  exact .ok (onward_of_eq hc hbuffer hposition hpath) ()

theorem forward_look {f : Cursor → Option α} (h : ∀ c, Valid c.buffer c → ∃ a, f c = some a) (e : Stop) :
    Forward fails (look f e) := by
  intro c hc
  obtain ⟨a, ha⟩ := h c hc
  rw [look_of_some ha]
  exact .ok (.refl hc) a

/-- Whatever is looked up from a valid cursor is there. -/
theorem forward_current : Forward fails current := by
  rw [current_eq_look]
  exact forward_look (fun _ hc => hc.exists_here) _

theorem forward_previous : Forward fails previous := by
  rw [previous_eq_look]
  exact forward_look (fun _ hc => hc.exists_back) _

/-- At an end the cursor stays, and anywhere else it moves by one token. -/
theorem forward_advance : Forward fails advance := by
  intro c hc
  obtain ⟨t, ht⟩ := hc.exists_here
  have hcurrent : current c = .ok t c := by rw [current_eq_look, look_of_some ht]
  rw [advance, bind_of_ok hcurrent]
  split
  · exact forward_pure t c hc
  · next hend =>
    have hk : t.kind ≠ .eof := Parse.isEnd_eq_false_iff.mp (Bool.eq_false_iff.mpr hend)
    exact .ok (onward_move (hc.move ht hk)) t

def Refuses (e : Stop) : Prop := e ≠ .outOfRange

theorem onward_advance (hc : Valid c.buffer c) (h : advance c = .ok t c') : Onward c c' := by
  have hadvance : Forward Refuses advance := forward_advance
  exact (hadvance c hc).of_ok h

theorem forward_refuse (why : Complaint) : Forward Refuses (refuse why : Reader α) :=
  forward_current.bind fun _ => forward_throw Stop.noConfusion

theorem forward_report (e : SyntaxError) : Forward fails (report e) := forward_modify fun _ => ⟨rfl, rfl, rfl⟩

/-- The counter goes up and down, but the cursor only forward. -/
theorem forward_nested {p : Reader α} (h : Forward Refuses p) : Forward Refuses (nested p) := by
  have hnest : Forward Refuses nest := by
    refine forward_get.bind fun c => ?_
    split
    · exact forward_refuse _
    · exact forward_modify fun _ => ⟨rfl, rfl, rfl⟩
  exact hnest.bind fun _ => h.tryFinally (forward_modify fun _ => ⟨rfl, rfl, rfl⟩)

instance : Compositional (@Forward Refuses) where
  holds_pure := forward_pure
  holds_bind := Forward.bind
  holds_get := forward_get
  holds_current := forward_current
  holds_advance := forward_advance
  holds_refuse := forward_refuse
  holds_report := forward_report
  holds_nested := forward_nested

/-- No reader of expressions or declarations ever goes back. -/
theorem forward_readers : readers.Holds (@Forward Refuses) := holds_readersWithin _

theorem forward_isAtEnd : Forward fails isAtEnd := forward_current.bind fun _ => forward_pure _

theorem forward_skip (n : Nat) : Forward fails (skip n) := by
  induction n with
  | zero => exact forward_pure ()
  | succ n ih =>
    refine forward_isAtEnd.bind fun atEnd => ?_
    split
    · exact forward_pure ()
    · refine forward_previous.bind fun t => ?_
      split
      · exact forward_pure ()
      · refine forward_current.bind fun t => ?_
        split
        · exact forward_pure ()
        · exact forward_advance.bind fun _ => ih

theorem forward_opensBehind (start : Nat) : Forward fails (opensBehind start) := by
  refine forward_get.bind fun c => ?_
  split
  · exact forward_current.bind fun t => forward_pure _
  · exact forward_pure false

/-- What is skipped is passed token by token, and skipping does not fail. -/
theorem forward_synchronize (start : Nat) : Forward fails (synchronize start) := by
  have hreset : Forward fails (modify restart : Reader PUnit) := forward_modify fun _ => ⟨rfl, rfl, rfl⟩
  refine hreset.bind fun _ => (forward_opensBehind start).bind fun opens => ?_
  split
  · exact forward_pure ()
  · exact forward_advance.bind fun _ => forward_get.bind fun _ => forward_skip _

/-- Whether a declaration is read or refused, the turn does not fail. -/
theorem forward_turn : Forward (fun _ => False) turn := by
  have hbegun : Forward (fun _ => False) (modify begun : Reader PUnit) := forward_modify fun _ => ⟨rfl, rfl, rfl⟩
  have hread : Forward Refuses (some <$> declaration readers) :=
    forward_readers.declaration.bind fun s => forward_pure (some s)
  refine hbegun.bind fun _ => forward_get.bind fun c => hread.tryCatch fun e he => ?_
  cases e with
  | outOfRange => exact (he rfl).elim
  | refused e =>
    refine (forward_report e).bind fun _ => ?_
    exact (forward_synchronize _).bind fun _ => forward_pure none

/-- However many turns are taken, none of them fails. -/
theorem forward_turns (n : Nat) : Forward (fun _ => False) (turns n) := by
  induction n with
  | zero => exact forward_pure []
  | succ n ih =>
    refine forward_isAtEnd.bind fun atEnd => ?_
    split
    · exact forward_pure []
    · exact forward_turn.bind fun s => ih.bind fun ss => forward_pure _

/-- Where it succeeds, the reader has gone forward by one token at least. -/
def Gains (p : Reader α) : Prop := ∀ c a c', Valid c.buffer c → p c = .ok a c' → c.position < c'.position

theorem Gains.then {p : Reader α} {f : α → Reader β} (hp : Gains p) (hforward : Forward Refuses p)
    (hf : ∀ a, Forward Refuses (f a)) : Gains (p >>= f) := by
  intro c b c'' hc h
  obtain ⟨a, c', hpc, hfc⟩ := bind_eq_ok_iff.mp h
  have honward := (hforward c hc).of_ok hpc
  have honward' := (hf a c' honward.valid).of_ok hfc
  exact Nat.lt_of_lt_of_le (hp c a c' hc hpc) honward'.forward

theorem Gains.behind {p : Reader α} {f : α → Reader β} (hp : Forward Refuses p) (hf : ∀ a, Gains (f a)) :
    Gains (p >>= f) := by
  intro c b c'' hc h
  obtain ⟨a, c', hpc, hfc⟩ := bind_eq_ok_iff.mp h
  have honward := (hp c hc).of_ok hpc
  exact Nat.lt_of_le_of_lt honward.forward (hf a c' b c'' honward.valid hfc)

theorem gains_consume (hk : kind ≠ .eof) (why : Complaint) : Gains (consume kind why) := by
  intro c t c' hc h
  rcases consume_cases hc.inRange kind hk why with ⟨_, hconsume⟩ | ⟨u, us, _, hconsume, _⟩
  · cases hconsume.symm.trans h
  · cases hconsume.symm.trans h
    exact Nat.lt_succ_self _

theorem gains_closed (why : Complaint) (a : α) : Gains (consume .semicolon why >>= fun _ => pure a) :=
  (gains_consume (by decide) why).then (holds_consume _ _) fun _ => forward_pure a

/-- All ways through a declaration go over its semicolon. -/
theorem gains_declaration : Gains (declaration readers) := by
  refine .behind (holds_pass? _) fun keyword => ?_
  cases keyword with
  | some keyword =>
    refine .behind (holds_consume _ _) fun name => .behind (holds_pass? _) fun equals => ?_
    cases equals with
    | none => exact gains_closed _ _
    | some equals => exact .behind forward_readers.value fun e => gains_closed _ _
  | none =>
    refine .behind (holds_pass? _) fun keyword => ?_
    cases keyword with
    | some keyword => exact .behind forward_readers.value fun e => gains_closed _ _
    | none => exact .behind forward_readers.value fun e => gains_closed _ _

theorem ahead_of_not_atEnd (hc : c.InRange) (h : isAtEnd c = .ok false c) :
    ∃ t ts, c.ahead = t :: ts ∧ t.kind ≠ .eof := by
  have hend := h.symm.trans (isAtEnd_eq hc)
  rw [EStateM.Result.ok.injEq] at hend
  cases ha : c.ahead with
  | nil =>
    rw [ha, List.headD_nil, isEnd_last] at hend
    cases hend.1
  | cons t ts =>
    rw [ha, List.headD_cons] at hend
    exact ⟨t, ts, rfl, Parse.isEnd_eq_false_iff.mp hend.1.symm⟩

/-- A declaration that failed before anything was read is left behind all the same. -/
theorem gains_synchronize (hc : Valid c.buffer c) (hle : start ≤ c.position)
    (hstart : c.position = start → ∃ t ts, c.ahead = t :: ts ∧ t.kind ≠ .eof) (h : synchronize start c = .ok () c') :
    start < c'.position := by
  rcases Nat.lt_or_eq_of_le hle with hlt | rfl
  · have hsynchronize : Forward Refuses (synchronize start) := forward_synchronize start
    have honward := (hsynchronize c hc).of_ok h
    exact Nat.lt_of_lt_of_le hlt honward.forward
  · obtain ⟨t, ts, ha, hk⟩ := hstart rfl
    have hrestart : Onward c c.restart := onward_of_eq hc rfl rfl rfl
    have hadvance : advance c.restart = .ok t c.restart.move := advance_eq hk ha hc.inRange
    have hmove := onward_advance hrestart.valid hadvance
    have hskip : Forward Refuses (get >>= fun c => skip c.buffer.tokens.length) :=
      forward_get.bind fun c => forward_skip _
    rw [synchronize_eq hc.inRange, decide_eq_false (Nat.lt_irrefl _), Bool.false_and, if_neg Bool.false_ne_true,
      bind_of_ok hadvance] at h
    have honward := (hskip _ hmove.valid).of_ok h
    exact Nat.lt_of_lt_of_le (Nat.lt_succ_self _) honward.forward

/-- A declaration that is read goes over its semicolon, and one that is refused is left behind by what is skipped. -/
theorem gains_turn (hc : Valid c.buffer c) (hend : isAtEnd c = .ok false c) (h : turn c = .ok s c') :
    c.position < c'.position := by
  have hbegun : Onward c c.begun := onward_of_eq hc rfl rfl rfl
  have hread := forward_readers.declaration c.begun hbegun.valid
  rw [turn_eq] at h
  cases hd : declaration readers c.begun with
  | ok s' c₁ =>
    rw [hd] at h
    cases h
    exact gains_declaration c.begun s' _ hbegun.valid hd
  | error e c₁ =>
    have honward := (hread.of_error hd).1
    rw [hd] at h
    cases e with
    | outOfRange => cases h
    | refused e =>
      let c₂ : Cursor := { c₁ with errors := c₁.errors ++ [e] }
      have hreport : report e c₁ = .ok () c₂ := rfl
      have honward₂ : Onward c.begun c₂ := honward.trans (onward_of_eq honward.valid rfl rfl rfl)
      obtain ⟨t, ts, ha, hk⟩ := ahead_of_not_atEnd hc.inRange hend
      dsimp only at h
      rw [bind_of_ok hreport, bind_eq_ok_iff] at h
      obtain ⟨_, c₃, hsynchronize, hpure⟩ := h
      cases hpure
      refine gains_synchronize honward₂.valid honward₂.forward (fun hp => ⟨t, ts, ?_, hk⟩) hsynchronize
      rw [← ha, ahead, ahead, hp, honward₂.buffer]
      rfl

/-- Each token before the cursor is among those before the first end. -/
theorem Valid.position_le (h : Valid b c) : c.position ≤ (b.toList.takeWhile (!Parse.isEnd ·)).length := by
  have hno : ∀ t ∈ b.toList.take c.position, (!Parse.isEnd t) = true := by
    intro t ht
    simpa [Parse.isEnd] using h.before t ht
  have hfront : b.toList.takeWhile (!Parse.isEnd ·) =
      b.toList.take c.position ++ (b.toList.drop c.position).takeWhile (!Parse.isEnd ·) := by
    rw [← List.takeWhile_append_of_pos hno, List.take_append_drop]
  rw [hfront, List.length_append, List.length_take_of_le (Nat.le_of_lt h.bound)]
  exact Nat.le_add_right _ _

theorem takeWhile_concat_end (ts : List Token) (ht : t.kind = .eof) :
    (ts ++ [t]).takeWhile (!Parse.isEnd ·) = ts.takeWhile (!Parse.isEnd ·) := by
  have hend : [t].takeWhile (!Parse.isEnd ·) = [] := by simp [Parse.isEnd, ht]
  rw [List.takeWhile_append, hend]
  split
  · next hall =>
    rw [List.append_nil]
    exact (List.takeWhile_prefix _).eq_of_length hall |>.symm
  · rfl

/-- The end that is put behind the tokens is none of those before the first end. -/
theorem takeWhile_toList (ts : List Token) :
    (Buffer.ofTokens ts).toList.takeWhile (!Parse.isEnd ·) = ts.takeWhile (!Parse.isEnd ·) := by
  rw [Buffer.toList, takeWhile_concat_end _ (Buffer.ofTokens ts).kind_last]
  rcases List.eq_nil_or_concat ts with rfl | ⟨init, t, rfl⟩
  · rfl
  · rw [List.concat_eq_append]
    by_cases ht : t.kind = .eof
    · rw [Buffer.ofTokens_concat init ht, takeWhile_concat_end init ht]
    · rw [Buffer.tokens_ofTokens_concat init ht]

/-- Turns that are over by themselves are not cut off. -/
theorem turns_of_repeats (h : Repeats isAtEnd turn c ss c') (hn : ss.length ≤ n) :
    turns n c = .ok (ss.flatMap Option.toList) c' := by
  induction h generalizing n with
  | stop h =>
    cases n with
    | zero => rfl
    | succ n =>
      rw [turns, bind_of_ok h]
      rfl
  | again h hr hs ih =>
    obtain ⟨n, rfl⟩ := Nat.exists_eq_add_of_le' (Nat.le_trans (Nat.succ_le_succ (Nat.zero_le _)) hn)
    have hturns := ih (Nat.le_of_succ_le_succ hn)
    rw [turns, bind_of_ok h, if_neg Bool.false_ne_true, bind_of_ok hr, bind_of_ok hturns]
    rfl

/-- More rounds than there are tokens change nothing: the loop has come to its end by then. -/
def Ample (loop : Nat → Reader α) : Prop :=
  ∀ c, Valid c.buffer c → ∀ n, c.buffer.tokens.length ≤ n → loop n c = loop c.buffer.tokens.length c

theorem ahead_eq_nil (h : c.buffer.tokens.length ≤ c.position) : c.ahead = [] := List.drop_eq_nil_of_le h

theorem skip_of_le (hc : Valid c.buffer c) (hn : c.buffer.tokens.length ≤ c.position + n) (hm : n ≤ m) :
    skip m c = skip n c := by
  induction n generalizing c m with
  | zero =>
    have hend : Parse.isEnd (c.ahead.headD c.buffer.last) = true := by
      rw [ahead_eq_nil hn, List.headD_nil, isEnd_last]
    exact skip_of_end hc.inRange hend m
  | succ n ih =>
    obtain ⟨m, rfl⟩ := Nat.exists_eq_add_of_le' (Nat.le_trans (Nat.succ_le_succ (Nat.zero_le n)) hm)
    obtain ⟨u, hback⟩ := hc.exists_back
    have hprevious : previous c = .ok u c := by rw [previous_eq_look, look_of_some hback]
    rw [skip, skip, bind_of_ok (isAtEnd_eq hc.inRange), bind_of_ok (isAtEnd_eq hc.inRange)]
    by_cases hend : Parse.isEnd (c.ahead.headD c.buffer.last) = true
    · rw [if_pos hend, if_pos hend]
    · rw [if_neg hend, if_neg hend, bind_of_ok hprevious, bind_of_ok hprevious]
      split
      · rfl
      · rw [bind_of_ok (current_eq hc.inRange), bind_of_ok (current_eq hc.inRange)]
        split
        · rfl
        · have hatEnd : isAtEnd c = .ok false c := by rw [isAtEnd_eq hc.inRange, Bool.eq_false_iff.mpr hend]
          obtain ⟨t, ts, ha, hk⟩ := ahead_of_not_atEnd hc.inRange hatEnd
          have hadvance := advance_eq hk ha hc.inRange
          have hmove := onward_advance hc hadvance
          rw [bind_of_ok hadvance, bind_of_ok hadvance]
          exact ih hmove.valid (by simp only [move]; omega) (Nat.le_of_succ_le_succ hm)

/-- A chain that may have as many operators as there are tokens left is never cut off. -/
theorem chainFrom_of_le {operand : Reader Expr} (h : Forward Refuses operand) (hk : .eof ∉ kinds)
    (hc : Valid c.buffer c) (hn : c.buffer.tokens.length ≤ c.position + n) (hm : n ≤ m) (lhs : Expr) :
    chainFrom kinds operand m lhs c = chainFrom kinds operand n lhs c := by
  induction n generalizing c m lhs with
  | zero =>
    cases m with
    | zero => rfl
    | succ m =>
      rcases pass?_cases hc.inRange kinds hk with ⟨_, hpass⟩ | ⟨t, ts, ht, _, _⟩
      · rw [chainFrom, chainFrom, bind_of_ok hpass]
      · rw [ahead_eq_nil hn] at ht
        cases ht
  | succ n ih =>
    obtain ⟨m, rfl⟩ := Nat.exists_eq_add_of_le' (Nat.le_trans (Nat.succ_le_succ (Nat.zero_le n)) hm)
    rw [chainFrom, chainFrom]
    rcases pass?_cases hc.inRange kinds hk with ⟨_, hpass⟩ | ⟨op, ts, _, hpass, _⟩
    · rw [bind_of_ok hpass, bind_of_ok hpass]
    · have hforward : Forward Refuses (pass? kinds) := holds_pass? kinds
      have hmove := (hforward c hc).of_ok hpass
      rw [bind_of_ok hpass, bind_of_ok hpass]
      dsimp only
      rw [bind_eq, bind_eq]
      cases hoperand : operand c.move with
      | error e c' => rfl
      | ok rhs c' =>
        have honward := (h c.move hmove.valid).of_ok hoperand
        have hforward : c.position + 1 ≤ c'.position := honward.forward
        have hbuffer : c'.buffer = c.buffer := honward.buffer
        exact ih honward.valid (by rw [hbuffer]; omega) (Nat.le_of_succ_le_succ hm) _

theorem ample_skip : Ample skip := fun _ hc _ hn => skip_of_le hc (Nat.le_add_left _ _) hn

theorem ample_chainFrom (l : Level) (tighter : List Level) (lhs : Expr) :
    Ample fun n => chainFrom l.kinds (binary readers tighter) n lhs :=
  fun _ hc _ hn => chainFrom_of_le (forward_readers.binary tighter) (eof_notMem_kinds l) hc (Nat.le_add_left _ _) hn lhs

theorem valid_ofTokens (ts : List Token) : Valid (Buffer.ofTokens ts) (ofTokens ts) where
  bound := by
    rw [length_toList]
    exact Nat.succ_pos _
  before := by
    intro t ht
    cases ht
  buffer := rfl

/-- A turn that begins before an end does not fail, and takes the cursor further. -/
theorem exists_turn (h : Valid c.buffer c) (hend : isAtEnd c = .ok false c) :
    ∃ s c', turn c = .ok s c' ∧ Onward c c' ∧ c.position < c'.position := by
  obtain ⟨s, c', hturn, honward⟩ := (forward_turn c h).exists_ok
  exact ⟨s, c', hturn, honward, gains_turn h hend hturn⟩

/-- The path of a cursor that went forward only has all positions up to its own, each of them once. -/
theorem path_of_onward (h : Onward (ofTokens ts) c) : c.path = List.range (c.position + 1) := by
  have hpath : c.path = [0] ++ List.range' 1 c.position := h.path
  rw [hpath, List.range_eq_range', Nat.add_comm, ← List.range'_append_1]
  rfl

/-- Whatever the cursor came by could be read. -/
theorem readable_of_mem_path (h : Onward (ofTokens ts) c) (hp : p ∈ c.path) : Readable (Buffer.ofTokens ts) p := by
  rw [path_of_onward h, List.mem_range] at hp
  exact h.toReadable.of_le (Nat.le_of_lt_succ hp)

/-- The turns come to an end, since there is an end to the tokens and each turn gets further. -/
theorem exists_turns (ts : List Token) :
    ∃ outcomes c, Repeats isAtEnd turn (ofTokens ts) outcomes c ∧ Onward (ofTokens ts) c ∧
      outcomes.length ≤ c.position := by
  have hlimit : ∀ c, Onward (ofTokens ts) c → c.position ≤ (Buffer.ofTokens ts).toList.length :=
    fun c hc => Nat.le_of_lt hc.bound
  have hended : ∀ c, Onward (ofTokens ts) c → ∃ b, isAtEnd c = .ok b c :=
    fun c hc => ⟨_, isAtEnd_eq hc.valid.inRange⟩
  have hturn : ∀ c, Onward (ofTokens ts) c → isAtEnd c = .ok false c →
      ∃ s c', turn c = .ok s c' ∧ Onward (ofTokens ts) c' ∧ c.position < c'.position := by
    intro c hc hend
    obtain ⟨s, c', hturn, honward, hlt⟩ := exists_turn hc.valid hend
    exact ⟨s, c', hturn, hc.trans honward, hlt⟩
  obtain ⟨outcomes, c, hrepeats, hc, hplace⟩ :=
    exists_repeats hlimit hended hturn (.refl (valid_ofTokens ts))
  exact ⟨outcomes, c, hrepeats, hc, Nat.le_trans (Nat.le_add_left _ _) hplace⟩

/-- Keywords that open statements, but none that can be read, before and behind one that can. -/
def barren : List Token :=
  [⟨.kwIf, "if", none, 1⟩, ⟨.kwPrint, "print", none, 2⟩, ⟨.kwNil, "nil", none, 2⟩, ⟨.semicolon, ";", none, 2⟩,
    ⟨.kwVar, "var", none, 3⟩]

end Lox.Cursor
