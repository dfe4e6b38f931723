import Lox.Proofs.Cursor.Agreement
namespace Lox.Cursor

variable {c : Cursor}

theorem isAtEnd_eq (h : c.InRange) : isAtEnd c = .ok (Parse.isEnd (c.ahead.headD c.buffer.last)) c := by
  rw [isAtEnd, bind_of_ok (current_eq h)]
  rfl

theorem previous_move (hc : c.InRange) (h : c.ahead = t :: ts) : previous c.move = .ok (some t) c.move := by
  have hget := getElem?_position hc
  rw [h, List.headD_cons] at hget
  simp [previous, move, hget]

theorem isEnd_last (b : Buffer) : Parse.isEnd b.last = true := by
  simp [Parse.isEnd, b.kind_last]

theorem advance_of_end (hc : c.InRange) (h : Parse.isEnd (c.ahead.headD c.buffer.last) = true) :
    advance c = .ok (c.ahead.headD c.buffer.last) c := by
  rw [advance, bind_of_ok (current_eq hc), if_pos h]
  rfl

theorem skip_of_end (hc : c.InRange) (h : Parse.isEnd (c.ahead.headD c.buffer.last) = true) (n : Nat) :
    skip n c = .ok () c := by
  cases n with
  | zero => rfl
  | succ n =>
    rw [skip, bind_of_ok (isAtEnd_eq hc), if_pos h]
    rfl

/-- A round of skipping stops behind a semicolon and before what statements may begin with, and otherwise passes one
token. -/
theorem skip_succ (hc : c.InRange) (ht : previous c = .ok (some t) c) (ha : c.ahead = u :: us) :
    skip (n + 1) c = if t.kind = .semicolon || u.kind.stops then .ok () c else skip n c.move := by
  have hcurrent := current_eq hc
  rw [ha, List.headD_cons] at hcurrent
  rw [skip, bind_of_ok (isAtEnd_eq hc), ha, List.headD_cons]
  by_cases hend : Parse.isEnd u = true
  · have hstops : u.kind.stops = true := Kind.stops_of_eof (by simpa [Parse.isEnd] using hend)
    rw [if_pos hend, hstops, Bool.or_true, if_pos rfl]
    rfl
  · have heof := Parse.isEnd_eq_false_iff.mp (Bool.eq_false_iff.mpr hend)
    rw [if_neg hend, bind_of_ok ht, Kind.stops_of_ne_eof heof]
    by_cases hsemicolon : t.kind = .semicolon
    · simp [hsemicolon, pure, EStateM.pure]
    · rw [if_neg (by simpa using hsemicolon), bind_of_ok hcurrent]
      by_cases hopens : u.kind.opensStatement = true
      · simp [hopens, pure, EStateM.pure]
      · rw [if_neg hopens, bind_of_ok (advance_eq heof ha hc)]
        simp [hsemicolon, hopens]

/-- Behind a token, as much is skipped as from the token on. -/
theorem goes_skip (hc : c.InRange) (ht : previous c = .ok (some t) c) (hn : c.ahead.length ≤ n) :
    ∃ c', skip n c = .ok () c' ∧ c.Goes [] (Lox.skip (t :: c.ahead)) c' := by
  induction n generalizing c t with
  | zero =>
    have hnil := List.length_eq_zero_iff.mp (Nat.le_zero.mp hn)
    have hgoes := Goes.refl hc
    rw [hnil] at hgoes ⊢
    exact ⟨c, rfl, by simpa [Lox.skip] using hgoes⟩
  | succ n ih =>
    have hgoes := Goes.refl hc
    cases ha : c.ahead with
    | nil =>
      have hend : Parse.isEnd (c.ahead.headD c.buffer.last) = true := by simpa [ha] using isEnd_last c.buffer
      rw [ha] at hgoes
      exact ⟨c, skip_of_end hc hend _, by simpa [Lox.skip] using hgoes⟩
    | cons u us =>
      rw [skip_succ hc ht ha, Lox.skip.eq_2 t, atStop_cons]
      rw [ha] at hgoes hn
      split
      · exact ⟨c, rfl, hgoes⟩
      · have hmove := goes_move ha
        have hshort : c.move.ahead.length ≤ n := by
          rw [hmove.ahead]
          exact Nat.le_of_succ_le_succ hn
        obtain ⟨c', hskip, hgoes'⟩ := ih hmove.inRange (previous_move hc ha) hshort
        rw [hmove.ahead] at hgoes'
        exact ⟨c', hskip, hmove.trans hgoes'⟩

/-- A keyword is kept only where the failed declaration took something before it. -/
theorem opensBehind_eq (hc : c.InRange) (start : Nat) : opensBehind start c =
    .ok (start < c.position && (c.ahead.headD c.buffer.last).kind.opensStatement) c := by
  change (if start < c.position then current >>= fun t => pure t.kind.opensStatement
    else pure false : Reader Bool) c = _
  split
  · next h =>
    rw [bind_of_ok (current_eq hc)]
    simp [h, pure, EStateM.pure]
  · next h => simp [h, pure, EStateM.pure]

/-- Either nothing is skipped at all, or the current token is passed before anything else is looked at. -/
theorem synchronize_eq (hc : c.InRange) (start : Nat) : synchronize start c =
    if start < c.position && (c.ahead.headD c.buffer.last).kind.opensStatement then .ok () c.restart
    else (advance >>= fun _ => get >>= fun c' => skip c'.buffer.tokens.length) c.restart := by
  have hrestart : (modify restart : Reader PUnit) c = .ok () c.restart := rfl
  have hopens := opensBehind_eq (c := c.restart) hc start
  rw [synchronize, bind_of_ok hrestart, bind_of_ok hopens]
  split
  · next h => exact (if_pos h).symm
  · next h => exact (if_neg h).symm

/-- Cursors are behind a place where there are fewer tokens left. -/
theorem position_lt_iff (hc : c.InRange) (start : Nat) :
    start < c.position ↔ c.ahead.length < (c.buffer.tokens.drop start).length := by
  unfold InRange at hc
  rw [ahead, List.length_drop, List.length_drop]
  omega

/-- A declaration that does not begin with an end has read something where it stops at one. -/
theorem moved_of_end (hc : c.InRange) (hs : c.buffer.tokens.drop start = t :: ts) (ht : t.kind ≠ .eof)
    (hle : c.ahead.length ≤ (t :: ts).length) (ha : c.ahead = u :: us) (hu : u.kind = .eof) :
    (u :: us).length < (t :: ts).length := by
  rw [← ha]
  refine Nat.lt_of_le_of_ne hle fun hlength => ?_
  have hsome : start < c.buffer.tokens.length := by
    by_contra hnone
    rw [List.drop_eq_nil_of_le (Nat.le_of_not_lt hnone)] at hs
    cases hs
  have hposition : c.position = start := by
    rw [← hs, ahead, List.length_drop, List.length_drop] at hlength
    unfold InRange at hc
    omega
  rw [ahead, hposition, hs, List.cons.injEq] at ha
  exact ht (ha.1 ▸ hu)

/-- Without a keyword to keep, a token is passed and then what is behind it is skipped, unless everything is at its
end. -/
theorem goes_advance_skip (hc : c.InRange) :
    ∃ c', (advance >>= fun _ => get >>= fun c' => skip c'.buffer.tokens.length) c = .ok () c' ∧
      c.Goes [] (if Parse.isEnd (c.ahead.headD c.buffer.last) then c.ahead else Lox.skip c.ahead) c' := by
  split
  · next hend =>
    rw [bind_of_ok (advance_of_end hc hend)]
    exact ⟨c, skip_of_end hc hend _, .refl hc⟩
  · next hend =>
    cases ha : c.ahead with
    | nil =>
      rw [ha] at hend
      exact absurd (isEnd_last c.buffer) hend
    | cons u us =>
      rw [ha, List.headD_cons, Bool.not_eq_true, Parse.isEnd_eq_false_iff] at hend
      have hmove := goes_move ha
      have hshort : c.move.ahead.length ≤ c.move.buffer.tokens.length := by
        rw [ahead, List.length_drop]
        exact Nat.sub_le _ _
      obtain ⟨c', hskip, hgoes⟩ := goes_skip hmove.inRange (previous_move hc ha) hshort
      rw [hmove.ahead] at hgoes
      rw [bind_of_ok (advance_eq hend ha hc)]
      exact ⟨c', hskip, hmove.trans hgoes⟩

/-- The cursor is moved to where reading is taken up again, and the counter is reset. -/
theorem goes_synchronize (hc : c.InRange) (hs : c.buffer.tokens.drop start = t :: ts) (ht : t.kind ≠ .eof)
    (hle : c.ahead.length ≤ (t :: ts).length) :
    ∃ c', synchronize start c = .ok () c' ∧ c.restart.Goes [] (resume (t :: ts) c.ahead) c' := by
  have hbehind : decide (start < c.position) = decide (c.ahead.length < (c.buffer.tokens.drop start).length) :=
    decide_eq_decide.mpr (position_lt_iff hc start)
  have hgoes : c.restart.Goes [] c.ahead c.restart := Goes.refl (c := c.restart) hc
  obtain ⟨c', hskip, hgoes'⟩ := goes_advance_skip (c := c.restart) hc
  have hahead : c.restart.ahead = c.ahead := rfl
  have hlast : c.restart.buffer.last = c.buffer.last := rfl
  rw [hs] at hbehind
  rw [hahead, hlast] at hgoes'
  rw [synchronize_eq hc, hbehind, hskip, resume]
  cases ha : c.ahead with
  | nil =>
    have hopens : c.buffer.last.kind.opensStatement = false := by
      rw [c.buffer.kind_last]
      rfl
    rw [ha, List.headD_nil, isEnd_last, if_pos rfl] at hgoes'
    exact ⟨c', by simp [hopens], by simpa [atStop, Lox.skip] using hgoes'⟩
  | cons u us =>
    rw [ha, List.headD_cons] at hgoes'
    rw [ha] at hgoes
    rw [List.headD_cons, atStop_cons]
    by_cases hu : u.kind = .eof
    · have hend : Parse.isEnd u = true := by simp [Parse.isEnd, hu]
      have hkept : (decide ((u :: us).length < (t :: ts).length) && u.kind.stops) = true := by
        rw [decide_eq_true (moved_of_end hc hs ht hle ha hu), Kind.stops_of_eof hu, Bool.and_self]
      rw [if_pos hend] at hgoes'
      exact ⟨c', by simp [hu, Kind.opensStatement], by rwa [if_pos hkept]⟩
    · have hend : ¬ Parse.isEnd u = true := by simpa [Parse.isEnd] using hu
      rw [Kind.stops_of_ne_eof hu]
      rw [if_neg hend] at hgoes'
      split
      · exact ⟨c.restart, rfl, hgoes⟩
      · exact ⟨c', rfl, hgoes'⟩

/-- Only what a declaration was refused for is handled; where there is no token nothing is. -/
theorem turn_eq (c : Cursor) : turn c =
    match declaration readers c.begun with
    | .ok s c' => .ok (some s) c'
    | .error .outOfRange c' => .error .outOfRange c'
    | .error (.refused e) c' => (report e >>= fun _ => synchronize c.position >>= fun _ => pure none) c' := by
  change tryCatch (some <$> declaration readers) _ c.begun = _
  rw [catch_eq, map_eq]
  rcases declaration readers c.begun with ⟨s, c'⟩ | ⟨_ | _, c'⟩
  · rfl
  · rfl
  · rfl

theorem Goes.of_begun (h : c.begun.Goes es rest c') : c.Goes es rest c' :=
  ⟨h.buffer, h.inRange, h.ahead, h.errors, h.depth⟩

/-- A declaration that is read is a turn of its own, and only misplaced equals signs are reported. -/
theorem goes_turn_of_done (hc : c.InRange) (hd : c.depth = 0) (h : Parser.statement.run c.ahead = .done s signs rest) :
    ∃ c', turn c = .ok (some s) c' ∧ c.Goes (signs.map .invalidTarget) rest c' := by
  have hfollows := follows_declaration (c := c.begun) hc hd
  change Follows c.begun _ (Parser.statement.run c.ahead) at hfollows
  rw [turn_eq]
  rw [h] at hfollows
  generalize declaration readers c.begun = r at hfollows
  cases hfollows with
  | done hg => exact ⟨_, rfl, hg.of_begun⟩

/-- A declaration that is refused is one more error, behind the misplaced equals signs in it. -/
theorem goes_turn_of_failed (hc : c.InRange) (hd : c.depth = 0) (ha : c.ahead = t :: ts) (ht : t.kind ≠ .eof)
    (h : Parser.statement.run (t :: ts) = .failed why signs rest) :
    ∃ c', turn c = .ok none c' ∧
      c.Goes (signs.map .invalidTarget ++ [.unexpected (rest.headD c.buffer.last) why]) (resume (t :: ts) rest) c' := by
  have hfollows := follows_declaration (c := c.begun) hc hd
  have hle := Parser.statement.length_of_failed h
  change Follows c.begun _ (Parser.statement.run c.ahead) at hfollows
  rw [turn_eq]
  rw [ha, h] at hfollows
  generalize declaration readers c.begun = r at hfollows
  cases hfollows with
  | @failed _ c' _ _ _ hg =>
    let c₁ : Cursor := { c' with errors := c'.errors ++ [.unexpected (rest.headD c.buffer.last) why] }
    have hahead : c₁.ahead = rest := hg.ahead
    have hstart : c₁.buffer.tokens.drop c.position = t :: ts := by
      rw [← ha, ahead]
      exact congrArg (·.tokens.drop c.position) hg.buffer
    obtain ⟨c'', hsynchronize, hgoes⟩ := goes_synchronize (c := c₁) hg.inRange hstart ht (hahead ▸ hle)
    rw [hahead] at hgoes
    refine ⟨c'', ?_, hgoes.buffer.trans hg.buffer, hgoes.inRange, hgoes.ahead, ?_, hgoes.depth.trans hd.symm⟩
    · change ((synchronize c.position >>= fun _ => pure none : Reader (Option Stmt)) c₁) = _
      rw [bind_of_ok hsynchronize]
      rfl
    · rw [hgoes.errors, List.append_nil, ← List.append_assoc]
      exact congrArg (· ++ _) hg.errors

/-- As many turns as there are tokens are enough. -/
theorem goes_turns (hc : c.InRange) (hd : c.depth = 0) (hn : c.ahead.length ≤ n) :
    ∃ rest c', turns n c = .ok (Parse.upTo c.buffer.last c.ahead).statements c' ∧
      c.Goes (Parse.upTo c.buffer.last c.ahead).errors rest c' := by
  induction n generalizing c with
  | zero =>
    rw [List.length_eq_zero_iff.mp (Nat.le_zero.mp hn), Parse.upTo_nil]
    exact ⟨_, c, rfl, .refl hc⟩
  | succ n ih =>
    rw [turns, bind_of_ok (isAtEnd_eq hc)]
    cases ha : c.ahead with
    | nil =>
      rw [List.headD_nil, isEnd_last, if_pos rfl, Parse.upTo_nil]
      exact ⟨_, c, rfl, .refl hc⟩
    | cons t ts =>
      rw [ha] at hn
      rw [List.headD_cons]
      by_cases hend : Parse.isEnd t = true
      · rw [if_pos hend, Parse.upTo_of_isEnd hend]
        exact ⟨_, c, rfl, .refl hc⟩
      · rw [if_neg hend]
        rw [Bool.not_eq_true] at hend
        have heof := Parse.isEnd_eq_false_iff.mp hend
        cases h : Parser.statement.run (t :: ts) with
        | done s signs rest =>
          obtain ⟨c', hturn, hg⟩ := goes_turn_of_done hc hd (ha ▸ h)
          have hshort := Parser.statement.length_of_done h
          rw [← hg.ahead] at hshort
          obtain ⟨rest', c'', hturns, hg'⟩ := ih hg.inRange (hg.depth.trans hd) (by omega)
          rw [hg.buffer, hg.ahead] at hturns hg'
          rw [bind_of_ok hturn, bind_of_ok hturns, Parse.upTo_of_done hend h]
          exact ⟨rest', c'', rfl, hg.trans hg'⟩
        | failed why signs rest =>
          obtain ⟨c', hturn, hg⟩ := goes_turn_of_failed hc hd ha heof h
          have hshort := length_resume_lt (Parser.statement.length_of_failed h)
          rw [← hg.ahead] at hshort
          obtain ⟨rest', c'', hturns, hg'⟩ := ih hg.inRange (hg.depth.trans hd) (by omega)
          have hgoes := hg.trans hg'
          rw [hg.buffer, hg.ahead] at hturns hgoes
          rw [List.append_assoc, List.singleton_append] at hgoes
          rw [bind_of_ok hturn, bind_of_ok hturns, Parse.upTo_of_failed hend h]
          exact ⟨rest', c'', rfl, hgoes⟩

/-- With a cursor, parsing comes to the statements and the errors that it comes to with lists. -/
theorem parse_eq (ts : List Token) : ∃ c, parse ts = .ok (Parse.ofTokens ts).statements c ∧
    c.errors = (Parse.ofTokens ts).errors := by
  have hc : (ofTokens ts).InRange := Nat.zero_le _
  have hahead : (ofTokens ts).ahead = (Buffer.ofTokens ts).tokens := List.drop_zero
  obtain ⟨rest, c, hturns, hg⟩ := goes_turns hc rfl (Nat.le_of_eq (congrArg List.length hahead))
  rw [hahead] at hturns hg
  exact ⟨c, hturns, hg.errors⟩

end Lox.Cursor
