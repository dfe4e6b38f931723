import Mathlib.Data.List.Induction
import Lox.Proofs.Execution.Steps
namespace Lox

namespace Console

theorem extract_of_le (h : ByteArray.size bytes ≤ n) : bytes.extract 0 n = bytes := by
  apply ByteArray.ext
  rw [ByteArray.data_extract, Array.extract_eq_self_of_le h]

/-- Where there is room for the bytes they are written, and there is that much less room. -/
theorem write_of_room {c : Console} (h : ∀ n ∈ c.room, bytes.size ≤ n) :
    c.write bytes =
      ({ c with written := c.written ++ bytes, room := c.room.map (· - bytes.size) }, none) := by
  obtain ⟨written, room, failure⟩ := c
  cases room with
  | none => rfl
  | some n => simp [write, h n rfl]

theorem write_over (h : n < ByteArray.size bytes) (written : ByteArray) (failure : WriteFailure) :
    write ⟨written, some n, failure⟩ bytes =
      (⟨written ++ bytes.extract 0 n, some 0, failure⟩, some failure) := by
  simp [write, Nat.not_le.mpr h]

/-- It makes no difference whether bytes are written at once or in two parts, the second if the first had
room. -/
theorem write_append (c : Console) (bytes more : ByteArray) :
    c.write (bytes ++ more) =
      match c.write bytes with
      | (c', none) => c'.write more
      | (c', some failure) => (c', some failure) := by
  obtain ⟨written, room, failure⟩ := c
  cases room with
  | none => simp [write, ByteArray.append_assoc]
  | some n =>
    by_cases hfirst : bytes.size ≤ n
    · by_cases hboth : bytes.size + more.size ≤ n
      · have hmore : more.size ≤ n - bytes.size := by omega
        simp [write, hfirst, hboth, hmore, ByteArray.append_assoc, Nat.sub_sub]
      · have hmore : ¬more.size ≤ n - bytes.size := by omega
        simp [write, hfirst, hboth, hmore, ByteArray.append_assoc, ByteArray.extract_append,
          extract_of_le hfirst]
    · have hboth : ¬bytes.size + more.size ≤ n := by omega
      have hnone : n - bytes.size = 0 := by omega
      simp [write, hfirst, hboth, ByteArray.extract_append, hnone]

end Console

def Value.line (v : Value) : ByteArray := (v.display ++ "\n").toByteArray

namespace Machine

/-- A value is printed as it is when its text is written first and the end of the line after it. -/
theorem print_in_parts (m : Machine) (keyword : Token) (v : Value) :
    m.print keyword v =
      match m.console.write v.display.toByteArray with
      | (c, some failure) => ({ m with console := c }, some (.writeFailed keyword failure))
      | (c, none) =>
        match c.write "\n".toByteArray with
        | (c', failure) => ({ m with console := c' }, failure.map (.writeFailed keyword)) := by
  simp only [print]
  rw [String.toByteArray_append, Console.write_append]
  rcases m.console.write v.display.toByteArray with ⟨c, _ | failure⟩ <;> rfl

theorem print_over (h : n < (Value.line v).size) (s : Store) (written : ByteArray) (failure : WriteFailure)
    (keyword : Token) :
    print ⟨s, ⟨written, some n, failure⟩⟩ keyword v =
      (⟨s, ⟨written ++ v.line.extract 0 n, some 0, failure⟩⟩, some (.writeFailed keyword failure)) := by
  have hwrite := Console.write_over h written failure
  simp only [print]
  rw [← Value.line, hwrite]
  rfl

end Machine

namespace Stmt

theorem exec_print {e : Expr} (he : e.eval s = .ok v s') (keyword : Token) (c : Console) :
    (Stmt.print keyword e).exec ⟨s, c⟩ = Machine.print ⟨s', c⟩ keyword v := by
  simp only [exec, Machine.eval, he]

/-- A statement without output does the same on every console, and any other is a print that has a value. -/
theorem quiet_or_prints (stmt : Stmt) (s : Store) :
    (∃ s' f, ∀ c, stmt.exec ⟨s, c⟩ = (⟨s', c⟩, f)) ∨
      ∃ keyword e v s', stmt = .print keyword e ∧ e.eval s = .ok v s' := by
  obtain ⟨run, hdoes, hrun⟩ := stmt.exists_does s
  cases hdoes with
  | evaluated he => exact .inl ⟨_, none, hrun⟩
  | printed he => exact .inr ⟨_, _, _, _, rfl, he⟩
  | bare => exact .inl ⟨_, none, hrun⟩
  | declared he => exact .inl ⟨_, none, hrun⟩
  | faulted hs he => exact .inl ⟨_, some _, hrun⟩

/-- Wherever there is room for these bytes the statement writes them, and it leaves this store and ends in this
way. -/
def Emits (stmt : Stmt) (s : Store) (bytes : ByteArray) (s' : Store) (f : Option Fault) : Prop :=
  ∀ (room : Option Nat) (written : ByteArray) (failure : WriteFailure), (∀ n ∈ room, bytes.size ≤ n) →
    stmt.exec ⟨s, ⟨written, room, failure⟩⟩ =
      (⟨s', ⟨written ++ bytes, room.map (· - bytes.size), failure⟩⟩, f)

theorem emits_of_quiet {stmt : Stmt} (h : ∀ c, stmt.exec ⟨s, c⟩ = (⟨s', c⟩, f)) : stmt.Emits s .empty s' f := by
  intro room written failure _
  rw [h]
  simp

theorem emits_print {e : Expr} (he : e.eval s = .ok v s') (keyword : Token) :
    (Stmt.print keyword e).Emits s v.line s' none := by
  intro room written failure hroom
  have hwrite := Console.write_of_room (c := ⟨written, room, failure⟩) hroom
  rw [exec_print he]
  simp only [Machine.print]
  rw [← Value.line, hwrite]
  rfl

/-- What a statement does where there is room depends on its store alone. -/
theorem exists_emits (stmt : Stmt) (s : Store) : ∃ bytes s' f, stmt.Emits s bytes s' f := by
  rcases stmt.quiet_or_prints s with ⟨s', f, hquiet⟩ | ⟨keyword, e, v, s', rfl, he⟩
  · exact ⟨.empty, s', f, emits_of_quiet hquiet⟩
  · exact ⟨v.line, s', none, emits_print he keyword⟩

end Stmt

namespace Store

def exec (s : Store) (ss : List Stmt) : Execution := Machine.exec ⟨s, .unlimited⟩ ss

def output (s : Store) (ss : List Stmt) : ByteArray := (s.exec ss).machine.console.written

end Store

namespace Stmt.Emits

variable {stmt : Stmt} (h : stmt.Emits s bytes s' f)
include h

/-- On a console that takes everything. -/
theorem exec_unlimited : stmt.exec ⟨s, .unlimited⟩ = (⟨s', ⟨bytes, none, .brokenPipe⟩⟩, f) := by
  have hexec := h none .empty .brokenPipe (by simp)
  rw [ByteArray.empty_append] at hexec
  exact hexec

theorem output_singleton : s.output [stmt] = bytes := by
  cases f with
  | none => rw [Store.output, Store.exec, Machine.exec_cons_of_ok h.exec_unlimited]; rfl
  | some f => rw [Store.output, Store.exec, Machine.exec_cons_of_fault h.exec_unlimited]

end Stmt.Emits

/-- As long as there is room, the console makes no difference but to what was written before and to the room that
is left. -/
theorem Machine.exec_of_room (h : ∀ n ∈ room, (Store.output s ss).size ≤ n) (written : ByteArray)
    (failure : WriteFailure) :
    exec ⟨s, ⟨written, room, failure⟩⟩ ss =
      ⟨⟨(s.exec ss).machine.store,
          ⟨written ++ s.output ss, room.map (· - (s.output ss).size), failure⟩⟩,
        (s.exec ss).begun, (s.exec ss).fault⟩ := by
  induction ss generalizing s written room failure with
  | nil =>
    have hnone : s.output [] = .empty := rfl
    simp [exec, hnone, Store.exec]
  | cons stmt others ih =>
    obtain ⟨bytes, s', f, hemits⟩ := stmt.exists_emits s
    cases f with
    | some f =>
      have hfree : s.exec (stmt :: others) = ⟨⟨s', ⟨bytes, none, .brokenPipe⟩⟩, [stmt], some f⟩ :=
        exec_cons_of_fault hemits.exec_unlimited others
      have hout : s.output (stmt :: others) = bytes := by rw [Store.output, hfree]
      rw [hout] at h
      rw [exec_cons_of_fault (hemits room written failure h), hfree, hout]
    | none =>
      have hfree : s.exec (stmt :: others) =
          ⟨⟨(s'.exec others).machine.store, ⟨bytes ++ s'.output others, none, .brokenPipe⟩⟩,
            stmt :: (s'.exec others).begun, (s'.exec others).fault⟩ := by
        rw [Store.exec, exec_cons_of_ok hemits.exec_unlimited, ih (by simp)]
        rfl
      have hout : s.output (stmt :: others) = bytes ++ s'.output others := by rw [Store.output, hfree]
      rw [hout, ByteArray.size_append] at h
      have hbytes : ∀ n ∈ room, bytes.size ≤ n := by
        intro n hn
        have := h n hn
        omega
      have hothers : ∀ n ∈ room.map (· - bytes.size), (s'.output others).size ≤ n := by
        intro n hn
        obtain ⟨n', hn', rfl⟩ := Option.map_eq_some_iff.mp hn
        have := h n' hn'
        omega
      rw [exec_cons_of_ok (hemits room written failure hbytes), ih hothers, hfree, hout]
      simp [ByteArray.append_assoc, Nat.sub_sub, Function.comp_def]

namespace Store

theorem machine_exec (s : Store) (ss : List Stmt) :
    (s.exec ss).machine = ⟨(s.exec ss).machine.store, ⟨s.output ss, none, .brokenPipe⟩⟩ := by
  have hfree : s.exec ss = _ := Machine.exec_of_room (by simp) .empty .brokenPipe
  rw [ByteArray.empty_append] at hfree
  exact congrArg (·.machine) hfree

theorem output_append_of_ok {s : Store} (h : (s.exec ss).fault = none) (others : List Stmt) :
    s.output (ss ++ others) = s.output ss ++ (s.exec ss).machine.store.output others := by
  rw [output, exec, Machine.exec_append_of_ok h]
  change ((s.exec ss).machine.exec others).machine.console.written = _
  rw [machine_exec, Machine.exec_of_room (by simp)]

theorem output_append_of_fault {s : Store} (h : (s.exec ss).fault = some f) (others : List Stmt) :
    s.output (ss ++ others) = s.output ss := by
  rw [output, exec, Machine.exec_append_of_fault h]
  rfl

/-- More statements take nothing back of what was printed. -/
theorem exists_output_append (s : Store) (ss others : List Stmt) :
    ∃ more, s.output (ss ++ others) = s.output ss ++ more := by
  cases h : (s.exec ss).fault with
  | none => exact ⟨_, output_append_of_ok h others⟩
  | some f => exact ⟨.empty, by rw [output_append_of_fault h, ByteArray.append_empty]⟩

theorem size_output_le (s : Store) (h : ss <+: others) : (s.output ss).size ≤ (s.output others).size := by
  obtain ⟨behind, rfl⟩ := h
  obtain ⟨more, hmore⟩ := s.exists_output_append ss behind
  rw [hmore, ByteArray.size_append]
  exact Nat.le_add_right _ _

/-- A cut within what one statement writes spares what was written before it. -/
theorem extract_output {s : Store} (h : s.output (before ++ [stmt]) = s.output before ++ bytes)
    (hroom : (s.output before).size ≤ n) (hcut : n ≤ (s.output before).size + bytes.size) (behind : List Stmt) :
    (s.output (before ++ stmt :: behind)).extract 0 n =
      s.output before ++ bytes.extract 0 (n - (s.output before).size) := by
  obtain ⟨more, hmore⟩ := s.exists_output_append (before ++ [stmt]) behind
  have hnone : n - ((s.output before).size + bytes.size) = 0 := Nat.sub_eq_zero_of_le hcut
  rw [List.append_cons, hmore, h, ByteArray.extract_append, ByteArray.extract_append,
    Console.extract_of_le hroom, ByteArray.size_append, hnone]
  simp

/-- Where the output passes a number of bytes, there is a print with which it does. -/
theorem exists_overflow {s : Store} (h : n < (s.output ss).size) : ∃ before keyword e behind v s',
    ss = before ++ .print keyword e :: behind ∧ (s.exec before).fault = none ∧
      e.eval (s.exec before).machine.store = .ok v s' ∧ (s.output before).size ≤ n ∧
      n < (s.output (before ++ [.print keyword e])).size := by
  -- From the back: if the number was not passed before the last statement, it is with this one.
  induction ss using List.reverseRecOn with
  | nil => exact absurd h (Nat.not_lt_zero n)
  | append_singleton ss stmt ih =>
    by_cases hn : n < (s.output ss).size
    · obtain ⟨before, keyword, e, behind, v, s', rfl, hrest⟩ := ih hn
      exact ⟨before, keyword, e, behind ++ [stmt], v, s', by simp, hrest⟩
    cases hf : (s.exec ss).fault with
    | some f =>
      rw [output_append_of_fault hf] at h
      exact absurd h hn
    | none =>
      rcases stmt.quiet_or_prints (s.exec ss).machine.store with ⟨s', f, hquiet⟩ | ⟨keyword, e, v, s', rfl, he⟩
      · rw [output_append_of_ok hf, (Stmt.emits_of_quiet hquiet).output_singleton, ByteArray.append_empty] at h
        exact absurd h hn
      · exact ⟨ss, keyword, e, [], v, s', rfl, hf, he, Nat.not_lt.mp hn, h⟩

end Store

namespace Machine

/-- The run ends with the print that has no room for its line. -/
theorem exec_overflow {s : Store} (hb : (s.exec before).fault = none)
    (he : e.eval (s.exec before).machine.store = .ok v s') (hroom : (s.output before).size ≤ n)
    (hover : n < (s.output (before ++ [.print keyword e])).size) (written : ByteArray) (failure : WriteFailure)
    (behind : List Stmt) :
    exec ⟨s, ⟨written, some n, failure⟩⟩ (before ++ .print keyword e :: behind) =
      ⟨⟨s', ⟨written ++ (s.output (before ++ .print keyword e :: behind)).extract 0 n, some 0, failure⟩⟩,
        before ++ [.print keyword e], some (.writeFailed keyword failure)⟩ := by
  have hprinted : s.output (before ++ [.print keyword e]) = s.output before ++ v.line := by
    rw [Store.output_append_of_ok hb, (Stmt.emits_print he keyword).output_singleton]
  rw [hprinted, ByteArray.size_append] at hover
  have hline : n - (s.output before).size < v.line.size := by omega
  have hcut := Store.extract_output hprinted hroom (Nat.le_of_lt hover) behind
  have hbefore : exec ⟨s, ⟨written, some n, failure⟩⟩ before = _ :=
    exec_of_room (by simpa using hroom) written failure
  have hfault : (exec ⟨s, ⟨written, some n, failure⟩⟩ before).fault = none := by
    rw [hbefore, hb]
  have hmachine : (exec ⟨s, ⟨written, some n, failure⟩⟩ before).machine = ⟨(s.exec before).machine.store,
      ⟨written ++ s.output before, some (n - (s.output before).size), failure⟩⟩ := by
    rw [hbefore]
    rfl
  have hstop := Stmt.exec_print he keyword ⟨written ++ s.output before, some (n - (s.output before).size), failure⟩
  rw [print_over hline] at hstop
  rw [exec_append_of_ok hfault, hmachine, exec_cons_of_fault hstop, hcut, ByteArray.append_assoc]

/-- With room for `n` bytes statements do all that they do with room for everything, if they print no more than
that. If they do, the first `n` bytes are written, and the run ends with the print that goes beyond them: its
expression has been evaluated, its line has been cut, and nothing behind it is begun. -/
theorem exec_limited (s : Store) (ss : List Stmt) (n : Nat) (written : ByteArray) (failure : WriteFailure) :
    let limited := exec ⟨s, ⟨written, some n, failure⟩⟩ ss
    ((s.output ss).size ≤ n → limited =
      ⟨⟨(s.exec ss).machine.store, ⟨written ++ s.output ss, some (n - (s.output ss).size), failure⟩⟩,
        (s.exec ss).begun, (s.exec ss).fault⟩) ∧
    (n < (s.output ss).size → ∃ before keyword e behind v s',
      ss = before ++ .print keyword e :: behind ∧ (s.exec before).fault = none ∧
      (∀ earlier, earlier <+: before → (s.output earlier).size ≤ n) ∧
      n < (s.output (before ++ [.print keyword e])).size ∧
      e.eval (s.exec before).machine.store = .ok v s' ∧ limited =
      ⟨⟨s', ⟨written ++ (s.output ss).extract 0 n, some 0, failure⟩⟩,
        before ++ [.print keyword e], some (.writeFailed keyword failure)⟩) := by
  intro limited
  constructor
  · intro hroom
    exact exec_of_room (by simpa using hroom) written failure
  · intro hover
    obtain ⟨before, keyword, e, behind, v, s', rfl, hb, he, hroom, hline⟩ := Store.exists_overflow hover
    refine ⟨before, keyword, e, behind, v, s', rfl, hb, ?_, hline, he, ?_⟩
    · intro earlier hprefix
      exact Nat.le_trans (s.size_output_le hprefix) hroom
    · exact exec_overflow hb he hroom hline written failure behind

/-- `print "ab";`: with room for two bytes there is none for the end of the line. -/
def twoLetters : List Stmt := [.print ⟨.kwPrint, "print", none, 1⟩ (.scalar (.text "ab"))]

/-- The letters are written, and the end of their line is not. -/
theorem exec_twoLetters :
    2 < (Store.empty.output twoLetters).size ∧ (Store.empty.output twoLetters).size ≤ 3 ∧
    (exec ⟨.empty, ⟨.empty, some 2, .brokenPipe⟩⟩ twoLetters).machine.console.written = "ab".toByteArray ∧
    (exec ⟨.empty, ⟨.empty, some 3, .brokenPipe⟩⟩ twoLetters).fault = none := by
  have hover : 2 < (Store.empty.output twoLetters).size := by decide +kernel
  have hroom : (Store.empty.output twoLetters).size ≤ 3 := by decide +kernel
  obtain ⟨before, keyword, e, behind, v, s', -, -, -, -, -, hcut⟩ :=
    (exec_limited .empty twoLetters 2 .empty .brokenPipe).2 hover
  have hall := (exec_limited .empty twoLetters 3 .empty .brokenPipe).1 hroom
  refine ⟨hover, hroom, ?_, ?_⟩
  · rw [hcut]
    rfl
  · rw [hall]
    rfl

end Machine

end Lox
