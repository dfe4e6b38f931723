import Lox.Proofs.Scanner.Basic
import Lox.Proofs.Source.Positions
namespace Lox

/-- Digits, and perhaps a point with digits behind it. -/
inductive Lexis.Numeral : List Char → Prop
  | whole (hw : Digits whole) : Numeral whole
  | fraction (hw : Digits whole) (hf : Digits fraction) : Numeral (whole ++ '.' :: fraction)

namespace Scanner

variable {s s' s'' : Scanner} {input before read rest : List Char}

/-- By its notes, all that the scanner has done was within the text: its marks were in order and not beyond the end at
each place where they stood, the last one being where they stand now, and so were the ends of what was cut out. Only
numerals were read as numbers. -/
structure Bounded (input : List Char) (s : Scanner) : Prop where
  text : s.text = input
  marks : ∀ mark ∈ s.marks, mark.1 ≤ mark.2 ∧ mark.2 ≤ input.length
  last : s.marks.getLast? = some (s.start, s.current)
  cuts : ∀ cut ∈ s.cuts, cut.1 ≤ cut.2 ∧ cut.2 ≤ input.length
  numerals : ∀ numeral ∈ s.numerals, Lexis.Numeral numeral

/-- The step does not fail but comes to this answer and this state, and what was noted until then is within bounds. -/
structure Runs (input : List Char) (p : Step α) (s : Scanner) (a : α) (s' : Scanner) : Prop where
  eq : p s = .ok a s'
  bounded : Bounded input s'

/-- Steps follow one another, and what they note adds up. -/
theorem Runs.bind {f : α → Step β} (hp : Runs input p s a s') (hf : Runs input (f a) s' b s'') :
    Runs input (p >>= f) s b s'' where
  eq := by rw [bind_of_ok hp.eq, hf.eq]
  bounded := hf.bounded

theorem runs_pure (h : Bounded input s) (a : α) : Runs input (pure a) s a s := ⟨rfl, h⟩

theorem runs_get (h : Bounded input s) : Runs input get s s s := ⟨rfl, h⟩

theorem runs_modify (h : Bounded input (f s)) : Runs input (modify f) s () (f s) := ⟨rfl, h⟩

theorem runs_look (h : Bounded input s) (hf : f s = some a) : Runs input (look f e) s a s := ⟨look_of_some hf e, h⟩

namespace Bounded

/-- The marks stand where they were noted last. -/
theorem marked (h : Bounded input s) : s.start ≤ s.current ∧ s.current ≤ input.length :=
  h.marks _ (List.mem_of_getLast? h.last)

theorem begun (h : Bounded input s) : Bounded input s.begun where
  text := h.text
  marks := List.forall_mem_append.mpr ⟨h.marks, List.forall_mem_singleton.mpr ⟨Nat.le_refl _, h.marked.2⟩⟩
  last := List.getLast?_concat
  cuts := h.cuts
  numerals := h.numerals

/-- Where there is a character to be read, there is one more place for the mark. -/
theorem forward (h : Bounded input s) (hc : s.peek? = some c) : Bounded input s.forward where
  text := h.text
  marks := by
    have hlt : s.current < input.length := h.text ▸ current_lt_of_peek? hc
    exact List.forall_mem_append.mpr
      ⟨h.marks, List.forall_mem_singleton.mpr ⟨Nat.le_succ_of_le h.marked.1, hlt⟩⟩
  last := List.getLast?_concat
  cuts := h.cuts
  numerals := h.numerals

theorem newline (h : Bounded input s) : Bounded input s.newline := ⟨h.text, h.marks, h.last, h.cuts, h.numerals⟩

theorem emit (h : Bounded input s) (t : Token) : Bounded input (s.emit t) :=
  ⟨h.text, h.marks, h.last, h.cuts, h.numerals⟩

theorem complain (h : Bounded input s) (e : LexicalError) : Bounded input (s.complain e) :=
  ⟨h.text, h.marks, h.last, h.cuts, h.numerals⟩

theorem noteCut (h : Bounded input s) (hab : a ≤ b) (hb : b ≤ input.length) : Bounded input (s.noteCut a b) where
  text := h.text
  marks := h.marks
  last := h.last
  cuts := List.forall_mem_append.mpr ⟨h.cuts, List.forall_mem_singleton.mpr ⟨hab, hb⟩⟩
  numerals := h.numerals

theorem noteNumeral (h : Bounded input s) (hn : Lexis.Numeral numeral) : Bounded input (s.noteNumeral numeral) where
  text := h.text
  marks := h.marks
  last := h.last
  cuts := h.cuts
  numerals := List.forall_mem_append.mpr ⟨h.numerals, List.forall_mem_singleton.mpr hn⟩

end Bounded

def moved (s : Scanner) (n : Nat) : Scanner :=
  { s with current := s.current + n, marks := s.marks ++ (List.range' (s.current + 1) n).map (s.start, ·) }

theorem moved_zero (s : Scanner) : s.moved 0 = s := by
  simp [moved]

theorem moved_forward (s : Scanner) (n : Nat) : s.forward.moved n = s.moved (n + 1) := by
  simp [moved, forward, List.range'_succ, Nat.add_assoc, Nat.add_comm 1]

/-- Of the text, this was there before the lexeme began, this much was read of the lexeme, and this is left. -/
structure Stands (s : Scanner) (before read rest : List Char) : Prop where
  text : s.text = before ++ read ++ rest
  start : s.start = before.length
  current : s.current = (before ++ read).length

namespace Stands

theorem peek? (h : s.Stands before read rest) : s.peek? = rest.head? := by
  rw [Scanner.peek?, h.text, h.current, List.getElem?_append_right (Nat.le_refl _), Nat.sub_self,
    List.head?_eq_getElem?]

theorem peekNext? (h : s.Stands before read (c :: rest)) : s.peekNext? = rest.head? := by
  rw [Scanner.peekNext?, h.text, h.current, List.getElem?_append_right (Nat.le_succ _), Nat.succ_sub (Nat.le_refl _),
    Nat.sub_self, List.getElem?_cons_succ, List.head?_eq_getElem?]

theorem moved (h : s.Stands before read (more ++ rest)) : (s.moved more.length).Stands before (read ++ more) rest where
  text := by simp [Scanner.moved, h.text]
  start := h.start
  current := by simp [Scanner.moved, h.current, Nat.add_assoc]

theorem forward (h : s.Stands before read (c :: rest)) : s.forward.Stands before (read ++ [c]) rest := by
  have hmoved : (s.moved [c].length).Stands before (read ++ [c]) rest := moved h
  exact hmoved

theorem noteCut (h : s.Stands before read rest) (a b : Nat) : (s.noteCut a b).Stands before read rest :=
  ⟨h.text, h.start, h.current⟩

theorem current_eq (h : s.Stands before read rest) : s.current = s.start + read.length := by
  rw [h.current, h.start, List.length_append]

theorem moved_takeWhile (h : s.Stands before read rest) (f : Char → Bool) :
    (s.moved (rest.takeWhile f).length).Stands before (read ++ rest.takeWhile f) (rest.dropWhile f) := by
  apply Stands.moved
  rwa [List.takeWhile_append_dropWhile]

end Stands

/-- A part of the text is what there is between its two ends. That it is cut out is noted, and the part is within the
text. -/
theorem runs_cut (h : Bounded input s) (ht : s.text = before ++ part ++ rest) (ha : a = before.length)
    (hb : b = (before ++ part).length) : Runs input (cut a b) s part (s.noteCut a b) := by
  have hab : a ≤ b := by
    rw [ha, hb, List.length_append]
    exact Nat.le_add_right _ _
  have hlength : b ≤ s.text.length := by
    rw [hb, ht]
    simp
  have hslice : s.slice? a b = some part := by
    rw [slice?, if_pos ⟨hab, hlength⟩, ht, hb, ha, List.take_left, List.drop_left]
  have hnoted : Bounded input (s.noteCut a b) := h.noteCut hab (h.text ▸ hlength)
  exact (runs_modify hnoted).bind (runs_look hnoted hslice)

/-- A token is cut out from the one mark to the other. -/
theorem runs_pushLiteral (h : Bounded input s) (hs : s.Stands before read rest) (kind : Kind)
    (literal : Option Literal) : Runs input (pushLiteral kind literal) s ()
      ((s.noteCut s.start s.current).emit ⟨kind, String.ofList read, literal, s.line⟩) := by
  have hcut := runs_cut h hs.text hs.start hs.current
  exact (runs_get h).bind (hcut.bind (runs_modify (hcut.bounded.emit _)))

/-- Where there is a character left, it is read. -/
theorem runs_advance (h : Bounded input s) (hs : s.Stands before read (c :: rest)) :
    Runs input advance s c s.forward := by
  have hpeek : s.peek? = some c := hs.peek?
  have hforward := h.forward hpeek
  exact (runs_look h hpeek).bind ((runs_modify hforward).bind (runs_pure hforward c))

theorem runs_passes? (h : Bounded input s) (hs : s.Stands before read (c :: rest)) :
    Runs input (passes? c) s true s.forward := by
  have hpeek : s.peek? = some c := hs.peek?
  refine (runs_get h).bind ?_
  rw [if_pos hpeek]
  have hforward := h.forward hpeek
  exact (runs_modify hforward).bind (runs_pure hforward true)

/-- Any other character stays to be read. -/
theorem runs_passes?_other (h : Bounded input s) (hs : s.Stands before read rest) (hc : rest.head? ≠ some c) :
    Runs input (passes? c) s false s := by
  refine (runs_get h).bind ?_
  rw [if_neg (hs.peek? ▸ hc)]
  exact runs_pure h false

/-- The loop is what it repeats, once it is known to end. -/
theorem passWhile_eq (f : Char → Bool) : (passWhile f : Step Unit) =
    get >>= fun s : Scanner =>
      if s.peek?.any f then (modify forward : Step Unit) >>= fun _ => (passWhile f : Step Unit) else pure () := by
  funext s
  rw [passWhile, bind_eq]
  change _ = (if s.peek?.any f then (modify forward : Step Unit) >>= fun _ => (passWhile f : Step Unit) else pure ()) s
  split <;> rfl

/-- All characters of this sort are passed that follow one another. -/
theorem runs_passWhile (f : Char → Bool) (h : Bounded input s) (hs : s.Stands before read rest) :
    Runs input (passWhile f) s () (s.moved (rest.takeWhile f).length) := by
  induction rest generalizing s read with
  | nil =>
    rw [passWhile_eq]
    refine (runs_get h).bind ?_
    rw [hs.peek?, List.takeWhile_nil, List.length_nil, moved_zero]
    exact runs_pure h ()
  | cons c rest ih =>
    have hpeek : s.peek? = some c := hs.peek?
    rw [passWhile_eq]
    refine (runs_get h).bind ?_
    rw [hpeek, Option.any_some]
    cases hc : f c with
    | false =>
      rw [List.takeWhile_cons_of_neg (Bool.eq_false_iff.mp hc), List.length_nil, moved_zero]
      exact runs_pure h ()
    | true =>
      have hforward := h.forward hpeek
      have hrest := ih hforward hs.forward
      rw [moved_forward] at hrest
      rw [List.takeWhile_cons_of_pos hc, List.length_cons]
      exact (runs_modify hforward).bind hrest

/-- The scanner behind characters that may be newlines. -/
def passed (s : Scanner) (cs : List Char) : Scanner := { s.moved cs.length with line := s.line + cs.count '\n' }

theorem Stands.passed (h : s.Stands before read (body ++ rest)) : (s.passed body).Stands before (read ++ body) rest :=
  ⟨h.moved.text, h.moved.start, h.moved.current⟩

theorem passed_nil (s : Scanner) : s.passed [] = s := by
  simp [passed, moved]

theorem passed_newline (s : Scanner) (cs : List Char) : s.newline.forward.passed cs = s.passed ('\n' :: cs) := by
  simp [passed, moved, newline, forward, List.range'_succ, Nat.add_assoc, Nat.add_comm 1]

theorem passed_forward (hc : c ≠ '\n') (s : Scanner) (cs : List Char) : s.forward.passed cs = s.passed (c :: cs) := by
  simp [passed, moved, forward, hc, List.range'_succ, Nat.add_assoc, Nat.add_comm 1]

/-- The loop is what it repeats, once it is known to end. -/
theorem passQuoted_eq : (passQuoted : Step Bool) =
    get >>= fun s : Scanner =>
      match s.peek? with
      | none => pure false
      | some c =>
        if c = '"' then pure true
        else (if c = '\n' then modify newline else pure () : Step Unit) >>= fun _ =>
          (modify forward : Step Unit) >>= fun _ => (passQuoted : Step Bool) := by
  funext s
  rw [passQuoted, bind_eq]
  dsimp only [get, getThe, MonadStateOf.get, EStateM.get]
  split
  · next hpeek => simp only [hpeek, pure, EStateM.pure]
  · next c hpeek =>
    simp only [hpeek]
    split
    · rfl
    · split <;> rfl

/-- All is passed up to a quote, or to the end of the text where there is none. -/
theorem runs_passQuoted (h : Bounded input s) (hs : s.Stands before read (body ++ rest)) (hb : '"' ∉ body)
    (hr : ∀ c ∈ rest.head?, c = '"') : Runs input passQuoted s (!rest.isEmpty) (s.passed body) := by
  induction body generalizing s read with
  | nil =>
    rw [passQuoted_eq]
    refine (runs_get h).bind ?_
    rw [hs.peek?, List.nil_append, passed_nil]
    cases rest with
    | nil => exact runs_pure h false
    | cons c rest =>
      obtain rfl := hr c rfl
      exact runs_pure h true
  | cons c body ih =>
    obtain ⟨hc, hbody⟩ : '"' ≠ c ∧ '"' ∉ body := by simpa using hb
    have hpeek : s.peek? = some c := hs.peek?
    rw [passQuoted_eq]
    refine (runs_get h).bind ?_
    simp only [hpeek, if_neg (Ne.symm hc)]
    by_cases hline : c = '\n'
    · subst hline
      rw [if_pos rfl, ← passed_newline]
      have hforward : Bounded input s.newline.forward := h.newline.forward hpeek
      have hstands : s.newline.Stands before read ('\n' :: (body ++ rest)) := ⟨hs.text, hs.start, hs.current⟩
      exact (runs_modify h.newline).bind ((runs_modify hforward).bind (ih hforward hstands.forward hbody))
    · rw [if_neg hline, ← passed_forward hline]
      have hforward : Bounded input s.forward := h.forward hpeek
      exact (runs_pure h ()).bind ((runs_modify hforward).bind (ih hforward hs.forward hbody))

end Scanner

end Lox
