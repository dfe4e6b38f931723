import Mathlib.Data.List.TakeWhile
import Lox.Proofs.Recovery.Sealed
namespace Lox

theorem Kind.stops_of_eof (h : k = .eof) : stops k = true := by
  simp [stops, h]

/-- A keyword that opens a statement stops skipping. -/
theorem Kind.stops_of_opens (h : opensStatement k = true) : stops k = true := by
  simp [stops, h]

/-- Among tokens that are no ends, skipping stops before these kinds only. -/
theorem Kind.stops_of_ne_eof (h : k ≠ .eof) : stops k = k.opensStatement := by
  simp [stops, h]

theorem atStop_cons (t : Token) (ts : List Token) : atStop (t :: ts) = t.kind.stops := rfl

/-- Skipping goes no further with more tokens behind a kind that stops it. -/
theorem skip_append (ht : t.kind.stops = true) (hn : us ≠ []) (more : List Token) :
    skip (us ++ t :: more) = skip us ++ t :: more := by
  induction us with
  | nil => exact absurd rfl hn
  | cons u us ih =>
    cases us with
    | nil => simp [skip, atStop_cons, ht]
    | cons v us =>
      have hothers := ih (List.cons_ne_nil v us)
      rw [List.cons_append] at hothers
      rw [List.cons_append, List.cons_append, skip.eq_2 u, skip.eq_2 u, hothers, atStop_cons, atStop_cons]
      split
      · rfl
      · rfl

/-- Where to go on does not depend on what is behind a kind that stops skipping. -/
theorem resume_append (ht : t.kind.stops = true) (hn : start ≠ []) (us more : List Token) :
    resume (start ++ t :: more) (us ++ t :: more) = resume start us ++ t :: more := by
  cases us with
  | nil =>
    have hsome : 0 < start.length := List.length_pos_iff.mpr hn
    simp [resume, atStop_cons, skip, ht, hsome]
  | cons u us =>
    have hskip := skip_append ht (List.cons_ne_nil u us) more
    have hread : (u :: us ++ t :: more).length < (start ++ t :: more).length ↔
        (u :: us).length < start.length := by
      simp only [List.length_append, List.length_cons]
      omega
    have hstop : atStop (u :: us ++ t :: more) = atStop (u :: us) := rfl
    simp only [resume, hskip, hread, hstop]
    split
    · rfl
    · rfl

/-- No statement takes an end, or looks at what is behind it. -/
theorem Parser.statement_end (he : e.kind = .eof) (hn : us ≠ []) (more : List Token) :
    statement.run (us ++ e :: more) = (statement.run us).extend (e :: more) := by
  have hsealed : Sealed [] (e :: more) := .inr ⟨rfl, by simpa using Kind.stops_of_eof he⟩
  have hrun := statement_sealed hsealed (by simpa using hn)
  rw [List.append_nil, List.nil_append] at hrun
  exact hrun

theorem skip_suffix (ts : List Token) : skip ts <:+ ts := by
  induction ts with
  | nil => exact List.suffix_refl _
  | cons t ts ih =>
    unfold skip
    split
    · exact List.suffix_cons t ts
    · exact ih.trans (List.suffix_cons t ts)

/-- Reading is never taken up again before the place where it failed. -/
theorem resume_suffix (start rest : List Token) : resume start rest <:+ rest := by
  unfold resume
  split
  · exact List.suffix_refl _
  · exact skip_suffix rest

namespace Parse

theorem isEnd_eq_false_iff : isEnd t = false ↔ t.kind ≠ .eof := by
  simp [isEnd]

/-- The first end takes the place of the last one. -/
theorem upTo_append_end (hus : ∀ t ∈ us, t.kind ≠ .eof) (he : e.kind = .eof) (last : Token) (more : List Token) :
    upTo last (us ++ e :: more) = upTo e us := by
  fun_induction upTo e us with
  | case1 =>
    have hend : isEnd e = true := by simp [isEnd, he]
    rw [List.nil_append, upTo_of_isEnd hend]
  | case2 t ts hend =>
    have ht := hus t List.mem_cons_self
    rw [← isEnd_eq_false_iff, hend] at ht
    cases ht
  | case3 t ts hend s misplaced rest read others ih =>
    have hrun := Parser.statement_end he (List.cons_ne_nil t ts) more
    have hrest : ∀ u ∈ rest, u.kind ≠ .eof := by
      intro u hu
      exact hus u ((Parser.statement_suffix read).subset hu)
    rw [read] at hrun
    rw [List.cons_append] at hrun ⊢
    rw [upTo_of_done (Bool.eq_false_iff.mpr hend) hrun, ih hrest]
  | case4 t ts hend why misplaced rest read others ih =>
    have hrun := Parser.statement_end he (List.cons_ne_nil t ts) more
    -- The statement is given up at the same token, be it the end, and the next one begins at the same token.
    have hgo := resume_append (Kind.stops_of_eof he) (List.cons_ne_nil t ts) rest more
    have hothers : ∀ u ∈ resume (t :: ts) rest, u.kind ≠ .eof := by
      intro u hu
      exact hus u (((resume_suffix _ rest).trans (Parser.statement_suffix read)).subset hu)
    rw [read] at hrun
    rw [List.cons_append] at hrun hgo ⊢
    rw [upTo_of_failed (Bool.eq_false_iff.mpr hend) hrun, hgo, ih hothers]
    cases rest <;> rfl

/-- Without an end among the tokens they are all read. -/
theorem ofTokens_of_no_end (h : ∀ t ∈ ts, t.kind ≠ .eof) :
    ofTokens ts = upTo (Buffer.ofTokens ts).last ts := by
  simp only [ofTokens, Buffer.ofTokens_of_no_end h]

/-- Whatever is behind the first end, the statements are those of the tokens before it. -/
theorem ofTokens_append_end (hus : ∀ t ∈ us, t.kind ≠ .eof) (he : e.kind = .eof) (more : List Token) :
    ofTokens (us ++ e :: more) = upTo e us := by
  -- The end behind the last token is there already, or is put there, or is the first one itself.
  rcases List.eq_nil_or_concat more with rfl | ⟨init, last, rfl⟩
  · simp only [ofTokens, Buffer.ofTokens_concat us he]
  · by_cases hlast : last.kind = .eof
    · have hbuffer := Buffer.ofTokens_concat (us ++ e :: init) hlast
      rw [List.concat_eq_append, ← List.cons_append, ← List.append_assoc, ofTokens, hbuffer]
      exact upTo_append_end hus he last init
    · have hbuffer := Buffer.tokens_ofTokens_concat (us ++ e :: init) hlast
      rw [List.append_assoc, List.cons_append] at hbuffer
      rw [List.concat_eq_append, ofTokens, hbuffer]
      exact upTo_append_end hus he _ _

/-- Only the tokens before the first end are read. -/
theorem exists_last (ts : List Token) : ∃ last, ofTokens ts = upTo last (ts.takeWhile (!isEnd ·)) := by
  have hno : ∀ t ∈ ts.takeWhile (!isEnd ·), t.kind ≠ .eof := by
    intro t ht
    simpa [isEnd] using List.mem_takeWhile_imp ht
  cases hd : ts.dropWhile (!isEnd ·) with
  | nil =>
    have hall := List.takeWhile_append_dropWhile (p := (!isEnd ·)) (l := ts)
    rw [hd, List.append_nil] at hall
    rw [hall] at hno ⊢
    exact ⟨_, ofTokens_of_no_end hno⟩
  | cons e more =>
    have hall := List.takeWhile_append_dropWhile (p := (!isEnd ·)) (l := ts)
    have he : e.kind = .eof := by
      have hhead := List.head?_dropWhile_not (!isEnd ·) ts
      rw [hd] at hhead
      simpa [isEnd] using hhead
    rw [hd] at hall
    exact ⟨e, by rw [← ofTokens_append_end hno he more, hall]⟩

/-- No tokens behind the first end count. Where there is none, it is as if there were one on the line of the
last token. -/
theorem ofTokens_first_end (hus : ∀ t ∈ us, t.kind ≠ .eof) (he : e.kind = .eof) (more : List Token) :
    ofTokens (us ++ [e] ++ more) = ofTokens (us ++ [e]) ∧
    ofTokens us = ofTokens (us ++ [.atEnd ((us.getLast?.map (·.line)).getD 1)]) := by
  constructor
  · rw [List.append_assoc, List.singleton_append, ofTokens_append_end hus he more, ofTokens_append_end hus he []]
  · rw [ofTokens_of_no_end hus, ofTokens_append_end hus rfl [], Buffer.ofTokens_of_no_end hus]

def unfinished : List Token := [⟨.kwPrint, "print", none, 3⟩, ⟨.kwNil, "nil", none, 4⟩]

def oddEnd : Token := ⟨.eof, "stop", some (.text "stop"), 2⟩

def behindEnd : List Token := [⟨.semicolon, ";", none, 4⟩, .atEnd 5, ⟨.kwPrint, "print", none, 6⟩]

/-- What is missing at the end is told of the end that was found first. -/
theorem ofTokens_unfinished :
    (∀ t ∈ unfinished, t.kind ≠ .eof) ∧ oddEnd.kind = .eof ∧
    ofTokens (unfinished ++ [oddEnd] ++ behindEnd) = ofTokens (unfinished ++ [oddEnd]) ∧
    ofTokens unfinished = ofTokens (unfinished ++ [.atEnd 4]) := by
  have hno : ∀ t ∈ unfinished, t.kind ≠ .eof := by decide
  have hend : oddEnd.kind = .eof := rfl
  exact ⟨hno, hend, ofTokens_first_end hno hend behindEnd⟩

end Parse

end Lox
