import Lox.Proofs.Scanner.Agreement
namespace Lox

theorem Lexis.Lexeme.numeral (h : Lexeme text .number literal) : Numeral text := by
  cases h with
  | symbol h => exact absurd rfl (symbols_ne_number h)
  | whole hw => exact .whole hw
  | fraction hw hf => exact .fraction hw hf
  | keyword hw hk => exact absurd rfl (keywords_ne_number hk)

namespace Scanner

variable {parse : String → Option Float} {source : String} {s s' : Scanner} {input rest : List Char}

/-- The marks split the text where nothing of a lexeme is read yet. -/
theorem Bounded.stands (h : Bounded input s) : s.begun.Stands (s.text.take s.current) [] (s.text.drop s.current) := by
  have hcurrent : s.current ≤ s.text.length := h.text ▸ h.marked.2
  constructor
  · simp [Scanner.begun]
  · simp [Scanner.begun, hcurrent]
  · simp [Scanner.begun, hcurrent]

/-- A round reads the first piece behind the mark. -/
theorem runs_round (parse : String → Option Float) (h : Bounded input s) (hrest : s.text.drop s.current = c :: cs) :
    ∃ s', Runs input (round parse) s () s' ∧ Took parse (Piece.first c cs).1 s.begun s' := by
  have hstands := h.stands
  rw [hrest] at hstands
  obtain ⟨s', hrun, htook⟩ := runs_scanToken parse h.begun hstands (Piece.takes_first c cs)
  exact ⟨s', (runs_modify h.begun).bind hrun, htook⟩

/-- What was read and what is still to be read behind the mark make up what the whole text gives. -/
structure Agrees (parse : String → Option Float) (source : String) (s : Scanner) : Prop where
  tokens : s.tokens ++ (tokensFrom s.line (s.text.drop s.current)).map (Token.readBy parse) =
    (tokensFrom 1 source.toList).map (Token.readBy parse)
  errors : s.errors ++ errorsFrom s.line (s.text.drop s.current) = errorsFrom 1 source.toList
  line : s.line + (s.text.drop s.current).count '\n' = 1 + source.toList.count '\n'

theorem agrees_ofSource (parse : String → Option Float) (source : String) : Agrees parse source (ofSource source) :=
  ⟨rfl, rfl, rfl⟩

/-- A piece that is read goes over from what is to be read to what was read. -/
theorem Agrees.took (h : Agrees parse source s) (htook : Took parse p s.begun s') (hp : Piece.Before p rest)
    (hs : s.text.drop s.current = p.chars ++ rest) (hs' : s'.text.drop s'.current = rest) : Agrees parse source s' := by
  have hline : s'.line = s.line + p.newlines := htook.line
  have htokens : s'.tokens = s.tokens ++ ((p.token? s'.line).map (Token.readBy parse)).toList := htook.tokens
  have herrors : s'.errors = s.errors ++ (p.error? s'.line).toList := htook.errors
  constructor
  · rw [← h.tokens, hs, hs', tokensFrom_before hp, ← hline, htokens, List.map_append, List.append_assoc,
      Option.toList_map]
  · rw [← h.errors, hs, hs', errorsFrom_before hp, ← hline, herrors, List.append_assoc]
  · rw [← h.line, hs, hs', hline, List.count_append, Piece.newlines, Nat.add_assoc]

theorem bounded_ofSource (source : String) : Bounded source.toList (ofSource source) := by
  constructor <;> simp [ofSource]

theorem runs_atEnd (h : Bounded input s) : Runs input atEnd s (decide (s.text.length ≤ s.current)) s :=
  (runs_get h).bind ((runs_get h).bind (runs_pure h _))

theorem atEnd_iff (h : Bounded input s) (ended : Bool) :
    atEnd s = .ok ended s ↔ ended = decide (input.length ≤ s.current) := by
  rw [(runs_atEnd h).eq, h.text]
  simp [eq_comm]

theorem lt_of_atEnd (h : Bounded input s) (hend : atEnd s = .ok false s) : s.current < input.length := by
  simpa using (atEnd_iff h false).mp hend

theorem le_of_atEnd (h : Bounded input s) (hend : atEnd s = .ok true s) : input.length ≤ s.current := by
  simpa using (atEnd_iff h true).mp hend

/-- A round that begins before the end of the text takes the mark further, and reads what is next. -/
theorem exists_round (parse : String → Option Float) (h : Bounded input s) (hend : atEnd s = .ok false s) :
    ∃ s', Runs input (round parse) s () s' ∧ s.current < s'.current ∧
      ∀ source, Agrees parse source s → Agrees parse source s' := by
  have hlt : s.current < s.text.length := h.text ▸ lt_of_atEnd h hend
  obtain ⟨c, cs, hrest⟩ : ∃ c cs, s.text.drop s.current = c :: cs :=
    List.exists_cons_of_ne_nil (by simpa using hlt)
  obtain ⟨s', hrun, htook⟩ := runs_round parse h hrest
  have hchars := Piece.chars_first c cs
  have hcurrent : s'.current = s.current + (Piece.first c cs).1.chars.length := htook.current
  refine ⟨s', hrun, ?_, fun source ha => ?_⟩
  · have hpos := List.length_pos_iff.mpr (Piece.chars_ne_nil_first c cs)
    omega
  · rw [← hchars] at hrest
    refine ha.took htook (Piece.takes_first c cs).before hrest ?_
    rw [hrun.bounded.text, ← h.text, hcurrent, ← List.drop_drop, hrest, List.drop_left]

/-- However many rounds there are, they do not fail. -/
theorem exists_runs_rounds (parse : String → Option Float) (n : Nat) (h : Bounded input s) :
    ∃ s', Runs input (rounds parse n) s () s' := by
  induction n generalizing s with
  | zero => exact ⟨s, runs_pure h ()⟩
  | succ n ih =>
    have hended := runs_atEnd h
    cases hend : decide (s.text.length ≤ s.current) with
    | true =>
      rw [hend] at hended
      exact ⟨s, hended.bind (runs_pure h ())⟩
    | false =>
      rw [hend] at hended
      obtain ⟨s₁, hround, -⟩ := exists_round parse h hended.eq
      obtain ⟨s', hrounds⟩ := ih hround.bounded
      exact ⟨s', hended.bind (hround.bind hrounds)⟩

theorem exists_runs_scan (parse : String → Option Float) (n : Nat) (h : Bounded input s) :
    ∃ s', Runs input (scan parse n) s () s' := by
  obtain ⟨s', hrounds⟩ := exists_runs_rounds parse n h
  exact ⟨_, hrounds.bind (runs_modify (hrounds.bounded.emit _))⟩

/-- Rounds that are over by themselves are not cut off. -/
theorem rounds_of_repeats (h : Repeats atEnd (round parse) s as s') (hn : as.length ≤ n) :
    rounds parse n s = .ok () s' := by
  induction h generalizing n with
  | stop h =>
    cases n with
    | zero => rfl
    | succ n =>
      rw [rounds, bind_of_ok h]
      rfl
  | again h hr hs ih =>
    obtain ⟨n, rfl⟩ := Nat.exists_eq_add_of_le' (Nat.le_trans (Nat.succ_le_succ (Nat.zero_le _)) hn)
    rw [rounds, bind_of_ok h, if_neg Bool.false_ne_true, bind_of_ok hr]
    exact ih (Nat.le_of_succ_le_succ hn)

/-- At the end of the text nothing is still to be read. -/
theorem Agrees.of_end (ha : Agrees parse source s) (h : Bounded source.toList s) (hend : atEnd s = .ok true s) :
    s.tokens ++ [.atEnd s.line] = (Scan.ofSource source).tokens.map (Token.readBy parse) ∧
      s.errors = (Scan.ofSource source).errors := by
  have hnil : s.text.drop s.current = [] := List.drop_eq_nil_of_le (h.text ▸ le_of_atEnd h hend)
  obtain ⟨htokens, herrors⟩ := scan_nil s.line
  have hend : Token.readBy parse (.atEnd (1 + source.toList.count '\n')) = .atEnd (1 + source.toList.count '\n') := rfl
  obtain ⟨hread, hfound, hline⟩ := ha
  rw [hnil] at hread hfound hline
  rw [htokens, List.map_nil, List.append_nil] at hread
  rw [herrors, List.append_nil] at hfound
  rw [List.count_nil, Nat.add_zero] at hline
  rw [ofSource_eq, List.map_append, List.map_singleton, hread, hfound, hline, hend]
  exact ⟨rfl, rfl⟩

theorem spelt_or_end (ht : t ∈ (Scan.ofSource source).tokens) : t.Spelt ∨ t.kind = .eof := by
  rw [ofSource_eq] at ht
  rcases List.mem_append.mp ht with ht | ht
  · exact .inl (spelt_of_mem_tokensFrom ht)
  · rw [List.mem_singleton.mp ht]
    exact .inr rfl

/-- Only numerals are read as numbers. -/
theorem numeral_of_mem (ht : t ∈ (Scan.ofSource source).tokens) (hk : t.kind = .number) :
    Lexis.Numeral t.lexeme.toList := by
  rcases spelt_or_end ht with hspelt | hend
  · rw [Token.Spelt, hk] at hspelt
    exact hspelt.numeral
  · rw [hk] at hend
    cases hend

/-- A token of a scan has a number that was read from its lexeme. -/
theorem exists_read (ht : t ∈ (Scan.ofSource source).tokens.map (Token.readBy parse)) (hk : t.kind = .number)
    (hparse : ∀ numeral, Lexis.Numeral numeral → (parse (String.ofList numeral)).isSome) :
    ∃ x, parse t.lexeme = some x ∧ t.literal = some (.number x) := by
  obtain ⟨u, hu, rfl⟩ := List.mem_map.mp ht
  have hnumber : u.kind = .number := by
    by_contra hne
    rw [Token.readBy_of_ne hne] at hk
    exact hne hk
  have hnumeral := hparse _ (numeral_of_mem hu hnumber)
  rw [String.ofList_toList] at hnumeral
  obtain ⟨x, hx⟩ := Option.isSome_iff_exists.mp hnumeral
  exact ⟨x, by simp [Token.readBy, hnumber, hx], by simp [Token.readBy, hnumber, hx]⟩

/-- The rounds come to an end, since each of them takes the mark further and there is an end to the text. -/
theorem exists_rounds (parse : String → Option Float) (source : String) :
    ∃ as s, Repeats atEnd (round parse) (ofSource source) as s ∧ as.length ≤ source.toList.length ∧
      Bounded source.toList s ∧ Agrees parse source s := by
  have hlimit : ∀ s, Bounded source.toList s ∧ Agrees parse source s → s.current ≤ source.toList.length :=
    fun s hs => hs.1.marked.2
  have hended : ∀ s, Bounded source.toList s ∧ Agrees parse source s → ∃ b, atEnd s = .ok b s :=
    fun s hs => ⟨_, (runs_atEnd hs.1).eq⟩
  have hround : ∀ s, Bounded source.toList s ∧ Agrees parse source s → atEnd s = .ok false s →
      ∃ a s', round parse s = .ok a s' ∧ (Bounded source.toList s' ∧ Agrees parse source s') ∧
        s.current < s'.current := by
    intro s hs hend
    obtain ⟨s', hrun, hlt, hagrees⟩ := exists_round parse hs.1 hend
    exact ⟨(), s', hrun.eq, ⟨hrun.bounded, hagrees source hs.2⟩, hlt⟩
  obtain ⟨as, s, hrepeats, ⟨hs, ha⟩, hplace⟩ :=
    exists_repeats hlimit hended hround ⟨bounded_ofSource source, agrees_ofSource parse source⟩
  exact ⟨as, s, hrepeats, Nat.le_trans (Nat.le_trans (Nat.le_add_left _ _) hplace) hs.marked.2, hs, ha⟩

/-- As many rounds as there are characters are enough, and they give all tokens and errors of the text. -/
theorem exists_scan (parse : String → Option Float) (source : String) :
    ∃ as s s', Repeats atEnd (round parse) (ofSource source) as s ∧ as.length ≤ source.toList.length ∧
      (∀ n, source.toList.length ≤ n → scan parse n (ofSource source) = .ok () s') ∧
      s'.tokens = (Scan.ofSource source).tokens.map (Token.readBy parse) ∧
      s'.errors = (Scan.ofSource source).errors := by
  obtain ⟨as, s, hrepeats, hlength, hs, ha⟩ := exists_rounds parse source
  obtain ⟨htokens, herrors⟩ := ha.of_end hs hrepeats.has_ended
  refine ⟨as, s, s.emit (.atEnd s.line), hrepeats, hlength, fun n hn => ?_, htokens, herrors⟩
  rw [scan, bind_of_ok (rounds_of_repeats hrepeats (Nat.le_trans hlength hn))]
  rfl

/-- The double nearest to the number, where the text is nothing but a numeral. -/
def readDecimal (text : String) : Option Float :=
  match pieces text.toList with
  | [.number whole fraction] => some (Decimal.ofDigits whole fraction).toDouble
  | _ => none

theorem readDecimal_number (hw : Lexis.Digits whole) (hf : ∀ d ∈ fraction, d.isDigit = true) :
    readDecimal (String.ofList (Piece.number whole fraction).chars) =
      some (Decimal.ofDigits whole fraction).toDouble := by
  have hp : Piece.Before (.number whole fraction) [] := .number hw hf (by simp) (by simp)
  have hpieces : pieces (Piece.number whole fraction).chars = [.number whole fraction] := by
    rw [← List.append_nil (Piece.number whole fraction).chars, pieces_of_before hp, pieces]
  rw [readDecimal, String.toList_ofList, hpieces]

theorem readDecimal_whole (hw : Lexis.Digits whole) :
    readDecimal (String.ofList whole) = some (Decimal.ofDigits whole []).toDouble := by
  have hread : readDecimal (String.ofList (Piece.number whole []).chars) = _ :=
    readDecimal_number hw (List.forall_mem_nil _)
  exact hread

theorem readDecimal_fraction (hw : Lexis.Digits whole) (hf : Lexis.Digits fraction) :
    readDecimal (String.ofList (whole ++ '.' :: fraction)) = some (Decimal.ofDigits whole fraction).toDouble := by
  obtain ⟨f, fraction, rfl⟩ := List.exists_cons_of_ne_nil hf.1
  have hread : readDecimal (String.ofList (Piece.number whole (f :: fraction)).chars) = _ := readDecimal_number hw hf.2
  exact hread

theorem isSome_readDecimal (h : Lexis.Numeral numeral) : (readDecimal (String.ofList numeral)).isSome := by
  cases h with
  | whole hw => rw [readDecimal_whole hw, Option.isSome_some]
  | fraction hw hf => rw [readDecimal_fraction hw hf, Option.isSome_some]

/-- Reading a numeral again comes to the literal that its token has. -/
theorem readBy_readDecimal (h : Token.Spelt t) : t.readBy readDecimal = t := by
  obtain ⟨kind, lexeme, literal, line⟩ := t
  have hlexeme : Lexis.Lexeme lexeme.toList kind literal := h
  generalize htext : lexeme.toList = text at hlexeme
  obtain rfl : lexeme = String.ofList text := by rw [← htext, String.ofList_toList]
  cases hlexeme with
  | symbol hs => exact Token.readBy_of_ne (symbols_ne_number hs)
  | whole hw hx => simp only [Token.readBy, readDecimal_whole hw, reduceIte, Option.getD_some, hx.eq_toDouble]
  | fraction hw hf hx =>
    simp only [Token.readBy, readDecimal_fraction hw hf, reduceIte, Option.getD_some, hx.eq_toDouble]
  | keyword hw hk => exact Token.readBy_of_ne (keywords_ne_number hk)
  | string | name => exact Token.readBy_of_ne (by simp)

/-- With doubles for numbers, scanning with marks is scanning. -/
theorem scan_readDecimal (source : String) (hn : source.toList.length ≤ n) :
    ∃ s, scan readDecimal n (ofSource source) = .ok () s ∧ s.tokens = (Scan.ofSource source).tokens ∧
      s.errors = (Scan.ofSource source).errors := by
  obtain ⟨-, -, s, -, -, hscan, htokens, herrors⟩ := exists_scan readDecimal source
  refine ⟨s, hscan n hn, ?_, herrors⟩
  have hreads : ∀ t ∈ (Scan.ofSource source).tokens, t.readBy readDecimal = t := by
    intro t ht
    rcases spelt_or_end ht with hspelt | hend
    · exact readBy_readDecimal hspelt
    · exact Token.readBy_of_ne (by simp [hend])
  rw [htokens, List.map_congr_left hreads, List.map_id']

/-- Each place where the marks have stood until scanning ends is noted, as is each part that is cut out of the text: the
marks are in order and within the text at all of these places, and so is each part. Every round that begins before the
end of the text takes the mark further, so the rounds are over by themselves. Nothing but numerals is read as a number:
where these can be read at all, no number is made up. -/
theorem scan_stays_within (parse : String → Option Float) (source : String) :
    (∀ n, ∃ s', scan parse n (ofSource source) = .ok () s' ∧ Bounded source.toList s') ∧
    (∀ s, Bounded source.toList s → atEnd s = .ok false s → s.current < source.toList.length ∧
      ∃ s', round parse s = .ok () s' ∧ Bounded source.toList s' ∧ s.current < s'.current) ∧
    ∃ as s s', Repeats atEnd (round parse) (ofSource source) as s ∧ as.length ≤ source.toList.length ∧
      (∀ n, source.toList.length ≤ n → scan parse n (ofSource source) = .ok () s') ∧
      s'.tokens = (Scan.ofSource source).tokens.map (Token.readBy parse) ∧
      s'.errors = (Scan.ofSource source).errors ∧
      ((∀ numeral, Lexis.Numeral numeral → (parse (String.ofList numeral)).isSome) →
        ∀ t ∈ s'.tokens, t.kind = .number → ∃ x, parse t.lexeme = some x ∧ t.literal = some (.number x)) := by
  refine ⟨fun n => ?_, fun s hs hend => ?_, ?_⟩
  · obtain ⟨s', hrun⟩ := exists_runs_scan parse n (bounded_ofSource source)
    exact ⟨s', hrun.eq, hrun.bounded⟩
  · obtain ⟨s', hrun, hlt, -⟩ := exists_round parse hs hend
    exact ⟨lt_of_atEnd hs hend, s', hrun.eq, hrun.bounded, hlt⟩
  · obtain ⟨as, s, s', hrepeats, hlength, hscan, htokens, herrors⟩ := exists_scan parse source
    refine ⟨as, s, s', hrepeats, hlength, hscan, htokens, herrors, ?_⟩
    intro hparse t ht hk
    exact exists_read (htokens ▸ ht) hk hparse

/-- A number, and behind it a string without content that ends with the text. -/
def narrow : String := "12.5\"\""

/-- A string without content at the end of the text is cut out of it all the same. -/
theorem scan_stays_within_narrow :
    (Bounded narrow.toList (ofSource narrow) ∧ atEnd (ofSource narrow) = .ok false (ofSource narrow) ∧
      ∃ s, round readDecimal (ofSource narrow) = .ok () s ∧ Bounded narrow.toList s ∧
        (ofSource narrow).current < s.current) ∧
    (∀ numeral, Lexis.Numeral numeral → (readDecimal (String.ofList numeral)).isSome) ∧
    ∃ s, scan readDecimal narrow.toList.length (ofSource narrow) = .ok () s ∧
      ∀ t ∈ s.tokens, t.kind = .number → ∃ x, readDecimal t.lexeme = some x ∧ t.literal = some (.number x) := by
  have hbounded := bounded_ofSource narrow
  have hend : atEnd (ofSource narrow) = .ok false (ofSource narrow) := rfl
  have hreads : ∀ numeral, Lexis.Numeral numeral → (readDecimal (String.ofList numeral)).isSome :=
    fun _ h => isSome_readDecimal h
  obtain ⟨-, hround, as, s, s', -, -, hscan, -, -, hnumbers⟩ := scan_stays_within readDecimal narrow
  exact ⟨⟨hbounded, hend, (hround _ hbounded hend).2⟩, hreads, s', hscan _ (Nat.le_refl _), hnumbers hreads⟩

end Scanner

end Lox
