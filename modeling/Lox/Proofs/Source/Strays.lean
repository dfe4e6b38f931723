import Lox.Proofs.Source.Positions
import Lox.Proofs.Source.Seams
namespace Lox

def LexicalError.isStray : LexicalError → Bool
  | strayChar .. => true
  | openString _ => false

def Lexis.blanked (split : List (Class × List Char)) : List Char :=
  split.flatMap fun piece => if piece.1 = .stray then [' '] else piece.2

namespace Piece

def blanked : Piece → Piece
  | stray _ => blank ' '
  | p => p

/-- The same text but for blanks in place of characters that begin nothing. -/
def Blanked (text text' : List Char) : Prop :=
  List.Forall₂ (fun c d => d = c ∨ d = ' ' ∧ Plain c ∧ symbol? c = none) text text'

theorem Blanked.refl (text : List Char) : Blanked text text := by
  apply List.forall₂_same.mpr
  intro c _
  exact .inl rfl

/-- No newline is stray, so the lines are the same. -/
theorem Blanked.count_newline (h : Blanked text text') : text'.count '\n' = text.count '\n' := by
  induction h with
  | nil => rfl
  | @cons c d _ _ hd _ ih =>
    rcases hd with rfl | ⟨rfl, hp, -⟩
    · rw [List.count_cons, List.count_cons, ih]
    · rw [List.count_cons_of_ne (by decide), List.count_cons_of_ne hp.ne_newline, ih]

theorem Blanked.head? (h : Blanked text text') (hd : d ∈ text'.head?) :
    d ∈ text.head? ∨ d = ' ' ∧ ∃ c ∈ text.head?, Plain c := by
  cases h with
  | nil => cases hd
  | @cons c _ _ _ hc _ =>
    obtain rfl := Option.mem_some.mp hd
    rcases hc with rfl | ⟨rfl, hp, -⟩
    · exact .inl rfl
    · exact .inr ⟨rfl, c, rfl, hp⟩

/-- A point and the digit behind it are not stray. -/
theorem Blanked.of_point (h : Blanked text ('.' :: d :: tail)) (hd : d.isDigit = true) :
    ∃ tail', text = '.' :: d :: tail' := by
  rcases h with - | ⟨rfl | ⟨hdot, -⟩, h⟩
  · rcases h with - | ⟨rfl | ⟨rfl, -⟩, h⟩
    · exact ⟨_, rfl⟩
    · exact absurd hd (by decide)
  · exact absurd hdot (by decide)

/-- No piece goes on with a stray character, and none with a blank. -/
theorem Before.blanked (h : Before p rest) (hr : Blanked rest rest') : Before p.blanked rest' := by
  by_cases hstray : ∃ c, p = Piece.stray c
  · obtain ⟨c, rfl⟩ := hstray
    exact .blank rfl
  have hsame : p.blanked = p := by
    cases p with
    | stray c => exact absurd ⟨c, rfl⟩ hstray
    | _ => rfl
  rw [hsame]
  apply h.change
  · intro d hd
    rcases hr.head? hd with hd | ⟨rfl, -⟩
    · exact .inl hd
    · exact .inr separates_space
  · rintro d tail rfl hd
    exact hr.of_point hd
  · rintro ⟨body, rfl⟩ d hd
    cases h with
    | comment _ hend =>
      rcases hr.head? hd with hd | ⟨-, c, hc, hp⟩
      · exact hend d hd
      · exact absurd (hend c hc) hp.ne_newline
  · rintro ⟨body, rfl⟩
    cases h
    cases hr
    rfl

theorem Before.blanked_chars (h : Before p rest) : Blanked p.chars p.blanked.chars := by
  cases h with
  | stray hp hk => exact .cons (.inr ⟨rfl, hp, hk⟩) .nil
  | _ => exact Blanked.refl _

/-- A stray character gives no token, and neither does a blank. -/
theorem token?_blanked (p : Piece) (n : Nat) : p.blanked.token? n = p.token? n := by
  cases p <;> rfl

/-- With blanks in their places no stray characters are complained of, and nothing else changes. -/
theorem error?_blanked (p : Piece) (n : Nat) : p.blanked.error? n = (p.error? n).filter (!·.isStray) := by
  cases p <;> rfl

theorem isStray_of_error? (p : Piece) (hopen : ¬∃ body, p = unclosed body) (n : Nat) :
    ∀ e ∈ (p.error? n).toList, e.isStray := by
  intro e he
  cases p with
  | unclosed body => exact absurd ⟨body, rfl⟩ hopen
  | stray c =>
    obtain rfl := List.mem_singleton.mp he
    rfl
  | _ => cases he

end Piece

/-- What stood behind another piece still does with blanks in it. -/
theorem Seamed.blanked (h : Seamed ps) : Seamed (ps.map Piece.blanked) ∧
    Piece.Blanked (ps.flatMap Piece.chars) ((ps.map Piece.blanked).flatMap Piece.chars) := by
  induction h with
  | nil => exact ⟨.nil, .nil⟩
  | cons hp _ ih =>
    obtain ⟨hs, hr⟩ := ih
    exact ⟨.cons (hp.blanked hr) hs, List.rel_append hp.blanked_chars hr⟩

theorem Lexis.blanked_splitOf (ps : List Piece) :
    blanked (splitOf ps) = (ps.map Piece.blanked).flatMap Piece.chars := by
  rw [blanked, splitOf, List.flatMap_map, List.flatMap_map]
  congr 1
  funext p
  cases p <;> rfl

/-- Piece by piece the tokens stay, and of the errors those at stray characters go. -/
theorem scan_blanked (h : Seamed ps) (line : Nat) :
    tokensFrom line ((ps.map Piece.blanked).flatMap Piece.chars) = tokensFrom line (ps.flatMap Piece.chars) ∧
      errorsFrom line ((ps.map Piece.blanked).flatMap Piece.chars) =
        (errorsFrom line (ps.flatMap Piece.chars)).filter (!·.isStray) := by
  induction h generalizing line with
  | nil =>
    obtain ⟨htokens, herrors⟩ := scan_nil line
    simp [htokens, herrors]
  | @cons ps p hp hs ih =>
    have hp' := hp.blanked hs.blanked.2
    have hlines : p.blanked.newlines = p.newlines := hp.blanked_chars.count_newline
    obtain ⟨htokens, herrors⟩ := ih (line + p.newlines)
    rw [List.map_cons, List.flatMap_cons, List.flatMap_cons, tokensFrom_before hp', tokensFrom_before hp,
      errorsFrom_before hp', errorsFrom_before hp, hlines, p.token?_blanked, p.error?_blanked, htokens, herrors,
      List.filter_append, Option.toList_filter]
    exact ⟨rfl, rfl⟩

/-- Only the last error can be an open string. -/
theorem errorsFrom_last (h : Seamed ps) (line : Nat) :
    (∀ e ∈ errorsFrom line (ps.flatMap Piece.chars), e.isStray) ∨
      ∃ before n, (∀ e ∈ before, e.isStray) ∧
        errorsFrom line (ps.flatMap Piece.chars) = before ++ [.openString n] := by
  induction h generalizing line with
  | nil =>
    obtain ⟨-, herrors⟩ := scan_nil line
    exact .inl (by simp [herrors])
  | @cons ps p hp _ ih =>
    rw [List.flatMap_cons, errorsFrom_before hp]
    by_cases hopen : ∃ body, p = .unclosed body
    · obtain ⟨body, rfl⟩ := hopen
      generalize ps.flatMap Piece.chars = rest at hp
      cases hp
      obtain ⟨-, herrors⟩ := scan_nil (line + (Piece.unclosed body).newlines)
      rw [herrors]
      exact .inr ⟨[], _, by simp, rfl⟩
    · have hstray := p.isStray_of_error? hopen (line + p.newlines)
      rcases ih (line + p.newlines) with hall | ⟨before, n, hbefore, hlast⟩
      · exact .inl (List.forall_mem_append.mpr ⟨hstray, hall⟩)
      · rw [hlast, ← List.append_assoc]
        exact .inr ⟨_, n, List.forall_mem_append.mpr ⟨hstray, hbefore⟩, rfl⟩

/-- Stray characters do not distort the scan. The text is split in one way, its errors are told at the open string and
at the stray characters of this split, and with a blank in place of each stray character it has the tokens that it had,
the end among them, and of its errors those that are not about a stray character: none or one, which was the last. -/
theorem ofSource_blanked (source : String) :
    ∃ split, Lexis.Split source.toList split ∧ (∀ other, Lexis.Split source.toList other → other = split) ∧
      List.Forall₂ (Lexis.ErrorAt source.toList) (Scan.ofSource source).errors
        ((Lexis.spans 0 split).filter fun s => s.kind = .openString ∨ s.kind = .stray) ∧
      (Scan.ofSource (.ofList (Lexis.blanked split))).tokens = (Scan.ofSource source).tokens ∧
      (Scan.ofSource (.ofList (Lexis.blanked split))).errors = (Scan.ofSource source).errors.filter (!·.isStray) ∧
      ((∀ e ∈ (Scan.ofSource source).errors, e.isStray) ∨
        ∃ before line, (∀ e ∈ before, e.isStray) ∧ (Scan.ofSource source).errors = before ++ [.openString line] ∧
          (Scan.ofSource (.ofList (Lexis.blanked split))).errors = [.openString line]) := by
  have hsplit := Lexis.split_pieces source.toList
  have hplaced := Lexis.placed_pieces [] source.toList
  obtain ⟨hchars, hseamed⟩ := pieces_eq_iff.mp (rfl : pieces source.toList = _)
  obtain ⟨htokens, herrors⟩ := scan_blanked hseamed 1
  have hlines := hseamed.blanked.2.count_newline
  have hlast := errorsFrom_last hseamed 1
  rw [hchars] at htokens herrors hlines hlast
  refine ⟨_, hsplit, fun other h => h.unique hsplit, ?_, ?_, ?_, ?_⟩
  · rw [← List.filterMap_eq_filter]
    exact List.rel_filterMap (fun _ _ h => h.error) hplaced
  · rw [ofSource_eq, ofSource_eq, Lexis.blanked_splitOf, String.toList_ofList, htokens, hlines]
  · rw [ofSource_eq, ofSource_eq, Lexis.blanked_splitOf, String.toList_ofList, herrors]
  · rw [ofSource_eq, ofSource_eq, Lexis.blanked_splitOf, String.toList_ofList, herrors]
    rcases hlast with hall | ⟨before, line, hbefore, hall⟩
    · exact .inl hall
    · have hnone : before.filter (!·.isStray) = [] := by simpa using hbefore
      refine .inr ⟨before, line, hbefore, hall, ?_⟩
      rw [hall, List.filter_append, hnone]
      rfl

end Lox
