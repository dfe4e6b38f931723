import Mathlib.Data.List.DropRight
import Lox.Proofs.Source.Seams
import Lox.Text.Property
namespace Lox

def Token.onLine (n : Nat) (t : Token) : Token := { t with line := n }

@[simp] theorem Token.onLine_kind (n : Nat) (t : Token) : (t.onLine n).kind = t.kind := rfl
@[simp] theorem Token.onLine_lexeme (n : Nat) (t : Token) : (t.onLine n).lexeme = t.lexeme := rfl

/-- Tokens that may stand on different lines, and do not differ otherwise. -/
structure Token.Alike (t u : Token) : Prop where
  kind : t.kind = u.kind
  lexeme : t.lexeme = u.lexeme
  literal : t.literal = u.literal

theorem Piece.token?_onLine (p : Piece) (m n : Nat) : p.token? n = (p.token? m).map (.onLine n) := by
  cases p with
  | word letters =>
    simp only [token?]
    split <;> rfl
  | _ => rfl

theorem Piece.error?_eq_none_iff {p : Piece} {line : Nat} :
    p.error? line = none ↔ (∀ c, p ≠ .stray c) ∧ ∀ body, p ≠ .unclosed body := by
  cases p <;> simp [error?]

theorem newlines_eq_zero (h : '\n' ∉ text) (hp : p ∈ pieces text) : p.newlines = 0 := by
  refine List.count_eq_zero.mpr fun hc => h ?_
  rw [← chars_pieces text]
  exact List.mem_flatMap.mpr ⟨p, hp, hc⟩

/-- What stands behind other pieces is further down by the newlines in these. -/
theorem numbered_append (line : Nat) (ps qs : List Piece) :
    numbered line (ps ++ qs) =
      numbered line ps ++ numbered (line + (ps.flatMap Piece.chars).count '\n') qs := by
  induction ps generalizing line with
  | nil => rfl
  | cons p ps ih =>
    rw [List.cons_append, numbered, numbered, ih, List.flatMap_cons, List.count_append, ← Piece.newlines,
      Nat.add_assoc, List.cons_append]

/-- A text below another that leaves no quote open is read as it is by itself, and nothing of the one above is lost. -/
theorem numbered_below (h : ∀ body, Piece.unclosed body ∉ pieces above) (line : Nat) (below : List Char) :
    numbered line (pieces (above ++ '\n' :: below)) =
      numbered line (pieces above) ++ (.blank '\n', line + above.count '\n' + 1) ::
        numbered (line + above.count '\n' + 1) (pieces below) := by
  have hcut : pieces ('\n' :: below) = .blank '\n' :: pieces below := pieces_of_before (.blank rfl)
  rw [pieces_append Piece.separates_newline h (fun _ _ => rfl), hcut, numbered_append, chars_pieces]
  rfl

/-- The newline between two texts counts as one line, and is part of no token. -/
theorem tokensFrom_below (h : ∀ body, Piece.unclosed body ∉ pieces above) (line : Nat) (below : List Char) :
    tokensFrom line (above ++ '\n' :: below) =
      tokensFrom line above ++ tokensFrom (line + above.count '\n' + 1) below := by
  rw [tokensFrom, numbered_below h, List.filterMap_append]
  rfl

theorem errorsFrom_below (h : ∀ body, Piece.unclosed body ∉ pieces above) (line : Nat) (below : List Char) :
    errorsFrom line (above ++ '\n' :: below) =
      errorsFrom line above ++ errorsFrom (line + above.count '\n' + 1) below := by
  rw [errorsFrom, numbered_below h, List.filterMap_append]
  rfl

theorem numbered_of_newlines (h : ∀ p ∈ ps, p.newlines = 0) (line : Nat) : numbered line ps = ps.map (·, line) := by
  induction ps with
  | nil => rfl
  | cons p ps ih =>
    obtain ⟨hp, hps⟩ := List.forall_mem_cons.mp h
    rw [numbered, hp, Nat.add_zero, ih hps, List.map_cons]

theorem numbered_of_line (h : '\n' ∉ text) (line : Nat) : numbered line (pieces text) = (pieces text).map (·, line) :=
  numbered_of_newlines (fun _ hp => newlines_eq_zero h hp) line

theorem tokensFrom_of_line (h : '\n' ∉ text) (line : Nat) :
    tokensFrom line text = (pieces text).filterMap (·.token? line) := by
  rw [tokensFrom, numbered_of_line h, List.filterMap_map]
  rfl

theorem errorsFrom_of_line (h : '\n' ∉ text) (line : Nat) :
    errorsFrom line text = (pieces text).filterMap (·.error? line) := by
  rw [errorsFrom, numbered_of_line h, List.filterMap_map]
  rfl

theorem tokensFrom_onLine (h : '\n' ∉ text) (m n : Nat) :
    tokensFrom n text = (tokensFrom m text).map (.onLine n) := by
  rw [tokensFrom_of_line h, tokensFrom_of_line h, List.map_filterMap]
  congr 1
  funext p
  exact p.token?_onLine m n

/-- The text is one line, and there is nothing in it that does not belong to a token, blank or comment. -/
structure IsCleanLine (text : List Char) : Prop where
  line : '\n' ∉ text
  stray : ∀ c, Piece.stray c ∉ pieces text
  unclosed : ∀ body, Piece.unclosed body ∉ pieces text

/-- A line is clean where it has no error, on whichever line that is asked. -/
theorem isCleanLine_iff (h : '\n' ∉ text) (line : Nat) : IsCleanLine text ↔ errorsFrom line text = [] := by
  rw [errorsFrom_of_line h, List.filterMap_eq_nil_iff]
  simp only [Piece.error?_eq_none_iff]
  constructor
  · intro hc p hp
    exact ⟨fun c he => hc.stray c (he ▸ hp), fun body he => hc.unclosed body (he ▸ hp)⟩
  · intro hall
    exact ⟨h, fun c hp => (hall _ hp).1 c rfl, fun body hp => (hall _ hp).2 body rfl⟩

/-- What follows a line is one line further down. -/
theorem IsCleanLine.tokensFrom_append (h : IsCleanLine text) (line : Nat) (more : List Char) :
    tokensFrom line (text ++ '\n' :: more) = tokensFrom line text ++ tokensFrom (line + 1) more := by
  rw [tokensFrom_below h.unclosed, List.count_eq_zero.mpr h.line, Nat.add_zero]

theorem IsCleanLine.errorsFrom_append (h : IsCleanLine text) (line : Nat) (more : List Char) :
    errorsFrom line (text ++ '\n' :: more) = errorsFrom line text ++ errorsFrom (line + 1) more := by
  rw [errorsFrom_below h.unclosed, List.count_eq_zero.mpr h.line, Nat.add_zero]

namespace Piece

def isGap : Piece → Bool
  | blank _ | comment _ => true
  | _ => false

theorem token?_of_isGap {p : Piece} (h : p.isGap = true) (line : Nat) : p.token? line = none := by
  cases p <;> first | rfl | cases h

/-- No blank is among the characters that print in ASCII. -/
theorem toNat_of_isBlank (h : Text.isBlank c = true) : c.toNat < 33 ∨ 126 < c.toNat := by
  simp only [Text.isBlank, Bool.or_eq_true, Bool.and_eq_true, decide_eq_true_eq, beq_iff_eq] at h
  omega

theorem toNat_of_isWordChar (h : isWordChar c = true) : 33 ≤ c.toNat ∧ c.toNat ≤ 126 := by
  have hranges : (c == '_' || (decide ('A'.val ≤ c.val ∧ c.val ≤ 'Z'.val) ||
      ('a'.val ≤ c.val && c.val ≤ 'z'.val) || ('0'.val ≤ c.val && c.val ≤ '9'.val))) = true := h
  simp only [Bool.or_eq_true, Bool.and_eq_true, decide_eq_true_eq, beq_iff_eq, UInt32.le_iff_toNat_le,
    ← Char.toNat_val] at hranges ⊢
  rcases hranges with rfl | hranges
  · decide
  · simp only [UInt32.reduceToNat, Char.reduceVal] at hranges
    omega

theorem toNat_of_symbol? (h : symbol? c = some kind) : 33 ≤ c.toNat ∧ c.toNat ≤ 126 := by
  unfold symbol? at h
  split at h <;> first | decide | cases h

theorem toNat_of_symbolEqual? (h : symbolEqual? c = some kind) : 33 ≤ c.toNat ∧ c.toNat ≤ 126 := by
  unfold symbolEqual? at h
  split at h <;> first | decide | cases h

/-- No blank goes on a number, a word or a symbol. -/
theorem separates_of_isBlank (h : Text.isBlank c = true) : Separates c := by
  have hblank := toNat_of_isBlank h
  have hword : isWordChar c = false := by
    rw [Bool.eq_false_iff]
    intro hw
    have := toNat_of_isWordChar hw
    omega
  refine ⟨?_, hword, ?_⟩
  · simp_all [isWordChar, Char.isAlphanum]
  · intro hm
    simp only [List.mem_cons, List.not_mem_nil, or_false] at hm
    rcases hm with rfl | rfl | rfl <;> exact absurd h (by decide)

/-- A blank that the language does not know is stray. -/
theorem first_of_isBlank (h : Text.isBlank c = true) (cs : List Char) :
    first c cs = (blank c, cs) ∨ first c cs = (stray c, cs) := by
  have hblank := toNat_of_isBlank h
  have hsep := separates_of_isBlank h
  by_cases hb : isBlank c = true
  · simp [first, hb]
  right
  have hquote : c ≠ '"' := by
    rintro rfl
    exact absurd h (by decide)
  have hstart : isWordStart c = false := by
    have := hsep.word
    simp_all [isWordStart, isWordChar, Char.isAlphanum]
  have hslash : c ≠ '/' := fun hc => hsep.mark (by simp [hc])
  have hsymbol : symbol? c = none := by
    cases hs : symbol? c with
    | none => rfl
    | some kind =>
      have := toNat_of_symbol? hs
      omega
  have hequal : symbolEqual? c = none := by
    cases hs : symbolEqual? c with
    | none => rfl
    | some kind =>
      have := toNat_of_symbolEqual? hs
      omega
  simp only [first, hb, hquote, hsep.digit, hstart, hslash, reduceIte, false_and, Bool.false_eq_true]
  simp only [operator, hsymbol, hequal]

end Piece

/-- Blanks give nothing but gaps, unless one of them is stray. -/
theorem filter_blanks (hw : ∀ c ∈ ws, Text.isBlank c = true) (hs : ∀ c, Piece.stray c ∉ pieces ws) :
    (pieces ws).filter (!·.isGap) = [] := by
  fun_induction pieces ws with
  | case1 => rfl
  | case2 c cs ih =>
    obtain ⟨hc, hcs⟩ := List.forall_mem_cons.mp hw
    rcases Piece.first_of_isBlank hc cs with hf | hf
    · rw [hf] at ih hs ⊢
      simpa [Piece.isGap] using ih hcs fun d hd => hs d (List.mem_cons_of_mem _ hd)
    · exact absurd (by simp [hf]) (hs c)

/-- Blanks at the end of a line are blanks of the language or end in a comment. -/
theorem filter_trim (hw : ∀ c ∈ ws, Text.isBlank c = true) (hn : '\n' ∉ ws)
    (hs : ∀ c, Piece.stray c ∉ pieces (cs ++ ws)) (ho : ∀ body, Piece.unclosed body ∉ pieces (cs ++ ws)) :
    (pieces (cs ++ ws)).filter (!·.isGap) = (pieces cs).filter (!·.isGap) := by
  cases ws with
  | nil => rw [List.append_nil]
  | cons d ws =>
    have hsep := Piece.separates_of_isBlank (hw d List.mem_cons_self)
    fun_induction pieces cs with
    | case1 => exact filter_blanks hw hs
    | case2 c cs ih =>
      by_cases hu : ∃ body, (Piece.first c cs).1 = .unclosed body
      · obtain ⟨body, hu⟩ := hu
        obtain ⟨rfl, hq⟩ := Piece.unclosed_of_first hu
        have hq' : '"' ∉ cs ++ d :: ws := by
          intro hm
          rcases List.mem_append.mp hm with hm | hm
          · exact hq hm
          · exact absurd (hw _ hm) (by decide)
        exact absurd (by simp [pieces_unclosed hq']) (ho (cs ++ d :: ws))
      by_cases hc : (∃ body, (Piece.first c cs).1 = .comment body) ∧ (Piece.first c cs).2 = []
      · -- The blanks go on the comment.
        obtain ⟨⟨body, hc⟩, hr⟩ := hc
        obtain ⟨behind, rfl, rfl⟩ := Piece.comment_of_first hc
        have hb : '\n' ∉ behind := fun hm => by simpa using List.dropWhile_eq_nil_iff.mp hr _ hm
        have hb' : '\n' ∉ behind ++ d :: ws := by simpa [hb] using hn
        rw [hr, Piece.first_comment, List.cons_append, List.cons_append, pieces_comment hb', pieces]
        rfl
      · have hopen : ∀ body, (Piece.first c cs).1 ≠ .unclosed body := fun body hb => hu ⟨body, hb⟩
        have hend : (∃ body, (Piece.first c cs).1 = .comment body) → (Piece.first c cs).2 = [] → d = '\n' :=
          fun hb hr => absurd ⟨hb, hr⟩ hc
        rw [pieces_cons_append hsep hopen hend] at hs ho ⊢
        rw [List.filter_cons, List.filter_cons, ih]
        · exact fun e he => hs e (List.mem_cons_of_mem _ he)
        · exact fun body hb => ho body (List.mem_cons_of_mem _ hb)

theorem IsCleanLine.trim (h : IsCleanLine (cs ++ ws)) (hw : ∀ c ∈ ws, Text.isBlank c = true) :
    IsCleanLine cs ∧ ∀ n, tokensFrom n cs = tokensFrom n (cs ++ ws) := by
  have hn := h.line
  simp only [List.mem_append, not_or] at hn
  have hfilter := filter_trim hw hn.2 h.stray h.unclosed
  have hmem : ∀ p ∈ pieces cs, p.isGap = false → p ∈ pieces (cs ++ ws) := by
    intro p hp hg
    have : p ∈ (pieces (cs ++ ws)).filter (!·.isGap) := by
      rw [hfilter]
      exact List.mem_filter.mpr ⟨hp, by simp [hg]⟩
    exact (List.mem_filter.mp this).1
  have htokens : ∀ n ps, (List.filter (!·.isGap) ps).filterMap (Piece.token? · n) =
      ps.filterMap (·.token? n) := by
    intro n ps
    rw [List.filterMap_filter]
    congr 1
    funext p
    cases hg : p.isGap with
    | false => rfl
    | true => simp [Piece.token?_of_isGap hg]
  refine ⟨⟨hn.1, fun c hc => ?_, fun body hb => ?_⟩, fun n => ?_⟩
  · exact h.stray c (hmem _ hc rfl)
  · exact h.unclosed body (hmem _ hb rfl)
  · rw [tokensFrom_of_line hn.1, tokensFrom_of_line h.line, ← htokens, ← hfilter, htokens]

/-- A clean line has the same tokens without the blanks at its end. -/
theorem IsCleanLine.trimEnd (h : IsCleanLine source.toList) :
    IsCleanLine (Text.trimEnd source).toList ∧
      ∀ n, tokensFrom n (Text.trimEnd source).toList = tokensFrom n source.toList := by
  have hsplit : source.toList = (Text.trimEnd source).toList ++ source.toList.rtakeWhile Text.isBlank := by
    rw [Text.trimEnd, String.toList_ofList]
    exact List.rdropWhile_append_rtakeWhile.symm
  rw [hsplit] at h
  obtain ⟨hclean, htokens⟩ := h.trim fun c hc => List.mem_rtakeWhile_imp hc
  exact ⟨hclean, fun n => (htokens n).trans (by rw [← hsplit])⟩

def tokensOfLines (line : Nat) : List (List Char) → List Token
  | [] => []
  | text :: others => tokensFrom line text ++ tokensOfLines (line + 1) others

/-- Clean lines below one another are read one by one. -/
theorem scan_lines (h : ∀ text ∈ texts, IsCleanLine text) (line : Nat) :
    tokensFrom line (['\n'].intercalate texts) = tokensOfLines line texts ∧
      errorsFrom line (['\n'].intercalate texts) = [] := by
  induction texts generalizing line with
  | nil => simp [tokensFrom, errorsFrom, tokensOfLines, pieces, numbered]
  | cons text others ih =>
    obtain ⟨ht, ho⟩ := List.forall_mem_cons.mp h
    have herrors := (isCleanLine_iff ht.line line).mp ht
    cases others with
    | nil => simpa [tokensOfLines] using herrors
    | cons text' others =>
      obtain ⟨hi, he⟩ := ih ho (line + 1)
      rw [List.intercalate_cons_cons, List.append_assoc, List.singleton_append, ht.tokensFrom_append,
        ht.errorsFrom_append, herrors, hi, he]
      exact ⟨rfl, rfl⟩

end Lox
