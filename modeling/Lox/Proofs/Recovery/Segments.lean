import Mathlib.Data.List.SplitBy
import Lox.Proofs.Recovery.Ends
namespace Lox

/-- Between these two tokens one statement ends or another opens. -/
def Token.border (t u : Token) : Bool := t.kind == .semicolon || u.kind.opensStatement

theorem Token.border_iff {t u : Token} :
    t.border u = true ↔ t.kind = .semicolon ∨ u.kind.opensStatement = true := by
  simp [border]

theorem Token.border_eq_false_iff {t u : Token} :
    t.border u = false ↔ t.kind ≠ .semicolon ∧ u.kind.opensStatement = false := by
  simp [border]

/-- Cut behind each semicolon and before each keyword that opens a statement. -/
def segments (ts : List Token) : List (List Token) := ts.splitBy fun t u => !t.border u

/-- A piece between two borders. -/
structure IsSegment (s : List Token) : Prop where
  ne_nil : s ≠ []
  unbroken : s.IsChain fun t u => t.border u = false
  no_end : ∀ t ∈ s, t.kind ≠ .eof

def Meets (s rest : List Token) : Prop := ∀ t ∈ s.getLast?, ∀ u ∈ rest.head?, t.border u

theorem Meets.nil : Meets s [] := by
  intro t _ u hu
  cases hu

/-- Skipping what is left of a segment ends where the segment does. -/
theorem skip_segment (hn : r ≠ []) (hu : r.IsChain fun t u => t.border u = false)
    (hr : ∀ t ∈ r, t.kind ≠ .eof) (hm : Meets r rest) : skip (r ++ rest) = rest := by
  induction r with
  | nil => exact absurd rfl hn
  | cons t r ih =>
    cases r with
    | nil =>
      cases rest with
      | nil => simp [skip]
      | cons u rest =>
        have hb := Token.border_iff.mp (hm t rfl u rfl)
        have hstop : t.kind = .semicolon ∨ u.kind.stops = true := hb.imp_right Kind.stops_of_opens
        simp [skip, atStop_cons, hstop]
    | cons u r =>
      obtain ⟨hb, hu⟩ := List.isChain_cons_cons.mp hu
      have hb := Token.border_eq_false_iff.mp hb
      have hm' : Meets (u :: r) rest := by simpa [Meets] using hm
      have hrest := List.forall_mem_cons.mp hr
      have hgoes : u.kind.stops = false := (Kind.stops_of_ne_eof (hrest.2 u List.mem_cons_self)).trans hb.2
      rw [List.cons_append, skip, if_neg (by simp [atStop, hb.1, hgoes]), ih (by simp) hu hrest.2 hm']

/-- Only its first token can be a keyword that opens a statement. -/
theorem IsSegment.not_atStop (hs : IsSegment (us ++ r)) (hu : us ≠ []) : atStop r = false := by
  cases r with
  | nil => rfl
  | cons t r =>
    have hb := (List.isChain_append.mp hs.unbroken).2.2 _ (List.getLast_mem_getLast? hu) t rfl
    have ht := hs.no_end t (by simp)
    rw [atStop_cons, Kind.stops_of_ne_eof ht]
    exact (Token.border_eq_false_iff.mp hb).2

/-- A statement that fails in a segment, before its semicolon if it has one, costs this segment only. -/
theorem resume_segment (hs : IsSegment (us ++ r)) (hu : ∀ t ∈ us, t.kind ≠ .semicolon)
    (hm : Meets (us ++ r) rest) : resume (us ++ r ++ rest) (r ++ rest) = rest := by
  cases r with
  | nil =>
    -- Everything was read, so what is behind the segment is a keyword if it is anything.
    have hn : us ≠ [] := by simpa using hs.ne_nil
    cases rest with
    | nil => simp [resume, atStop, skip]
    | cons u rest =>
      have hl := List.getLast_mem_getLast? hn
      have ho : u.kind.opensStatement = true := by
        rcases Token.border_iff.mp (hm _ (by simpa using hl) u rfl) with hk | hk
        · exact absurd hk (hu _ (List.getLast_mem hn))
        · exact hk
      have hlen : 0 < us.length := List.length_pos_iff.mpr hn
      simp [resume, atStop_cons, Kind.stops_of_opens ho, hlen]
  | cons t r =>
    have hskip : skip (t :: r ++ rest) = rest := by
      refine skip_segment (by simp) (List.isChain_append.mp hs.unbroken).2.1 (fun t' ht => ?_) fun t' ht => hm t' ?_
      · exact hs.no_end t' (List.mem_append_right _ ht)
      · simpa using ht
    unfold resume
    split
    · next h =>
      simp only [Bool.and_eq_true, decide_eq_true_eq, List.append_assoc, List.length_append] at h
      have hn : us ≠ [] := by
        rintro rfl
        simp at h
      have hf := hs.not_atStop hn
      rw [List.cons_append, atStop_cons, ← atStop_cons t r, hf] at h
      cases h.2
    · exact hskip

/-- A segment is closed by its semicolon or by what it meets. -/
theorem IsSegment.sealed (hs : IsSegment s) (hm : Meets s rest) :
    ∃ us tail, s = us ++ tail ∧ Parser.Sealed tail rest := by
  by_cases hk : (s.getLast hs.ne_nil).kind = .semicolon
  · exact ⟨s.dropLast, [s.getLast hs.ne_nil], (List.dropLast_append_getLast hs.ne_nil).symm,
      .inl ⟨_, rfl, hk⟩⟩
  · refine ⟨s, [], by simp, .inr ⟨rfl, fun u hu => ?_⟩⟩
    rcases Token.border_iff.mp (hm _ (List.getLast_mem_getLast? hs.ne_nil) u hu) with h | h
    · exact absurd h hk
    · exact Kind.stops_of_opens h

/-- A statement in a segment is read as if the segment were alone. -/
theorem IsSegment.run_append (hs : IsSegment s) (hm : Meets s rest) :
    Parser.statement.run (s ++ rest) = (Parser.statement.run s).extend rest := by
  obtain ⟨us, tail, rfl, hsealed⟩ := hs.sealed hm
  rw [List.append_assoc]
  exact Parser.statement_sealed hsealed hs.ne_nil

/-- A statement that is read takes the whole segment. -/
theorem IsSegment.of_done (hs : IsSegment s) (h : Parser.statement.run s = .done x misplaced r) :
    r = [] ∧ ∃ t, s.getLast? = some t ∧ t.kind = .semicolon := by
  obtain ⟨t, ts, rfl⟩ := List.exists_cons_of_ne_nil hs.ne_nil
  have hends := Parser.ends_statement t ts
  rw [h] at hends
  obtain ⟨us, u, hts, hu⟩ := hends
  cases r with
  | nil => exact ⟨rfl, u, by simp [hts], hu⟩
  | cons v r =>
    have hb := (List.isChain_cons_cons.mp (List.isChain_append.mp (hts ▸ hs.unbroken)).2.1).1
    exact absurd hu (Token.border_eq_false_iff.mp hb).1

def contribution (next : Token) (s : List Token) : Parse :=
  match Parser.statement.run s with
  | .done x misplaced _ => ⟨[x], misplaced.map .invalidTarget⟩
  | .failed why misplaced rest => ⟨[], misplaced.map .invalidTarget ++ [.unexpected (rest.headD next) why]⟩

/-- Reading goes on at the next segment, whether or not this one could be read. -/
theorem upTo_segment (hs : IsSegment s) (hm : Meets s rest) (last : Token) :
    Parse.upTo last (s ++ rest) =
      ⟨(contribution (rest.headD last) s).statements ++ (Parse.upTo last rest).statements,
        (contribution (rest.headD last) s).errors ++ (Parse.upTo last rest).errors⟩ := by
  obtain ⟨t, ts, rfl⟩ := List.exists_cons_of_ne_nil hs.ne_nil
  have hrun := hs.run_append hm
  have ht : Parse.isEnd t = false := Parse.isEnd_eq_false_iff.mpr (hs.no_end t List.mem_cons_self)
  unfold contribution
  cases h : Parser.statement.run (t :: ts) with
  | done x misplaced r =>
    obtain ⟨rfl, -⟩ := hs.of_done h
    rw [h, List.cons_append] at hrun
    rw [List.cons_append, Parse.upTo_of_done ht hrun]
    rfl
  | failed why misplaced r =>
    have hends := Parser.ends_statement t ts
    rw [h] at hrun hends
    obtain ⟨us, hts, hu⟩ := hends
    have hres := resume_segment (hts ▸ hs) hu (hts ▸ hm)
    rw [← hts, List.cons_append] at hres
    rw [List.cons_append] at hrun ⊢
    rw [Parse.upTo_of_failed ht hrun, hres]
    cases r <;> simp

theorem flatten_segments (ts : List Token) : (segments ts).flatten = ts := List.flatten_splitBy _ ts

/-- No segment has a border within. -/
theorem isSegment_of_mem (he : ∀ t ∈ ts, t.kind ≠ .eof) (h : s ∈ segments ts) : IsSegment s where
  ne_nil := List.ne_nil_of_mem_splitBy h
  unbroken := (List.isChain_of_mem_splitBy h).imp fun _ _ hb => by simpa using hb
  no_end t ht := he t (flatten_segments ts ▸ List.mem_flatten_of_mem h ht)

theorem segments_meet (ts : List Token) : (segments ts).IsChain Meets := by
  refine (List.isChain_getLast_head_splitBy _ ts).imp fun s s' h t ht u hu => ?_
  obtain ⟨hn, hn', hb⟩ := h
  rw [List.getLast?_eq_getLast_of_ne_nil hn, Option.mem_some] at ht
  rw [List.head?_eq_some_head hn', Option.mem_some] at hu
  subst ht hu
  simpa using hb

theorem upTo_lone_segment (hs : IsSegment s) (last : Token) : Parse.upTo last s = contribution last s := by
  have h := upTo_segment hs .nil last
  simpa using h

theorem ofTokens_segment (hs : IsSegment s) : Parse.ofTokens s = contribution (Buffer.ofTokens s).last s := by
  rw [Parse.ofTokens_of_no_end hs.no_end, upTo_lone_segment hs]

/-- The same complaint where there is a token at the end that was found. -/
def SyntaxError.before : Option Token → SyntaxError → SyntaxError
  | some next, .unexpected t why => .unexpected (if t.kind = .eof then next else t) why
  | _, e => e

/-- The errors of each piece by itself, except that what is missing at the end of one is told of the first
token of the next. -/
def errorsInTurn : List (List Token) → List SyntaxError
  | [] => []
  | s :: others =>
    (Parse.ofTokens s).errors.map (.before (others.head?.bind List.head?)) ++ errorsInTurn others

theorem contribution_statements (next next' : Token) (s : List Token) :
    (contribution next s).statements = (contribution next' s).statements := by
  unfold contribution
  split <;> rfl

/-- What a segment lacks at its end is told of the token behind it; everything else is as it is alone. -/
theorem contribution_before (hs : IsSegment s) (hl : last.kind = .eof) (next : Token) :
    (contribution next s).errors = (contribution last s).errors.map (.before (some next)) := by
  obtain ⟨t, ts, rfl⟩ := List.exists_cons_of_ne_nil hs.ne_nil
  have hends := Parser.ends_statement t ts
  unfold contribution
  cases h : Parser.statement.run (t :: ts) with
  | done x misplaced r => simp [SyntaxError.before, Function.comp_def]
  | failed why misplaced r =>
    rw [h] at hends
    obtain ⟨us, hts, _⟩ := hends
    cases r with
    | nil => simp [SyntaxError.before, Function.comp_def, hl]
    | cons u r =>
      have hu : u.kind ≠ .eof := hs.no_end u (by simp [hts])
      simp [SyntaxError.before, Function.comp_def, hu]

theorem before_none : SyntaxError.before none = id := by
  funext e
  cases e <;> rfl

/-- The whole parse, segment after segment. -/
theorem upTo_flatten (hs : ∀ s ∈ ss, IsSegment s) (hc : ss.IsChain Meets)
    (hl : ∀ s ∈ ss.getLast?, last = (Buffer.ofTokens s).last) :
    Parse.upTo last ss.flatten = ⟨ss.flatMap fun s => (Parse.ofTokens s).statements, errorsInTurn ss⟩ := by
  induction ss with
  | nil => simp [errorsInTurn]
  | cons s others ih =>
    obtain ⟨hseg, hos⟩ := List.forall_mem_cons.mp hs
    obtain ⟨hmeets, hoc⟩ := List.isChain_cons.mp hc
    cases others with
    | nil =>
      obtain rfl : last = (Buffer.ofTokens s).last := hl s rfl
      rw [List.flatten_singleton, upTo_lone_segment hseg, ← ofTokens_segment hseg]
      simp [errorsInTurn, before_none]
    | cons s' others =>
      obtain ⟨u, us, rfl⟩ := List.exists_cons_of_ne_nil (hos s' List.mem_cons_self).ne_nil
      have hm : Meets s ((u :: us) :: others).flatten := by simpa [Meets] using hmeets (u :: us) rfl
      have hstatements : (contribution u s).statements = (Parse.ofTokens s).statements := by
        rw [ofTokens_segment hseg, contribution_statements]
      have herrors : (contribution u s).errors = (Parse.ofTokens s).errors.map (.before (some u)) := by
        rw [ofTokens_segment hseg, ← contribution_before hseg (Buffer.ofTokens s).kind_last]
      rw [List.flatten_cons, upTo_segment hseg hm last, ih hos hoc hl]
      change Parse.mk ((contribution u s).statements ++ _) ((contribution u s).errors ++ _) = _
      rw [hstatements, herrors]
      rfl

/-- The end behind the tokens is the end behind the last segment. -/
theorem last_flatten {ss : List (List Token)} (hs : ∀ s ∈ ss, IsSegment s) :
    ∀ s ∈ ss.getLast?, (Buffer.ofTokens ss.flatten).last = (Buffer.ofTokens s).last := by
  intro s hmem
  obtain ⟨init, rfl⟩ := List.getLast?_eq_some_iff.mp hmem
  have hseg := hs s (by simp)
  have hflat : ∀ t ∈ (init ++ [s]).flatten, t.kind ≠ .eof := by
    intro t ht
    obtain ⟨s', hs', ht⟩ := List.mem_flatten.mp ht
    exact (hs s' hs').no_end t ht
  have hlast : (init ++ [s]).flatten.getLast? = s.getLast? := by
    simp [List.getLast?_append_of_ne_nil _ hseg.ne_nil]
  rw [Buffer.ofTokens_of_no_end hflat, Buffer.ofTokens_of_no_end hseg.no_end, hlast]

def SyntaxError.isUnexpected : SyntaxError → Bool
  | unexpected _ _ => true
  | invalidTarget _ => false

/-- One statement, which ends in the semicolon at the end of the piece, or one error that costs it. -/
def GivesOne (s : List Token) (p : Parse) : Prop :=
  (∃ x, p.statements = [x] ∧ p.errors.filter (·.isUnexpected) = [] ∧
    ∃ t, s.getLast? = some t ∧ t.kind = .semicolon) ∨
  (∃ e, p.statements = [] ∧ p.errors.filter (·.isUnexpected) = [e])

theorem filter_misplaced (misplaced : List Token) :
    (misplaced.map SyntaxError.invalidTarget).filter (·.isUnexpected) = [] := by
  simp [SyntaxError.isUnexpected]

/-- A segment that is read leaves nothing, and one that fails is skipped to its end. -/
theorem contribution_givesOne (hs : IsSegment s) (next : Token) : GivesOne s (contribution next s) := by
  unfold contribution
  cases h : Parser.statement.run s with
  | done x misplaced r => exact .inl ⟨x, rfl, filter_misplaced misplaced, (hs.of_done h).2⟩
  | failed why misplaced r =>
    refine .inr ⟨.unexpected (r.headD next) why, rfl, ?_⟩
    rw [List.filter_append, filter_misplaced]
    rfl

theorem GivesOne.count (h : GivesOne s p) :
    p.statements.length + (p.errors.filter (·.isUnexpected)).length = 1 := by
  rcases h with ⟨x, hs, he, -⟩ | ⟨e, hs, he⟩ <;> simp [hs, he]

/-- Telling an error of another token does not change what it costs. -/
theorem isUnexpected_before (next : Option Token) (e : SyntaxError) :
    (e.before next).isUnexpected = e.isUnexpected := by
  cases next <;> cases e <;> rfl

/-- There are as many statements and errors that cost one as there are segments. -/
theorem count_errorsInTurn (h : ∀ s ∈ ss, GivesOne s (Parse.ofTokens s)) :
    (ss.flatMap fun s => (Parse.ofTokens s).statements).length +
      ((errorsInTurn ss).filter (·.isUnexpected)).length = ss.length := by
  induction ss with
  | nil => rfl
  | cons s others ih =>
    obtain ⟨hs, hos⟩ := List.forall_mem_cons.mp h
    have hone := hs.count
    have hmap : ∀ next : Option Token,
        (((Parse.ofTokens s).errors.map (SyntaxError.before next)).filter (·.isUnexpected)).length =
          ((Parse.ofTokens s).errors.filter (·.isUnexpected)).length := by
      intro next
      rw [List.filter_map, List.length_map]
      congr 2
      funext e
      exact isUnexpected_before next e
    have := ih hos
    simp only [List.flatMap_cons, List.length_append, errorsInTurn, List.filter_append, hmap,
      List.length_cons]
    omega

/-- Each segment is parsed as if it were alone: it gives one statement or one error that costs one, and the
statements and errors of all of them in turn are those of the whole. -/
theorem ofTokens_segments (ts : List Token) (he : ∀ t ∈ ts, t.kind ≠ .eof) :
    (∀ s ∈ segments ts, GivesOne s (Parse.ofTokens s)) ∧
    (Parse.ofTokens ts).statements.length + ((Parse.ofTokens ts).errors.filter (·.isUnexpected)).length =
      (segments ts).length ∧
    (Parse.ofTokens ts).statements = (segments ts).flatMap (fun s => (Parse.ofTokens s).statements) ∧
    (Parse.ofTokens ts).errors = errorsInTurn (segments ts) := by
  have hseg : ∀ s ∈ segments ts, IsSegment s := fun s hs => isSegment_of_mem he hs
  have hlast := last_flatten hseg
  have hwhole := upTo_flatten hseg (segments_meet ts) hlast
  rw [flatten_segments, ← Parse.ofTokens_of_no_end he] at hwhole
  have hone : ∀ s ∈ segments ts, GivesOne s (Parse.ofTokens s) := by
    intro s hs
    rw [ofTokens_segment (hseg s hs)]
    exact contribution_givesOne (hseg s hs) _
  rw [hwhole]
  exact ⟨hone, count_errorsInTurn hone, rfl, rfl⟩

def unfinishedPrint : List Token :=
  [⟨.kwPrint, "print", none, 1⟩, ⟨.identifier, "a", none, 1⟩,
    ⟨.kwPrint, "print", none, 2⟩, ⟨.identifier, "b", none, 2⟩, ⟨.semicolon, ";", none, 2⟩]

/-- The semicolon that the first statement lacks is missed at the keyword of the second. -/
theorem ofTokens_unfinishedPrint :
    (∀ t ∈ unfinishedPrint, t.kind ≠ .eof) ∧
    (Parse.ofTokens unfinishedPrint).statements.length +
      ((Parse.ofTokens unfinishedPrint).errors.filter (·.isUnexpected)).length = 2 ∧
    (Parse.ofTokens unfinishedPrint).errors = errorsInTurn (segments unfinishedPrint) := by
  have he : ∀ t ∈ unfinishedPrint, t.kind ≠ .eof := by decide
  obtain ⟨-, hcount, -, herrors⟩ := ofTokens_segments unfinishedPrint he
  have htwo : (segments unfinishedPrint).length = 2 := by decide
  exact ⟨he, htwo ▸ hcount, herrors⟩

end Lox
