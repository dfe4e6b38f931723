import Lox.Proofs.Cursor.Composition
import Lox.Proofs.Cursor.Turns
namespace Lox

namespace Event

def before : Event → Nat
  | turn n | nest n | unnest n | reset n => n

def after : Event → Nat
  | turn n => n
  | nest n => n + 1
  | unnest n => n - 1
  | reset _ => 0

def Within (d : Nat) : Event → Prop
  | nest n => d ≤ n ∧ n < maxNesting
  | unnest n => d < n ∧ n ≤ maxNesting
  | turn _ | reset _ => False

/-- Declarations begin at zero, and there is nothing else to reset. -/
def Harmless : Event → Prop
  | turn n | reset n => n = 0
  | e => e.Within 0

theorem Within.mono (h : Within d e) (hd : d' ≤ d) : Within d' e := by
  cases e with
  | nest n => exact ⟨Nat.le_trans hd h.1, h.2⟩
  | unnest n => exact ⟨Nat.lt_of_le_of_lt hd h.1, h.2⟩
  | turn n => exact h
  | reset n => exact h

theorem Within.harmless (h : Within 0 e) : Harmless e := by
  cases e with
  | nest n => exact h
  | unnest n => exact h
  | turn n => exact h.elim
  | reset n => exact h.elim

def Lead : Nat → List Event → Nat → Prop
  | d, [], d' => d' = d
  | d, e :: es, d' => e.before = d ∧ Lead e.after es d'

theorem Lead.append (h : Lead d es d') (h' : Lead d' es' d'') : Lead d (es ++ es') d'' := by
  induction es generalizing d with
  | nil => exact Eq.subst (motive := (Lead · es' d'')) h h'
  | cons e es ih => exact ⟨h.1, ih h.2⟩

end Event

namespace Cursor

/-- The counter is back at its value. What is noted leads there step by step, and is of this sort only. -/
structure Returns (ok : Event → Prop) (c c' : Cursor) : Prop where
  depth : c'.depth = c.depth
  events : ∃ es, c'.events = c.events ++ es ∧ Event.Lead c.depth es c'.depth ∧ ∀ e ∈ es, ok e

theorem returns_of_eq (hd : c'.depth = c.depth) (he : c'.events = c.events) : Returns ok c c' :=
  ⟨hd, [], by simpa using he, hd, by simp⟩

theorem Returns.trans (h : Returns ok c c') (h' : Returns ok c' c'') : Returns ok c c'' := by
  obtain ⟨hd, es, he, hl, ho⟩ := h
  obtain ⟨hd', es', he', hl', ho'⟩ := h'
  refine ⟨hd'.trans hd, es ++ es', by rw [he', he, List.append_assoc], hl.append hl', ?_⟩
  intro e hmem
  exact (List.mem_append.mp hmem).elim (ho e) (ho' e)

theorem Returns.mono (h : Returns ok c c') (hok : ∀ e, ok e → ok' e) : Returns ok' c c' :=
  ⟨h.depth, h.events.imp fun _ he => ⟨he.1, he.2.1, fun e hmem => hok e (he.2.2 e hmem)⟩⟩

def left (p : Reader α) (c : Cursor) : Cursor :=
  match p c with
  | .ok _ c' => c'
  | .error _ c' => c'

/-- Whatever is read, and wherever it fails, the counter comes back to where it was. It never falls below that, nor
does it go above the limit. -/
def Balanced (p : Reader α) : Prop := ∀ c, Returns (Event.Within c.depth) c (left p c)

/-- Of two readers the second one leaves the cursor behind, unless the first one fails. -/
theorem left_bind (p : Reader α) (f : α → Reader β) (c : Cursor) : left (p >>= f) c =
    match p c with
    | .ok a c' => left (f a) c'
    | .error _ c' => c' := by
  rw [left, bind_eq]
  cases p c <;> rfl

theorem returns_bind {f : α → Reader β} (hp : Returns ok c (left p c))
    (hf : ∀ a c', c'.depth = c.depth → Returns ok c' (left (f a) c')) :
    Returns ok c (left (p >>= f) c) := by
  rw [left] at hp
  rw [left_bind]
  cases h : p c with
  | error e c' => simpa only [h] using hp
  | ok a c' =>
    rw [h] at hp
    exact hp.trans (hf a c' hp.depth)

theorem balanced_of_eq {p : Reader α} (h : ∀ c, (left p c).depth = c.depth ∧ (left p c).events = c.events) :
    Balanced p := fun c => returns_of_eq (h c).1 (h c).2

theorem balanced_pure (a : α) : Balanced (pure a) := balanced_of_eq fun _ => ⟨rfl, rfl⟩

/-- A failure in between leaves the counter where it was found, too. -/
theorem Balanced.bind {f : α → Reader β} (hp : Balanced p) (hf : ∀ a, Balanced (f a)) : Balanced (p >>= f) :=
  fun c => returns_bind (hp c) fun a c' hd => hd ▸ hf a c'

theorem balanced_current : Balanced current := by
  refine balanced_of_eq fun c => ?_
  rw [left, current]
  cases c.buffer.toList[c.position]? <;> exact ⟨rfl, rfl⟩

theorem balanced_get : Balanced get := balanced_of_eq fun _ => ⟨rfl, rfl⟩

theorem balanced_previous : Balanced previous := by
  refine balanced_of_eq fun c => ?_
  rw [left, previous]
  by_cases hp : c.position = 0
  · rw [if_pos hp]
    exact ⟨rfl, rfl⟩
  · rw [if_neg hp]
    cases c.buffer.toList[c.position - 1]? <;> exact ⟨rfl, rfl⟩

theorem balanced_isAtEnd : Balanced isAtEnd := balanced_current.bind fun t => balanced_pure (Parse.isEnd t)

theorem balanced_advance : Balanced advance := by
  refine balanced_current.bind fun t => ?_
  split
  · exact balanced_pure t
  · exact Balanced.bind (balanced_of_eq fun _ => ⟨rfl, rfl⟩) fun _ => balanced_pure t

theorem balanced_refuse (why : Complaint) : Balanced (refuse why : Reader α) :=
  balanced_current.bind fun _ => balanced_of_eq fun _ => ⟨rfl, rfl⟩

theorem balanced_report (e : SyntaxError) : Balanced (report e) := balanced_of_eq fun _ => ⟨rfl, rfl⟩

/-- What happens inside begins one above the value outside, and never falls to it. -/
theorem Returns.around (hd : c.depth < maxNesting) (h : Returns (Event.Within (c.depth + 1)) c.enter c') :
    Returns (Event.Within c.depth) c c'.leave := by
  obtain ⟨hdepth, es, he, hl, hw⟩ := h
  have hleave : c'.leave.depth = c.depth := by simp [leave, hdepth, enter]
  refine ⟨hleave, .nest c.depth :: (es ++ [.unnest (c.depth + 1)]), ?_, ?_, ?_⟩
  · simp [leave, he, enter, hdepth]
  · refine ⟨rfl, Event.Lead.append hl ?_⟩
    exact ⟨hdepth.symm, hleave⟩
  · intro e hmem
    simp only [List.mem_cons, List.mem_append, List.not_mem_nil, or_false] at hmem
    rcases hmem with rfl | hmem | rfl
    · exact ⟨Nat.le_refl _, hd⟩
    · exact (hw e hmem).mono (Nat.le_succ _)
    · exact ⟨Nat.lt_succ_self _, hd⟩

/-- A reader that cannot be entered does not count, and another one is left on both its ways out. -/
theorem Balanced.nested (h : Balanced p) : Balanced (nested p) := by
  intro c
  by_cases hd : maxNesting ≤ c.depth
  · rw [left, nested_of_le hd]
    exact balanced_refuse .tooMuchNesting c
  · have hlt := Nat.lt_of_not_le hd
    have hinner := h c.enter
    rw [left] at hinner ⊢
    rw [nested_of_lt hlt]
    cases hp : p c.enter with
    | ok a c' =>
      rw [hp] at hinner
      exact hinner.around hlt
    | error e c' =>
      rw [hp] at hinner
      exact hinner.around hlt

instance : Compositional @Balanced where
  holds_pure := balanced_pure
  holds_bind := Balanced.bind
  holds_get := balanced_get
  holds_current := balanced_current
  holds_advance := balanced_advance
  holds_refuse := balanced_refuse
  holds_report := balanced_report
  holds_nested := Balanced.nested

abbrev Inner.Balanced (inner : Inner) : Prop := inner.Holds @Cursor.Balanced

/-- However deep the readers may call each other, the counter comes back. -/
theorem balanced_readersWithin (n : Nat) : (readersWithin n).Balanced := holds_readersWithin n

/-- Two readers that come to the same where the counter has this value. -/
def Same (d : Nat) (p q : Reader α) : Prop := ∀ c, c.depth = d → p c = q c

theorem Same.refl (p : Reader α) : Same d p p := fun _ _ => rfl

theorem Same.bind {f g : α → Reader β} (h : Same d p q) (hp : Balanced p) (hf : ∀ a, Same d (f a) (g a)) :
    Same d (p >>= f) (q >>= g) := by
  intro c hd
  have hdepth := (hp c).depth
  rw [left] at hdepth
  rw [bind_eq, bind_eq, ← h c hd]
  cases hr : p c with
  | error => rfl
  | ok a c' =>
    rw [hr] at hdepth
    exact hf a c' (hdepth.trans hd)

/-- What is entered only below the limit need not be the same elsewhere. -/
theorem same_nested (h : d < maxNesting → Same (d + 1) p q) : Same d (nested p) (nested q) := by
  intro c hd
  by_cases hlimit : maxNesting ≤ c.depth
  · rw [nested_of_le hlimit, nested_of_le hlimit]
  · have hlt := Nat.lt_of_not_le hlimit
    have hsame := h (hd ▸ hlt) c.enter (by rw [enter, hd])
    rw [nested_of_lt hlt, nested_of_lt hlt, hsame]

theorem Same.chain (h : Same d p q) (hp : Balanced p) (kinds : List Kind) : Same d (chain kinds p) (chain kinds q) := by
  have hfrom : ∀ n lhs, Same d (chainFrom kinds p n lhs) (chainFrom kinds q n lhs) := by
    intro n
    induction n with
    | zero => exact fun lhs => .refl _
    | succ n ih =>
      intro lhs
      refine (Same.refl _).bind (holds_pass? kinds) fun op => ?_
      cases op with
      | none => exact .refl _
      | some op => exact h.bind hp fun rhs => ih _
  exact h.bind hp fun lhs => Same.bind (.refl _) balanced_get fun c => hfrom _ lhs

structure Inner.Same (d : Nat) (inner inner' : Inner) : Prop where
  unary : Cursor.Same d (nested inner.unary) (nested inner'.unary)
  assignment : Cursor.Same d (nested inner.assignment) (nested inner'.assignment)

namespace Inner.Same

variable {inner inner' : Inner} (h : Inner.Same d inner inner') (hb : inner.Balanced)
include h hb

theorem group : Cursor.Same d (group inner) (group inner') := by
  refine (Cursor.Same.refl _).bind (holds_consume _ _) fun _ => ?_
  exact h.assignment.bind hb.assignment.nested fun e => .refl _

theorem primary : Cursor.Same d (primary inner) (primary inner') := by
  refine (Cursor.Same.refl _).bind balanced_current fun t => ?_
  split
  · exact .refl _
  · exact h.group hb
  · exact .refl _
  · exact .refl _

theorem operand : Cursor.Same d (Cursor.unary inner) (Cursor.unary inner') := by
  refine (Cursor.Same.refl _).bind (holds_pass? _) fun op => ?_
  cases op with
  | some op => exact h.unary.bind hb.unary.nested fun e => .refl _
  | none => exact h.primary hb

theorem binary (levels : List Level) : Cursor.Same d (binary inner levels) (binary inner' levels) := by
  induction levels with
  | nil => exact h.operand hb
  | cons l tighter ih => exact ih.chain (hb.binary tighter) l.kinds

theorem value : Cursor.Same d (Cursor.assignment inner) (Cursor.assignment inner') := by
  refine (h.binary hb _).bind (hb.binary _) fun target => ?_
  refine (Cursor.Same.refl _).bind (holds_pass? _) fun equals => ?_
  cases equals with
  | none => exact .refl _
  | some equals => exact h.assignment.bind hb.assignment.nested fun e => .refl _

end Inner.Same

/-- Readers may be called more often within each other than the counter lets them be nested. -/
theorem same_readersWithin (hn : maxNesting ≤ d + n) (hm : maxNesting ≤ d + m) :
    Inner.Same d (readersWithin n) (readersWithin m) := by
  -- Nothing is entered at the limit, so it does not matter what readers there are behind it.
  induction n generalizing d m with
  | zero =>
    have hnever : ¬ d < maxNesting := by omega
    exact ⟨same_nested fun hd => (hnever hd).elim, same_nested fun hd => (hnever hd).elim⟩
  | succ n ih =>
    have hsame : d < maxNesting → ∃ k, m = k + 1 ∧ Inner.Same (d + 1) (readersWithin n) (readersWithin k) := by
      intro hd
      exact ⟨m - 1, by omega, ih (by omega) (by omega)⟩
    refine ⟨same_nested fun hd => ?_, same_nested fun hd => ?_⟩
    · obtain ⟨k, rfl, hk⟩ := hsame hd
      exact hk.operand (balanced_readersWithin n)
    · obtain ⟨k, rfl, hk⟩ := hsame hd
      exact hk.value (balanced_readersWithin n)

/-- The readers call themselves where something is nested. -/
theorem readers_eq : readers = ⟨unary readers, assignment readers⟩ := by
  have hsame : ∀ c : Cursor, Inner.Same c.depth (readersWithin maxNesting) readers := fun c =>
    same_readersWithin (Nat.le_add_left _ _) (by omega)
  have hunary : unary (readersWithin maxNesting) = unary readers := by
    funext c
    exact (hsame c).operand (balanced_readersWithin _) c rfl
  have hassignment : assignment (readersWithin maxNesting) = assignment readers := by
    funext c
    exact (hsame c).value (balanced_readersWithin _) c rfl
  rw [← hunary, ← hassignment]
  rfl

/-- From zero it comes back to zero, and nothing else is ever reset. -/
def Steady (p : Reader α) : Prop := ∀ c, c.depth = 0 → Returns Event.Harmless c (left p c)

theorem Balanced.steady {p : Reader α} (h : Balanced p) : Steady p := fun c hd =>
  (h c).mono fun _ hw => Event.Within.harmless (hd ▸ hw)

theorem Steady.bind {f : α → Reader β} (hp : Steady p) (hf : ∀ a, Steady (f a)) : Steady (p >>= f) :=
  fun c hd => returns_bind (hp c hd) fun a c' hd' => hf a c' (hd'.trans hd)

/-- A reader that failed has left the counter at zero, so what handles the failure begins there. -/
theorem Steady.catch {p : Reader α} (hp : Steady p) (hh : ∀ e, Steady (handle e)) : Steady (tryCatch p handle) := by
  intro c hd
  have hreturns := hp c hd
  rw [left] at hreturns ⊢
  rw [catch_eq]
  cases h : p c with
  | ok a c' => simpa only [h] using hreturns
  | error e c' =>
    rw [h] at hreturns
    exact hreturns.trans (hh e c' (hreturns.depth.trans hd))

/-- One thing is noted that happens at zero and leaves it at zero. -/
theorem returns_noted (hd : c.depth = 0) (hd' : c'.depth = 0) (he : c'.events = c.events ++ [e]) (hb : e.before = 0)
    (ha : e.after = 0) (h : e.Harmless) : Returns Event.Harmless c c' := by
  refine ⟨hd'.trans hd.symm, [e], he, ⟨hb.trans hd.symm, hd'.trans ha.symm⟩, ?_⟩
  intro e' hmem
  rwa [List.mem_singleton.mp hmem]

theorem balanced_skip (n : Nat) : Balanced (skip n) := by
  induction n with
  | zero => exact balanced_pure ()
  | succ n ih =>
    refine balanced_isAtEnd.bind fun atEnd => ?_
    split
    · exact balanced_pure ()
    · refine balanced_previous.bind fun t => ?_
      split
      · exact balanced_pure ()
      · refine balanced_current.bind fun t => ?_
        split
        · exact balanced_pure ()
        · exact balanced_advance.bind fun _ => ih

theorem balanced_opensBehind (start : Nat) : Balanced (opensBehind start) := by
  refine balanced_get.bind fun c => ?_
  split
  · exact balanced_current.bind fun t => balanced_pure _
  · exact balanced_pure false

/-- The counter that is reset is at zero already. -/
theorem steady_synchronize (start : Nat) : Steady (synchronize start) := by
  have hreset : Steady (modify restart : Reader PUnit) := fun c hd =>
    returns_noted hd rfl rfl hd rfl hd
  refine hreset.bind fun _ => (balanced_opensBehind start).steady.bind fun opens => Balanced.steady ?_
  split
  · exact balanced_pure ()
  · exact balanced_advance.bind fun _ => balanced_get.bind fun c => balanced_skip _

theorem steady_turn : Steady turn := by
  have hbegun : Steady (modify begun : Reader PUnit) := fun c hd =>
    returns_noted hd hd rfl hd hd hd
  have hread : Balanced (some <$> declaration readers) :=
    (balanced_readersWithin _).declaration.bind fun s => balanced_pure (some s)
  refine hbegun.bind fun _ => balanced_get.steady.bind fun c => hread.steady.catch fun e => ?_
  cases e with
  | outOfRange => exact Balanced.steady (balanced_of_eq fun _ => ⟨rfl, rfl⟩)
  | refused e =>
    refine (balanced_report e).steady.bind fun _ => ?_
    exact (steady_synchronize _).bind fun _ => (balanced_pure none).steady

/-- From one declaration to the next nothing is left open. -/
theorem steady_turns (n : Nat) : Steady (turns n) := by
  induction n with
  | zero => exact (balanced_pure []).steady
  | succ n ih =>
    refine balanced_isAtEnd.steady.bind fun atEnd => ?_
    split
    · exact (balanced_pure []).steady
    · exact steady_turn.bind fun s => ih.bind fun ss => (balanced_pure _).steady

/-- Each reader leaves the counter at the value it found, on every way out, and in between takes it neither below that
value nor above the limit. So each declaration begins at zero, has the whole limit wherever it stands, and leaves
nothing to be reset; and nothing is left that was not entered. -/
theorem nesting_balanced :
    (Balanced (declaration readers) ∧ Balanced (assignment readers) ∧
      (∀ levels, Balanced (binary readers levels)) ∧ Balanced (unary readers) ∧
      Balanced (primary readers) ∧ Balanced (group readers)) ∧
    (∀ c : Cursor, c.InRange → c.depth = 0 → Follows c (declaration readers c) (Parser.statement.run c.ahead)) ∧
    ∀ ts, ∃ c, parse ts = .ok (Parse.ofTokens ts).statements c ∧ c.errors = (Parse.ofTokens ts).errors ∧
      Returns Event.Harmless (ofTokens ts) c := by
  have hreaders : readers.Balanced := balanced_readersWithin _
  refine ⟨⟨hreaders.declaration, hreaders.value, hreaders.binary, hreaders.operand, hreaders.primary, hreaders.group⟩,
    fun c hc hd => follows_declaration hc hd, fun ts => ?_⟩
  obtain ⟨c, hparse, herrors⟩ := parse_eq ts
  have hreturns := steady_turns (Buffer.ofTokens ts).tokens.length (ofTokens ts) rfl
  rw [parse] at hparse
  rw [left, hparse] at hreturns
  exact ⟨c, hparse, herrors, hreturns⟩

/-- Behind `(;`, with `print nil;` still to be read. -/
def behindUnclosed : Cursor :=
  left turn (ofTokens [⟨.leftParen, "(", none, 1⟩, ⟨.semicolon, ";", none, 1⟩, ⟨.kwPrint, "print", none, 2⟩,
    ⟨.kwNil, "nil", none, 2⟩, ⟨.semicolon, ";", none, 2⟩])

/-- A group that fails is left behind before the next declaration begins. -/
theorem nesting_balanced_behindUnclosed :
    behindUnclosed.events = [.turn 0, .nest 0, .unnest 1, .reset 0] ∧
    behindUnclosed.InRange ∧ behindUnclosed.depth = 0 ∧
    Follows behindUnclosed (declaration readers behindUnclosed) (Parser.statement.run behindUnclosed.ahead) := by
  have hevents : behindUnclosed.events = [.turn 0, .nest 0, .unnest 1, .reset 0] := by decide
  have hrange : behindUnclosed.position ≤ behindUnclosed.buffer.tokens.length := by decide
  have hdepth : behindUnclosed.depth = 0 := by decide
  exact ⟨hevents, hrange, hdepth, nesting_balanced.2.1 behindUnclosed hrange hdepth⟩

end Cursor

end Lox
