namespace Lox

variable {ε σ : Type}

/-- Looks something up and changes nothing, and fails where there is nothing to be found. -/
def look (f : σ → Option α) (e : ε) : EStateM ε σ α := fun s =>
  match f s with
  | some a => .ok a s
  | none => .error e s

theorem look_of_some {f : σ → Option α} (h : f s = some a) (e : ε) : look f e s = .ok a s := by
  rw [look, h]

theorem bind_eq (p : EStateM ε σ α) (f : α → EStateM ε σ β) (s : σ) : (p >>= f) s =
    match p s with
    | .ok a s' => f a s'
    | .error e s' => .error e s' := rfl

theorem bind_of_ok {p : EStateM ε σ α} (h : p s = .ok a s') (f : α → EStateM ε σ β) : (p >>= f) s = f a s' := by
  rw [bind_eq, h]

theorem bind_of_error {p : EStateM ε σ α} (h : p s = .error e s') (f : α → EStateM ε σ β) :
    (p >>= f) s = .error e s' := by
  rw [bind_eq, h]

/-- A result has come by way of one of the first program. -/
theorem bind_eq_ok_iff {p : EStateM ε σ α} {f : α → EStateM ε σ β} :
    (p >>= f) s = .ok b s'' ↔ ∃ a s', p s = .ok a s' ∧ f a s' = .ok b s'' := by
  constructor
  · intro h
    rw [bind_eq] at h
    cases hp : p s with
    | ok a s' => exact ⟨a, s', rfl, by simpa only [hp] using h⟩
    | error e s' => simp [hp] at h
  · rintro ⟨a, s', hp, hf⟩
    rwa [bind_of_ok hp]

theorem map_eq (f : α → β) (p : EStateM ε σ α) (s : σ) : (f <$> p) s =
    match p s with
    | .ok a s' => .ok (f a) s'
    | .error e s' => .error e s' := rfl

/-- What a failed program leaves behind stays. -/
theorem catch_eq (p : EStateM ε σ α) (handle : ε → EStateM ε σ α) (s : σ) : tryCatch p handle s =
    match p s with
    | .ok a s' => .ok a s'
    | .error e s' => handle e s' := by
  change EStateM.tryCatch p handle s = _
  delta EStateM.tryCatch
  dsimp only
  cases p s <;> rfl

/-- What comes after a program in any case is run where that ended, and a failure stays one. -/
theorem finally_eq (p : EStateM ε σ α) (q : EStateM ε σ β) (s : σ) : tryFinally p q s =
    match p s with
    | .ok a s' =>
      match q s' with
      | .ok _ s'' => .ok a s''
      | .error e s'' => .error e s''
    | .error e s' =>
      match q s' with
      | .ok _ s'' => .error e s''
      | .error e' s'' => .error e' s'' := by
  simp only [tryFinally, tryFinally', Functor.map, EStateM.map]
  rcases p s with ⟨a, s'⟩ | ⟨e, s'⟩
  · dsimp only
    cases q s' <;> rfl
  · dsimp only
    cases q s' <;> rfl

/-- Whichever way it came about, the result leaves a state with this property behind, and where it is a failure, it is
one of this sort. -/
inductive Leaves (I : σ → Prop) (fails : ε → Prop) {α : Type} : EStateM.Result ε σ α → Prop
  | ok (h : I s) (a : α) : Leaves I fails (.ok a s)
  | error (h : I s) (he : fails e) : Leaves I fails (.error e s)

namespace Leaves

variable {I J : σ → Prop} {fails caught : ε → Prop} {p : EStateM ε σ α}

theorem mono (h : Leaves I fails (p s)) (hI : ∀ s, I s → J s) : Leaves J fails (p s) := by
  generalize p s = r at h
  cases h with
  | ok h a => exact .ok (hI _ h) a
  | error h he => exact .error (hI _ h) he

theorem of_ok (h : Leaves I fails (p s)) (hp : p s = .ok a s') : I s' := by
  rw [hp] at h
  cases h with
  | ok h => exact h

theorem of_error (h : Leaves I fails (p s)) (hp : p s = .error e s') : I s' ∧ fails e := by
  rw [hp] at h
  cases h with
  | error h he => exact ⟨h, he⟩

/-- What cannot fail comes to an end with a result. -/
theorem exists_ok (h : Leaves I (fun _ => False) (p s)) : ∃ a s', p s = .ok a s' ∧ I s' := by
  generalize p s = r at h
  cases h with
  | ok h a => exact ⟨a, _, rfl, h⟩
  | error _ he => exact he.elim

/-- The second program is run where the first one ended, and not at all where that failed. -/
theorem bind {f : α → EStateM ε σ β} (hp : Leaves I fails (p s)) (hf : ∀ a s', I s' → Leaves I fails (f a s')) :
    Leaves I fails ((p >>= f) s) := by
  rw [bind_eq]
  generalize p s = r at hp
  cases hp with
  | ok h a => exact hf a _ h
  | error h he => exact .error h he

/-- Only what the handler fails with is a failure of the whole. -/
theorem tryCatch {handle : ε → EStateM ε σ α} (hp : Leaves I caught (p s))
    (hh : ∀ e s', caught e → I s' → Leaves I fails (handle e s')) : Leaves I fails (tryCatch p handle s) := by
  rw [catch_eq]
  generalize p s = r at hp
  cases hp with
  | ok h a => exact .ok h a
  | error h he => exact hh _ _ he h

theorem tryFinally {q : EStateM ε σ β} (hp : Leaves I fails (p s)) (hq : ∀ s', I s' → Leaves I fails (q s')) :
    Leaves I fails (tryFinally p q s) := by
  rw [finally_eq]
  generalize p s = r at hp
  cases hp with
  | ok h a =>
    have hbehind := hq _ h
    dsimp only
    generalize q _ = r at hbehind
    cases hbehind with
    | ok h' => exact .ok h' a
    | error h' he => exact .error h' he
  | error h he =>
    have hbehind := hq _ h
    dsimp only
    generalize q _ = r at hbehind
    cases hbehind with
    | ok h' => exact .error h' he
    | error h' he' => exact .error h' he'

end Leaves

/-- A loop that has come to its end, with what its rounds gave: before each of them it was not over, and behind the
last one it was. -/
inductive Repeats (ended : EStateM ε σ Bool) (round : EStateM ε σ α) : σ → List α → σ → Prop
  | stop (h : ended s = .ok true s) : Repeats ended round s [] s
  | again (h : ended s = .ok false s) (hr : round s = .ok a s') (hs : Repeats ended round s' as s'') :
      Repeats ended round s (a :: as) s''

theorem Repeats.has_ended {ended : EStateM ε σ Bool} {round : EStateM ε σ α} (h : Repeats ended round s as s') :
    ended s' = .ok true s' := by
  induction h with
  | stop h => exact h
  | again _ _ _ ih => exact ih

/-- A loop comes to its end where each round gets further along and there is a limit to that. It has no more rounds than
there are places up to the limit. -/
theorem exists_repeats {ended : EStateM ε σ Bool} {round : EStateM ε σ α} {I : σ → Prop} {place : σ → Nat}
    (hlimit : ∀ s, I s → place s ≤ limit) (hended : ∀ s, I s → ∃ b, ended s = .ok b s)
    (hround : ∀ s, I s → ended s = .ok false s → ∃ a s', round s = .ok a s' ∧ I s' ∧ place s < place s') (h : I s) :
    ∃ as s', Repeats ended round s as s' ∧ I s' ∧ place s + as.length ≤ place s' := by
  generalize hn : limit - place s = n
  induction n using Nat.strongRecOn generalizing s with
  | ind n ih =>
    subst hn
    obtain ⟨b, hb⟩ := hended s h
    cases b with
    | true => exact ⟨[], s, .stop hb, h, Nat.le_refl _⟩
    | false =>
      obtain ⟨a, s', hr, h', hplace⟩ := hround s h hb
      have hle := hlimit s' h'
      obtain ⟨as, s'', hs, h'', hlength⟩ := ih (limit - place s') (by omega) h' rfl
      refine ⟨a :: as, s'', .again hb hr hs, h'', ?_⟩
      rw [List.length_cons]
      omega

end Lox
