import Lox.Proofs.Double.Bits
import Lox.Proofs.Source.Lexis
namespace Lox.Double

/-- A search whose last number has the property finds one that has it. -/
theorem holds_firstFrom (holds : Nat → Bool) (h : holds (base + (1 <<< bits - 1)) = true) :
    holds (firstFrom base holds bits) = true := by
  induction bits generalizing base with
  | zero => exact h
  | succ bits ih =>
    have hpos : 0 < 1 <<< bits := Nat.one_shiftLeft bits ▸ Nat.two_pow_pos bits
    have htwo : 1 <<< (bits + 1) = 2 * 1 <<< bits := by
      rw [Nat.one_shiftLeft, Nat.one_shiftLeft, Nat.pow_succ, Nat.mul_comm]
    unfold firstFrom
    split
    · next reached => exact ih reached
    · apply ih
      have hlast : base + 1 <<< bits + (1 <<< bits - 1) = base + (1 <<< (bits + 1) - 1) := by omega
      rw [hlast]
      exact h

theorem midpoint_lt_units (h : m < n) : midpoint m < units n := by
  have hm := two_mul_midpoint m
  have hlow := units_lt_units h
  have hhigh := units_le_units (Nat.succ_le_of_lt h)
  simp only [Nat.succ_eq_add_one] at hhigh
  omega

theorem units_lt_midpoint (code : Nat) : units code < midpoint code := by
  have hm := two_mul_midpoint code
  have := units_lt_units code.lt_add_one
  omega

/-- What a grid holds for a double lies between the midpoints about it. -/
theorem readsBack_of_pointOn? (h : pointOn? code n = some p) :
    readsBack code (Nat.pow 10 (n - coarsest)) (p * (Nat.pow 10 (coarsest - n) * one)) = true := by
  unfold pointOn? at h
  dsimp only at h
  generalize Nat.pow 10 (n - coarsest) = stretch at h ⊢
  generalize Nat.pow 10 (coarsest - n) * one = step at h ⊢
  split at h
  · next hbelow habove =>
    obtain rfl := Option.some.inj h
    split
    · exact hbelow
    · exact habove
  · next hbelow _ =>
    obtain rfl := Option.some.inj h
    exact hbelow
  · next _ habove =>
    obtain rfl := Option.some.inj h
    exact habove
  · cases h

/-- Strictly between the midpoints it makes no difference which of them read back. -/
theorem readsBack_of_between (hlow : midpoint (code - 1) * stretch < magnitude)
    (hhigh : magnitude < midpoint code * stretch) : readsBack code stretch magnitude = true := by
  unfold readsBack
  dsimp only
  split
  · simp [Nat.le_of_lt hlow, Nat.le_of_lt hhigh]
  · simp [hlow, hhigh]

/-- The last grid is finer than the gaps between doubles. -/
theorem isSome_pointOn?_last (h : 0 < code) : (pointOn? code 1023).isSome = true := by
  have hstep : Nat.pow 10 (coarsest - 1023) * one = one := by decide +kernel
  have hfine : one < Nat.pow 10 (1023 - coarsest) := by decide +kernel
  have hone : 0 < one := by decide +kernel
  unfold pointOn?
  dsimp only
  rw [hstep]
  generalize Nat.pow 10 (1023 - coarsest) = stretch at hfine ⊢
  generalize one = step at hfine hone ⊢
  have hpoint : readsBack code stretch ((units code * stretch / step + 1) * step) = true := by
    have hsplit := Nat.div_add_mod' (units code * stretch) step
    have hmod := Nat.mod_lt (units code * stretch) hone
    have hlow : midpoint (code - 1) * stretch < units code * stretch :=
      Nat.mul_lt_mul_of_pos_right (midpoint_lt_units (by omega)) (by omega)
    have hhigh : units code * stretch + stretch ≤ midpoint code * stretch := by
      rw [← Nat.succ_mul]
      exact Nat.mul_le_mul_right _ (units_lt_midpoint code)
    rw [Nat.succ_mul]
    apply readsBack_of_between
    · omega
    · omega
  rw [hpoint]
  split
  · rfl
  · next hfalse => cases hfalse
  · rfl
  · next hfalse => cases hfalse

/-- The decimal that a double is written as lies where that double is nearest. -/
theorem readsBack_shortest (h : 0 < code) :
    readsBack code (shortest code).parts ((shortest code).digits * one) = true := by
  have hsome : (pointOn? code (firstFrom 0 (fun n => (pointOn? code n).isSome) 10)).isSome = true :=
    holds_firstFrom (fun n => (pointOn? code n).isSome) (isSome_pointOn?_last h)
  obtain ⟨p, hp⟩ := Option.isSome_iff_exists.mp hsome
  have hback := readsBack_of_pointOn? hp
  rw [← Nat.mul_assoc] at hback
  simp only [shortest, hp, Option.getD_some, Decimal.parts]
  exact hback

end Lox.Double

namespace Lox.Decimal
open Double

theorem isAbove_of_readsBack {d : Decimal} (hpos : 0 < code)
    (h : readsBack code d.parts (d.digits * one) = true) :
    d.isAbove code = false ∧ d.isAbove (code - 1) = true := by
  rw [← Bool.not_eq_false, isAbove_eq_false_iff, isAbove_eq_false_iff]
  unfold readsBack at h
  dsimp only at h
  split at h
  · next heven =>
    simp only [Bool.and_eq_true, decide_eq_true_eq, beq_iff_eq] at h heven
    omega
  · simp only [Bool.and_eq_true, decide_eq_true_eq] at h
    omega

/-- What lies between the midpoints about a double is read as that double. -/
theorem nearestCode_of_readsBack {d : Decimal} (hpos : 0 < code) (hlast : code < infinity)
    (h : readsBack code d.parts (d.digits * one) = true) : d.nearestCode = code := by
  obtain ⟨hstop, hgo⟩ := isAbove_of_readsBack hpos h
  obtain ⟨hfound, hbefore⟩ := d.nearestCode_spec
  rcases Nat.lt_trichotomy d.nearestCode code with hlt | heq | hlt
  · -- The search would stop at the neighbour below too.
    have hlower : infinity ≤ code - 1 := by simpa [hgo] using stops_mono (Nat.le_sub_one_of_lt hlt) hfound
    omega
  · exact heq
  · have hnone := hbefore code hlt
    simp [hstop] at hnone

def whole (d : Decimal) : List Char := Nat.toDigits 10 (d.digits / d.parts)

/-- The digits behind the point, with the zeros that it takes to fill the places. -/
def fraction (d : Decimal) : List Char :=
  if d.places = 0 then []
  else
    let digits := Nat.toDigits 10 (d.digits % d.parts)
    List.replicate (d.places - digits.length) '0' ++ digits

theorem digits_whole (d : Decimal) : Lexis.Digits d.whole :=
  ⟨Nat.toDigits_ne_nil, fun _ hc => Nat.isDigit_of_mem_toDigits (by decide) (by decide) hc⟩

theorem isDigit_of_mem_fraction {d : Decimal} (h : c ∈ d.fraction) : c.isDigit = true := by
  unfold fraction at h
  split at h
  · cases h
  · rcases List.mem_append.mp h with h | h
    · rw [List.eq_of_mem_replicate h]
      rfl
    · exact Nat.isDigit_of_mem_toDigits (by decide) (by decide) h

theorem length_fraction (d : Decimal) : d.fraction.length = d.places := by
  unfold fraction
  split
  · next hz => rw [hz, List.length_nil]
  · next hz =>
    have hfits : (Nat.toDigits 10 (d.digits % d.parts)).length ≤ d.places :=
      (Nat.length_toDigits_le_iff (by decide) (Nat.pos_of_ne_zero hz)).mpr (Nat.mod_lt _ d.parts_pos)
    rw [List.length_append, List.length_replicate]
    omega

theorem toList_text (d : Decimal) : d.text.toList = (Piece.number d.whole d.fraction).chars := by
  unfold text
  split
  · next hz =>
    have hparts : d.parts = 1 := by
      rw [parts, hz]
    simp only [whole, fraction, hz, reduceIte, Piece.chars, hparts, Nat.div_one, Nat.toList_repr]
  · next hz =>
    have hsome : d.fraction ≠ [] := by
      rw [← List.length_pos_iff, length_fraction]
      exact Nat.pos_of_ne_zero hz
    obtain ⟨f, fs, hf⟩ := List.exists_cons_of_ne_nil hsome
    have hchars : (Piece.number d.whole d.fraction).chars = d.whole ++ '.' :: d.fraction := by
      rw [hf]
      rfl
    rw [hchars]
    simp [whole, fraction, hz, Nat.toList_repr, String.length]

/-- The digits in the text are those of the decimal. -/
theorem ofDigits_text (d : Decimal) : ofDigits d.whole d.fraction = d := by
  have hfraction : Nat.ofDigitChars 10 d.fraction 0 = d.digits % d.parts := by
    unfold fraction
    split
    · next hz =>
      have hparts : d.parts = 1 := by
        rw [parts, hz]
      rw [hparts, Nat.mod_one, Nat.ofDigitChars_nil]
    · rw [Nat.ofDigitChars_append, Nat.ofDigitChars_replicate_zero, Nat.mul_zero, Nat.ofDigitChars_ten_toDigits]
  have hdigits : Nat.ofDigitChars 10 (d.whole ++ d.fraction) 0 = d.digits := by
    rw [Nat.ofDigitChars_append, Nat.ofDigitChars_eq_ofDigitChars_zero, hfraction, length_fraction, whole,
      Nat.ofDigitChars_ten_toDigits]
    exact Nat.div_add_mod d.digits d.parts
  rw [ofDigits, hdigits, length_fraction]

end Lox.Decimal

namespace Lox.Double

/-- A magnitude is written as a number, and that is read as the same magnitude. -/
theorem exists_numeral (h : code < infinity) : ∃ whole fraction, Lexis.Digits whole ∧
    (∀ d ∈ fraction, d.isDigit = true) ∧ (magnitudeText code).toList = (Piece.number whole fraction).chars ∧
    (Decimal.ofDigits whole fraction).nearestCode = code := by
  unfold magnitudeText
  split
  · next hz =>
    subst hz
    refine ⟨['0'], [], ⟨List.cons_ne_nil _ _, List.forall_mem_singleton.mpr rfl⟩, nofun, rfl, by decide +kernel⟩
  · next hz =>
    have hpos := Nat.pos_of_ne_zero hz
    refine ⟨(shortest code).whole, (shortest code).fraction, (shortest code).digits_whole,
      fun d hd => Decimal.isDigit_of_mem_fraction hd, (shortest code).toList_text, ?_⟩
    rw [Decimal.ofDigits_text]
    exact Decimal.nearestCode_of_readsBack hpos h (readsBack_shortest hpos)

theorem toNat_toBits_toDouble (d : Decimal) : d.toDouble.toBits.toNat = d.nearestCode := by
  have hcode := d.isNearest_nearestCode.le_infinity
  have hlast : infinity < UInt64.size ∧ infinity < signBit := by decide
  have hbits : d.nearestCode.toUInt64.toNat = d.nearestCode := UInt64.toNat_ofNat_of_lt' (by omega)
  rw [Decimal.toDouble, toBits_ofBits, hbits]
  rw [hbits, Nat.mod_eq_of_lt (by omega)]
  exact hcode

/-- What is written of a finite double is read as that double. -/
theorem exists_written {x : Float} (h : x.isFinite = true) : ∃ whole fraction, Lexis.Digits whole ∧
    (∀ d ∈ fraction, d.isDigit = true) ∧
    ((text x).toList = (Piece.number whole fraction).chars ∧ (Decimal.ofDigits whole fraction).toDouble = x ∨
      (text x).toList = '-' :: (Piece.number whole fraction).chars ∧
        -(Decimal.ofDigits whole fraction).toDouble = x) := by
  rw [isFinite_iff] at h
  obtain ⟨whole, fraction, hw, hf, htext, hcode⟩ := exists_numeral h
  have hbits := toNat_toBits_toDouble (Decimal.ofDigits whole fraction)
  rw [hcode] at hbits
  refine ⟨whole, fraction, hw, hf, ?_⟩
  unfold text
  rw [if_neg (Nat.not_lt_of_gt h)]
  split
  · next hsign =>
    rw [Nat.mod_eq_of_lt hsign] at htext hbits ⊢
    exact .inl ⟨htext, Float.toBits_inj.mp (UInt64.toNat_inj.mp hbits)⟩
  · next hsign =>
    have hminus : ("-" ++ magnitudeText (x.toBits.toNat % signBit)).toList =
        '-' :: (Piece.number whole fraction).chars := by
      rw [String.toList_append, htext]
      rfl
    have hbound : x.toBits.toNat < 2 ^ 64 := x.toBits.toNat_lt
    have htwice : 2 ^ 64 = signBit + signBit := rfl
    refine .inr ⟨hminus, Float.toBits_inj.mp (UInt64.toNat_inj.mp ?_)⟩
    rw [toNat_toBits_neg (hbits ▸ Nat.le_of_lt h), hbits]
    unfold signBit at *
    omega

end Lox.Double
