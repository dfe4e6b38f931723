import Mathlib.Data.Nat.Find
import Lox.Double.Basic
namespace Lox.Double

theorem units_of_lt (h : code < topBit) : units code = 2 * code := by
  rw [units, significand, if_pos h, scale, Nat.div_eq_of_lt h]
  rfl

theorem units_of_le (h : topBit ≤ code) :
    units code = (2 * (topBit + code % topBit)) <<< (code / topBit - 1) := by
  rw [units, significand, if_neg (Nat.not_lt_of_le h), scale]

/-- Neighbours are two steps of the finer one's scale apart, also where the next binade begins. -/
theorem units_succ (code : Nat) : units (code + 1) = units code + 2 <<< scale code := by
  unfold scale
  by_cases h : code < topBit
  · rw [units_of_lt h, Nat.div_eq_of_lt h, Nat.zero_sub, Nat.shiftLeft_zero]
    by_cases hs : code + 1 < topBit
    · rw [units_of_lt hs]
      omega
    · have hfirst : code + 1 = topBit := by omega
      rw [hfirst, units_of_le (Nat.le_refl _), Nat.mod_self, Nat.div_self (by decide)]
      simp only [Nat.sub_self, Nat.shiftLeft_zero]
      omega
  · have hle : topBit ≤ code := Nat.le_of_not_lt h
    rw [units_of_le hle, units_of_le (Nat.le_succ_of_le hle)]
    obtain ⟨k, hk⟩ : ∃ k, code / topBit = k + 1 :=
      Nat.exists_eq_succ_of_ne_zero (Nat.ne_of_gt (Nat.div_pos hle (by decide)))
    by_cases hr : code % topBit + 1 < topBit
    · have hq : (code + 1) / topBit = k + 1 ∧ (code + 1) % topBit = code % topBit + 1 := by
        unfold topBit at *
        omega
      rw [hq.1, hq.2, hk, Nat.add_sub_cancel, Nat.shiftLeft_eq, Nat.shiftLeft_eq, Nat.shiftLeft_eq,
        ← Nat.add_mul]
      rfl
    · have hq : (code + 1) / topBit = k + 2 ∧ (code + 1) % topBit = 0 ∧ code % topBit + 1 = topBit := by
        unfold topBit at *
        omega
      rw [hq.1, hq.2.1, hk, Nat.add_sub_cancel, Nat.shiftLeft_eq, Nat.shiftLeft_eq, Nat.shiftLeft_eq,
        ← Nat.add_mul, show k + 2 - 1 = k + 1 from rfl, Nat.pow_succ, Nat.mul_comm _ 2, ← Nat.mul_assoc]
      congr 1
      omega

/-- A midpoint is as far from the one neighbour as from the other. -/
theorem two_mul_midpoint (code : Nat) : 2 * midpoint code = units code + units (code + 1) := by
  rw [units_succ, midpoint, units, Nat.shiftLeft_eq, Nat.shiftLeft_eq, Nat.shiftLeft_eq, ← Nat.add_mul,
    ← Nat.add_mul, ← Nat.mul_assoc]
  congr 1
  omega

/-- Codes stand in the order of their doubles. -/
theorem units_lt_units (h : m < n) : units m < units n := by
  induction h with
  | refl =>
    rw [units_succ, Nat.shiftLeft_eq]
    exact Nat.lt_add_of_pos_right (Nat.mul_pos (by decide) (Nat.two_pow_pos _))
  | step _ ih =>
    rw [units_succ]
    exact Nat.lt_of_lt_of_le ih (Nat.le_add_right _ _)

theorem units_le_units (h : m ≤ n) : units m ≤ units n := by
  rcases Nat.eq_or_lt_of_le h with rfl | h
  · exact Nat.le_refl _
  · exact Nat.le_of_lt (units_lt_units h)

theorem midpoint_lt_midpoint (h : m < n) : midpoint m < midpoint n := by
  have hlow := units_lt_units h
  have hhigh := units_lt_units (Nat.add_lt_add_right h 1)
  have hm := two_mul_midpoint m
  have hn := two_mul_midpoint n
  omega

end Lox.Double

namespace Lox.Decimal
open Double

theorem parts_pos (d : Decimal) : 0 < d.parts := Nat.pow_pos (by decide)

def distance (d : Decimal) (code : Nat) : Nat :=
  (units code * d.parts - d.digits * one) + (d.digits * one - units code * d.parts)

/-- No double is nearer to the decimal, and another one as near would be odd. Infinity stands where the next
double after the finite ones would be. -/
structure IsNearest (d : Decimal) (code : Nat) : Prop where
  le_infinity : code ≤ infinity
  nearest : ∀ other, other ≤ infinity → d.distance code ≤ d.distance other
  even : ∀ other, other ≤ infinity → other ≠ code → d.distance other = d.distance code → code % 2 = 0

theorem IsNearest.not_lt (hm : IsNearest d m) (hn : IsNearest d n) : ¬m < n := by
  intro hlt
  have hpos := d.parts_pos
  have hfirst := Nat.mul_lt_mul_of_pos_right (units_lt_units m.lt_add_one) hpos
  have hequal := Nat.le_antisymm (hm.nearest n hn.le_infinity) (hn.nearest m hm.le_infinity)
  have heven := hm.even n hn.le_infinity (Nat.ne_of_gt hlt) hequal.symm
  have heven' := hn.even m hm.le_infinity (Nat.ne_of_lt hlt) hequal
  have hlast : m + 1 < n := by omega
  -- Two that are equally near have nothing between them.
  have hbetween := hm.nearest (m + 1) (Nat.le_trans (Nat.le_of_lt hlast) hn.le_infinity)
  have hsecond := Nat.mul_lt_mul_of_pos_right (units_lt_units hlast) hpos
  unfold distance at hequal hbetween
  omega

/-- Of two equally near doubles one is odd, so no two of them are nearest. -/
theorem IsNearest.unique (hm : IsNearest d m) (hn : IsNearest d n) : m = n :=
  Nat.le_antisymm (Nat.le_of_not_lt (hn.not_lt hm)) (Nat.le_of_not_lt (hm.not_lt hn))

theorem isAbove_eq_false_iff {d : Decimal} {code : Nat} : d.isAbove code = false ↔
    d.digits * one < midpoint code * d.parts ∨ d.digits * one = midpoint code * d.parts ∧ code % 2 = 0 := by
  simp only [isAbove, Bool.or_eq_false_iff, Bool.and_eq_false_iff, decide_eq_false_iff_not, beq_eq_false_iff_ne]
  omega

/-- The codes at which the search may stop go on without a gap. -/
theorem stops_mono {d : Decimal} (h : m ≤ n) (hs : (infinity ≤ m || !d.isAbove m) = true) :
    (infinity ≤ n || !d.isAbove n) = true := by
  simp only [Bool.or_eq_true, decide_eq_true_eq, Bool.not_eq_true', isAbove_eq_false_iff] at hs ⊢
  rcases Nat.eq_or_lt_of_le h with rfl | h
  · exact hs
  · have := Nat.mul_lt_mul_of_pos_right (midpoint_lt_midpoint h) d.parts_pos
    omega

/-- The search stops at the first code that has the decimal below the midpoint above it. -/
theorem nearestCode_spec (d : Decimal) : (infinity ≤ d.nearestCode || !d.isAbove d.nearestCode) = true ∧
    ∀ m, m < d.nearestCode → (infinity ≤ m || !d.isAbove m) = false := by
  have hsome : ∃ n, (infinity ≤ n || !d.isAbove n) = true := ⟨infinity, by simp⟩
  have hbound : Nat.find hsome < 0 + 1 <<< 63 :=
    Nat.lt_of_le_of_lt (Nat.find_min' hsome (by simp : _ = true)) (by decide : infinity < _)
  have hfirst := firstFrom_eq (fun m n h hs => stops_mono (d := d) h hs) (Nat.find_spec hsome)
    (fun m hm => Nat.find_min hsome hm) (Nat.zero_le _) hbound
  rw [nearestCode, hfirst]
  exact ⟨Nat.find_spec hsome, fun m hm => Bool.eq_false_iff.mpr (Nat.find_min hsome hm)⟩

/-- Where the search stops, the decimal is no nearer to any double above. -/
theorem halfway_above {d : Decimal} (hstop : (infinity ≤ code || !d.isAbove code) = true) (h : code < other)
    (hother : other ≤ infinity) :
    2 * (d.digits * one) < units code * d.parts + units other * d.parts ∨
      2 * (d.digits * one) = units code * d.parts + units other * d.parts ∧ code % 2 = 0 := by
  have hhalf : 2 * (midpoint code * d.parts) = units code * d.parts + units (code + 1) * d.parts := by
    rw [← Nat.mul_assoc, two_mul_midpoint, Nat.add_mul]
  have hnext : units (code + 1) * d.parts ≤ units other * d.parts :=
    Nat.mul_le_mul_right _ (units_le_units h)
  simp only [Bool.or_eq_true, decide_eq_true_eq, Bool.not_eq_true', isAbove_eq_false_iff] at hstop
  omega

/-- Where the search has gone on, the decimal is no nearer to any double below. -/
theorem halfway_below {d : Decimal} (hgo : ∀ m, m < code → (infinity ≤ m || !d.isAbove m) = false)
    (h : other < code) :
    units other * d.parts + units code * d.parts < 2 * (d.digits * one) ∨
      units other * d.parts + units code * d.parts = 2 * (d.digits * one) ∧ code % 2 = 0 := by
  cases code with
  | zero => cases h
  | succ last =>
    have hhalf : 2 * (midpoint last * d.parts) = units last * d.parts + units (last + 1) * d.parts := by
      rw [← Nat.mul_assoc, two_mul_midpoint, Nat.add_mul]
    have hnext := Nat.mul_le_mul_right d.parts (units_le_units (Nat.le_of_lt_succ h))
    have hlast := hgo last last.lt_add_one
    simp only [Bool.or_eq_false_iff, Bool.not_eq_false', decide_eq_false_iff_not] at hlast
    have habove : ¬d.isAbove last = false := by simp [hlast.2]
    rw [isAbove_eq_false_iff] at habove
    omega

/-- The double that a decimal is read as is the nearest. -/
theorem isNearest_nearestCode (d : Decimal) : IsNearest d d.nearestCode := by
  obtain ⟨hstop, hgo⟩ := d.nearestCode_spec
  generalize d.nearestCode = code at hstop hgo
  have hpos := d.parts_pos
  refine ⟨Nat.le_of_not_lt fun h => ?_, fun other ho => ?_, fun other ho hne heq => ?_⟩
  · simpa using hgo infinity h
  · unfold distance
    rcases Nat.lt_trichotomy other code with hlt | rfl | hlt
    · have := halfway_below hgo hlt
      have := Nat.mul_lt_mul_of_pos_right (units_lt_units hlt) hpos
      omega
    · exact Nat.le_refl _
    · have := halfway_above hstop hlt ho
      have := Nat.mul_lt_mul_of_pos_right (units_lt_units hlt) hpos
      omega
  · unfold distance at heq
    rcases Nat.lt_or_gt_of_ne hne with hlt | hlt
    · have := halfway_below hgo hlt
      have := Nat.mul_lt_mul_of_pos_right (units_lt_units hlt) hpos
      omega
    · have := halfway_above hstop hlt ho
      have := Nat.mul_lt_mul_of_pos_right (units_lt_units hlt) hpos
      omega

end Lox.Decimal
