import Mathlib
import Lox.Double.Basic
namespace Lox.Double
open Float.Model Float.Model.UnpackedFloat

theorem toNat_append_eq (u : BitVec m) (v : BitVec n) : (u ++ v).toNat = u.toNat * 2 ^ n + v.toNat := by
  rw [BitVec.toNat_append, ← Nat.shiftLeft_add_eq_or_of_lt v.isLt, Nat.shiftLeft_eq]

def signWeight : Sign → Nat
  | .positive => 0
  | .negative => signBit

/-- The code that exponent and fraction make, which is that of the double without its sign. -/
def unsigned (e : BitVec 11) (f : BitVec 52) : Nat := e.toNat * topBit + f.toNat

theorem unsigned_lt (e : BitVec 11) (f : BitVec 52) : unsigned e f < signBit := by
  have := e.isLt
  have := f.isLt
  unfold unsigned topBit signBit
  omega

theorem toNat_packComponents (s : Sign) (e : BitVec 11) (f : BitVec 52) :
    (packComponents .binary64 s e f).toNat = signWeight s + unsigned e f := by
  have hsign : s.toBitVec.toNat * 2 ^ 11 * 2 ^ 52 = signWeight s := by cases s <;> rfl
  have htop : 2 ^ 52 = topBit := rfl
  rw [packComponents, toNat_append_eq, toNat_append_eq, Nat.add_mul, ← hsign, unsigned]
  simp only [htop]
  omega

theorem exists_components (b : BitVec Format.binary64.numBits) : ∃ s e f, b = packComponents .binary64 s e f :=
  ⟨_, _, _, (packComponents_unpackSign_unpackExponent_unpackMantissa b).symm⟩

/-- Any bits are those of a sign, an exponent and a fraction. -/
theorem exists_fields (b : UInt64) : ∃ s e f, b.toBitVec = packComponents .binary64 s e f ∧
    b.toNat = signWeight s + unsigned e f ∧ b.toNat % signBit = unsigned e f := by
  obtain ⟨s, e, f, hb⟩ := exists_components b.toBitVec
  have hsum : b.toNat = signWeight s + unsigned e f := by
    rw [← toNat_packComponents, ← hb]
    rfl
  refine ⟨s, e, f, hb, hsum, ?_⟩
  have hlt := unsigned_lt e f
  rw [hsum]
  cases s with
  | positive => rw [signWeight, Nat.zero_add, Nat.mod_eq_of_lt hlt]
  | negative => rw [signWeight, Nat.add_mod_left, Nat.mod_eq_of_lt hlt]

theorem ofBitVec_unpackSign (s : Sign) (e : BitVec 11) (f : BitVec 52) :
    Sign.ofBitVec (unpackSign (packComponents .binary64 s e f)) = s := by
  rw [unpackSign_packComponents, Sign.ofBitVec_toBitVec]

def MarksNaN (e : BitVec 11) (f : BitVec 52) : Prop := e = -1#11 ∧ f ≠ 0#52

theorem isNaNBits_packComponents (s : Sign) (e : BitVec 11) (f : BitVec 52) :
    isNaNBits (packComponents .binary64 s e f) = true ↔ MarksNaN e f := by
  rw [isNaNBits, unpackExponent_packComponents, unpackMantissa_packComponents, decide_eq_true_iff]
  rfl

/-- What is beyond the code of infinity is no number. -/
theorem marksNaN_iff {e : BitVec 11} {f : BitVec 52} : MarksNaN e f ↔ infinity < unsigned e f := by
  have he : e = -1#11 ↔ e.toNat = 2047 := BitVec.toNat_inj.symm
  have hf : f = 0#52 ↔ f.toNat = 0 := BitVec.toNat_inj.symm
  have := e.isLt
  have := f.isLt
  rw [MarksNaN, ne_eq, he, hf]
  unfold unsigned infinity topBit
  omega

theorem unsigned_lt_infinity_iff {e : BitVec 11} {f : BitVec 52} : unsigned e f < infinity ↔ e ≠ -1#11 := by
  have he : e = -1#11 ↔ e.toNat = 2047 := BitVec.toNat_inj.symm
  have := e.isLt
  have := f.isLt
  rw [ne_eq, he]
  unfold unsigned infinity topBit
  omega

theorem neg_unpack (s : Sign) (e : BitVec 11) (f : BitVec 52) :
    (UnpackedFloat.unpack .binary64 (packComponents .binary64 s e f)).neg =
      UnpackedFloat.unpack .binary64 (packComponents .binary64 (-s) e f) := by
  unfold UnpackedFloat.unpack
  simp only [unpackExponent_packComponents, unpackMantissa_packComponents, ofBitVec_unpackSign]
  split
  · split <;> rfl
  split
  · split <;> rfl
  · rfl

theorem isFinite_unpack (s : Sign) (e : BitVec 11) (f : BitVec 52) :
    (UnpackedFloat.unpack .binary64 (packComponents .binary64 s e f)).isFinite = true ↔ e ≠ -1#11 := by
  unfold UnpackedFloat.unpack
  simp only [unpackExponent_packComponents, unpackMantissa_packComponents]
  split
  · next h => split <;> exact iff_of_false Bool.false_ne_true (absurd h)
  · next h =>
    split
    · split <;> exact iff_of_true rfl h
    · exact iff_of_true rfl h

/-- Nothing is lost of bits that do not mark a double as no number. -/
theorem pack_unpack_packComponents (s : Sign) (h : ¬MarksNaN e f) :
    UnpackedFloat.pack .binary64 (UnpackedFloat.unpack .binary64 (packComponents .binary64 s e f)) =
      packComponents .binary64 s e f := by
  rw [pack_unpack, if_neg (by rwa [isNaNBits_packComponents])]

theorem unpack_ne_notANumber (s : Sign) (h : ¬MarksNaN e f) :
    UnpackedFloat.unpack .binary64 (packComponents .binary64 s e f) ≠ .notANumber := by
  intro hunpack
  have hmarks : isNaNBits (packedNaN .binary64) = true := isNaNBits_packedNaN
  have hpack : packedNaN .binary64 = packComponents .binary64 s e f := by
    rw [← pack_unpack_packComponents s h, hunpack]
    rfl
  rw [hpack, isNaNBits_packComponents] at hmarks
  exact h hmarks

/-- Bits that do not mark a double as no number are kept. -/
theorem toBits_ofBits {b : UInt64} (h : b.toNat % signBit ≤ infinity) : (Float.ofBits b).toBits = b := by
  obtain ⟨s, e, f, hb, -, hcode⟩ := exists_fields b
  have hn : ¬MarksNaN e f := by
    rw [marksNaN_iff, ← hcode]
    exact Nat.not_lt_of_le h
  change UInt64.ofBitVec (UnpackedFloat.pack .binary64 (UnpackedFloat.unpack .binary64 b.toBitVec)) = b
  rw [hb, pack_unpack_packComponents s hn, ← hb]

/-- A minus sets the sign and nothing else. -/
theorem toNat_toBits_neg {x : Float} (h : x.toBits.toNat ≤ infinity) :
    (-x).toBits.toNat = signBit + x.toBits.toNat := by
  obtain ⟨s, e, f, hb, hsum, -⟩ := exists_fields x.toBits
  have hn : ¬MarksNaN e f := by
    rw [marksNaN_iff]
    omega
  have hinfinity : infinity < signBit := by decide
  cases s with
  | negative =>
    rw [signWeight] at hsum
    omega
  | positive =>
    change (UnpackedFloat.pack .binary64 (UnpackedFloat.unpack .binary64 x.toBits.toBitVec).neg).toNat = _
    rw [hb, neg_unpack, pack_unpack_packComponents _ hn, toNat_packComponents, hsum, signWeight, Nat.zero_add]
    rfl

/-- Doubles of either sign are finite below the code of infinity. -/
theorem isFinite_iff {x : Float} : x.isFinite = true ↔ x.toBits.toNat % signBit < infinity := by
  obtain ⟨s, e, f, hb, -, hcode⟩ := exists_fields x.toBits
  change (UnpackedFloat.unpack .binary64 x.toBits.toBitVec).isFinite = true ↔ _
  rw [hb, isFinite_unpack, hcode, unsigned_lt_infinity_iff]

/-- A double that is a number equals itself. -/
theorem beq_self {x : Float} (h : x.toBits.toNat % signBit ≤ infinity) : (x == x) = true := by
  obtain ⟨s, e, f, hb, -, hcode⟩ := exists_fields x.toBits
  have hn : ¬MarksNaN e f := by
    rw [marksNaN_iff, ← hcode]
    exact Nat.not_lt_of_le h
  have hne := unpack_ne_notANumber s hn
  rw [← hb] at hne
  exact (beq_iff_ne_notANumber_and_eq _ _).mpr ⟨hne, hne, .inl rfl⟩

end Lox.Double
