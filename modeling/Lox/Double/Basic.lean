namespace Lox.Double

def topBit : Nat := 0x10000000000000

/-- A code grows with its double, so both directions between doubles and decimals are searches over an ordered set. The
codes below this one are the finite doubles without a sign, in order from zero. -/
def infinity : Nat := 2047 * topBit

def one : Nat := 1 <<< 1075

def significand (code : Nat) : Nat :=
  if code < topBit then code else topBit + code % topBit

def scale (code : Nat) : Nat := code / topBit - 1

/-- Lengths are counted in halves of the least positive double: then every finite double and every midpoint between two
neighbours is a natural number. -/
def units (code : Nat) : Nat := (2 * significand code) <<< scale code

def midpoint (code : Nat) : Nat := (2 * significand code + 1) <<< scale code

/-- The first number from `base` on that satisfies a property which, once true, stays true;
of `2 ^ bits` numbers the last is not asked. -/
def firstFrom (base : Nat) (holds : Nat → Bool) : Nat → Nat
  | 0 => base
  | bits + 1 =>
    if holds (base + (1 <<< bits - 1)) then firstFrom base holds bits
    else firstFrom (base + 1 <<< bits) holds bits

/-- The search finds the first number with a property that stays true once it is true, wherever that lies in the range.
-/
theorem firstFrom_eq {holds : Nat → Bool} (up : ∀ m n, m ≤ n → holds m → holds n) (hn : holds n)
    (first : ∀ m, m < n → ¬holds m) (low : base ≤ n) (high : n < base + 1 <<< bits) :
    firstFrom base holds bits = n := by
  induction bits generalizing base with
  | zero =>
    have : base = n := by simp at high; omega
    exact this
  | succ bits ih =>
    have two : 1 <<< (bits + 1) = 2 * 1 <<< bits := by simp [Nat.shiftLeft_eq, Nat.pow_succ]; omega
    have pos : 0 < 1 <<< bits := Nat.one_shiftLeft bits ▸ Nat.two_pow_pos bits
    unfold firstFrom
    split
    · next reached =>
      refine ih low (Nat.lt_of_not_le fun beyond => first _ ?_ reached)
      omega
    · next reached =>
      refine ih (Nat.le_of_not_lt fun within => reached (up n _ ?_ hn)) ?_ <;> omega

example : firstFrom 0 (fun n => 10 ≤ n * n) 3 = 4 := by decide

example : firstFrom 0 (fun n => 1000 ≤ n) 3 = 7 := by decide

end Lox.Double

namespace Lox

/-- The number `digits / 10 ^ places`. -/
structure Decimal where
  digits : Nat
  places : Nat
deriving DecidableEq, Repr

namespace Decimal

def ofDigits (whole fraction : List Char) : Decimal :=
  ⟨Nat.ofDigitChars 10 (whole ++ fraction) 0, fraction.length⟩

def parts (d : Decimal) : Nat := Nat.pow 10 d.places

def text (d : Decimal) : String :=
  if d.places = 0 then d.digits.repr
  else
    let fraction := (d.digits % d.parts).repr
    (d.digits / d.parts).repr ++ "." ++
      String.ofList (List.replicate (d.places - fraction.length) '0') ++ fraction

/-- The decimal lies beyond the midpoint above this double, or on it where that is odd:
a tie goes to the even neighbour. -/
def isAbove (d : Decimal) (code : Nat) : Bool :=
  let exact := d.digits * Double.one
  let middle := Double.midpoint code * d.parts
  middle < exact || (middle == exact && code % 2 == 1)

/-- Code of the nearest double; from the midpoint above the last finite one on, infinity. -/
def nearestCode (d : Decimal) : Nat :=
  Double.firstFrom 0 (fun code => Double.infinity ≤ code || !d.isAbove code) 63

def toDouble (d : Decimal) : Float := Float.ofBits d.nearestCode.toUInt64

example : (ofDigits ['1', '2'] ['5', '0']).text = "12.50" := by decide
example : (ofDigits ['0'] ['0', '0', '7']).text = "0.007" := by decide
example : (ofDigits ['1'] []).toDouble.toBits = 0x3ff0000000000000 := by decide +kernel
example : (ofDigits ['0'] ['1']).toDouble.toBits = 0x3fb999999999999a := by decide +kernel

end Decimal

end Lox

namespace Lox.Double

/-- A magnitude in units that reads back as this double: it lies between the midpoints on either side,
which themselves go to the even neighbour. -/
def readsBack (code stretch magnitude : Nat) : Bool :=
  let low := midpoint (code - 1) * stretch
  let high := midpoint code * stretch
  if code % 2 == 0 then low ≤ magnitude && magnitude ≤ high
  else low < magnitude && magnitude < high

/-- Power of ten of the coarsest grid that can hold a finite double; grid `n` is `n` powers finer. -/
def coarsest : Nat := 308

/-- The point of grid `n` that reads back and is nearest to the double, the greater of two equally near.
Grids finer than whole numbers are stretched to them. -/
def pointOn? (code n : Nat) : Option Nat :=
  let stretch := Nat.pow 10 (n - coarsest)
  let step := Nat.pow 10 (coarsest - n) * one
  let exact := units code * stretch
  let below := exact / step
  let above := below + 1
  match readsBack code stretch (below * step), readsBack code stretch (above * step) with
  | true, true => some (if exact - below * step < above * step - exact then below else above)
  | true, false => some below
  | false, true => some above
  | false, false => none

def shortest (code : Nat) : Decimal :=
  let n := firstFrom 0 (fun n => (pointOn? code n).isSome) 10
  ⟨(pointOn? code n).getD 0 * Nat.pow 10 (coarsest - n), n - coarsest⟩

def magnitudeText (code : Nat) : String :=
  if code = 0 then "0"
  else if code < infinity then (shortest code).text
  else "inf"

def signBit : Nat := 0x8000000000000000

def text (x : Float) : String :=
  let bits := x.toBits.toNat
  let code := bits % signBit
  if infinity < code then "NaN"
  else if bits < signBit then magnitudeText code
  else "-" ++ magnitudeText code

example : text (Float.ofBits 0x3fb999999999999a) = "0.1" := by decide +kernel

example : text (Float.ofBits 0x4340000000000001) = "9007199254740994" := by decide +kernel

example : text (Float.ofBits 0x8000000000000000) = "-0" := by decide +kernel

end Lox.Double
