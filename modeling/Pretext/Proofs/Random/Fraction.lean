import Mathlib
import Pretext.Random.Draw

/-! Fractions are not below zero. All that counts for this is the sign of a number, which is kept when
it is rounded, packed and unpacked again. -/
namespace Pretext

open Float.Model Float.Model.UnpackedFloat

/-- A number of positive sign, or none at all. -/
def Unsigned : UnpackedFloat → Prop
  | .infinity sign => sign = .positive
  | .notANumber => True
  | .zero sign => sign = .positive
  | .finite sign _ _ _ => sign = .positive

namespace Unsigned

variable {spec : Format} {number : UnpackedFloat}

theorem unpack_of_sign {bits : BitVec spec.numBits}
    (h : Sign.ofBitVec (unpackSign bits) = .positive) :
    Unsigned (UnpackedFloat.unpack spec bits) := by
  simp only [UnpackedFloat.unpack]
  split
  · split
    · exact h
    · trivial
  · split
    · split
      · exact h
      · exact h
    · exact h

theorem unpack_pack (h : Unsigned number) :
    Unsigned (UnpackedFloat.unpack spec (UnpackedFloat.pack spec number)) := by
  apply unpack_of_sign
  cases number with
  | notANumber => simp [UnpackedFloat.pack, packedNaN]
  | infinity sign => simpa [UnpackedFloat.pack, packedInfinity, Unsigned] using h
  | zero sign => simpa [UnpackedFloat.pack, packedZero, Unsigned] using h
  | finite sign mantissa exponent _ =>
      have hSign : sign = .positive := h
      simp only [UnpackedFloat.pack, hSign]
      split
      · simp [packedInfinity]
      · split <;> simp

theorem round (spec : Format) (mantissa : Nat) (exponent : Int) (accuracy : Accuracy) :
    Unsigned (roundWithAccuracy spec .positive mantissa exponent accuracy) := by
  simp only [roundWithAccuracy]
  split <;> rfl

theorem ofNat (spec : Format) (number : Nat) : Unsigned (UnpackedFloat.ofNat spec number) := by
  simp only [UnpackedFloat.ofNat, UnpackedFloat.ofInt, UnpackedFloat.normalize]
  split
  · rename_i hLt
    rw [Std.compare_eq_lt] at hLt
    omega
  · rfl
  · exact round ..

/-- A quotient has the sign of its dividend if the divisor is positive. -/
theorem div_finite (h : Unsigned number) (mantissa : Nat) (exponent : Int) (hPos : 0 < mantissa) :
    Unsigned (UnpackedFloat.div spec number (.finite .positive mantissa exponent hPos)) := by
  cases number with
  | notANumber => trivial
  | infinity sign =>
      obtain rfl : sign = .positive := h
      rfl
  | zero sign =>
      obtain rfl : sign = .positive := h
      rfl
  | finite sign _ _ _ =>
      obtain rfl : sign = .positive := h
      exact round ..

/-- What is not negative is not below zero, be that positive or negative zero. -/
theorem not_lt_zero (h : Unsigned number) (sign : Sign) : number.lt (.zero sign) = false := by
  cases number with
  | notANumber => rfl
  | infinity own =>
      obtain rfl : own = .positive := h
      rfl
  | zero own => rfl
  | finite own _ _ _ =>
      obtain rfl : own = .positive := h
      rfl

end Unsigned

/-- A double that equals zero is one of the two zeros. -/
theorem unpack_of_beq_zero {number : Float} (h : (number == 0) = true) :
    ∃ sign, number.toModel.unpack = .zero sign := by
  rcases Float.beq_iff_ne_nan_and_eq.mp h with ⟨-, -, rfl | ⟨rfl, -⟩ | ⟨rfl, -⟩⟩
  · exact ⟨.positive, rfl⟩
  · exact ⟨.positive, rfl⟩
  · exact ⟨.negative, rfl⟩

namespace Generator

/-- A fraction that is drawn is not negative. -/
theorem unsigned_unit (g : Generator) : Unsigned g.unit.1.toModel.unpack := by
  have hDivisor : (9007199254740992 : Float).toModel.unpack =
      .finite .positive 4503599627370496 1 (by decide) := rfl
  apply Unsigned.unpack_pack
  rw [hDivisor]
  apply Unsigned.div_finite
  exact Unsigned.unpack_pack (Unsigned.ofNat ..)

/-- Nothing drawn is below zero, be it positive or negative. -/
theorem not_unit_lt_of_beq_zero {rate : Float} (h : (rate == 0) = true) (g : Generator) :
    ¬ g.unit.1 < rate := by
  obtain ⟨sign, hRate⟩ := unpack_of_beq_zero h
  have hNot := g.unsigned_unit.not_lt_zero sign
  rw [← hRate] at hNot
  show ¬ (decide (g.unit.1.toModel.unpack.lt rate.toModel.unpack = true) = true)
  simp [hNot]

end Generator

end Pretext
