import Mathlib.Algebra.Order.Ring.Int

/-!
# Conversions between machine integers

A conversion of C keeps the low bits of a value.  The lemmas say what it does to the value
itself, and when a value survives a conversion to a narrower type and back.
-/

namespace Conversions

/-- An unsigned value below `2 ^ 31` is the same as a signed one. -/
theorem toInt_toInt32 {x : UInt32} (h : x.toNat < 2 ^ 31) : x.toInt32.toInt = x.toNat := by
  have hint : x.toInt32.toInt = x.toBitVec.toInt := rfl
  have hsmall : 2 * x.toBitVec.toNat < 2 ^ 32 := by
    rw [UInt32.toNat_toBitVec]
    omega
  rw [hint, BitVec.toInt_eq_toNat_of_lt hsmall, UInt32.toNat_toBitVec]

theorem toInt_uint16 (x : UInt16) : x.toUInt32.toInt32.toInt = x.toNat := by
  have hlt := x.toNat_lt
  rw [toInt_toInt32 (by rw [UInt16.toNat_toUInt32]; omega), UInt16.toNat_toUInt32]

theorem toInt_uint8 (x : UInt8) : x.toUInt32.toInt32.toInt = x.toNat := by
  have hlt := x.toNat_lt
  rw [toInt_toInt32 (by rw [UInt8.toNat_toUInt32]; omega), UInt8.toNat_toUInt32]

theorem toNat_uint16 (x : Int32) : (x.toInt16.toUInt16.toNat : Int) = x.toInt % 2 ^ 16 := by
  have hbits : x.toInt16.toUInt16.toNat = (BitVec.ofInt 16 x.toInt).toNat := rfl
  rw [hbits, BitVec.toNat_ofInt]
  omega

theorem toNat_uint8 (x : Int32) : (x.toInt8.toUInt8.toNat : Int) = x.toInt % 2 ^ 8 := by
  have hbits : x.toInt8.toUInt8.toNat = (BitVec.ofInt 8 x.toInt).toNat := rfl
  rw [hbits, BitVec.toNat_ofInt]
  omega

/-! ## There and back -/

theorem through_uint16 (x : Int32) :
    x.toInt16.toUInt16.toUInt32.toInt32 = x ↔ 0 ≤ x.toInt ∧ x.toInt < 2 ^ 16 := by
  rw [← Int32.toInt_inj, toInt_uint16, toNat_uint16]
  omega

theorem through_uint8 (x : Int32) :
    x.toInt8.toUInt8.toUInt32.toInt32 = x ↔ 0 ≤ x.toInt ∧ x.toInt < 2 ^ 8 := by
  rw [← Int32.toInt_inj, toInt_uint8, toNat_uint8]
  omega

theorem through_int16 (x : Int32) :
    x.toInt16.toInt32 = x ↔ -2 ^ 15 ≤ x.toInt ∧ x.toInt < 2 ^ 15 := by
  rw [← Int32.toInt_inj, Int16.toInt_toInt32, Int32.toInt_toInt16, Int.bmod_eq_iff (by decide)]
  omega

end Conversions
