import Mathlib.Data.Int.Basic
import Mathlib.Algebra.Order.Ring.Int

/-!
# Integer types

An integer type has a width and is signed or not.  Its values are the integers of its range, in
two's complement.  A conversion to a type takes a value of the range to itself (`convert_of_holds`)
and depends on the residue of the value only (`convert_eq`).

An operator that combines two types converts both operands to a common type first
(`common`).  It is wide enough for the values of any type that is combined with `int`, so a
comparison with a literal compares the values (`holds_common_int`).
-/

/-- An integer type. -/
structure IntType where
  bits : Nat
  bits_pos : 0 < bits
  signed : Bool
deriving DecidableEq

namespace IntType

/-! ## Ranges -/

/-- The smallest value. -/
def min (t : IntType) : Int := if t.signed then -2 ^ (t.bits - 1) else 0

/-- The largest value. -/
def max (t : IntType) : Int := if t.signed then 2 ^ (t.bits - 1) - 1 else 2 ^ t.bits - 1

/-- The type can represent the value. -/
def Holds (t : IntType) (x : Int) : Prop := t.min ≤ x ∧ x ≤ t.max

instance (t : IntType) (x : Int) : Decidable (t.Holds x) := inferInstanceAs (Decidable (_ ∧ _))

/-- The values of a type. -/
structure Value (t : IntType) where
  val : Int
  holds : t.Holds val

theorem two_pow_bits (t : IntType) : (2 : Int) ^ t.bits = 2 * 2 ^ (t.bits - 1) := by
  rw [← Int.pow_succ', Nat.sub_add_cancel t.bits_pos]

theorem two_pow_pos (n : Nat) : (0 : Int) < 2 ^ n := Int.pow_pos (by decide)

theorem max_eq (t : IntType) : t.max = t.min + 2 ^ t.bits - 1 := by
  have hpow := t.two_pow_bits
  rw [max, min]
  split
  · omega
  · omega

theorem min_nonpos (t : IntType) : t.min ≤ 0 := by
  have hpos := two_pow_pos (t.bits - 1)
  rw [min]
  split
  · omega
  · exact Int.le_refl 0

theorem max_nonneg (t : IntType) : 0 ≤ t.max := by
  have hpos := two_pow_pos (t.bits - 1)
  have hpos' := two_pow_pos t.bits
  rw [max]
  split
  · omega
  · omega

theorem holds_zero (t : IntType) : t.Holds 0 := ⟨t.min_nonpos, t.max_nonneg⟩

theorem min_lt_max (t : IntType) : t.min < t.max := by
  have hpow := t.two_pow_bits
  have hpos := two_pow_pos (t.bits - 1)
  rw [max_eq]
  omega

/-! ## Conversions -/

/-- The value of the range that agrees with `x` modulo the width. -/
def convert (t : IntType) (x : Int) : Int := t.min + (x - t.min) % 2 ^ t.bits

theorem holds_convert (t : IntType) (x : Int) : t.Holds (t.convert x) := by
  have hpos := two_pow_pos t.bits
  have hnonneg := Int.emod_nonneg (x - t.min) (Int.ne_of_gt hpos)
  have hlt := Int.emod_lt_of_pos (x - t.min) hpos
  rw [Holds, max_eq, convert]
  omega

/-- A conversion. -/
def cast (t : IntType) (x : Int) : t.Value := ⟨t.convert x, t.holds_convert x⟩

@[simp] theorem cast_val (t : IntType) (x : Int) : (t.cast x).val = t.convert x := rfl

variable {t : IntType} {x y : Int}

/-- The value of the range with the same residue is the converted one. -/
theorem convert_eq (hy : t.Holds y) (h : (2 : Int) ^ t.bits ∣ x - y) : t.convert x = y := by
  have hresidue : (x - t.min) % 2 ^ t.bits = (y - t.min) % 2 ^ t.bits := by
    rw [Int.emod_sub_cancel_right, Int.emod_eq_emod_iff_emod_sub_eq_zero]
    exact Int.emod_eq_zero_of_dvd h
  have hsmall : (y - t.min) % 2 ^ t.bits = y - t.min := by
    refine Int.emod_eq_of_lt ?_ ?_
    · exact Int.sub_nonneg_of_le hy.1
    · have hmax := hy.2
      rw [max_eq] at hmax
      omega
  rw [convert, hresidue, hsmall]
  omega

/-- A value that the type can represent does not change. -/
theorem convert_of_holds (h : t.Holds x) : t.convert x = x :=
  convert_eq h (by rw [Int.sub_self]; exact Int.dvd_zero _)

/-! ### Bounds of another type -/

/-- The number of bits of a value that is not negative. -/
def valueBits (t : IntType) : Nat := if t.signed then t.bits - 1 else t.bits

theorem max_eq_valueBits (t : IntType) : t.max = 2 ^ t.valueBits - 1 := by
  rw [max, valueBits]
  split
  · rfl
  · rfl

theorem max_le_max {s t : IntType} (h : s.valueBits ≤ t.valueBits) : s.max ≤ t.max := by
  have hpow : (2 : Int) ^ s.valueBits ≤ 2 ^ t.valueBits := by
    exact_mod_cast Nat.pow_le_pow_right (show 0 < 2 by decide) h
  rw [max_eq_valueBits, max_eq_valueBits]
  omega

/-- The largest value of a type with more value bits becomes -1 in a signed type, and the largest
value of an unsigned one. -/
theorem convert_max_of_lt {s : IntType} (h : t.valueBits < s.valueBits) :
    t.convert s.max = if t.signed then -1 else t.max := by
  rw [max_eq_valueBits s]
  cases ht : t.signed with
  | true =>
      have hone : t.Holds (-1) := by
        have hpos := two_pow_pos (t.bits - 1)
        rw [Holds, min, max, ht, if_pos rfl, if_pos rfl]
        omega
      rw [valueBits, ht, if_pos rfl] at h
      rw [if_pos rfl]
      refine convert_eq hone ?_
      rw [Int.sub_neg, Int.sub_add_cancel]
      exact pow_dvd_pow 2 (by omega)
  | false =>
      rw [valueBits, ht, if_neg Bool.false_ne_true] at h
      rw [if_neg Bool.false_ne_true]
      refine convert_eq ⟨Int.le_of_lt t.min_lt_max, Int.le_refl _⟩ ?_
      -- Both are one below a power of two that the width divides.
      have hmax : t.max = 2 ^ t.bits - 1 := by rw [max, ht, if_neg Bool.false_ne_true]
      have hdiff : (2 : Int) ^ s.valueBits - 1 - t.max = 2 ^ s.valueBits - 2 ^ t.bits := by
        rw [hmax]
        omega
      rw [hdiff]
      exact Int.dvd_sub (pow_dvd_pow 2 (Nat.le_of_lt h)) (Int.dvd_refl _)

/-- The smallest value of a wider signed type becomes 0. -/
theorem convert_min_of_lt {s : IntType} (hs : s.signed = true) (h : t.bits < s.bits) :
    t.convert s.min = 0 := by
  refine convert_eq t.holds_zero ?_
  rw [min, hs, if_pos rfl, Int.sub_zero]
  exact Int.dvd_neg.mpr (pow_dvd_pow 2 (by omega))

/-! ## Common types -/

/-- A type that is narrower than `int` is promoted to it. -/
def promote (int t : IntType) : IntType := if t.bits < int.bits then int else t

/-- The type to which the operands of an operator are converted. -/
def common (int s t : IntType) : IntType :=
  let s := promote int s
  let t := promote int t
  if s = t then s
  else if s.signed = t.signed then if s.bits < t.bits then t else s
  else if s.signed then if s.bits ≤ t.bits then t else s
  else if t.bits ≤ s.bits then s else t

/-- With `int`, the common type is `int` or the type itself. -/
theorem common_int {int : IntType} (hint : int.signed = true) (t : IntType) :
    common int t int = if t.bits < int.bits then int else t := by
  have hself : promote int int = int := if_neg (Nat.lt_irrefl _)
  rw [common, hself, promote]
  split
  · exact if_pos rfl
  · next hbits =>
    split
    · rfl
    · split
      · rfl
      · next hsigned =>
        have ht : ¬ t.signed = true := fun ht => hsigned (ht.trans hint.symm)
        rw [if_neg ht, if_pos (Nat.le_of_not_lt hbits)]

theorem holds_common_int {int : IntType} (hint : int.signed = true) (h : t.Holds x) :
    (common int t int).Holds x := by
  rw [common_int hint]
  split
  · next hbits =>
    have hvalue : t.valueBits ≤ int.valueBits := by
      rw [valueBits, valueBits, if_pos hint]
      split
      · omega
      · omega
    refine ⟨Int.le_trans ?_ h.1, Int.le_trans h.2 (max_le_max hvalue)⟩
    rw [min, min, if_pos hint]
    split
    · exact Int.neg_le_neg (pow_le_pow_right₀ (by decide) (by omega))
    · exact Int.neg_nonpos_of_nonneg (Int.le_of_lt (two_pow_pos _))
  · exact h

/-! ## The nearest value -/

/-- `r` is the value of the type that is nearest to `x`: the value itself if the type can
represent it, and otherwise the bound that is nearer. -/
def Nearest (t : IntType) (x r : Int) : Prop :=
  (t.Holds x → r = x) ∧
    (¬ t.Holds x → (r = t.min ∧ (x - t.min).natAbs < (x - t.max).natAbs) ∨
      (r = t.max ∧ (x - t.max).natAbs < (x - t.min).natAbs))

/-- The nearest value is found by comparing with the bounds. -/
theorem nearest_iff {r : Int} : t.Nearest x r ↔ r = Max.max (Min.min x t.max) t.min := by
  have hlt := t.min_lt_max
  by_cases h : t.Holds x
  · have hmin := h.1
    have hmax := h.2
    simp only [Nearest, h, forall_const, not_true_eq_false, false_implies, and_true]
    omega
  · simp only [Nearest, h, false_implies, true_and, not_false_eq_true, forall_const]
    rw [Holds, not_and_or] at h
    omega

end IntType
