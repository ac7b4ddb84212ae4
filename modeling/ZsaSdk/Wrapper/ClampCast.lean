import ZsaSdk.Lib.IntTypes

/-!
# Clamping conversions

`clamp_cast` of `zsa.hpp` converts between two integer types and is meant to clamp to the range of
the output type.  It casts the bounds of that range to the input type and compares there.

The cast of the upper bound is exact, or it wraps.  Then it becomes the upper bound of the input
type, if that is unsigned, and -1 if it is signed, which the function repairs.  The cast of the
lower bound wraps if both types are signed and the output is the wider one.  It becomes 0, and no
value below 0 comes through.
-/

namespace ZsaSdk

/-- `int` -/
def int32 : IntType := ⟨32, by decide, true⟩

/-- `int64_t` -/
def int64 : IntType := ⟨64, by decide, true⟩

/-- `uint64_t` -/
def uint64 : IntType := ⟨64, by decide, false⟩

/-- `std::min` -/
def stdMin {t : IntType} (a b : t.Value) : t.Value := if b.val < a.val then b else a

/-- `std::max` -/
def stdMax {t : IntType} (a b : t.Value) : t.Value := if a.val < b.val then b else a

/-- `min_value` of `clamp_cast`.  The type of a conditional is the common type of its branches. -/
def clampMinValue (outputType inputType : IntType) : inputType.Value :=
  let conditional := IntType.common int32 inputType int32
  inputType.cast (if inputType.signed then
    (conditional.cast (inputType.cast outputType.min).val).val else (conditional.cast 0).val)

/-- `max_value` of `clamp_cast`, after its repair. -/
def clampMaxValue (outputType inputType : IntType) : inputType.Value :=
  let maxValue := inputType.cast outputType.max
  let comparison := IntType.common int32 inputType int32
  if (comparison.cast maxValue.val).val < (comparison.cast 0).val then
    inputType.cast inputType.max
  else maxValue

/-- `clamp_cast` -/
def clampCast (outputType inputType : IntType) (input : inputType.Value) : outputType.Value :=
  let input := stdMin input (clampMaxValue outputType inputType)
  let input := stdMax input (clampMinValue outputType inputType)
  outputType.cast input.val

/-! ## The bounds -/

variable (outputType inputType : IntType)

/-- A value is the same after the conversion that an operator with a literal makes. -/
theorem convert_common {t : IntType} {x : Int} (h : t.Holds x) :
    (IntType.common int32 t int32).convert x = x :=
  IntType.convert_of_holds (IntType.holds_common_int rfl h)

/-- The upper bound is the smaller one of the two types. -/
theorem clampMaxValue_val :
    (clampMaxValue outputType inputType).val = min outputType.max inputType.max := by
  have hmax : inputType.convert inputType.max = inputType.max :=
    IntType.convert_of_holds ⟨Int.le_of_lt inputType.min_lt_max, Int.le_refl _⟩
  have hnonneg := outputType.max_nonneg
  simp only [clampMaxValue, IntType.cast_val,
    convert_common (inputType.holds_convert outputType.max), convert_common inputType.holds_zero]
  rcases Nat.lt_or_ge inputType.valueBits outputType.valueBits with hlt | hge
  · -- The cast of the bound wraps.
    have hle := IntType.max_le_max (Nat.le_of_lt hlt)
    have hwrap := IntType.convert_max_of_lt hlt
    rw [Int.min_eq_right hle]
    cases hsigned : inputType.signed with
    | true =>
        rw [hsigned, if_pos rfl] at hwrap
        rw [hwrap, if_pos (by decide)]
        exact hmax
    | false =>
        rw [hsigned, if_neg Bool.false_ne_true] at hwrap
        rw [hwrap, if_neg (Int.not_lt.mpr inputType.max_nonneg)]
        exact hwrap
  · have hle := IntType.max_le_max hge
    have hexact : inputType.convert outputType.max = outputType.max :=
      IntType.convert_of_holds ⟨Int.le_trans inputType.min_nonpos hnonneg, hle⟩
    rw [hexact, if_neg (Int.not_lt.mpr hnonneg), Int.min_eq_left hle]
    exact hexact

/-- Both types are signed and the output is the wider one. -/
def WidensSigned : Prop :=
  inputType.signed = true ∧ outputType.signed = true ∧ inputType.bits < outputType.bits

instance : Decidable (WidensSigned outputType inputType) :=
  inferInstanceAs (Decidable (_ ∧ _ ∧ _))

theorem clampMinValue_eq : (clampMinValue outputType inputType).val =
    if inputType.signed then inputType.convert outputType.min else 0 := by
  simp only [clampMinValue, IntType.cast_val,
    convert_common (inputType.holds_convert outputType.min), convert_common inputType.holds_zero]
  split
  · exact IntType.convert_of_holds (inputType.holds_convert _)
  · exact IntType.convert_of_holds inputType.holds_zero

variable {outputType inputType}

/-- If no signed type is widened, the lower bound of a signed input type lies below. -/
theorem min_le_min_of_signed (hin : inputType.signed = true)
    (hwidens : ¬ WidensSigned outputType inputType) : inputType.min ≤ outputType.min := by
  cases hout : outputType.signed with
  | false =>
      have hzero : outputType.min = 0 := by rw [IntType.min, hout, if_neg Bool.false_ne_true]
      rw [hzero]
      exact inputType.min_nonpos
  | true =>
      have hbits : outputType.bits ≤ inputType.bits :=
        Nat.le_of_not_lt fun hlt => hwidens ⟨hin, hout, hlt⟩
      rw [IntType.min, IntType.min, if_pos hin, if_pos hout]
      exact Int.neg_le_neg (pow_le_pow_right₀ (by decide) (by omega))

variable (outputType inputType)

/-- The lower bound is 0 if a signed type is widened to a signed type, and the larger one of the
two types otherwise. -/
theorem clampMinValue_val : (clampMinValue outputType inputType).val =
    if WidensSigned outputType inputType then 0 else max outputType.min inputType.min := by
  rw [clampMinValue_eq]
  by_cases hwidens : WidensSigned outputType inputType
  · obtain ⟨hin, hout, hbits⟩ := hwidens
    rw [if_pos hin, if_pos ⟨hin, hout, hbits⟩, IntType.convert_min_of_lt hout hbits]
  · rw [if_neg hwidens]
    split
    · next hin =>
      have hle := min_le_min_of_signed hin hwidens
      rw [Int.max_eq_left hle]
      exact IntType.convert_of_holds
        ⟨hle, Int.le_trans outputType.min_nonpos inputType.max_nonneg⟩
    · next hin =>
      have hzero : inputType.min = 0 := by rw [IntType.min, if_neg hin]
      rw [hzero, Int.max_eq_right outputType.min_nonpos]

/-! ## The conversion -/

theorem stdMin_val {t : IntType} (a b : t.Value) : (stdMin a b).val = min a.val b.val := by
  rw [stdMin]
  split
  · omega
  · omega

theorem stdMax_val {t : IntType} (a b : t.Value) : (stdMax a b).val = max a.val b.val := by
  rw [stdMax]
  split
  · omega
  · omega

/-- The argument between the lower bound, which may have become 0, and the upper bound. -/
theorem clampCast_val (input : inputType.Value) : (clampCast outputType inputType input).val =
    max (min input.val outputType.max)
      (if WidensSigned outputType inputType then 0 else outputType.min) := by
  have hlow := input.holds.1
  have hhigh := input.holds.2
  have hlt := outputType.min_lt_max
  have hnonneg := outputType.max_nonneg
  have hnonpos := outputType.min_nonpos
  have hinput := inputType.min_nonpos
  have hbounded : max (min input.val (min outputType.max inputType.max))
      (if WidensSigned outputType inputType then 0 else max outputType.min inputType.min) =
      max (min input.val outputType.max)
        (if WidensSigned outputType inputType then 0 else outputType.min) := by
    split
    · omega
    · omega
  rw [clampCast, IntType.cast_val, stdMax_val, stdMin_val, clampMaxValue_val, clampMinValue_val,
    hbounded]
  refine IntType.convert_of_holds ⟨?_, ?_⟩
  · split
    · omega
    · omega
  · split
    · omega
    · omega

theorem nearest_clampCast (hwidens : ¬ WidensSigned outputType inputType)
    (input : inputType.Value) :
    outputType.Nearest input.val (clampCast outputType inputType input).val := by
  rw [IntType.nearest_iff, clampCast_val, if_neg hwidens]

/-- `clamp_cast` returns the value of the output type that is nearest to its argument, except for
a negative argument of a signed type that is widened to a signed type. -/
theorem clamp_cast_nearest_iff (input : inputType.Value) :
    outputType.Nearest input.val (clampCast outputType inputType input).val ↔
      ¬ (WidensSigned outputType inputType ∧ input.val < 0) := by
  by_cases hwidens : WidensSigned outputType inputType
  · rw [IntType.nearest_iff, clampCast_val, if_pos hwidens]
    obtain ⟨hin, hout, hbits⟩ := hwidens
    have hneg : outputType.min < 0 := by
      rw [IntType.min, if_pos hout]
      exact Int.neg_neg_of_pos (IntType.two_pow_pos _)
    have hnonneg := outputType.max_nonneg
    simp only [hin, hout, hbits, WidensSigned, and_self, true_and]
    omega
  · exact ⟨fun _ h => hwidens h.1, fun _ => nearest_clampCast outputType inputType hwidens input⟩

/-- A negative value does not survive the conversion from 32 to 64 bits. -/
theorem clamp_cast_loses_negative :
    int64.Holds (-5) ∧ (clampCast int64 int32 ⟨-5, by decide⟩).val = 0 ∧
      ¬ int64.Nearest (-5) (clampCast int64 int32 ⟨-5, by decide⟩).val := by
  have hval : (clampCast int64 int32 ⟨-5, by decide⟩).val = 0 := by decide +kernel
  refine ⟨by decide, hval, fun h => ?_⟩
  rw [hval] at h
  exact absurd (h.1 (by decide)) (by decide)

/-! ## The calls of the wrapper -/

/-- `image::set_timestamp` and `image::set_exposure_time` convert `int64_t` to `uint64_t`. -/
def clampTime (time : int64.Value) : uint64.Value := clampCast uint64 int64 time

/-- `device::get_capture` and `device::get_imu_sample` convert `int64_t` to `int32_t`. -/
def clampTimeout (timeout : int64.Value) : int32.Value := clampCast int32 int64 timeout

/-- No call widens a signed type, so all of them clamp. -/
theorem clamp_calls_nearest (time timeout : int64.Value) :
    uint64.Nearest time.val (clampTime time).val ∧
      int32.Nearest timeout.val (clampTimeout timeout).val :=
  ⟨nearest_clampCast uint64 int64 (by decide) time,
    nearest_clampCast int32 int64 (by decide) timeout⟩

end ZsaSdk
