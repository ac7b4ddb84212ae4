import Mathlib.Algebra.Order.Ring.Int
import ZsaSdk.Color.Model
import ZsaSdk.Lib.RoundUp

/-!
# Exposure times

Both readers round an exposure time up to an entry of `device_exposure_mapping`, in the column
of the powerline frequency.  The reader on Linux writes the entry to the camera in units of
100 microseconds and rounds it up again when it reads it back; the reader on Windows writes
the exponent of the row.  Both get back to the entry they started from
(`exposure_mappings_agree`).

What the camera reports by itself is any 32-bit number of such units.  It is multiplied in
place before it is looked up, which wraps around for large numbers
(`reported_exposure_mapped_iff`).
-/

namespace ZsaSdk

open RoundUp

/-! ## The other reader -/

/-- `CMFCameraReader::MapK4aExposureToMf` -/
def mapK4aExposureToMf (using60hzPower : Bool) (k4aExposure : Int32) : Int32 :=
  ((deviceExposureMapping.find? fun m =>
    (using60hzPower && k4aExposure ≤ m.exposureMapped60HzUsec) ||
      (!using60hzPower && k4aExposure ≤ m.exposureMapped50HzUsec)).map (·.exponent)).getD
    (deviceExposureMapping.getLast deviceExposureMapping_ne_nil).exponent

/-- `CMFCameraReader::MapMfExponentToK4a` -/
def mapMfExponentToK4a (using60hzPower : Bool) (mfExponent : Int32) : Int32 :=
  ((deviceExposureMapping.find? fun m => mfExponent ≤ m.exponent).map fun m =>
    if using60hzPower then m.exposureMapped60HzUsec else m.exposureMapped50HzUsec).getD
    (maxExposure using60hzPower)

/-! ## The table -/

variable {u : Bool}

/-- The column of a powerline frequency. -/
def exposureColumn (using60hzPower : Bool) : List Int :=
  deviceExposureMapping.map fun m => (m.mapped using60hzPower).toInt

theorem exposureColumn_sorted (u : Bool) : (exposureColumn u).Pairwise (· ≤ ·) := by
  cases u with
  | false => decide
  | true => decide

theorem exposureColumn_getLast? (u : Bool) :
    (exposureColumn u).getLast? = some (maxExposure u).toInt := by
  cases u with
  | false => rfl
  | true => rfl

/-- The search in the table, over the integers. -/
theorem toInt_mappedExposure (u : Bool) (e : Int32) :
    (mappedExposure u e).toInt = find (exposureColumn u) (maxExposure u).toInt e.toInt := by
  have hcolumn : exposureColumn u =
      (deviceExposureMapping.map (·.mapped u)).map Int32.toInt := by
    rw [List.map_map]
    rfl
  have hcomp : ((e.toInt ≤ ·) : Int → Bool) ∘ Int32.toInt = (e ≤ ·) := by
    funext y
    simp only [Function.comp_apply, Int32.le_iff_toInt_le]
  rw [mappedExposure, find, hcolumn, List.find?_map (f := Int32.toInt), hcomp, Option.getD_map]

theorem mappedExposure_rounds (u : Bool) (e : Int32) :
    Rounds (exposureColumn u) e.toInt (mappedExposure u e).toInt := by
  rw [toInt_mappedExposure]
  exact rounds_find (exposureColumn_sorted u) (exposureColumn_getLast? u) e.toInt

/-- The result of a search is an entry of the table. -/
theorem mappedExposure_mem (u : Bool) (e : Int32) :
    ∃ m ∈ deviceExposureMapping, mappedExposure u e = m.mapped u := by
  obtain ⟨m, hm, heq⟩ := List.mem_map.mp (mappedExposure_rounds u e).mem
  exact ⟨m, hm, (Int32.toInt_inj.mp heq).symm⟩

/-! ## Setting an exposure time and reading it back -/

/-- The units of 100 microseconds lose less than what lies between two entries. -/
theorem mapLinuxExposureToK4a_mapped (u : Bool) :
    ∀ m ∈ deviceExposureMapping,
      mapLinuxExposureToK4a u (m.mapped u / conv100UsecToUsec) = m.mapped u := by
  cases u with
  | false => decide
  | true => decide

/-- The exponents are in increasing order. -/
theorem mapMfExponentToK4a_exponent (u : Bool) :
    ∀ m ∈ deviceExposureMapping, mapMfExponentToK4a u m.exponent = m.mapped u := by
  cases u with
  | false => decide
  | true => decide

theorem linux_set_get (u : Bool) (e : Int32) :
    mapLinuxExposureToK4a u (mapK4aExposureToLinux u e) = mappedExposure u e := by
  obtain ⟨m, hm, heq⟩ := mappedExposure_mem u e
  rw [mapK4aExposureToLinux, heq]
  exact mapLinuxExposureToK4a_mapped u m hm

/-- The search for the row of the entry. -/
theorem mappedExposure_row (u : Bool) (e : Int32) :
    mappedExposure u e = ((deviceExposureMapping.find? fun m => e ≤ m.mapped u).map
      (ExposureMapping.mapped u)).getD (maxExposure u) := by
  rw [mappedExposure, List.find?_map]
  rfl

/-- The row whose exponent is written is the row of the entry. -/
theorem mapK4aExposureToMf_eq (u : Bool) (e : Int32) :
    ∃ m ∈ deviceExposureMapping, mapK4aExposureToMf u e = m.exponent ∧
      mappedExposure u e = m.mapped u := by
  have htest : (fun m : ExposureMapping => (u && e ≤ m.exposureMapped60HzUsec) ||
      (!u && e ≤ m.exposureMapped50HzUsec)) = fun m => decide (e ≤ m.mapped u) := by
    funext m
    cases u with
    | false => simp [ExposureMapping.mapped]
    | true => simp [ExposureMapping.mapped]
  rw [mapK4aExposureToMf, htest, mappedExposure_row]
  cases h : deviceExposureMapping.find? fun m => decide (e ≤ m.mapped u) with
  | some m => exact ⟨m, List.mem_of_find?_eq_some h, rfl, rfl⟩
  | none => exact ⟨_, List.getLast_mem deviceExposureMapping_ne_nil, rfl, rfl⟩

theorem mf_set_get (u : Bool) (e : Int32) :
    mapMfExponentToK4a u (mapK4aExposureToMf u e) = mappedExposure u e := by
  obtain ⟨m, hm, hexponent, hmapped⟩ := mapK4aExposureToMf_eq u e
  rw [hexponent, hmapped]
  exact mapMfExponentToK4a_exponent u m hm

theorem mappedExposure_mono {e e' : Int32} (h : e ≤ e') :
    mappedExposure u e ≤ mappedExposure u e' :=
  Int32.le_iff_toInt_le.mpr ((mappedExposure_rounds u e).mono (exposureColumn_sorted u)
    (mappedExposure_rounds u e') (Int32.le_iff_toInt_le.mp h))

theorem mappedExposure_idem (u : Bool) (e : Int32) :
    mappedExposure u (mappedExposure u e) = mappedExposure u e := by
  have hself := Rounds.of_mem (mappedExposure_rounds u e).mem
  exact Int32.toInt_inj.mp
    ((mappedExposure_rounds u (mappedExposure u e)).unique (exposureColumn_sorted u) hself)

/-- Setting an exposure time and reading it back gives the same on both platforms, for every
exposure time: the least entry that is not shorter, or the longest.  So it is idempotent and
monotone. -/
theorem exposure_mappings_agree (using60hzPower : Bool) :
    (∀ e : Int32,
      let r := mapLinuxExposureToK4a using60hzPower (mapK4aExposureToLinux using60hzPower e)
      mapMfExponentToK4a using60hzPower (mapK4aExposureToMf using60hzPower e) = r ∧
      Rounds (exposureColumn using60hzPower) e.toInt r.toInt ∧
      mapLinuxExposureToK4a using60hzPower (mapK4aExposureToLinux using60hzPower r) = r ∧
      mapMfExponentToK4a using60hzPower (mapK4aExposureToMf using60hzPower r) = r) ∧
    ∀ e e' : Int32, e ≤ e' →
      mapLinuxExposureToK4a using60hzPower (mapK4aExposureToLinux using60hzPower e) ≤
        mapLinuxExposureToK4a using60hzPower (mapK4aExposureToLinux using60hzPower e') ∧
      mapMfExponentToK4a using60hzPower (mapK4aExposureToMf using60hzPower e) ≤
        mapMfExponentToK4a using60hzPower (mapK4aExposureToMf using60hzPower e') := by
  refine ⟨?_, ?_⟩
  · intro e
    dsimp only
    rw [linux_set_get, mf_set_get, linux_set_get, mf_set_get]
    exact ⟨rfl, mappedExposure_rounds _ e, mappedExposure_idem _ e, mappedExposure_idem _ e⟩
  · intro e e' h
    rw [linux_set_get, linux_set_get, mf_set_get, mf_set_get]
    exact ⟨mappedExposure_mono h, mappedExposure_mono h⟩

/-! ## What the camera reports -/

/-- The entry before the last. -/
def secondLongestExposure (using60hzPower : Bool) : Int32 :=
  (deviceExposureMapping.dropLast.getLast (List.cons_ne_nil _ _)).mapped using60hzPower

/-- The value that is looked up for `x` units: 100 times as much, in 32 bits. -/
theorem toInt_linuxExposure (x : UInt32) :
    (x.toInt32 * conv100UsecToUsec).toInt = (100 * x.toNat : Int).bmod (2 ^ 32) := by
  have hx : x.toInt32.toInt = (x.toNat : Int).bmod (2 ^ 32) := by
    rw [← Int32.toInt_toBitVec, UInt32.toBitVec_toInt32, BitVec.toInt_eq_toNat_bmod,
      UInt32.toNat_toBitVec]
  have hconv : conv100UsecToUsec.toInt = 100 := rfl
  rw [Int32.toInt_mul, hx, hconv, Int.bmod_mul_bmod, Int.mul_comm]

theorem exposureColumn_le_second (u : Bool) : ∀ y ∈ exposureColumn u,
    y = (maxExposure u).toInt ∨ y ≤ (secondLongestExposure u).toInt := by
  cases u with
  | false => decide
  | true => decide

/-- The longest exposure is what is found for everything beyond the entry before it. -/
theorem mappedExposure_eq_max_iff (e : Int32) :
    mappedExposure u e = maxExposure u ↔ secondLongestExposure u < e := by
  constructor
  · intro h
    by_contra hle
    have hmono := mappedExposure_mono (u := u) (Int32.not_lt.mp hle)
    rw [h] at hmono
    revert hmono
    cases u with
    | false => decide
    | true => decide
  · intro h
    rw [Int32.lt_iff_toInt_lt] at h
    rcases mappedExposure_rounds u e with hleast | ⟨-, hlast⟩
    · rcases exposureColumn_le_second u _ hleast.1.1 with heq | hle
      · exact Int32.toInt_inj.mp heq
      · exact absurd (hleast.1.2.trans hle) (Int.not_le.mpr h)
    · rw [exposureColumn_getLast?] at hlast
      exact (Int32.toInt_inj.mp (Option.some.inj hlast)).symm

/-- A value beyond the table is rounded to the longest exposure. -/
theorem rounds_of_max_lt {e : Int} (he : (maxExposure u).toInt < e) :
    Rounds (exposureColumn u) e (maxExposure u).toInt := by
  refine Or.inr ⟨fun y hy => ?_, exposureColumn_getLast? u⟩
  exact lt_of_le_of_lt
    (le_getLast? (exposureColumn_sorted u) (exposureColumn_getLast? u) hy) he

theorem maxExposure_le (u : Bool) : (maxExposure u).toInt ≤ 133330 := by
  cases u with
  | false => decide
  | true => decide

/-- The exposure reported as `x` units is mapped right precisely if 100 times `x` fits into 32
bits, or if what is left of it is beyond all entries but the longest anyway. -/
theorem mapLinuxExposureToK4a_rounds_iff (u : Bool) (x : UInt32) :
    Rounds (exposureColumn u) (100 * x.toNat) (mapLinuxExposureToK4a u x.toInt32).toInt ↔
      100 * x.toNat < 2 ^ 31 ∨
        (secondLongestExposure u).toInt < (100 * x.toNat : Int).bmod (2 ^ 32) := by
  have hlookup := toInt_linuxExposure x
  rw [mapLinuxExposureToK4a]
  generalize x.toInt32 * conv100UsecToUsec = e at hlookup
  rw [← hlookup, ← Int32.lt_iff_toInt_lt, ← mappedExposure_eq_max_iff]
  by_cases hfit : 100 * x.toNat < 2 ^ 31
  · have hexact : e.toInt = 100 * x.toNat := by
      rw [hlookup]
      exact Int.bmod_eq_of_le (by omega) (by omega)
    rw [← hexact]
    exact iff_of_true (mappedExposure_rounds u e) (Or.inl hfit)
  · have hmax := rounds_of_max_lt (u := u) (e := 100 * x.toNat) (by
      have := maxExposure_le u
      omega)
    rw [or_iff_right hfit]
    constructor
    · intro h
      exact Int32.toInt_inj.mp (h.unique (exposureColumn_sorted u) hmax)
    · intro h
      rw [h]
      exact hmax

/-- What a camera reports is mapped right precisely if 100 times as much fits into 32 bits, or
if what is left of it is beyond all entries but the longest anyway.  Between such reports the
mapping is monotone. -/
theorem reported_exposure_mapped_iff (using60hzPower : Bool) :
    (∀ x : UInt32,
      Rounds (exposureColumn using60hzPower) (100 * x.toNat)
          (mapLinuxExposureToK4a using60hzPower x.toInt32).toInt ↔
        100 * x.toNat < 2 ^ 31 ∨
          (secondLongestExposure using60hzPower).toInt < (100 * x.toNat : Int).bmod (2 ^ 32)) ∧
    ∀ x y : UInt32, x ≤ y →
      (100 * y.toNat < 2 ^ 31 ∨
        (secondLongestExposure using60hzPower).toInt < (100 * y.toNat : Int).bmod (2 ^ 32)) →
      mapLinuxExposureToK4a using60hzPower x.toInt32 ≤
        mapLinuxExposureToK4a using60hzPower y.toInt32 := by
  have hiff := mapLinuxExposureToK4a_rounds_iff using60hzPower
  have hsorted := exposureColumn_sorted using60hzPower
  refine ⟨hiff, ?_⟩
  intro x y hxy hy
  rw [Int32.le_iff_toInt_le]
  have hy' := (hiff y).mpr hy
  rw [UInt32.le_iff_toNat_le] at hxy
  by_cases hfit : 100 * x.toNat < 2 ^ 31
  · exact ((hiff x).mpr (Or.inl hfit)).mono hsorted hy' (by omega)
  · -- The larger report is beyond the table too, so it is mapped to the longest exposure.
    have hmax := rounds_of_max_lt (u := using60hzPower) (e := 100 * y.toNat) (by
      have := maxExposure_le using60hzPower
      omega)
    rw [hy'.unique hsorted hmax]
    exact le_getLast? hsorted (exposureColumn_getLast? _) (mappedExposure_rounds _ _).mem

/-- A maximum of 21474837 units is mapped to the shortest exposure, and below a minimum of 100
units. -/
theorem reported_maximum_below_minimum :
    mapLinuxExposureToK4a true (21474837 : UInt32).toInt32 = 500 ∧
    mapLinuxExposureToK4a true (100 : UInt32).toInt32 = 16670 ∧
    ¬ Rounds (exposureColumn true) (100 * (21474837 : UInt32).toNat)
      (mapLinuxExposureToK4a true (21474837 : UInt32).toInt32).toInt := by
  refine ⟨by decide, by decide, ?_⟩
  rw [mapLinuxExposureToK4a_rounds_iff]
  decide

end ZsaSdk
