import Mathlib.Data.List.GetD
import Mathlib.Algebra.Order.Ring.Nat

/-!
# Numbers in memory

Memory is a function from offsets to bytes.  A number stands in memory with its lowest byte
first.  `Holds m o l` says that the bytes of `l` stand in `m` from the offset `o` on; a number
that was written is read back from there (`number_of_holds_ofNumber`), and a number in the
middle of `l` is the same in `m` as in `l` (`Holds.number`).
-/

namespace Bytes

variable {m m' : Nat → UInt8} {o o' : Nat} {l l' : List UInt8}

/-- The number of `n` bytes at an offset. -/
def number (m : Nat → UInt8) (o : Nat) : Nat → Nat
  | 0 => 0
  | n + 1 => (m o).toNat + 256 * number m (o + 1) n

/-- The lowest `n` bytes of a number. -/
def ofNumber : Nat → Nat → List UInt8
  | 0, _ => []
  | n + 1, x => UInt8.ofNat x :: ofNumber n (x / 256)

/-- A list as memory. -/
def memory (l : List UInt8) (i : Nat) : UInt8 := l.getD i 0

/-- The `n` bytes at an offset. -/
def slice (m : Nat → UInt8) (o n : Nat) : List UInt8 := (List.range n).map fun i => m (o + i)

/-- The bytes stand in memory from an offset on. -/
def Holds (m : Nat → UInt8) (o : Nat) (l : List UInt8) : Prop :=
  ∀ i, i < l.length → m (o + i) = memory l i

@[simp] theorem length_ofNumber (n x : Nat) : (ofNumber n x).length = n := by
  induction n generalizing x with
  | zero => rfl
  | succ n ih => rw [ofNumber, List.length_cons, ih]

/-- Only the bytes of a number matter. -/
theorem number_congr {n : Nat} (h : ∀ i, i < n → m (o + i) = m' (o' + i)) :
    number m o n = number m' o' n := by
  induction n generalizing o o' with
  | zero => rfl
  | succ n ih =>
      have htail : ∀ i, i < n → m (o + 1 + i) = m' (o' + 1 + i) := by
        intro i hi
        rw [Nat.add_right_comm, Nat.add_right_comm o', Nat.add_assoc, Nat.add_assoc o']
        exact h (i + 1) (Nat.succ_lt_succ hi)
      have hhead : m o = m' o' := h 0 (Nat.succ_pos n)
      rw [number, number, hhead, ih htail]

theorem Holds.left (h : Holds m o (l ++ l')) : Holds m o l := by
  intro i hi
  rw [h i (by rw [List.length_append]; omega), memory, memory,
    List.getD_append l l' 0 i hi]

theorem Holds.right (h : Holds m o (l ++ l')) : Holds m (o + l.length) l' := by
  intro i hi
  rw [Nat.add_assoc, h (l.length + i) (by rw [List.length_append]; omega), memory, memory,
    List.getD_append_right l l' 0 (l.length + i) (Nat.le_add_right _ _), Nat.add_sub_cancel_left]

/-- The bytes of two lists one after the other. -/
theorem holds_append : Holds m o (l ++ l') ↔ Holds m o l ∧ Holds m (o + l.length) l' := by
  constructor
  · intro h
    exact ⟨h.left, h.right⟩
  · rintro ⟨hleft, hright⟩ i hi
    rw [List.length_append] at hi
    rcases Nat.lt_or_ge i l.length with h | h
    · rw [hleft i h, memory, memory, List.getD_append l l' 0 i h]
    · have hin := hright (i - l.length) (by omega)
      rw [Nat.add_assoc, Nat.add_sub_cancel' h] at hin
      rw [hin, memory, memory, List.getD_append_right l l' 0 i h]

theorem holds_cons {x : UInt8} : Holds m o (x :: l) ↔ m o = x ∧ Holds m (o + 1) l := by
  rw [← List.singleton_append, holds_append, List.length_singleton]
  refine and_congr_left' ⟨fun h => h 0 Nat.zero_lt_one, ?_⟩
  intro h i hi
  obtain rfl : i = 0 := Nat.lt_one_iff.mp hi
  exact h

/-- A list stands at the start of its memory. -/
theorem holds_memory (l : List UInt8) : Holds (memory l) 0 l := by
  intro i _
  rw [Nat.zero_add]

@[simp] theorem holds_nil : Holds m o [] := by
  intro i hi
  exact absurd hi (Nat.not_lt_zero i)

@[simp] theorem length_slice (m : Nat → UInt8) (o n : Nat) : (slice m o n).length = n := by
  simp [slice]

/-- What stands in memory is copied from there. -/
theorem Holds.slice (h : Holds m o l) : slice m o l.length = l := by
  refine List.ext_getElem (length_slice ..) ?_
  intro i hi hi'
  simp only [Bytes.slice, List.getElem_map, List.getElem_range]
  rw [h i hi', memory, List.getD_eq_getElem l 0 hi']

/-- A number in the middle of the bytes. -/
theorem Holds.number (h : Holds m o l) {k n : Nat} (hk : k + n ≤ l.length) :
    number m (o + k) n = number (memory l) k n := by
  refine number_congr ?_
  intro i hi
  rw [Nat.add_assoc]
  exact h (k + i) (by omega)

/-- A number that was written is read back. -/
theorem number_of_holds_ofNumber {n x : Nat} (h : Holds m o (ofNumber n x)) :
    Bytes.number m o n = x % 256 ^ n := by
  induction n generalizing o x with
  | zero => rw [Nat.pow_zero, Nat.mod_one, Bytes.number]
  | succ n ih =>
      have hhead : m o = UInt8.ofNat x := h 0 (Nat.succ_pos _)
      have htail : Holds m (o + 1) (ofNumber n (x / 256)) :=
        Holds.right (l := [UInt8.ofNat x]) h
      have hbyte : (UInt8.ofNat x).toNat = x % 256 := UInt8.toNat_ofNat'
      have hpow : 256 ^ (n + 1) = 256 * 256 ^ n := by rw [Nat.pow_succ, Nat.mul_comm]
      rw [Bytes.number, hhead, ih htail, hbyte, hpow, Nat.mod_mul]

end Bytes
