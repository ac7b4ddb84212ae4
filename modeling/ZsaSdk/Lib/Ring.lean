import Mathlib.Data.Fin.Basic
import Mathlib.Data.List.Basic

/-!
# Circular buffers with a spare cell

A circular buffer of `d` cells is read from position `r` and written at
position `w`.  It is empty when the two positions agree, and full when the
position after `w` is `r`: one cell always stays unused, so that the two
positions alone tell an empty buffer from a full one.

`segment cells r w` is the list the buffer stands for, oldest element first.
The three rules below are all a client needs: the segment is empty exactly when
the positions agree (`segment_eq_nil_iff`), advancing the read position removes
the head (`segment_of_ne`), and writing a cell and advancing the write position
appends (`segment_push`).
-/

namespace Ring

variable {α : Type} {d : Nat}

/-! ## Positions -/

/-- The position after `i`. -/
def next (i : Fin d) : Fin d := ⟨(i.val + 1) % d, Nat.mod_lt _ i.pos⟩

/-- The position `k` cells after `r`. -/
def shift (r : Fin d) (k : Nat) : Fin d := ⟨(r.val + k) % d, Nat.mod_lt _ r.pos⟩

/-- The number of cells from `r` up to, and not including, `w`. -/
def count (r w : Fin d) : Nat := (w.val + d - r.val) % d

theorem count_lt (r w : Fin d) : count r w < d := Nat.mod_lt _ r.pos

theorem count_eq (r w : Fin d) :
    count r w = if r.val ≤ w.val then w.val - r.val else w.val + d - r.val := by
  have hr := r.isLt
  have hw := w.isLt
  simp only [count]
  split
  · rw [show w.val + d - r.val = (w.val - r.val) + d by omega, Nat.add_mod_right,
      Nat.mod_eq_of_lt (by omega)]
  · exact Nat.mod_eq_of_lt (by omega)

theorem next_val (i : Fin d) : (next i).val = if i.val + 1 = d then 0 else i.val + 1 := by
  have hi := i.isLt
  simp only [next]
  split
  · next h => simp [h]
  · exact Nat.mod_eq_of_lt (by omega)

@[simp] theorem shift_zero (r : Fin d) : shift r 0 = r := by
  apply Fin.ext
  simp [shift, Nat.mod_eq_of_lt r.isLt]

theorem shift_next (r : Fin d) (k : Nat) : shift (next r) k = shift r (k + 1) := by
  apply Fin.ext
  simp only [shift, next, Nat.mod_add_mod]
  congr 1
  omega

theorem shift_count (r w : Fin d) : shift r (count r w) = w := by
  apply Fin.ext
  have hr := r.isLt
  have hw := w.isLt
  simp only [shift, count_eq]
  split
  · rw [show r.val + (w.val - r.val) = w.val by omega, Nat.mod_eq_of_lt hw]
  · rw [show r.val + (w.val + d - r.val) = w.val + d by omega, Nat.add_mod_right,
      Nat.mod_eq_of_lt hw]

/-- Two offsets below one revolution reach two different cells. -/
theorem shift_injective {r : Fin d} {i j : Nat} (hi : i < d) (hj : j < d)
    (h : shift r i = shift r j) : i = j := by
  have hr := r.isLt
  have hv : (r.val + i) % d = (r.val + j) % d := congrArg Fin.val h
  have reduce : ∀ k, k < d →
      (r.val + k) % d = if r.val + k < d then r.val + k else r.val + k - d := by
    intro k hk
    split
    · next hlt => exact Nat.mod_eq_of_lt hlt
    · next hge =>
      rw [Nat.mod_eq_sub_mod (by omega), Nat.mod_eq_of_lt (by omega)]
  rw [reduce i hi, reduce j hj] at hv
  split at hv <;> split at hv <;> omega

theorem count_eq_zero_iff (r w : Fin d) : count r w = 0 ↔ r = w := by
  have hr := r.isLt
  have hw := w.isLt
  rw [count_eq, Fin.ext_iff]
  split <;> omega

theorem count_next_read {r w : Fin d} (h : r ≠ w) : count r w = count (next r) w + 1 := by
  have hr := r.isLt
  have hw := w.isLt
  have hne : r.val ≠ w.val := fun e => h (Fin.ext e)
  rw [count_eq, count_eq, next_val]
  by_cases hwrap : r.val + 1 = d
  · rw [if_pos hwrap]
    split <;> split <;> omega
  · rw [if_neg hwrap]
    split <;> split <;> omega

theorem count_next_write {r w : Fin d} (h : next w ≠ r) : count r (next w) = count r w + 1 := by
  have hr := r.isLt
  have hw := w.isLt
  have hne : (next w).val ≠ r.val := fun e => h (Fin.ext e)
  rw [next_val] at hne
  rw [count_eq, count_eq, next_val]
  by_cases hwrap : w.val + 1 = d
  · rw [if_pos hwrap] at hne ⊢
    split <;> split <;> omega
  · rw [if_neg hwrap] at hne ⊢
    split <;> split <;> omega

/-- The buffer is full when all cells but the spare one are in use. -/
theorem next_eq_iff_count (r w : Fin d) : next w = r ↔ count r w + 1 = d := by
  have hr := r.isLt
  have hw := w.isLt
  rw [count_eq, Fin.ext_iff, next_val]
  split <;> split <;> omega

/-! ## The list a buffer stands for -/

/-- The elements from the read position to the write position, oldest first. -/
def segment (cells : Vector α d) (r w : Fin d) : List α :=
  (List.range (count r w)).map fun k => cells.get (shift r k)

@[simp] theorem length_segment (cells : Vector α d) (r w : Fin d) :
    (segment cells r w).length = count r w := by
  simp [segment]

@[simp] theorem segment_self (cells : Vector α d) (r : Fin d) : segment cells r r = [] := by
  simp [segment, (count_eq_zero_iff r r).mpr rfl]

theorem segment_eq_nil_iff (cells : Vector α d) (r w : Fin d) :
    segment cells r w = [] ↔ r = w := by
  rw [← List.length_eq_zero_iff, length_segment, count_eq_zero_iff]

/-- Reading: the head of the segment is the cell at the read position. -/
theorem segment_of_ne (cells : Vector α d) {r w : Fin d} (h : r ≠ w) :
    segment cells r w = cells.get r :: segment cells (next r) w := by
  rw [segment, count_next_read h, List.range_succ_eq_map, List.map_cons, shift_zero, List.map_map]
  congr 1
  apply List.map_congr_left
  intro k _
  simp only [Function.comp, Nat.succ_eq_add_one, shift_next]

/-- Writing: a cell written at the write position of a buffer that is not full
appends to the segment. -/
theorem segment_push (cells : Vector α d) {r w : Fin d} (x : α) (h : next w ≠ r) :
    segment (cells.set w.val x w.isLt) r (next w) = segment cells r w ++ [x] := by
  have hlt := count_lt r w
  rw [segment, count_next_write h, List.range_succ, List.map_append, List.map_singleton,
    shift_count]
  congr 1
  · apply List.map_congr_left
    intro k hk
    have hk' : k < count r w := List.mem_range.mp hk
    -- An occupied cell is not the one written.
    have hne : w.val ≠ (shift r k).val := by
      intro e
      have hs : shift r (count r w) = shift r k := by rw [shift_count]; exact Fin.ext e
      have := shift_injective hlt (by omega) hs
      omega
    exact Vector.getElem_set_ne w.isLt (shift r k).isLt hne
  · exact congrArg (fun y => [y]) (Vector.getElem_set_self w.isLt)

end Ring
