import Mathlib.Order.Interval.Set.Disjoint
import Mathlib.Algebra.Order.Ring.Nat
import Mathlib.Order.CompletePartialOrder

/-!
# Rasters

A raster is a block of bytes that holds rows of pixels.  A row starts every `stride` bytes, and
its pixels stand one after the other at the start of it.  That a row fits into its stride is a
field, so the lemmas need only the bounds of the coordinates: a pixel lies in its row, rows lie
in the plane one behind the other, and so pixels with different coordinates share no byte.
-/

/-- The shape of a raster. -/
structure Raster where
  width : Nat
  height : Nat
  stride : Nat
  pixelBytes : Nat
  row_fits : width * pixelBytes ≤ stride

namespace Raster

variable (r : Raster) {x x' y y' : Nat}

/-- The bytes of a pixel. -/
def pixel (x y : Nat) : Set Nat :=
  Set.Ico (y * r.stride + x * r.pixelBytes) (y * r.stride + (x + 1) * r.pixelBytes)

/-- The bytes from the start of a row to the start of the next one. -/
def line (y : Nat) : Set Nat := Set.Ico (y * r.stride) ((y + 1) * r.stride)

/-- The bytes of all rows. -/
def plane : Set Nat := Set.Ico 0 (r.height * r.stride)

theorem pixel_subset_line (hx : x < r.width) (y : Nat) : r.pixel x y ⊆ r.line y := by
  have hrow : (x + 1) * r.pixelBytes ≤ r.stride :=
    (Nat.mul_le_mul_right _ hx).trans r.row_fits
  apply Set.Ico_subset_Ico
  · exact Nat.le_add_right _ _
  · rw [Nat.add_one_mul y]
    exact Nat.add_le_add_left hrow _

theorem line_subset_plane (hy : y < r.height) : r.line y ⊆ r.plane :=
  Set.Ico_subset_Ico (Nat.zero_le _) (Nat.mul_le_mul_right _ hy)

theorem pixel_subset_plane (hx : x < r.width) (hy : y < r.height) : r.pixel x y ⊆ r.plane :=
  (r.pixel_subset_line hx y).trans (r.line_subset_plane hy)

/-- Blocks of one size that stand one behind the other. -/
theorem blocks_disjoint (base size : Nat) {i j : Nat} (h : i ≠ j) :
    Disjoint (Set.Ico (base + i * size) (base + (i + 1) * size))
      (Set.Ico (base + j * size) (base + (j + 1) * size)) := by
  have hle : ∀ {i j : Nat}, i < j → base + (i + 1) * size ≤ base + j * size :=
    fun hlt => Nat.add_le_add_left (Nat.mul_le_mul_right size hlt) base
  rw [Set.Ico_disjoint_Ico]
  rcases Nat.lt_or_gt_of_ne h with hlt | hlt
  · exact (Nat.min_le_left _ _).trans ((hle hlt).trans (Nat.le_max_right _ _))
  · exact (Nat.min_le_right _ _).trans ((hle hlt).trans (Nat.le_max_left _ _))

theorem line_disjoint (h : y ≠ y') : Disjoint (r.line y) (r.line y') := by
  have hblocks := blocks_disjoint 0 r.stride h
  simp only [Nat.zero_add] at hblocks
  exact hblocks

/-- Pixels with different coordinates share no byte. -/
theorem pixel_disjoint (hx : x < r.width) (hx' : x' < r.width) (h : (x, y) ≠ (x', y')) :
    Disjoint (r.pixel x y) (r.pixel x' y') := by
  by_cases hy : y = y'
  · subst hy
    exact blocks_disjoint (y * r.stride) r.pixelBytes fun he => h (by rw [he])
  · exact (r.line_disjoint hy).mono (r.pixel_subset_line hx y) (r.pixel_subset_line hx' y')

end Raster
