import Mathlib.Data.List.Basic

/-!
# Bounded first-in first-out lists that drop the oldest element

A list of at most `capacity` elements, oldest first.  The bound is a field, so a
list that is too long cannot be built.  A push to a full list evicts the head.
-/

/-- A list of at most `capacity` elements, oldest first. -/
structure BoundedFifo (α : Type) where
  /-- The largest number of elements. -/
  capacity : Nat
  capacity_pos : 0 < capacity
  /-- The elements, oldest first. -/
  items : List α
  length_le : items.length ≤ capacity

namespace BoundedFifo

variable {α : Type}

@[ext] theorem ext {f g : BoundedFifo α} (hc : f.capacity = g.capacity) (hi : f.items = g.items) :
    f = g := by
  cases f
  cases g
  cases hc
  cases hi
  rfl

/-- The list without elements. -/
def empty (capacity : Nat) (h : 0 < capacity) : BoundedFifo α := ⟨capacity, h, [], Nat.zero_le _⟩

/-- The list holds as many elements as it can. -/
def full (f : BoundedFifo α) : Bool := f.items.length == f.capacity

/-- The element a push evicts: the oldest one of a full list. -/
def evicted (f : BoundedFifo α) : Option α := if f.full then f.items.head? else none

/-- Append an element, without the oldest one if the list is full. -/
def push (f : BoundedFifo α) (a : α) : BoundedFifo α where
  capacity := f.capacity
  capacity_pos := f.capacity_pos
  items := (if f.full then f.items.tail else f.items) ++ [a]
  length_le := by
    have hle := f.length_le
    have hpos := f.capacity_pos
    cases hf : f.full with
    | true =>
        have he : f.items.length = f.capacity := by simpa [full] using hf
        simp only [if_true, List.length_append, List.length_tail, List.length_singleton]
        omega
    | false =>
        have hne : f.items.length ≠ f.capacity := by simpa [full] using hf
        simp
        omega

/-- Remove the oldest element. -/
def pop (f : BoundedFifo α) : BoundedFifo α :=
  ⟨f.capacity, f.capacity_pos, f.items.tail, by
    have := f.length_le
    rw [List.length_tail]
    omega⟩

/-- Remove every element. -/
def clear (f : BoundedFifo α) : BoundedFifo α := ⟨f.capacity, f.capacity_pos, [], Nat.zero_le _⟩

@[simp] theorem capacity_push (f : BoundedFifo α) (a : α) : (f.push a).capacity = f.capacity := rfl
@[simp] theorem capacity_pop (f : BoundedFifo α) : f.pop.capacity = f.capacity := rfl
@[simp] theorem capacity_clear (f : BoundedFifo α) : f.clear.capacity = f.capacity := rfl
@[simp] theorem items_pop (f : BoundedFifo α) : f.pop.items = f.items.tail := rfl
@[simp] theorem items_clear (f : BoundedFifo α) : f.clear.items = [] := rfl
@[simp] theorem items_empty (n : Nat) (h : 0 < n) : (empty n h : BoundedFifo α).items = [] := rfl

theorem full_iff (f : BoundedFifo α) : f.full = true ↔ f.items.length = f.capacity := by
  simp [full]

theorem items_push_of_not_full {f : BoundedFifo α} (h : f.full = false) (a : α) :
    (f.push a).items = f.items ++ [a] := by
  simp [push, h]

theorem items_push_of_full {f : BoundedFifo α} (h : f.full = true) (a : α) :
    (f.push a).items = f.items.tail ++ [a] := by
  simp [push, h]

theorem evicted_of_not_full {f : BoundedFifo α} (h : f.full = false) : f.evicted = none := by
  simp [evicted, h]

/-- A full list has a head to evict. -/
theorem exists_cons_of_full {f : BoundedFifo α} (h : f.full = true) :
    ∃ a l, f.items = a :: l ∧ f.evicted = some a := by
  have hlen := f.full_iff.mp h
  have hpos := f.capacity_pos
  cases hi : f.items with
  | nil => rw [hi, List.length_nil] at hlen; omega
  | cons a l => exact ⟨a, l, rfl, by simp [evicted, h, hi]⟩

/-- The evicted element, the kept ones and the new one are the old elements and
the new one, in order. -/
theorem evicted_append_push (f : BoundedFifo α) (a : α) :
    f.evicted.toList ++ (f.push a).items = f.items ++ [a] := by
  cases h : f.full with
  | false => simp [evicted_of_not_full h, items_push_of_not_full h]
  | true =>
      obtain ⟨b, l, hi, he⟩ := exists_cons_of_full h
      simp [he, items_push_of_full h, hi]

end BoundedFifo
