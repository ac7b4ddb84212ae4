import Mathlib.Algebra.BigOperators.Group.List.Basic

/-!
# Tables of objects

Objects that are created and destroyed stand in a list, each at the index it was created
with.  A destroyed object leaves a hole, so an index is never used for two objects.

`lookup` follows an index.  `total f` sums a quantity over the table, holes included, and
changes with one entry as that entry does (`total_set`).
-/

namespace Table

variable {α M : Type}

/-- The object at an index, if it has not been destroyed. -/
def lookup (l : List (Option α)) (i : Nat) : Option α := l[i]?.join

variable {l : List (Option α)} {i j : Nat} {x : α}

theorem getElem?_of_lookup (h : lookup l i = some x) : l[i]? = some (some x) := by
  rw [lookup] at h
  cases hi : l[i]? with
  | none =>
      rw [hi] at h
      cases h
  | some y =>
      rw [hi] at h
      exact congrArg some h

theorem lt_of_lookup (h : lookup l i = some x) : i < l.length :=
  (List.getElem?_eq_some_iff.mp (getElem?_of_lookup h)).1

/-- An object is not at an index that leads nowhere. -/
theorem ne_of_lookup (h : lookup l i = some x) (hnone : lookup l j = none) : i ≠ j := by
  rintro rfl
  rw [hnone] at h
  cases h

theorem lookup_set_self (h : lookup l i = some x) (y : Option α) : lookup (l.set i y) i = y := by
  rw [lookup, List.getElem?_set_self (lt_of_lookup h)]
  rfl

theorem lookup_set_ne (h : i ≠ j) (y : Option α) : lookup (l.set i y) j = lookup l j := by
  rw [lookup, List.getElem?_set_ne h]
  rfl

theorem lookup_append_self (l : List (Option α)) (y : Option α) :
    lookup (l ++ [y]) l.length = y := by
  rw [lookup, List.getElem?_concat_length]
  rfl

theorem lookup_append_ne (h : j ≠ l.length) (y : Option α) : lookup (l ++ [y]) j = lookup l j := by
  rw [lookup, lookup, List.getElem?_append]
  split
  · rfl
  · have hnone : l[j]? = none := List.getElem?_eq_none (by omega)
    have hnil : [y][j - l.length]? = none := List.getElem?_eq_none (by simp; omega)
    rw [hnil, hnone]

theorem lookup_length (l : List (Option α)) : lookup l l.length = none := by
  rw [lookup, List.getElem?_eq_none (Nat.le_refl _)]
  rfl

/-- An object that was created and destroyed leaves no trace. -/
@[simp] theorem lookup_append_none (l : List (Option α)) (j : Nat) :
    lookup (l ++ [none]) j = lookup l j := by
  by_cases h : j = l.length
  · rw [h, lookup_append_self, lookup_length]
  · exact lookup_append_ne h none

/-- What holds of every object of a table without holes holds with one object more. -/
theorem lookup_append_of_lt {P : Nat → α → Prop} {n : Nat} (hlength : l.length = n)
    (hl : ∀ j, j < n → ∃ y, lookup l j = some y ∧ P j y) (hx : P n x) (hj : j < n + 1) :
    ∃ y, lookup (l ++ [some x]) j = some y ∧ P j y := by
  by_cases h : j = l.length
  · subst h
    exact ⟨x, lookup_append_self _ _, hlength ▸ hx⟩
  · rw [lookup_append_ne h]
    exact hl j (by omega)

variable [AddCommMonoid M] (f : Option α → M)

/-- The sum of a quantity over the table. -/
def total (l : List (Option α)) : M := (l.map f).sum

theorem total_append (l : List (Option α)) (y : Option α) :
    total f (l ++ [y]) = f y + total f l := by
  simp [total, add_comm]

/-- The sum without one entry. -/
theorem total_set : ∀ {l : List (Option α)} {i : Nat} {x : Option α}, l[i]? = some x →
    ∃ m, total f l = f x + m ∧ ∀ y, total f (l.set i y) = f y + m
  | z :: l, 0, x, h => by
      obtain rfl := Option.some.inj h
      exact ⟨total f l, List.sum_cons, fun _ => List.sum_cons⟩
  | z :: l, i + 1, x, h => by
      obtain ⟨m, hm, hset⟩ := total_set (l := l) h
      have hcons : ∀ (w : Option α) (t : List (Option α)), total f (w :: t) = f w + total f t :=
        fun _ _ => List.sum_cons
      refine ⟨f z + m, ?_, fun y => ?_⟩
      · rw [hcons, hm, add_left_comm]
      · rw [List.set_cons_succ, hcons, hset, add_left_comm]

end Table
