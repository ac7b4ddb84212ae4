import Mathlib.Algebra.Order.Ring.Nat
import Mathlib.Algebra.BigOperators.Group.List.Basic

/-!
# Lists of states

Several threads, or several transfers, are each in a state of their own, and a step changes the
state of one of them.  The states stand in a list.  A sum over all of them changes as the one state
does (`sum_map_set`), and what is found after the step is the new state or was there before
(`getElem?_set_cases`).
-/

namespace Slots

variable {α : Type} {l : List α} {i j : Nat} {x y z : α}

/-- A sum over the states changes as the one state does. -/
theorem sum_map_set (f : α → Nat) (y : α) : ∀ {l : List α} {i : Nat}, l[i]? = some x →
    ((l.set i y).map f).sum + f x = (l.map f).sum + f y
  | z :: l, 0, h => by
      obtain rfl := Option.some.inj h
      simp only [List.set_cons_zero, List.map_cons, List.sum_cons]
      omega
  | z :: l, i + 1, h => by
      have hrest := sum_map_set f y (l := l) h
      simp only [List.set_cons_succ, List.map_cons, List.sum_cons]
      omega

/-- A sum over the states loses the one that is removed. -/
theorem sum_map_eraseIdx (f : α → Nat) : ∀ {l : List α} {i : Nat}, l[i]? = some x →
    ((l.eraseIdx i).map f).sum + f x = (l.map f).sum
  | z :: l, 0, h => by
      obtain rfl := Option.some.inj h
      rw [List.eraseIdx_cons_zero, List.map_cons, List.sum_cons, Nat.add_comm]
  | z :: l, i + 1, h => by
      have hrest := sum_map_eraseIdx f (l := l) h
      simp only [List.eraseIdx_cons_succ, List.map_cons, List.sum_cons]
      omega

/-- One state alone does not exceed the sum over all. -/
theorem le_sum_map (f : α → Nat) : ∀ {l : List α} {i : Nat}, l[i]? = some x →
    f x ≤ (l.map f).sum
  | z :: l, 0, h => by
      obtain rfl := Option.some.inj h
      rw [List.map_cons, List.sum_cons]
      exact Nat.le_add_right _ _
  | z :: l, i + 1, h => by
      rw [List.map_cons, List.sum_cons]
      exact Nat.le_trans (le_sum_map f (l := l) h) (Nat.le_add_left _ _)

/-- Nor do two different ones. -/
theorem add_le_sum_map (f : α → Nat) : ∀ {l : List α} {i j : Nat}, l[i]? = some x →
    l[j]? = some y → j ≠ i → f x + f y ≤ (l.map f).sum
  | z :: l, 0, 0, _, _, hne => absurd rfl hne
  | z :: l, 0, j + 1, hx, hy, _ => by
      obtain rfl := Option.some.inj hx
      rw [List.map_cons, List.sum_cons]
      exact Nat.add_le_add_left (le_sum_map f (l := l) hy) _
  | z :: l, i + 1, 0, hx, hy, _ => by
      obtain rfl := Option.some.inj hy
      rw [List.map_cons, List.sum_cons, Nat.add_comm]
      exact Nat.add_le_add_left (le_sum_map f (l := l) hx) _
  | z :: l, i + 1, j + 1, hx, hy, hne => by
      rw [List.map_cons, List.sum_cons]
      have hrest := add_le_sum_map f (l := l) hx hy (fun heq => hne (congrArg Nat.succ heq))
      exact Nat.le_trans hrest (Nat.le_add_left _ _)

/-- A sum that is not 0 has a part that is not. -/
theorem exists_of_sum_map_pos (f : α → Nat) : ∀ {l : List α}, 0 < (l.map f).sum →
    ∃ (i : Nat) (x : α), l[i]? = some x ∧ 0 < f x
  | [], h => absurd h (Nat.lt_irrefl 0)
  | z :: l, h => by
      by_cases hz : 0 < f z
      · exact ⟨0, z, rfl, hz⟩
      · rw [List.map_cons, List.sum_cons] at h
        obtain ⟨i, x, hi, hx⟩ := exists_of_sum_map_pos f (l := l) (by omega)
        exact ⟨i + 1, x, hi, hx⟩

theorem getElem?_set_of_some (h : l[i]? = some x) (y : α) : (l.set i y)[i]? = some y :=
  List.getElem?_set_self (List.getElem?_eq_some_iff.mp h).1

/-- A state after the step is the new one or was there before. -/
theorem getElem?_set_cases (h : (l.set i y)[j]? = some z) :
    (j = i ∧ z = y) ∨ (j ≠ i ∧ l[j]? = some z) := by
  rw [List.getElem?_set] at h
  split at h
  next hij =>
    split at h
    · exact .inl ⟨hij.symm, (Option.some.inj h).symm⟩
    · cases h
  next hij => exact .inr ⟨Ne.symm hij, h⟩

/-- What holds of all states holds after the step if it holds of the new state. -/
theorem forall_set {P : Nat → α → Prop} (h : ∀ j z, j ≠ i → l[j]? = some z → P j z) (hy : P i y) :
    ∀ j z, (l.set i y)[j]? = some z → P j z := by
  intro j z hj
  obtain ⟨rfl, rfl⟩ | ⟨hne, hz⟩ := getElem?_set_cases hj
  · exact hy
  · exact h j z hne hz

end Slots
