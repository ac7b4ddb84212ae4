import Mathlib.Order.Bounds.Basic

/-!
# Rounding up in a table

A table is a list in increasing order.  A value is rounded up to the first entry that is not
below it, and to the last entry if all are.  The search for that entry (`find`) is described
by `Rounds`, which determines the result (`Rounds.unique`), is monotone in the value
(`Rounds.mono`) and leaves entries alone (`Rounds.of_mem`).
-/

namespace RoundUp

variable {α : Type} [LinearOrder α] {l : List α} {a b r r' : α}

/-- The first entry that is not below `a`, or `last`. -/
def find (l : List α) (last a : α) : α := (l.find? (a ≤ ·)).getD last

/-- `r` is the least entry that is not below `a`, or the last entry if there is none. -/
def Rounds (l : List α) (a r : α) : Prop :=
  IsLeast {y | y ∈ l ∧ a ≤ y} r ∨ ((∀ y ∈ l, y < a) ∧ l.getLast? = some r)

/-- In a table the first entry that is found is the least. -/
theorem isLeast_of_find? (hl : l.Pairwise (· ≤ ·)) (h : l.find? (a ≤ ·) = some r) :
    IsLeast {y | y ∈ l ∧ a ≤ y} r := by
  obtain ⟨har, before, after, rfl, hbefore⟩ := List.find?_eq_some_iff_append.mp h
  refine ⟨⟨List.mem_append_right _ List.mem_cons_self, of_decide_eq_true har⟩, ?_⟩
  intro y hy
  rcases List.mem_append.mp hy.1 with hm | hm
  · have hfalse := hbefore y hm
    simp only [hy.2, decide_true, Bool.not_true, Bool.false_eq_true] at hfalse
  · rcases List.mem_cons.mp hm with rfl | hm
    · exact le_refl y
    · exact (List.pairwise_cons.mp (List.pairwise_append.mp hl).2.1).1 y hm

theorem rounds_find (hl : l.Pairwise (· ≤ ·)) {last : α} (hlast : l.getLast? = some last) (a : α) :
    Rounds l a (find l last a) := by
  rw [find]
  cases h : l.find? (a ≤ ·) with
  | some r => exact Or.inl (isLeast_of_find? hl h)
  | none =>
      refine Or.inr ⟨fun y hy => ?_, hlast⟩
      have hne := List.find?_eq_none.mp h y hy
      simpa using hne

theorem Rounds.mem (h : Rounds l a r) : r ∈ l := by
  rcases h with h | ⟨-, h⟩
  · exact h.1.1
  · exact List.mem_of_getLast? h

theorem le_getLast? (hl : l.Pairwise (· ≤ ·)) (hr : l.getLast? = some r) {y : α} (hy : y ∈ l) :
    y ≤ r := by
  obtain ⟨init, rfl⟩ := List.getLast?_eq_some_iff.mp hr
  rcases List.mem_append.mp hy with hm | hm
  · exact (List.pairwise_append.mp hl).2.2 y hm r (List.mem_singleton_self r)
  · exact le_of_eq (List.mem_singleton.mp hm)

theorem Rounds.mono (hl : l.Pairwise (· ≤ ·)) (hr : Rounds l a r) (hr' : Rounds l b r')
    (hab : a ≤ b) : r ≤ r' := by
  rcases hr' with hr' | ⟨-, hlast⟩
  · rcases hr with hr | ⟨hall, -⟩
    · exact hr.2 ⟨hr'.1.1, hab.trans hr'.1.2⟩
    · exact absurd (hab.trans hr'.1.2) (not_le.mpr (hall r' hr'.1.1))
  · exact le_getLast? hl hlast hr.mem

theorem Rounds.unique (hl : l.Pairwise (· ≤ ·)) (hr : Rounds l a r) (hr' : Rounds l a r') :
    r = r' :=
  le_antisymm (hr.mono hl hr' (le_refl a)) (hr'.mono hl hr (le_refl a))

/-- An entry is rounded to itself. -/
theorem Rounds.of_mem (hr : r ∈ l) : Rounds l r r :=
  Or.inl ⟨⟨hr, le_refl r⟩, fun _ hy => hy.2⟩

end RoundUp
