import Mathlib.Data.List.GetD

/-!
# Strings with a terminator

A C string is a list of characters, none of them 0, and lies in memory with a 0 behind it.
`readAt` reads the memory at a position relative to its start.  From 0 to the length of the string
the position is inside, and elsewhere the memory holds anything.

`strncmp` compares two strings position by position and stops at a difference, at a terminator or
at the limit.  It returns the number of positions it has compared, too.
-/

/-- A string of characters other than the terminator. -/
structure CString where
  chars : List UInt8
  ne_zero : ∀ c ∈ chars, c ≠ 0
deriving DecidableEq

namespace CString

/-- `strlen` -/
def strlen (s : CString) : Nat := s.chars.length

/-- A character of the string, or its terminator. -/
def charAt (s : CString) (i : Nat) : UInt8 := s.chars.getD i 0

/-- The memory around a string that starts at position 0. -/
def readAt (s : CString) (around : Int → UInt8) (position : Int) : UInt8 :=
  if 0 ≤ position ∧ position ≤ s.strlen then s.charAt position.toNat else around position

/-- The position is one of the string or that of its terminator. -/
def Inside (s : CString) (position : Int) : Prop := 0 ≤ position ∧ position ≤ s.strlen

/-- `strncmp` from position `i` on, with `n` positions left. -/
def compareFrom (a b : Nat → UInt8) : Nat → Nat → Int × Nat
  | 0, i => (0, i)
  | n + 1, i =>
      if a i ≠ b i then ((a i).toNat - (b i).toNat, i + 1)
      else if a i = 0 then (0, i + 1)
      else compareFrom a b n (i + 1)

/-- `strncmp`: the difference and the number of positions that are compared. -/
def strncmp (a b : Nat → UInt8) (n : Nat) : Int × Nat := compareFrom a b n 0

variable {s : CString} {a b : Nat → UInt8}

theorem compareFrom_snd_le (n : Nat) : ∀ i, (compareFrom a b n i).2 ≤ i + n := by
  induction n with
  | zero => exact fun i => Nat.le_refl _
  | succ n ih =>
      intro i
      rw [compareFrom]
      split
      · exact Nat.add_le_add_left (Nat.succ_le_succ (Nat.zero_le n)) i
      · split
        · exact Nat.add_le_add_left (Nat.succ_le_succ (Nat.zero_le n)) i
        · exact Nat.le_trans (ih (i + 1)) (Nat.le_of_eq (by omega))

theorem le_compareFrom_snd (n : Nat) : ∀ i, i ≤ (compareFrom a b n i).2 := by
  induction n with
  | zero => exact fun i => Nat.le_refl _
  | succ n ih =>
      intro i
      rw [compareFrom]
      split
      · exact Nat.le_succ i
      · split
        · exact Nat.le_succ i
        · exact Nat.le_trans (Nat.le_succ i) (ih (i + 1))

/-- If anything may be compared, the first position is. -/
theorem lt_compareFrom_snd (n i : Nat) : i < (compareFrom a b (n + 1) i).2 := by
  rw [compareFrom]
  split
  · exact Nat.lt_succ_self i
  · split
    · exact Nat.lt_succ_self i
    · exact le_compareFrom_snd n (i + 1)

theorem toNat_sub_eq_zero_iff {x y : UInt8} : ((x.toNat : Int) - y.toNat = 0) ↔ x = y := by
  rw [Int.sub_eq_zero, Int.ofNat_inj, UInt8.toNat_inj]

/-- Against a string that ends at the limit, the result is 0 precisely if every position agrees. -/
theorem compareFrom_eq_zero_iff (n : Nat) : ∀ i, (∀ j, j < n → b (i + j) ≠ 0) → b (i + n) = 0 →
    ((compareFrom a b (n + 1) i).1 = 0 ↔ ∀ j, j ≤ n → a (i + j) = b (i + j)) := by
  induction n with
  | zero =>
      intro i _ hend
      have hall : (∀ j, j ≤ 0 → a (i + j) = b (i + j)) ↔ a i = b i :=
        ⟨fun h => h 0 (Nat.le_refl 0), fun h j hj => by rw [Nat.le_zero.mp hj]; exact h⟩
      rw [hall, compareFrom]
      split
      · next hdiff => exact ⟨fun h => toNat_sub_eq_zero_iff.mp h, fun h => absurd h hdiff⟩
      · next hsame =>
        split
        · exact ⟨fun _ => not_not.mp hsame, fun _ => rfl⟩
        · exact ⟨fun _ => not_not.mp hsame, fun _ => rfl⟩
  | succ n ih =>
      intro i hne hend
      rw [compareFrom]
      split
      · next hdiff =>
        exact ⟨fun h => absurd (toNat_sub_eq_zero_iff.mp h) hdiff,
          fun h => absurd (h 0 (Nat.zero_le _)) hdiff⟩
      · next hsame =>
        have hhead : a i = b i := not_not.mp hsame
        split
        · next hzero => exact absurd (hhead.symm.trans hzero) (hne 0 (Nat.succ_pos n))
        · have hshift : ∀ j, i + 1 + j = i + (j + 1) := fun j => by omega
          rw [ih (i + 1) (fun j hj => by rw [hshift]; exact hne (j + 1) (Nat.succ_lt_succ hj))
            (by rw [hshift]; exact hend)]
          constructor
          · intro h j hj
            cases j with
            | zero => exact hhead
            | succ j =>
                rw [← hshift]
                exact h j (Nat.le_of_succ_le_succ hj)
          · intro h j hj
            rw [hshift]
            exact h (j + 1) (Nat.succ_le_succ hj)

/-! ## Characters of a string -/

theorem readAt_of_le (around : Int → UInt8) {i : Nat} (h : i ≤ s.strlen) :
    s.readAt around i = s.charAt i := by
  rw [readAt, if_pos ⟨Int.natCast_nonneg i, Int.ofNat_le.mpr h⟩, Int.toNat_natCast]

theorem charAt_strlen (s : CString) : s.charAt s.strlen = 0 := by
  rw [charAt, strlen, List.getD_eq_getElem?_getD, List.getElem?_eq_none (Nat.le_refl _)]
  rfl

/-- The terminator is the only 0. -/
theorem charAt_ne_zero {i : Nat} (h : i < s.strlen) : s.charAt i ≠ 0 := by
  rw [charAt, List.getD_eq_getElem?_getD, List.getElem?_eq_getElem h]
  exact s.ne_zero _ (List.getElem_mem h)

/-- A string agrees with another one from position `k` on, terminator included, if it is the rest
of it. -/
theorem agrees_iff (t : CString) {k : Nat} (h : k + t.strlen ≤ s.strlen) :
    (∀ j, j ≤ t.strlen → s.charAt (k + j) = t.charAt j) ↔ s.chars.drop k = t.chars := by
  constructor
  · intro hagrees
    have hend : k + t.strlen = s.strlen := by
      refine Nat.le_antisymm h (Nat.le_of_not_lt fun hlt => charAt_ne_zero hlt ?_)
      rw [hagrees _ (Nat.le_refl _), charAt_strlen]
    have hlength : (s.chars.drop k).length = t.chars.length := by
      rw [List.length_drop]
      simp only [strlen] at hend
      omega
    refine List.ext_getElem hlength fun j hj hj' => ?_
    have hchar := hagrees j (Nat.le_of_lt hj')
    have hlt : k + j < s.chars.length := by
      rw [List.length_drop] at hj
      omega
    rw [charAt, charAt, List.getD_eq_getElem _ _ hlt, List.getD_eq_getElem _ _ hj'] at hchar
    rw [List.getElem_drop, hchar]
  · intro hdrop j _
    rw [charAt, charAt, ← hdrop, List.getD_eq_getElem?_getD, List.getD_eq_getElem?_getD,
      List.getElem?_drop]

/-- The comparison of the memory behind position `k` with a string. -/
theorem strncmp_readAt_eq_zero_iff (t : CString) (around : Int → UInt8) {k : Nat}
    (h : k + t.strlen ≤ s.strlen) :
    (strncmp (fun j => s.readAt around (k + j : Nat)) t.charAt (t.strlen + 1)).1 = 0 ↔
      s.chars.drop k = t.chars := by
  rw [← agrees_iff t h, strncmp, compareFrom_eq_zero_iff t.strlen 0 ?_ ?_]
  · refine forall₂_congr fun j hj => ?_
    rw [Nat.zero_add, readAt_of_le around (Nat.le_trans (Nat.add_le_add_left hj k) h)]
  · intro j hj
    rw [Nat.zero_add]
    exact charAt_ne_zero hj
  · rw [Nat.zero_add]
    exact t.charAt_strlen

end CString
