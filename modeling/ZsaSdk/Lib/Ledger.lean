import Mathlib.Data.Multiset.AddSub

/-!
# Reference ledgers

A component that shares counted objects takes references, drops them, and hands
some of them over to its clients.  The ledger of a component is the sequence of
these operations in the order in which they were carried out.

`replay` reads a ledger from the start and keeps the references the component
owns, as a multiset.  It fails at the first reference that is dropped or handed
over without being owned, so a ledger that replays never releases an object
more often than it was acquired, in any prefix.  `Owns ops m` says that the
ledger replays and leaves exactly the references `m`.
-/

namespace Ledger

variable {α : Type}

/-- One operation on the reference count of an object. -/
inductive RefOp (α : Type) where
  /-- A reference is taken. -/
  | acquire : α → RefOp α
  /-- A reference is dropped. -/
  | release : α → RefOp α
  /-- A reference is handed over to a client, who has to drop it. -/
  | give : α → RefOp α
deriving DecidableEq, Repr

/-- The operation that drops the object behind a pointer that may be null. -/
def releaseOf : Option α → List (RefOp α)
  | none => []
  | some a => [.release a]

/-- The operation that takes a reference to the object behind a pointer that may
be null. -/
def acquireOf : Option α → List (RefOp α)
  | none => []
  | some a => [.acquire a]

/-- The references behind a pointer that may be null. -/
def held : Option α → Multiset α
  | none => 0
  | some a => {a}

@[simp] theorem releaseOf_none : releaseOf (none : Option α) = [] := rfl
@[simp] theorem releaseOf_some (a : α) : releaseOf (some a) = [.release a] := rfl
@[simp] theorem acquireOf_none : acquireOf (none : Option α) = [] := rfl
@[simp] theorem acquireOf_some (a : α) : acquireOf (some a) = [.acquire a] := rfl
@[simp] theorem held_none : held (none : Option α) = 0 := rfl
@[simp] theorem held_some (a : α) : held (some a) = {a} := rfl

theorem card_held (p : Option α) : (held p).card = p.toList.length := by
  cases p with
  | none => rfl
  | some a => exact Multiset.card_singleton a

variable [DecidableEq α]

/-- The references owned after one operation, if the operation is covered. -/
def post : RefOp α → Multiset α → Option (Multiset α)
  | .acquire a, m => some (a ::ₘ m)
  | .release a, m => if a ∈ m then some (m.erase a) else none
  | .give a, m => if a ∈ m then some (m.erase a) else none

/-- Replay a ledger from the references `m`. -/
def replay : List (RefOp α) → Multiset α → Option (Multiset α)
  | [], m => some m
  | op :: ops, m => (post op m).bind (replay ops)

theorem replay_append (ops ops' : List (RefOp α)) (m : Multiset α) :
    replay (ops ++ ops') m = (replay ops m).bind (replay ops') := by
  induction ops generalizing m with
  | nil => rfl
  | cons op ops ih =>
      simp only [List.cons_append, replay]
      cases post op m with
      | none => rfl
      | some m' => exact ih m'

/-- References that a ledger does not need stay where they are. -/
theorem replay_add (k : Multiset α) (ops : List (RefOp α)) : ∀ {m m' : Multiset α},
    replay ops m = some m' → replay ops (m + k) = some (m' + k) := by
  induction ops with
  | nil =>
      intro m m' h
      cases h
      rfl
  | cons op ops ih =>
      intro m m' h
      obtain ⟨n, hn, hrest⟩ := Option.bind_eq_some_iff.mp h
      have hpost : post op (m + k) = some (n + k) := by
        cases op with
        | acquire a =>
            cases hn
            exact congrArg some (Multiset.cons_add a m k).symm
        | release a | give a =>
            simp only [post, Option.ite_none_right_eq_some, Option.some.injEq] at hn ⊢
            obtain ⟨hmem, rfl⟩ := hn
            exact ⟨Multiset.mem_add.mpr (.inl hmem), Multiset.erase_add_left_pos k hmem⟩
      rw [replay, hpost]
      exact ih hrest

theorem count_erase_add {m : Multiset α} {b : α} (h : b ∈ m) (a : α) :
    (m.erase b).count a + (if b = a then 1 else 0) = m.count a := by
  by_cases hab : b = a
  · subst hab
    have hpos := Multiset.count_pos.mpr h
    rw [Multiset.count_erase_self, if_pos rfl]
    omega
  · rw [Multiset.count_erase_of_ne (Ne.symm hab), if_neg hab, Nat.add_zero]

/-- What a ledger leaves of one object is what there was of it, with what was acquired and
without what was dropped or handed over. -/
theorem replay_count (a : α) (ops : List (RefOp α)) : ∀ {m m' : Multiset α},
    replay ops m = some m' →
    m'.count a + (ops.count (.release a) + ops.count (.give a)) =
      m.count a + ops.count (.acquire a) := by
  induction ops with
  | nil =>
      intro m m' h
      cases h
      rfl
  | cons op ops ih =>
      intro m m' h
      obtain ⟨n, hn, hrest⟩ := Option.bind_eq_some_iff.mp h
      have hcount := ih hrest
      cases op with
      | acquire b =>
          cases hn
          rw [Multiset.count_cons] at hcount
          simp only [List.count_cons, beq_iff_eq, RefOp.acquire.injEq, reduceCtorEq, if_false]
          by_cases hab : a = b
          · subst hab
            simp only [if_true] at hcount ⊢
            omega
          · simp only [hab, Ne.symm hab, if_false] at hcount ⊢
            omega
      | release b =>
          simp only [post, Option.ite_none_right_eq_some, Option.some.injEq] at hn
          obtain ⟨hmem, rfl⟩ := hn
          have herase := count_erase_add hmem a
          simp only [List.count_cons, beq_iff_eq, RefOp.release.injEq, reduceCtorEq, if_false]
          omega
      | give b =>
          simp only [post, Option.ite_none_right_eq_some, Option.some.injEq] at hn
          obtain ⟨hmem, rfl⟩ := hn
          have herase := count_erase_add hmem a
          simp only [List.count_cons, beq_iff_eq, RefOp.give.injEq, reduceCtorEq, if_false]
          omega

/-- The ledger replays from nothing and leaves the references `m`. -/
def Owns (ops : List (RefOp α)) (m : Multiset α) : Prop := replay ops 0 = some m

namespace Owns

variable {ops ops' : List (RefOp α)} {m m' : Multiset α} {a : α}

theorem nil : Owns ([] : List (RefOp α)) 0 := rfl

theorem append (h : Owns ops m) (h' : replay ops' m = some m') : Owns (ops ++ ops') m' := by
  simp only [Owns] at *
  rw [replay_append, h]
  exact h'

/-- A ledger of its own after another one. -/
theorem append_owns (h : Owns ops m) (h' : Owns ops' m') : Owns (ops ++ ops') (m' + m) := by
  have hframe := replay_add m ops' h'
  rw [Multiset.zero_add] at hframe
  exact h.append hframe

/-- No prefix of a ledger that replays drops more than it took. -/
theorem of_append (h : Owns (ops ++ ops') m) : ∃ m', Owns ops m' := by
  simp only [Owns] at *
  rw [replay_append] at h
  cases hp : replay ops 0 with
  | none => rw [hp] at h; cases h
  | some m' => exact ⟨m', rfl⟩

/-- In no prefix of a ledger that replays is an object dropped or handed over more often than
it was acquired. -/
theorem count_le_of_append (h : Owns (ops ++ ops') m) (a : α) :
    ops.count (.release a) + ops.count (.give a) ≤ ops.count (.acquire a) := by
  obtain ⟨m', hm'⟩ := h.of_append
  have hcount := replay_count a ops hm'
  rw [Multiset.count_zero] at hcount
  omega

theorem acquire (h : Owns ops m) : Owns (ops ++ [.acquire a]) (a ::ₘ m) := h.append rfl

theorem release (h : Owns ops (a ::ₘ m)) : Owns (ops ++ [.release a]) m :=
  h.append (by simp [replay, post])

theorem give (h : Owns ops (a ::ₘ m)) : Owns (ops ++ [.give a]) m :=
  h.append (by simp [replay, post])

theorem acquireOf (h : Owns ops m) (p : Option α) :
    Owns (ops ++ Ledger.acquireOf p) (held p + m) := by
  cases p with
  | none => simpa using h
  | some a => simpa using h.acquire (a := a)

theorem releaseOf {p : Option α} (h : Owns ops (held p + m)) :
    Owns (ops ++ Ledger.releaseOf p) m := by
  cases p with
  | none => simpa using h
  | some a => exact release (by simpa using h)

/-- Dropping every reference of a list that is owned. -/
theorem releaseAll {l : List α} (h : Owns ops ((l : Multiset α) + m)) :
    Owns (ops ++ l.map RefOp.release) m := by
  induction l generalizing ops with
  | nil => simpa using h
  | cons a l ih =>
      have h1 : Owns (ops ++ [.release a]) ((l : Multiset α) + m) := release (by
        rw [← Multiset.cons_coe, Multiset.cons_add] at h
        exact h)
      simpa using ih h1

theorem congr (h : Owns ops m) (e : m = m') : Owns ops m' := e ▸ h

end Owns

end Ledger
