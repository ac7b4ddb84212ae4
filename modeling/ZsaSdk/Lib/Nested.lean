import ZsaSdk.Lib.Ledger

/-!
# Nested ledgers

Some resources are built on one another: a device is found in a context, and a stream belongs to a
device.  They have to be given up in the opposite order to the one in which they were taken.

`replayNested` reads a ledger with a stack instead of a multiset: only the resource that was taken
last may be given up.  `Nested ops st` says that the ledger replays from nothing and leaves the
stack `st`.  A nested ledger replays in particular as a ledger (`Nested.owns`), so it gives up
nothing twice.
-/

namespace Ledger

variable {α : Type} [DecidableEq α]

/-- The stack after one operation, if the operation is allowed. -/
def postNested : RefOp α → List α → Option (List α)
  | .acquire a, st => some (a :: st)
  | .release _, [] => none
  | .release a, b :: st => if a = b then some st else none
  | .give _, [] => none
  | .give a, b :: st => if a = b then some st else none

/-- Replay a ledger from the stack `st`. -/
def replayNested : List (RefOp α) → List α → Option (List α)
  | [], st => some st
  | op :: ops, st => (postNested op st).bind (replayNested ops)

/-- The ledger replays from nothing and leaves the stack `st`. -/
def Nested (ops : List (RefOp α)) (st : List α) : Prop := replayNested ops [] = some st

theorem replayNested_append (ops ops' : List (RefOp α)) (st : List α) :
    replayNested (ops ++ ops') st = (replayNested ops st).bind (replayNested ops') := by
  induction ops generalizing st with
  | nil => rfl
  | cons op ops ih =>
      simp only [List.cons_append, replayNested]
      cases postNested op st with
      | none => rfl
      | some st' => exact ih st'

/-- What a stack allows, a multiset allows. -/
theorem post_of_postNested {op : RefOp α} {st st' : List α} (h : postNested op st = some st') :
    post op (st : Multiset α) = some (st' : Multiset α) := by
  cases op with
  | acquire a =>
      cases h
      rfl
  | release a | give a =>
      cases st with
      | nil => cases h
      | cons b st =>
          simp only [postNested, Option.ite_none_right_eq_some, Option.some.injEq] at h
          obtain ⟨rfl, rfl⟩ := h
          simp [post]

theorem replay_of_replayNested (ops : List (RefOp α)) : ∀ {st st' : List α},
    replayNested ops st = some st' → replay ops (st : Multiset α) = some (st' : Multiset α) := by
  induction ops with
  | nil =>
      intro st st' h
      cases h
      rfl
  | cons op ops ih =>
      intro st st' h
      obtain ⟨v, hv, hrest⟩ := Option.bind_eq_some_iff.mp h
      rw [replay, post_of_postNested hv]
      exact ih hrest

namespace Nested

variable {ops ops' : List (RefOp α)} {st st' : List α} {a : α}

theorem nil : Nested ([] : List (RefOp α)) [] := rfl

theorem owns (h : Nested ops st) : Owns ops (st : Multiset α) := replay_of_replayNested ops h

theorem append (h : Nested ops st) (h' : replayNested ops' st = some st') :
    Nested (ops ++ ops') st' := by
  rw [Nested, replayNested_append, h]
  exact h'

theorem acquire (h : Nested ops st) : Nested (ops ++ [.acquire a]) (a :: st) := h.append rfl

theorem release (h : Nested ops (a :: st)) : Nested (ops ++ [.release a]) st :=
  h.append (by simp [replayNested, postNested])

theorem releaseOf {p : Option α} (h : Nested ops (p.toList ++ st)) :
    Nested (ops ++ Ledger.releaseOf p) st := by
  cases p with
  | none => simpa using h
  | some a => exact release h

theorem congr (h : Nested ops st) (e : st = st') : Nested ops st' := e ▸ h

end Nested

end Ledger
