import Mathlib.Data.List.Basic

/-!
# Merging two lists by their heads

Two lists are consumed from the front.  As long as both have a head, a choice that
looks at the two heads alone consumes the left one, the right one or both.
`run choose as bs` gives the events in order and what is left of the lists, of
which one is empty.

The result does not depend on how the lists arrive: consuming two prefixes first and
going on with what is left when more has arrived gives the same as consuming the
whole lists (`run_append`).
-/

namespace HeadMerge

variable {α β : Type}

/-- Which of two heads to consume. -/
inductive Choice where
  | left
  | right
  | both
deriving DecidableEq, Repr

/-- One consumption. -/
inductive Event (α β : Type) where
  | left (a : α)
  | right (b : β)
  | both (a : α) (b : β)
deriving DecidableEq, Repr

/-- What a merge did and what it left. -/
structure Outcome (α β : Type) where
  events : List (Event α β)
  left : List α
  right : List β
deriving DecidableEq, Repr

namespace Outcome

/-- An event before an outcome. -/
def cons (e : Event α β) (o : Outcome α β) : Outcome α β := ⟨e :: o.events, o.left, o.right⟩

/-- More events before an outcome. -/
def prepend (es : List (Event α β)) (o : Outcome α β) : Outcome α β :=
  ⟨es ++ o.events, o.left, o.right⟩

end Outcome

/-- The head `a` of the left list against the right list; `rest` goes on after `a`. -/
def consume (choose : α → β → Choice) (a : α) (as : List α) (rest : List β → Outcome α β) :
    List β → Outcome α β
  | [] => ⟨[], a :: as, []⟩
  | b :: bs =>
      match choose a b with
      | .left => (rest (b :: bs)).cons (.left a)
      | .right => (consume choose a as rest bs).cons (.right b)
      | .both => (rest bs).cons (.both a b)

/-- Merge two lists. -/
def run (choose : α → β → Choice) : List α → List β → Outcome α β
  | [], bs => ⟨[], [], bs⟩
  | a :: as, bs => consume choose a as (run choose as) bs

variable (choose : α → β → Choice)

@[simp] theorem run_nil_left (bs : List β) : run choose [] bs = ⟨[], [], bs⟩ := rfl

@[simp] theorem run_nil_right (as : List α) : run choose as [] = ⟨[], as, []⟩ := by
  cases as <;> rfl

theorem run_cons_cons (a : α) (as : List α) (b : β) (bs : List β) :
    run choose (a :: as) (b :: bs) =
      match choose a b with
      | .left => (run choose as (b :: bs)).cons (.left a)
      | .right => (run choose (a :: as) bs).cons (.right b)
      | .both => (run choose as bs).cons (.both a b) := rfl

/-- The order in which the lists arrive does not matter. -/
theorem run_append (as' : List α) (bs' : List β) : ∀ (as : List α) (bs : List β),
    run choose (as ++ as') (bs ++ bs') =
      (run choose ((run choose as bs).left ++ as') ((run choose as bs).right ++ bs')).prepend
        (run choose as bs).events := by
  intro as
  induction as with
  | nil => intro bs; rfl
  | cons a as iha =>
      intro bs
      induction bs with
      | nil => rfl
      | cons b bs ihb =>
          rw [List.cons_append, List.cons_append, run_cons_cons, run_cons_cons]
          cases choose a b with
          | left =>
              have h := iha (b :: bs)
              rw [List.cons_append] at h
              simp only [h]
              rfl
          | right =>
              rw [List.cons_append] at ihb
              simp only [ihb]
              rfl
          | both =>
              simp only [iha bs]
              rfl

end HeadMerge
