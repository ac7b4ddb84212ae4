import Mathlib.Data.List.Basic
import ZsaSdk.Lib.BoundedFifo

/-!
# Delay lines

A line that holds its newest `delay` elements back.  An element leaves it when `delay` newer ones
have been pushed.  Then it waits in a bounded list until it is taken, or is evicted by the next
ones; a line that does not forward throws it away instead.

*History.*  `Account` relates a line to what has been pushed to it and taken from it.  The elements
that were pushed are those that are gone, those that wait and those that are held back, in this
order, and the ones that were taken are some of those that are gone (`Account.take`).  Nothing more
is gone with a push that does not find the list full (`Account.push`).
-/

/-- A line with its elements, oldest first. -/
structure DelayLine (α : Type) where
  delay : Nat
  forwards : Bool
  held : List α
  ready : BoundedFifo α

namespace DelayLine

variable {α : Type}

/-- The line without elements. -/
def empty (delay : Nat) (forwards : Bool) (capacity : Nat) (h : 0 < capacity) : DelayLine α :=
  ⟨delay, forwards, [], .empty capacity h⟩

/-- An element leaves the line. -/
def emit (l : DelayLine α) (a : α) : DelayLine α :=
  if l.forwards then { l with ready := l.ready.push a } else l

/-- An element enters the line, and the oldest one leaves it if enough are held back. -/
def push (l : DelayLine α) (a : α) : DelayLine α :=
  if l.held.length < l.delay then { l with held := l.held ++ [a] }
  else
    match l.held with
    | [] => l.emit a
    | b :: rest => { l.emit b with held := rest ++ [a] }

/-- The oldest element that waits is taken. -/
def take (l : DelayLine α) : DelayLine α := { l with ready := l.ready.pop }

theorem emit_of_forwards {l : DelayLine α} (h : l.forwards = true) (a : α) :
    l.emit a = { l with ready := l.ready.push a } := if_pos h

theorem emit_of_not_forwards {l : DelayLine α} (h : l.forwards = false) (a : α) : l.emit a = l := by
  rw [emit, h]
  rfl

theorem push_of_room {l : DelayLine α} (h : l.held.length < l.delay) (a : α) :
    l.push a = { l with held := l.held ++ [a] } := if_pos h

theorem push_nil {l : DelayLine α} (h : ¬l.held.length < l.delay) (hheld : l.held = []) (a : α) :
    l.push a = l.emit a := by
  unfold push
  rw [if_neg h, hheld]

theorem push_cons {l : DelayLine α} {b : α} {rest : List α} (h : ¬l.held.length < l.delay)
    (hheld : l.held = b :: rest) (a : α) :
    l.push a = { l.emit b with held := rest ++ [a] } := by
  unfold push
  rw [if_neg h, hheld]

/-- Nothing waits, so nothing is taken. -/
theorem take_nil {l : DelayLine α} (h : l.ready.items = []) : l.take = l := by
  have hpop : l.ready.pop = l.ready := by
    refine BoundedFifo.ext rfl ?_
    rw [BoundedFifo.items_pop, h]
    rfl
  rw [take, hpop]

@[simp] theorem delay_take (l : DelayLine α) : l.take.delay = l.delay := rfl

@[simp] theorem forwards_take (l : DelayLine α) : l.take.forwards = l.forwards := rfl

@[simp] theorem capacity_take (l : DelayLine α) : l.take.ready.capacity = l.ready.capacity := rfl

@[simp] theorem delay_emit (l : DelayLine α) (a : α) : (l.emit a).delay = l.delay := by
  unfold emit
  split <;> rfl

@[simp] theorem forwards_emit (l : DelayLine α) (a : α) : (l.emit a).forwards = l.forwards := by
  unfold emit
  split <;> rfl

@[simp] theorem held_emit (l : DelayLine α) (a : α) : (l.emit a).held = l.held := by
  unfold emit
  split <;> rfl

@[simp] theorem capacity_emit (l : DelayLine α) (a : α) :
    (l.emit a).ready.capacity = l.ready.capacity := by
  unfold emit
  split <;> rfl

@[simp] theorem delay_push (l : DelayLine α) (a : α) : (l.push a).delay = l.delay := by
  unfold push
  split
  · rfl
  · split
    · exact delay_emit l a
    · exact delay_emit l _

@[simp] theorem forwards_push (l : DelayLine α) (a : α) : (l.push a).forwards = l.forwards := by
  unfold push
  split
  · rfl
  · split
    · exact forwards_emit l a
    · exact forwards_emit l _

@[simp] theorem capacity_push (l : DelayLine α) (a : α) :
    (l.push a).ready.capacity = l.ready.capacity := by
  unfold push
  split
  · rfl
  · split
    · exact capacity_emit l a
    · exact capacity_emit l _

/-! ## What has become of the elements -/

/-- What has been pushed, what is gone, and what of it was taken. -/
structure Account (l : DelayLine α) (pushed gone taken : List α) : Prop where
  pushed_eq : pushed = gone ++ l.ready.items ++ l.held
  held_length : l.held.length = min l.delay pushed.length
  taken_sublist : taken.Sublist gone
  thrown : l.forwards = false → l.ready.items = [] ∧ taken = []

variable {l : DelayLine α} {pushed gone taken : List α}

theorem account_empty (delay : Nat) (forwards : Bool) (capacity : Nat) (h : 0 < capacity) :
    Account (empty delay forwards capacity h : DelayLine α) [] [] [] where
  pushed_eq := rfl
  held_length := (Nat.min_zero delay).symm
  taken_sublist := List.Sublist.refl []
  thrown _ := ⟨rfl, rfl⟩

/-- What has left the line is what is gone and what waits. -/
theorem Account.take_eq (h : Account l pushed gone taken) :
    pushed.take (pushed.length - l.delay) = gone ++ l.ready.items := by
  have hlength : pushed.length = (gone ++ l.ready.items).length + l.held.length := by
    conv => lhs; rw [h.pushed_eq]
    exact List.length_append
  have hheld := h.held_length
  have hcut : pushed.length - l.delay = (gone ++ l.ready.items).length := by omega
  rw [hcut]
  conv => lhs; rw [h.pushed_eq]
  exact List.take_left

/-- What was taken has left the line before. -/
theorem Account.taken_sublist_take (h : Account l pushed gone taken) :
    taken.Sublist (pushed.take (pushed.length - l.delay)) := by
  rw [h.take_eq]
  exact h.taken_sublist.trans (List.sublist_append_left gone l.ready.items)

/-- If nothing is lost so far and one more element finds room among those that have left the line,
then the list is not full. -/
theorem Account.not_full_of_room (h : Account l pushed gone taken) (hgone : gone = taken)
    (hroom : pushed.length + 1 - l.delay ≤ taken.length + l.ready.capacity) :
    l.ready.full = false := by
  have hleft := congrArg List.length h.take_eq
  rw [List.length_take, List.length_append, hgone] at hleft
  have hpos := l.ready.capacity_pos
  rw [Bool.eq_false_iff]
  intro hfull
  have hlength := (BoundedFifo.full_iff l.ready).mp hfull
  omega

/-- The element that leaves comes behind those that wait, or is thrown away. -/
theorem Account.emit (h : Account l pushed gone taken) (a : α) :
    ∃ more, (gone ++ more) ++ (l.emit a).ready.items = gone ++ l.ready.items ++ [a] ∧
      (l.forwards = false → (l.emit a).ready.items = []) ∧
      (l.forwards = true → l.ready.full = false → more = []) := by
  cases hf : l.forwards with
  | true =>
      have hemit : (l.emit a).ready = l.ready.push a := by rw [emit_of_forwards hf]
      refine ⟨l.ready.evicted.toList, ?_, ?_, ?_⟩
      · rw [hemit, List.append_assoc, l.ready.evicted_append_push a, List.append_assoc]
      · intro hfalse
        cases hfalse
      · intro _ hfull
        rw [BoundedFifo.evicted_of_not_full hfull]
        rfl
  | false =>
      have hemit : (l.emit a).ready = l.ready := by rw [emit_of_not_forwards hf]
      have hempty : l.ready.items = [] := (h.thrown hf).1
      refine ⟨[a], ?_, ?_, ?_⟩
      · rw [hemit, hempty, List.append_nil, List.append_nil]
      · intro _
        rw [hemit, hempty]
      · intro htrue
        cases htrue

/-- An element more that has been pushed.  Nothing is lost if those that wait leave room. -/
theorem Account.push (h : Account l pushed gone taken) (a : α) :
    ∃ more, Account (l.push a) (pushed ++ [a]) (gone ++ more) taken ∧
      (l.forwards = true → l.ready.full = false → more = []) := by
  have hlength := h.held_length
  have htaken : ∀ more, taken.Sublist (gone ++ more) := fun more =>
    h.taken_sublist.trans (List.sublist_append_left gone more)
  by_cases hroom : l.held.length < l.delay
  · have hpush := push_of_room hroom a
    refine ⟨[], ⟨?_, ?_, htaken [], ?_⟩, fun _ _ => rfl⟩
    · rw [hpush, h.pushed_eq, List.append_nil, List.append_assoc]
    · rw [hpush, List.length_append, List.length_append, List.length_singleton]
      simp only
      omega
    · rw [hpush]
      exact h.thrown
  · have hdry : ∀ b, (l.forwards = false → (l.emit b).ready.items = []) →
        (l.emit b).forwards = false → (l.emit b).ready.items = [] ∧ taken = [] := by
      intro b hb hf
      rw [forwards_emit] at hf
      exact ⟨hb hf, (h.thrown hf).2⟩
    cases hheld : l.held with
    | nil =>
        have hpush := push_nil hroom hheld a
        obtain ⟨more, hmore, hb, hfull⟩ := h.emit a
        refine ⟨more, ⟨?_, ?_, htaken more, ?_⟩, hfull⟩
        · rw [hpush, hmore, held_emit, hheld, List.append_nil, h.pushed_eq, hheld, List.append_nil]
        · rw [hheld, List.length_nil] at hlength hroom
          rw [hpush, held_emit, hheld, delay_emit, List.length_nil]
          omega
        · rw [hpush]
          exact hdry a hb
    | cons b rest =>
        have hpush := push_cons hroom hheld a
        obtain ⟨more, hmore, hb, hfull⟩ := h.emit b
        refine ⟨more, ⟨?_, ?_, htaken more, ?_⟩, hfull⟩
        · rw [hpush, hmore, h.pushed_eq, hheld]
          simp
        · rw [hheld, List.length_cons] at hlength hroom
          rw [hpush, List.length_append, List.length_append, List.length_singleton]
          simp only [delay_emit]
          omega
        · rw [hpush]
          exact hdry b hb

/-- The oldest element that waits has been taken. -/
theorem Account.take (h : Account l pushed gone taken) {a : α} {rest : List α}
    (hready : l.ready.items = a :: rest) :
    Account l.take pushed (gone ++ [a]) (taken ++ [a]) where
  pushed_eq := by
    rw [h.pushed_eq, hready]
    simp [DelayLine.take, hready]
  held_length := h.held_length
  taken_sublist := h.taken_sublist.append (List.Sublist.refl [a])
  thrown hf := by
    rw [(h.thrown hf).1] at hready
    cases hready

end DelayLine
