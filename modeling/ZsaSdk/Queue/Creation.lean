import Mathlib.Algebra.Order.Group.Multiset
import ZsaSdk.Queue.Memory

/-!
# Creating and destroying queues

`queue_create` makes four calls that can fail: `calloc` for the context, `malloc` for the ring,
`Lock_Init` and `Condition_Init`.  `QueueAnswers` holds what they answer, with `none` for null.
The memory, locks and conditions that are taken and given back are entered in a ledger.

The context is allocated before the arguments are checked, it is used without a check, and the
answer of `Condition_Init` is not looked at.  A ring or a lock that is missing is noticed, and
then `queue_destroy` gives back what there is.
-/

namespace ZsaSdk

open Ledger (RefOp releaseOf acquireOf held Owns)

/-- What the allocator and the threading library hand out. -/
inductive QueueResource where
  | memory (address : Nat)
  | lock (handle : Nat)
  | condition (handle : Nat)
deriving DecidableEq, Repr

/-- What the calls made by `queue_create` answer. -/
structure QueueAnswers where
  context : Option Nat
  queue : Option Nat
  lock : Option Nat
  condition : Option Nat
deriving DecidableEq, Repr

/-- What `queue_create` leaves: its result, `*queue_handle` and the ledger. -/
structure QueueCreated where
  result : Result
  handle : Option QueueMemory
  log : List (RefOp QueueResource)
deriving DecidableEq, Repr

/-- What `queue_destroy` leaves. -/
structure QueueDestroyed where
  /-- An invalid access has been made. -/
  fault : Bool
  captures : List (RefOp CaptureHandle)
  log : List (RefOp QueueResource)
deriving DecidableEq, Repr

namespace QueueMemory

/-- A context from `calloc`. -/
def zero (context : Nat) : QueueMemory :=
  ⟨context, false, false, 0, 0, 0, none, 0, none, 0, none, none, false⟩

/-! ## The two functions -/

/-- The end of `queue_destroy`, after `queue_disable`. -/
def frees (q : QueueMemory) : List (RefOp QueueResource) :=
  releaseOf (q.condition.map .condition) ++
    (releaseOf (q.queue.map fun block => .memory block.address) ++
      (releaseOf (q.lock.map .lock) ++ [.release (.memory q.context)]))

/-- `queue_destroy` -/
def queueDestroy (q : QueueMemory) : QueueDestroyed :=
  let r := q.queueDisable
  ⟨r.queue.fault, r.refs, r.queue.frees⟩

/-- The clean-up of `queue_create`. -/
def abandon (q : QueueMemory) (log : List (RefOp QueueResource)) : Option QueueCreated :=
  let d := q.queueDestroy
  if d.fault then none else some ⟨.failed, none, log ++ d.log⟩

/-- Store the arguments of `queue_create`. -/
def describe (q : QueueMemory) (queueDepth : UInt32) (queueName : Option String) : QueueMemory :=
  { q with
    -- Adding one; see `inc_read_write_location`.
    depth := (queueDepth + 1).toNat
    name := some (queueName.getD "Unknown queue") }

/-- The cells of a ring from `malloc`; the handle they hold is a placeholder. -/
def withQueue (q : QueueMemory) (answer : Option Nat) : QueueMemory :=
  { q with queue := answer.map fun address => ⟨address, List.replicate q.depth default⟩ }

def withLock (q : QueueMemory) (answer : Option Nat) : QueueMemory := { q with lock := answer }

def withCondition (q : QueueMemory) (answer : Option Nat) : QueueMemory :=
  { q with condition := answer }

/-- `queue_create`; `none` stands for an access through a null pointer. -/
def queueCreate (queueDepth : UInt32) (queueName : Option String) (a : QueueAnswers) :
    Option QueueCreated :=
  let handle := a.context.map zero
  let log := acquireOf (a.context.map .memory)
  if queueDepth = 0 then some ⟨.failed, handle, log⟩
  else if queueDepth > 10000 then some ⟨.failed, handle, log⟩
  else
    match handle with
    | none => none
    | some queue =>
        let queue := (queue.describe queueDepth queueName).withQueue a.queue
        let log := log ++ acquireOf (a.queue.map .memory)
        if queue.queue = none then queue.abandon log
        else
          let queue := queue.withLock a.lock
          let log := log ++ acquireOf (a.lock.map .lock)
          if queue.lock = none then queue.abandon log
          else
            some ⟨.succeeded, some (queue.withCondition a.condition),
              log ++ acquireOf (a.condition.map .condition)⟩

/-! ## What is given back -/

/-- What a queue has to give back. -/
def resources (q : QueueMemory) : Multiset QueueResource :=
  held (q.condition.map .condition) +
    (held (q.queue.map fun block => .memory block.address) +
      (held (q.lock.map .lock) + {.memory q.context}))

/-- The end of `queue_destroy` gives back what the queue has. -/
theorem owns_frees {ops : List (RefOp QueueResource)} {m : Multiset QueueResource}
    {q : QueueMemory} (h : Owns ops (q.resources + m)) : Owns (ops ++ q.frees) m := by
  simp only [resources, Multiset.add_assoc] at h
  have hrest := Owns.release (h.releaseOf.releaseOf.releaseOf)
  simpa only [frees, List.append_assoc] using hrest

/-! Each part that is there is one more resource. -/

theorem resources_withQueue {q : QueueMemory} (h : q.queue = none) (answer : Option Nat) :
    (q.withQueue answer).resources = held (answer.map .memory) + q.resources := by
  simp only [resources, withQueue, h, Option.map_map, Option.map_none, Ledger.held_none,
    Multiset.zero_add]
  exact add_left_comm _ _ _

theorem resources_withLock {q : QueueMemory} (h : q.lock = none) (answer : Option Nat) :
    (q.withLock answer).resources = held (answer.map .lock) + q.resources := by
  simp only [resources, withLock, h, Option.map_none, Ledger.held_none, Multiset.zero_add]
  rw [add_left_comm (held (q.queue.map _)), add_left_comm]

theorem resources_withCondition {q : QueueMemory} (h : q.condition = none) (answer : Option Nat) :
    (q.withCondition answer).resources = held (answer.map .condition) + q.resources := by
  simp only [resources, withCondition, h, Option.map_none, Ledger.held_none, Multiset.zero_add]

/-- A queue that is disabled, holds no capture and has seen no invalid access. -/
structure Idle (q : QueueMemory) : Prop where
  disabled : q.enabled = false
  empty : q.writeLocation = q.readLocation
  sound : q.fault = false

/-- Disabling changes nothing then, whether there is a ring or not. -/
theorem Idle.queueDisable {q : QueueMemory} (h : q.Idle) : q.queueDisable = ⟨q, []⟩ := by
  have hbegin : q.queueDisableBegin = q := by
    rw [queueDisableBegin, setEnabled, ← h.disabled]
  rw [queueDisable_of_empty h.empty, hbegin]

theorem Idle.queueDestroy {q : QueueMemory} (h : q.Idle) :
    q.queueDestroy = ⟨false, [], q.frees⟩ := by
  rw [QueueMemory.queueDestroy, h.queueDisable, h.sound]

/-- The clean-up leaves nothing. -/
theorem Idle.abandon {q : QueueMemory} {log : List (RefOp QueueResource)} (h : q.Idle)
    (howns : Owns log q.resources) :
    ∃ log', q.abandon log = some ⟨.failed, none, log'⟩ ∧ Owns log' 0 := by
  refine ⟨log ++ q.frees, ?_, owns_frees (howns.congr (Multiset.add_zero _).symm)⟩
  rw [QueueMemory.abandon, h.queueDestroy]
  rfl

/-! ## All or nothing -/

/-- A queue of a given depth that is ready for use: its ring has a spare slot, its lock and its
condition are there, and whatever is done to it makes no invalid access and keeps both. -/
structure Complete (queueDepth : UInt32) (q : QueueMemory) : Prop where
  slots : ∃ block, q.queue = some block ∧ block.cells.length = queueDepth.toNat + 1
  lock : q.lock ≠ none
  condition : q.condition ≠ none
  safe : ∀ stretches : List QueueStretch,
    (stretches.foldl stretch q).fault = false ∧ (stretches.foldl stretch q).lock = q.lock ∧
      (stretches.foldl stretch q).condition = q.condition

/-- The creation of a queue succeeds with a complete queue, or fails and leaves nothing. -/
def AllOrNothing (queueDepth : UInt32) : Option QueueCreated → Prop
  | none => False
  | some ⟨.failed, handle, log⟩ => handle = none ∧ Owns log 0
  | some ⟨.succeeded, handle, _⟩ => ∃ q, handle = some q ∧ Complete queueDepth q

end QueueMemory

/-- The depth passes the checks of `queue_create`. -/
def AcceptedDepth (queueDepth : UInt32) : Prop := queueDepth ≠ 0 ∧ ¬ queueDepth > 10000

/-- The ring and the lock are there, so that `queue_create` notices no failure. -/
def QueueAnswers.built (a : QueueAnswers) : Prop := a.queue ≠ none ∧ a.lock ≠ none

namespace QueueMemory

variable {queueDepth : UInt32} {queueName : Option String} {a : QueueAnswers}

/-- The ways in which `queue_create` ends for a depth that passes its checks. -/
inductive CreateEnd (queueDepth : UInt32) (a : QueueAnswers) : Option QueueCreated → Prop where
  /-- The context is null and is used. -/
  | crashed : a.context = none → CreateEnd queueDepth a none
  /-- A failure is noticed and everything is given back. -/
  | undone {log : List (RefOp QueueResource)} : a.context ≠ none → ¬ a.built → Owns log 0 →
      CreateEnd queueDepth a (some ⟨.failed, none, log⟩)
  | created {q : QueueMemory} {log : List (RefOp QueueResource)} : a.context ≠ none → a.built →
      q.Idle → Owns log q.resources → (Complete queueDepth q ↔ a.condition ≠ none) →
      CreateEnd queueDepth a (some ⟨.succeeded, some q, log⟩)

/-- A ring in memory is complete. -/
theorem complete_hold (parts : QueueParts) {q : QueueContext}
    (hq : ZsaSdk.queueCreate queueDepth = some q) : Complete queueDepth (parts.hold q) := by
  have hdepth : q.depth = queueDepth.toNat + 1 := by
    simp only [ZsaSdk.queueCreate] at hq
    split at hq
    · cases hq
    · split at hq
      · cases hq
      · cases hq
        rfl
  refine ⟨⟨_, rfl, ?_⟩, Option.some_ne_none _, Option.some_ne_none _, fun stretches => ?_⟩
  · rw [Vector.length_toList, hdepth]
  · rw [parts.run_hold]
    exact ⟨rfl, rfl, rfl⟩

/-- What `queue_create` has built before the condition. -/
def locked (queueDepth : UInt32) (queueName : Option String) (context : Nat)
    (queue lock : Option Nat) : QueueMemory :=
  (((zero context).describe queueDepth queueName).withQueue queue).withLock lock

/-- With all its parts it is the ring of a queue that was just created. -/
theorem withCondition_eq_hold (hd : AcceptedDepth queueDepth) (queueName : Option String)
    (context queue lock condition : Nat) :
    ∃ q, ZsaSdk.queueCreate queueDepth = some q ∧
      (locked queueDepth queueName context (some queue) (some lock)).withCondition
          (some condition) =
        QueueParts.hold ⟨context, queue, lock, condition, queueName.getD "Unknown queue"⟩ q := by
  have hsucc : (queueDepth + 1).toNat = queueDepth.toNat + 1 := by
    have hle : queueDepth.toNat ≤ 10000 := UInt32.le_iff_toNat_le.mp (UInt32.not_lt.mp hd.2)
    rw [UInt32.toNat_add, UInt32.toNat_one]
    omega
  refine ⟨_, by rw [ZsaSdk.queueCreate, dif_neg hd.1, if_neg hd.2], ?_⟩
  simp only [locked, describe, withQueue, withLock, withCondition, zero, QueueParts.hold, hsucc,
    Option.map_some]
  rfl

theorem complete_withCondition_iff (hd : AcceptedDepth queueDepth) (context : Nat)
    {queue lock : Option Nat} (hqueue : queue ≠ none) (hlock : lock ≠ none)
    (condition : Option Nat) :
    Complete queueDepth ((locked queueDepth queueName context queue lock).withCondition
      condition) ↔ condition ≠ none := by
  refine ⟨fun h => h.condition, fun hcondition => ?_⟩
  obtain ⟨queue, rfl⟩ := Option.ne_none_iff_exists'.mp hqueue
  obtain ⟨lock, rfl⟩ := Option.ne_none_iff_exists'.mp hlock
  obtain ⟨condition, rfl⟩ := Option.ne_none_iff_exists'.mp hcondition
  obtain ⟨q, hq, heq⟩ := withCondition_eq_hold hd queueName context queue lock condition
  rw [heq]
  exact complete_hold _ hq

theorem queueCreate_ends (hd : AcceptedDepth queueDepth) (queueName : Option String)
    (a : QueueAnswers) : CreateEnd queueDepth a (queueCreate queueDepth queueName a) := by
  obtain ⟨context, queue, lock, condition⟩ := a
  rw [queueCreate, if_neg hd.1, if_neg hd.2]
  cases context with
  | none => exact .crashed rfl
  | some context =>
      -- After each call the ledger is what the fields of the context say.
      have hcontext : Owns [.acquire (QueueResource.memory context)]
          ((zero context).describe queueDepth queueName).resources := Owns.nil.acquire
      have hring := (hcontext.acquireOf (queue.map .memory)).congr
        (resources_withQueue rfl queue).symm
      have hlocked := (hring.acquireOf (lock.map .lock)).congr (resources_withLock rfl lock).symm
      have hall := (hlocked.acquireOf (condition.map .condition)).congr
        (resources_withCondition rfl condition).symm
      simp only [Option.map_some]
      split
      · next hnone =>
        have hidle : (((zero context).describe queueDepth queueName).withQueue queue).Idle :=
          ⟨rfl, rfl, rfl⟩
        obtain ⟨log, hlog, howns⟩ := hidle.abandon hring
        rw [Ledger.acquireOf_some, hlog]
        exact .undone nofun (fun h => h.1 (Option.map_eq_none_iff.mp hnone)) howns
      · next hqueue =>
        split
        · next hnone =>
          have hidle : (locked queueDepth queueName context queue lock).Idle := ⟨rfl, rfl, rfl⟩
          obtain ⟨log, hlog, howns⟩ := hidle.abandon hlocked
          rw [Ledger.acquireOf_some]
          exact cast (congrArg _ hlog.symm) (CreateEnd.undone nofun (fun h => h.2 hnone) howns)
        · next hlock =>
          have hqueue : queue ≠ none := fun h => hqueue (Option.map_eq_none_iff.mpr h)
          exact .created nofun ⟨hqueue, hlock⟩ ⟨rfl, rfl, rfl⟩ hall
            (complete_withCondition_iff hd context hqueue hlock condition)

theorem CreateEnd.allOrNothing_iff {r : Option QueueCreated} (h : CreateEnd queueDepth a r) :
    AllOrNothing queueDepth r ↔ a.context ≠ none ∧ (a.built → a.condition ≠ none) := by
  cases h with
  | crashed hcontext => exact ⟨False.elim, fun h => h.1 hcontext⟩
  | undone hcontext hbuilt howns =>
      exact ⟨fun _ => ⟨hcontext, fun h => absurd h hbuilt⟩, fun _ => ⟨rfl, howns⟩⟩
  | created hcontext hbuilt _ _ hcomplete =>
      constructor
      · rintro ⟨q, heq, hq⟩
        obtain rfl := Option.some.inj heq
        exact ⟨hcontext, fun _ => hcomplete.mp hq⟩
      · exact fun h => ⟨_, rfl, hcomplete.mpr (h.2 hbuilt)⟩

/-- A depth that is refused leaves the context. -/
theorem queueCreate_of_refused (hd : ¬ AcceptedDepth queueDepth) (queueName : Option String)
    (a : QueueAnswers) : queueCreate queueDepth queueName a =
      some ⟨.failed, a.context.map zero, acquireOf (a.context.map .memory)⟩ := by
  rw [queueCreate]
  split
  · rfl
  · next hzero =>
    split
    · rfl
    · next hlarge => exact absurd ⟨hzero, hlarge⟩ hd

/-- When the creation of a queue is all or nothing. -/
theorem allOrNothing_queueCreate_iff (queueDepth : UInt32) (queueName : Option String)
    (a : QueueAnswers) : AllOrNothing queueDepth (queueCreate queueDepth queueName a) ↔
      (AcceptedDepth queueDepth ∧ a.context ≠ none ∧ (a.built → a.condition ≠ none)) ∨
      (¬ AcceptedDepth queueDepth ∧ a.context = none) := by
  by_cases hd : AcceptedDepth queueDepth
  · rw [(queueCreate_ends hd queueName a).allOrNothing_iff]
    exact ⟨fun h => .inl ⟨hd, h⟩, fun h => h.elim And.right fun h' => absurd hd h'.1⟩
  · rw [queueCreate_of_refused hd]
    constructor
    · exact fun h => .inr ⟨hd, Option.map_eq_none_iff.mp h.1⟩
    · rintro (h | ⟨-, hcontext⟩)
      · exact absurd h.1 hd
      · rw [hcontext]
        exact ⟨rfl, Owns.nil⟩

end QueueMemory

end ZsaSdk
