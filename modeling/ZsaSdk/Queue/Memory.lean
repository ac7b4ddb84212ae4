import ZsaSdk.Queue.Refinement

/-!
# Queues in memory

`QueueContext` has its ring by type.  While a queue is created and destroyed its pointers can be
null, and then `queue_context_t` is `QueueMemory`: the ring is a block or null, and the locations
are plain numbers.  An access through a null pointer or outside of the ring sets `fault`, which
the code does not have.  `Lock`, `Unlock`, `Condition_Post` and `Condition_Wait` refuse a null
handle with an error, which `queue.c` looks at only after a wait.

A complete queue is a `QueueContext` whose parts lie somewhere (`QueueParts.hold`).  Every call
does the same to the memory as to the ring, so no call makes an invalid access.
-/

namespace ZsaSdk

open Ledger

/-- A block of `queue_entry_t`. -/
structure QueueBlock where
  address : Nat
  cells : List CaptureHandle
deriving DecidableEq, Repr

/-- `queue_context_t` -/
structure QueueMemory where
  /-- The address of the context. -/
  context : Nat
  enabled : Bool
  stopped : Bool
  queuePopBlocked : UInt32
  readLocation : Nat
  writeLocation : Nat
  queue : Option QueueBlock
  depth : Nat
  name : Option String
  droppedCount : UInt32
  lock : Option Nat
  condition : Option Nat
  /-- An invalid access has been made. -/
  fault : Bool
deriving DecidableEq, Repr

namespace QueueMemory

/-- `inc_read_write_location` -/
def incReadWriteLocation (q : QueueMemory) (location : Nat) : Nat := (location + 1) % q.depth

/-- `is_queue_empty` -/
def isQueueEmpty (q : QueueMemory) : Bool := q.writeLocation == q.readLocation

/-- `is_queue_full` -/
def isQueueFull (q : QueueMemory) : Bool :=
  q.incReadWriteLocation q.writeLocation == q.readLocation

/-- The entry at a location, if there is one. -/
def entry (q : QueueMemory) (location : Nat) : Option CaptureHandle :=
  q.queue.bind fun block => block.cells[location]?

/-! ### Updates of one field -/

def setEnabled (q : QueueMemory) (b : Bool) : QueueMemory := { q with enabled := b }

def setStopped (q : QueueMemory) (b : Bool) : QueueMemory := { q with stopped := b }

def incPopBlocked (q : QueueMemory) : QueueMemory :=
  { q with queuePopBlocked := q.queuePopBlocked + 1 }

def decPopBlocked (q : QueueMemory) : QueueMemory :=
  { q with queuePopBlocked := q.queuePopBlocked - 1 }

def setDroppedCount (q : QueueMemory) (n : UInt32) : QueueMemory := { q with droppedCount := n }

/-! ## Stretches under the lock -/

/-- `queue_pop_internal_locked` -/
def queuePopInternalLocked (q : QueueMemory) : Option CaptureHandle × QueueMemory :=
  if q.isQueueEmpty = false then
    match q.entry q.readLocation with
    | some capture =>
        (some capture, { q with readLocation := q.incReadWriteLocation q.readLocation })
    | none => (none, { q with fault := true })
  else (none, q)

/-- `queue_push_internal_locked` -/
def queuePushInternalLocked (q : QueueMemory) (capture : CaptureHandle) : QueueMemory :=
  match q.queue with
  | some block =>
      if q.writeLocation < block.cells.length then
        { q with
          queue := some { block with cells := block.cells.set q.writeLocation capture }
          writeLocation := q.incReadWriteLocation q.writeLocation }
      else { q with fault := true }
  | none => { q with fault := true }

/-- `queue_push_w_dropped` -/
def queuePushWDropped (q : QueueMemory) (capture : CaptureHandle) (wantDropped : Bool) :
    PushReturn QueueMemory :=
  if q.enabled = false then ⟨q, none, []⟩
  else if q.isQueueFull then
    let popped := q.queuePopInternalLocked
    if wantDropped = false then
      let q := popped.2.setDroppedCount (popped.2.droppedCount + 1)
      ⟨q.queuePushInternalLocked capture, none, releaseOf popped.1 ++ [.acquire capture]⟩
    else ⟨popped.2.queuePushInternalLocked capture, popped.1, [.acquire capture]⟩
  else ⟨q.queuePushInternalLocked capture, none, [.acquire capture]⟩

/-- The end of `queue_pop`, from its second test of `enabled` to the unlock. -/
def queuePopFinish (q : QueueMemory) (wresult : WaitResult) (capture : Option CaptureHandle) :
    PopReturn QueueMemory :=
  if q.enabled = false then ⟨q.setDroppedCount 0, .failed, none, releaseOf capture⟩
  else ⟨q.setDroppedCount 0, wresult, capture, []⟩

/-- `queue_pop` from its lock to the unlock, or to `Condition_Wait`, where it leaves the queue
to other threads. -/
def queuePopEnter (q : QueueMemory) (waitInMs : Int32) : PopReturn QueueMemory ⊕ QueueMemory :=
  if q.enabled = false then .inl (q.queuePopFinish .failed none)
  else
    let popped := q.incPopBlocked.queuePopInternalLocked
    match popped.1 with
    | some capture => .inl (popped.2.decPopBlocked.queuePopFinish .succeeded (some capture))
    | none =>
        if waitInMs ≠ 0 then .inr popped.2
        else .inl (popped.2.decPopBlocked.queuePopFinish .timeout none)

/-- `queue_pop` from the return of `Condition_Wait` to the unlock. -/
def queuePopResume (q : QueueMemory) (condResult : CondResult) : PopReturn QueueMemory :=
  match condResult with
  | .ok =>
      let popped := q.queuePopInternalLocked
      popped.2.decPopBlocked.queuePopFinish .succeeded popped.1
  | .timeout => q.decPopBlocked.queuePopFinish .timeout none
  | .invalidArg | .error => q.decPopBlocked.queuePopFinish .failed none

/-- `queue_enable` -/
def queueEnable (q : QueueMemory) : QueueMemory := (q.setEnabled true).setStopped false

/-- The first stretch of `queue_disable`. -/
def queueDisableBegin (q : QueueMemory) : QueueMemory := q.setEnabled false

/-- The last stretch of `queue_disable`. -/
def queueDrain (q : QueueMemory) : DisableReturn QueueMemory :=
  Loop.run (fun r => !r.queue.isQueueEmpty)
    (fun r =>
      let popped := r.queue.queuePopInternalLocked
      ⟨popped.2, r.refs ++ releaseOf popped.1⟩)
    q.depth ⟨q, []⟩

/-- `queue_disable`, when no pop is blocked. -/
def queueDisable (q : QueueMemory) : DisableReturn QueueMemory := q.queueDisableBegin.queueDrain

/-- A queue with nothing in it is only marked as disabled. -/
theorem queueDisable_of_empty {q : QueueMemory} (h : q.writeLocation = q.readLocation) :
    q.queueDisable = ⟨q.queueDisableBegin, []⟩ := by
  refine Loop.run_false ?_ _
  simp only [isQueueEmpty, queueDisableBegin, setEnabled, h, beq_self_eq_true, Bool.not_true]

end QueueMemory

/-! ## Complete queues -/

/-- Where the parts of a queue are, and its name. -/
structure QueueParts where
  context : Nat
  queue : Nat
  lock : Nat
  condition : Nat
  name : String

/-- A queue whose parts are all there. -/
def QueueParts.hold (parts : QueueParts) (q : QueueContext) : QueueMemory where
  context := parts.context
  enabled := q.enabled
  stopped := q.stopped
  queuePopBlocked := q.queuePopBlocked
  readLocation := q.readLocation
  writeLocation := q.writeLocation
  queue := some ⟨parts.queue, q.queue.toList⟩
  depth := q.depth
  name := some parts.name
  droppedCount := q.droppedCount
  lock := some parts.lock
  condition := some parts.condition
  fault := false

namespace QueueParts

variable (parts : QueueParts) (q : QueueContext)

@[simp] theorem enabled_hold : (parts.hold q).enabled = q.enabled := rfl
@[simp] theorem droppedCount_hold : (parts.hold q).droppedCount = q.droppedCount := rfl
@[simp] theorem incPopBlocked_hold :
    (parts.hold q).incPopBlocked = parts.hold q.incPopBlocked := rfl
@[simp] theorem decPopBlocked_hold :
    (parts.hold q).decPopBlocked = parts.hold q.decPopBlocked := rfl
@[simp] theorem setDroppedCount_hold (n : UInt32) :
    (parts.hold q).setDroppedCount n = parts.hold (q.setDroppedCount n) := rfl

@[simp] theorem isQueueEmpty_hold : (parts.hold q).isQueueEmpty = q.isQueueEmpty := by
  rw [Bool.eq_iff_iff, QueueMemory.isQueueEmpty, QueueContext.isQueueEmpty, beq_iff_eq, beq_iff_eq,
    Fin.ext_iff]
  rfl

@[simp] theorem isQueueFull_hold : (parts.hold q).isQueueFull = q.isQueueFull := by
  rw [Bool.eq_iff_iff, QueueMemory.isQueueFull, QueueContext.isQueueFull, beq_iff_eq, beq_iff_eq,
    Fin.ext_iff]
  rfl

theorem entry_hold (i : Fin q.depth) : (parts.hold q).entry i = some (q.queue.get i) := by
  simp [QueueMemory.entry, hold, Vector.get]

theorem queuePopInternalLocked_hold : (parts.hold q).queuePopInternalLocked =
    ((queuePopInternalLocked q).1, parts.hold (queuePopInternalLocked q).2) := by
  rw [QueueMemory.queuePopInternalLocked, queuePopInternalLocked, isQueueEmpty_hold]
  split
  · have hentry := parts.entry_hold q q.readLocation
    simp only [show (parts.hold q).readLocation = q.readLocation from rfl, hentry]
    rfl
  · rfl

theorem queuePushInternalLocked_hold (capture : CaptureHandle) :
    (parts.hold q).queuePushInternalLocked capture =
      parts.hold (queuePushInternalLocked q capture) := by
  have hlength : (parts.hold q).writeLocation < q.queue.toList.length := by
    rw [Vector.length_toList]
    exact q.writeLocation.isLt
  simp only [QueueMemory.queuePushInternalLocked,
    show (parts.hold q).queue = some ⟨parts.queue, q.queue.toList⟩ from rfl, if_pos hlength]
  rw [hold, hold, queuePushInternalLocked, Vector.toList_set]
  rfl

theorem queuePushWDropped_hold (capture : CaptureHandle) (wantDropped : Bool) :
    (parts.hold q).queuePushWDropped capture wantDropped =
      (queuePushWDropped q capture wantDropped).map parts.hold := by
  simp only [QueueMemory.queuePushWDropped, queuePushWDropped, enabled_hold, isQueueFull_hold,
    queuePopInternalLocked_hold, droppedCount_hold, setDroppedCount_hold,
    queuePushInternalLocked_hold]
  split
  · rfl
  · split
    · split
      · rfl
      · rfl
    · rfl

theorem queuePopFinish_hold (wresult : WaitResult) (capture : Option CaptureHandle) :
    (parts.hold q).queuePopFinish wresult capture =
      (queuePopFinish q wresult capture).map parts.hold := by
  rw [QueueMemory.queuePopFinish, queuePopFinish, enabled_hold, setDroppedCount_hold]
  split
  · rfl
  · rfl

/-- The queue after the first stretch of a pop, and what the pop returns if it does not wait. -/
def popStep : PopStep → PopReturn QueueMemory ⊕ QueueMemory
  | .returned r => .inl (r.map parts.hold)
  | .waiting q => .inr (parts.hold q)

theorem queuePopEnter_hold (waitInMs : Int32) :
    (parts.hold q).queuePopEnter waitInMs = parts.popStep (queuePopEnter q waitInMs) := by
  simp only [QueueMemory.queuePopEnter, queuePopEnter, enabled_hold, incPopBlocked_hold,
    queuePopInternalLocked_hold, decPopBlocked_hold, queuePopFinish_hold]
  split
  · rfl
  · cases (queuePopInternalLocked q.incPopBlocked).1 with
    | some capture => rfl
    | none =>
        dsimp only
        split
        · rfl
        · rfl

theorem queuePopResume_hold (condResult : CondResult) :
    (parts.hold q).queuePopResume condResult =
      (queuePopResume q condResult).map parts.hold := by
  cases condResult <;>
    simp only [QueueMemory.queuePopResume, queuePopResume, queuePopInternalLocked_hold,
      decPopBlocked_hold, queuePopFinish_hold]

theorem queueDrain_hold : (parts.hold q).queueDrain = (queueDrain q).map parts.hold := by
  refine (Loop.run_map (DisableReturn.map parts.hold) (fun r => ?_) (fun r _ => ?_) q.depth
    ⟨q, []⟩).symm
  · exact congrArg (! ·) (parts.isQueueEmpty_hold r.queue)
  · simp only [DisableReturn.map, queuePopInternalLocked_hold]

end QueueParts

/-! ## Runs of calls -/

/-- A stretch of a call of `queue.h`.  The calls of several threads are the stretches of their
calls in some order. -/
inductive QueueStretch where
  | push (capture : CaptureHandle) (wantDropped : Bool)
  | popEnter (waitInMs : Int32)
  | popResume (condResult : CondResult)
  | enable
  | markStopped
  | disableBegin
  | drain

/-- What a stretch does to a ring. -/
def QueueContext.stretch (q : QueueContext) : QueueStretch → QueueContext
  | .push capture wantDropped => (queuePushWDropped q capture wantDropped).queue
  | .popEnter waitInMs =>
      match queuePopEnter q waitInMs with
      | .returned r => r.queue
      | .waiting q => q
  | .popResume condResult => (queuePopResume q condResult).queue
  | .enable => queueEnable q
  | .markStopped => q.setStopped true
  | .disableBegin => queueDisableBegin q
  | .drain => (queueDrain q).queue

/-- What a stretch does to a queue in memory. -/
def QueueMemory.stretch (q : QueueMemory) : QueueStretch → QueueMemory
  | .push capture wantDropped => (q.queuePushWDropped capture wantDropped).queue
  | .popEnter waitInMs =>
      match q.queuePopEnter waitInMs with
      | .inl r => r.queue
      | .inr q => q
  | .popResume condResult => (q.queuePopResume condResult).queue
  | .enable => q.queueEnable
  | .markStopped => q.setStopped true
  | .disableBegin => q.queueDisableBegin
  | .drain => q.queueDrain.queue

namespace QueueParts

theorem stretch_hold (parts : QueueParts) (q : QueueContext) (stretch : QueueStretch) :
    (parts.hold q).stretch stretch = parts.hold (q.stretch stretch) := by
  cases stretch with
  | push capture wantDropped =>
      exact congrArg PushReturn.queue (parts.queuePushWDropped_hold q capture wantDropped)
  | popEnter waitInMs =>
      simp only [QueueMemory.stretch, QueueContext.stretch, queuePopEnter_hold]
      cases queuePopEnter q waitInMs with
      | returned r => rfl
      | waiting q' => rfl
  | popResume condResult =>
      exact congrArg PopReturn.queue (parts.queuePopResume_hold q condResult)
  | enable => rfl
  | markStopped => rfl
  | disableBegin => rfl
  | drain => exact congrArg DisableReturn.queue (parts.queueDrain_hold q)

/-- Whatever is done to a complete queue, it stays one. -/
theorem run_hold (parts : QueueParts) (stretches : List QueueStretch) : ∀ q : QueueContext,
    stretches.foldl QueueMemory.stretch (parts.hold q) =
      parts.hold (stretches.foldl QueueContext.stretch q) := by
  induction stretches with
  | nil => exact fun q => rfl
  | cons stretch stretches ih =>
      intro q
      rw [List.foldl_cons, List.foldl_cons, stretch_hold]
      exact ih _

end QueueParts

end ZsaSdk
