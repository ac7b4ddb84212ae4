import ZsaSdk.Types
import ZsaSdk.Lib.Ring
import ZsaSdk.Lib.Loop
import ZsaSdk.Lib.Ledger

/-!
# The capture queue

`queue.c`: a ring buffer of captures under a lock, with a condition variable for
consumers that wait.  `queue_context_t` is `QueueContext`.  Its two locations are
indices of the ring and the ring has `depth` cells by type, so a location outside
the ring cannot be built.  `malloc` leaves the cells uninitialised; the handle
they hold at first is a placeholder.

Every function is modelled as its lock-protected stretches.  `queue_pop` has two,
before and after `Condition_Wait`: `queuePopEnter` and `queuePopResume`, and they
share the tail `queuePopFinish`.  `queue_disable` has a first stretch that clears
`enabled` and a last one that drains the ring: `queueDisableBegin` and
`queueDrain`.  Run by one thread alone, no pop is blocked, the wait of
`queue_disable` is skipped and the stretches follow each other: `queuePop`,
`queueDisable` and `queueStop`.

The calls of `capture_inc_ref` and `capture_dec_ref` are returned as ledger
operations, in the order in which the code makes them.  A reference that moves to
the caller (a popped capture, a capture written to `*dropped`) makes no such call.
-/

namespace ZsaSdk

open Ledger

/-- `queue_context_t`, less its name, lock and condition. -/
structure QueueContext where
  enabled : Bool
  stopped : Bool
  /-- Number of threads inside a `queue_pop` of an enabled queue. -/
  queuePopBlocked : UInt32
  /-- One more than the number of captures the queue can hold. -/
  depth : Nat
  one_lt_depth : 1 < depth
  queue : Vector CaptureHandle depth
  readLocation : Fin depth
  writeLocation : Fin depth
  droppedCount : UInt32

namespace QueueContext

/-- The captures in the ring, oldest first. -/
def contents (q : QueueContext) : List CaptureHandle :=
  Ring.segment q.queue q.readLocation q.writeLocation

/-- `is_queue_empty` -/
def isQueueEmpty (q : QueueContext) : Bool := q.writeLocation == q.readLocation

/-- `is_queue_full` -/
def isQueueFull (q : QueueContext) : Bool := Ring.next q.writeLocation == q.readLocation

/-! ### Updates of one field -/

def setEnabled (q : QueueContext) (b : Bool) : QueueContext := { q with enabled := b }

def setStopped (q : QueueContext) (b : Bool) : QueueContext := { q with stopped := b }

def incPopBlocked (q : QueueContext) : QueueContext :=
  { q with queuePopBlocked := q.queuePopBlocked + 1 }

def decPopBlocked (q : QueueContext) : QueueContext :=
  { q with queuePopBlocked := q.queuePopBlocked - 1 }

def setDroppedCount (q : QueueContext) (n : UInt32) : QueueContext := { q with droppedCount := n }

def incReadLocation (q : QueueContext) : QueueContext :=
  { q with readLocation := Ring.next q.readLocation }

end QueueContext

/-- `queue_create`, when its allocations succeed. -/
def queueCreate (queueDepth : UInt32) : Option QueueContext :=
  if h : queueDepth = 0 then none
  else if queueDepth > 10000 then none
  else
    have hpos : 0 < queueDepth.toNat := by
      rw [Nat.pos_iff_ne_zero]
      intro h0
      exact h (UInt32.toNat_inj.mp h0)
    some
      { enabled := false
        stopped := false
        queuePopBlocked := 0
        depth := queueDepth.toNat + 1
        one_lt_depth := by omega
        queue := Vector.replicate _ default
        readLocation := ⟨0, by omega⟩
        writeLocation := ⟨0, by omega⟩
        droppedCount := 0 }

/-! ## Stretches under the lock -/

/-- `queue_pop_internal_locked` -/
def queuePopInternalLocked (q : QueueContext) : Option CaptureHandle × QueueContext :=
  if q.isQueueEmpty = false then (some (q.queue.get q.readLocation), q.incReadLocation)
  else (none, q)

/-- `queue_push_internal_locked` -/
def queuePushInternalLocked (q : QueueContext) (capture : CaptureHandle) : QueueContext :=
  { q with
    queue := q.queue.set q.writeLocation.val capture q.writeLocation.isLt
    writeLocation := Ring.next q.writeLocation }

/-- What a push leaves: the queue, the capture written to `*dropped`, and the
reference counting calls. -/
structure PushReturn (Q : Type) where
  queue : Q
  dropped : Option CaptureHandle
  refs : List (RefOp CaptureHandle)

/-- What a pop leaves. -/
structure PopReturn (Q : Type) where
  queue : Q
  wresult : WaitResult
  capture : Option CaptureHandle
  refs : List (RefOp CaptureHandle)

/-- What disabling or stopping a queue leaves. -/
structure DisableReturn (Q : Type) where
  queue : Q
  refs : List (RefOp CaptureHandle)

/-- `queue_push_w_dropped`; `wantDropped` says whether `dropped` is non-null.
`queue_push` is the call with `wantDropped = false`. -/
def queuePushWDropped (q : QueueContext) (capture : CaptureHandle) (wantDropped : Bool) :
    PushReturn QueueContext :=
  if q.enabled = false then ⟨q, none, []⟩
  else if q.isQueueFull then
    let popped := queuePopInternalLocked q
    if wantDropped = false then
      let q := popped.2.setDroppedCount (popped.2.droppedCount + 1)
      ⟨queuePushInternalLocked q capture, none, releaseOf popped.1 ++ [.acquire capture]⟩
    else
      ⟨queuePushInternalLocked popped.2 capture, popped.1, [.acquire capture]⟩
  else ⟨queuePushInternalLocked q capture, none, [.acquire capture]⟩

/-- The end of `queue_pop`, from its second test of `enabled` to the unlock. -/
def queuePopFinish (q : QueueContext) (wresult : WaitResult) (capture : Option CaptureHandle) :
    PopReturn QueueContext :=
  if q.enabled = false then ⟨q.setDroppedCount 0, .failed, none, releaseOf capture⟩
  else ⟨q.setDroppedCount 0, wresult, capture, []⟩

/-- The first stretch of `queue_pop` returns, or goes to wait on the condition. -/
inductive PopStep where
  | returned (r : PopReturn QueueContext)
  | waiting (q : QueueContext)

/-- `queue_pop` from its lock to `Condition_Wait` or to the unlock. -/
def queuePopEnter (q : QueueContext) (waitInMs : Int32) : PopStep :=
  if q.enabled = false then .returned (queuePopFinish q .failed none)
  else
    let popped := queuePopInternalLocked q.incPopBlocked
    match popped.1 with
    | some capture => .returned (queuePopFinish popped.2.decPopBlocked .succeeded (some capture))
    | none =>
        if waitInMs ≠ 0 then .waiting popped.2
        else .returned (queuePopFinish popped.2.decPopBlocked .timeout none)

/-- `COND_RESULT` -/
inductive CondResult where
  | ok
  | invalidArg
  | error
  | timeout
deriving DecidableEq, Repr

/-- `queue_pop` from the return of `Condition_Wait` to the unlock. -/
def queuePopResume (q : QueueContext) (condResult : CondResult) : PopReturn QueueContext :=
  match condResult with
  | .ok =>
      let popped := queuePopInternalLocked q
      queuePopFinish popped.2.decPopBlocked .succeeded popped.1
  | .timeout => queuePopFinish q.decPopBlocked .timeout none
  | .invalidArg | .error => queuePopFinish q.decPopBlocked .failed none

/-- The first stretch of `queue_disable`. -/
def queueDisableBegin (q : QueueContext) : QueueContext := q.setEnabled false

/-- The last stretch of `queue_disable`: release what is left in the ring.  The
ring holds fewer captures than it has cells, so `depth` iterations are enough. -/
def queueDrain (q : QueueContext) : DisableReturn QueueContext :=
  Loop.run (fun r => !r.queue.isQueueEmpty)
    (fun r =>
      let popped := queuePopInternalLocked r.queue
      ⟨popped.2, r.refs ++ releaseOf popped.1⟩)
    q.depth ⟨q, []⟩

/-! ## Calls of one thread alone -/

/-- `queue_pop` with `wait_in_ms` 0, which never waits. -/
def queuePop (q : QueueContext) : PopReturn QueueContext :=
  match queuePopEnter q 0 with
  | .returned r => r
  | .waiting q => ⟨q, .timeout, none, []⟩

/-- `queue_enable` -/
def queueEnable (q : QueueContext) : QueueContext := (q.setEnabled true).setStopped false

/-- `queue_disable`, when no pop is blocked. -/
def queueDisable (q : QueueContext) : DisableReturn QueueContext :=
  queueDrain (queueDisableBegin q)

/-- `queue_stop` -/
def queueStop (q : QueueContext) : DisableReturn QueueContext :=
  queueDisable (q.setStopped true)

/-! ## What each stretch does to the contents -/

namespace QueueContext

variable (q : QueueContext)

@[simp] theorem contents_setEnabled (b : Bool) : (q.setEnabled b).contents = q.contents := rfl
@[simp] theorem contents_setStopped (b : Bool) : (q.setStopped b).contents = q.contents := rfl
@[simp] theorem contents_incPopBlocked : q.incPopBlocked.contents = q.contents := rfl
@[simp] theorem contents_decPopBlocked : q.decPopBlocked.contents = q.contents := rfl
@[simp] theorem contents_setDroppedCount (n : UInt32) :
    (q.setDroppedCount n).contents = q.contents := rfl

@[simp] theorem enabled_setEnabled (b : Bool) : (q.setEnabled b).enabled = b := rfl
@[simp] theorem enabled_setStopped (b : Bool) : (q.setStopped b).enabled = q.enabled := rfl
@[simp] theorem enabled_incPopBlocked : q.incPopBlocked.enabled = q.enabled := rfl
@[simp] theorem enabled_decPopBlocked : q.decPopBlocked.enabled = q.enabled := rfl
@[simp] theorem enabled_setDroppedCount (n : UInt32) :
    (q.setDroppedCount n).enabled = q.enabled := rfl
@[simp] theorem enabled_incReadLocation : q.incReadLocation.enabled = q.enabled := rfl
@[simp] theorem enabled_queuePushInternalLocked (c : CaptureHandle) :
    (queuePushInternalLocked q c).enabled = q.enabled := rfl

theorem isQueueEmpty_iff : q.isQueueEmpty = true ↔ q.contents = [] := by
  rw [contents, Ring.segment_eq_nil_iff, isQueueEmpty, beq_iff_eq]
  exact eq_comm

theorem isQueueEmpty_of_cons {c : CaptureHandle} {cs : List CaptureHandle}
    (h : q.contents = c :: cs) : q.isQueueEmpty = false := by
  rw [Bool.eq_false_iff]
  intro he
  rw [q.isQueueEmpty_iff.mp he] at h
  cases h

theorem length_contents_lt : q.contents.length < q.depth := by
  rw [contents, Ring.length_segment]
  exact Ring.count_lt _ _

theorem isQueueFull_iff : q.isQueueFull = true ↔ q.contents.length + 1 = q.depth := by
  rw [contents, Ring.length_segment, isQueueFull, beq_iff_eq]
  exact Ring.next_eq_iff_count _ _

end QueueContext

theorem queuePopInternalLocked_nil {q : QueueContext} (h : q.contents = []) :
    queuePopInternalLocked q = (none, q) := by
  have he : q.isQueueEmpty = true := q.isQueueEmpty_iff.mpr h
  simp [queuePopInternalLocked, he]

theorem queuePopInternalLocked_cons {q : QueueContext} {c : CaptureHandle}
    {cs : List CaptureHandle} (h : q.contents = c :: cs) :
    queuePopInternalLocked q = (some c, q.incReadLocation) ∧ q.incReadLocation.contents = cs := by
  have he := q.isQueueEmpty_of_cons h
  have hne : q.readLocation ≠ q.writeLocation := by
    intro e
    simp [QueueContext.isQueueEmpty, e] at he
  rw [QueueContext.contents, Ring.segment_of_ne _ hne, List.cons.injEq] at h
  obtain ⟨hc, hcs⟩ := h
  refine ⟨?_, hcs⟩
  simp [queuePopInternalLocked, he, hc]

theorem contents_queuePushInternalLocked {q : QueueContext} (c : CaptureHandle)
    (h : q.isQueueFull = false) :
    (queuePushInternalLocked q c).contents = q.contents ++ [c] := by
  have hne : Ring.next q.writeLocation ≠ q.readLocation := by
    simpa [QueueContext.isQueueFull] using h
  exact Ring.segment_push q.queue c hne

/-- Draining releases the contents in order, leaves an empty ring and changes
neither the flags nor the counters. -/
theorem queueDrain_spec (q : QueueContext) :
    (queueDrain q).refs = q.contents.map .release ∧ (queueDrain q).queue.contents = [] ∧
      (queueDrain q).queue.depth = q.depth ∧ (queueDrain q).queue.enabled = q.enabled ∧
      (queueDrain q).queue.queuePopBlocked = q.queuePopBlocked := by
  -- The loop keeps `released ++ contents`, and only the read location moves.
  have key : ∀ (n : Nat) (p : QueueContext) (refs : List (RefOp CaptureHandle)),
      p.contents.length < n →
      ∃ p', Loop.run (fun r : DisableReturn QueueContext => !r.queue.isQueueEmpty)
          (fun r =>
            let popped := queuePopInternalLocked r.queue
            ⟨popped.2, r.refs ++ releaseOf popped.1⟩) n ⟨p, refs⟩ =
        ⟨p', refs ++ p.contents.map .release⟩ ∧
        p'.contents = [] ∧ p'.depth = p.depth ∧ p'.enabled = p.enabled ∧
        p'.queuePopBlocked = p.queuePopBlocked := by
    intro n
    induction n with
    | zero => intro p refs h; exact absurd h (Nat.not_lt_zero _)
    | succ n ih =>
        intro p refs h
        cases hc : p.contents with
        | nil =>
            have he := p.isQueueEmpty_iff.mpr hc
            rw [Loop.run_false (by simp [he])]
            exact ⟨p, by simp, hc, rfl, rfl, rfl⟩
        | cons c cs =>
            obtain ⟨hpop, hcs⟩ := queuePopInternalLocked_cons hc
            rw [Loop.run_succ_true (by simp [p.isQueueEmpty_of_cons hc])]
            simp only [hpop, releaseOf_some]
            rw [hc, List.length_cons] at h
            obtain ⟨p', hrun, hnil, hd, he, hb⟩ :=
              ih p.incReadLocation (refs ++ [.release c]) (by rw [hcs]; omega)
            refine ⟨p', ?_, hnil, hd, he, hb⟩
            rw [hrun, hcs]
            simp
  obtain ⟨p', hrun, hnil, hd, he, hb⟩ := key q.depth q [] q.length_contents_lt
  have hdrain : queueDrain q = ⟨p', [] ++ q.contents.map .release⟩ := hrun
  rw [hdrain]
  exact ⟨rfl, hnil, hd, he, hb⟩

end ZsaSdk
