import ZsaSdk.Lib.Steps
import ZsaSdk.Queue.Refinement

/-!
# Threads on one queue

Any number of threads call the functions of `queue.c` on one queue.  A step is one
stretch under the lock, carried out by one thread, and a run is any sequence of
steps.

*Waiting.*  Between two stretches a thread is outside the queue, in the
`Condition_Wait` of `queue_pop`, in the `ThreadAPI_Sleep` of `queue_disable`, or in
`queue_stop` on the way to `queue_disable`.

*Condition variable.*  A `Condition_Post` marks at least one of the waiting threads
that are not marked yet, if there is one.  A waiting thread goes on when it gets the
lock back, at any later step.  It finds `COND_OK`, marked or not (a spurious wake-up),
`COND_TIMEOUT` if its wait is bounded, or `COND_ERROR`.

*Record.*  The system keeps what each call has returned, the reference counting calls,
and whether the assertion after the wait has held so far.
-/

namespace ZsaSdk

open Ledger

/-- Where a thread stands between two stretches. -/
inductive Thread where
  /-- Outside the queue. -/
  | idle
  /-- In `Condition_Wait`; `posted` says whether a post has woken the thread. -/
  | waiting (waitInMs : Int32) (posted : Bool)
  /-- In `queue_stop`, before it calls `queue_disable`. -/
  | stopping
  /-- In the sleep of `queue_disable`. -/
  | asleep
deriving DecidableEq, Repr

namespace Thread

/-- The thread is between the increment and the decrement of `queue_pop_blocked`. -/
def isWaiting : Thread → Bool
  | .waiting _ _ => true
  | _ => false

/-- The thread waits and no post has woken it. -/
def isBlocked : Thread → Bool
  | .waiting _ false => true
  | _ => false

/-- What a post does to a thread it wakes. -/
def post : Thread → Thread
  | .waiting waitInMs _ => .waiting waitInMs true
  | thread => thread

@[simp] theorem isWaiting_post (thread : Thread) : thread.post.isWaiting = thread.isWaiting := by
  cases thread <;> rfl

end Thread

/-- `Condition_Post`: wake the threads `woken`, at least one if one is blocked. -/
def conditionPost (threads : List Thread) (woken : List Nat) : Option (List Thread) :=
  if woken.all (fun i => threads[i]?.any Thread.isBlocked) &&
      (!woken.isEmpty || !threads.any Thread.isBlocked) then
    some (threads.mapIdx fun i thread => if i ∈ woken then thread.post else thread)
  else none

/-- A post leaves every thread as it is, or wakes it. -/
theorem conditionPost_getElem? {threads threads' : List Thread} {woken : List Nat}
    (h : conditionPost threads woken = some threads') (i : Nat) :
    threads'[i]? = threads[i]?.map fun thread => if i ∈ woken then thread.post else thread := by
  simp only [conditionPost, Option.ite_none_right_eq_some, Option.some.injEq] at h
  rw [← h.2, List.getElem?_mapIdx]

theorem conditionPost_cases {threads threads' : List Thread} {woken : List Nat}
    (h : conditionPost threads woken = some threads') {i : Nat} {thread : Thread}
    (hi : threads'[i]? = some thread) :
    ∃ old, threads[i]? = some old ∧ (thread = old ∨ thread = old.post) := by
  rw [conditionPost_getElem? h, Option.map_eq_some_iff] at hi
  obtain ⟨old, hold, rfl⟩ := hi
  refine ⟨old, hold, ?_⟩
  split
  · exact Or.inr rfl
  · exact Or.inl rfl

/-- A post does not change which threads are inside a pop. -/
theorem conditionPost_isWaiting {threads threads' : List Thread} {woken : List Nat}
    (h : conditionPost threads woken = some threads') :
    threads'.map Thread.isWaiting = threads.map Thread.isWaiting := by
  refine List.ext_getElem? fun i => ?_
  rw [List.getElem?_map, List.getElem?_map, conditionPost_getElem? h, Option.map_map]
  congr 1
  funext thread
  by_cases hi : i ∈ woken <;> simp [hi]

/-- The results `Condition_Wait` can have.  The handles it is given are not null. -/
def conditionWaitReturns (waitInMs : Int32) : CondResult → Bool
  | .ok | .error => true
  | .timeout => 0 < waitInMs
  | .invalidArg => false

/-- What a call returns.  A `queue_push` returns nothing; its caller finds a null handle. -/
inductive Return where
  | popped (wresult : WaitResult) (capture : Option CaptureHandle)
  | pushed (dropped : Option CaptureHandle)
  | disabled
deriving DecidableEq, Repr

/-- One queue and the threads that use it. -/
structure SharedQueue where
  queue : QueueContext
  threads : List Thread
  refs : List (RefOp CaptureHandle)
  /-- What the calls have returned, each with its thread. -/
  returns : List (Nat × Return)
  /-- `capture != NULL || queue->enabled == false` has held after every wait. -/
  asserted : Bool

/-- What a thread does next. -/
inductive Action where
  /-- `queue_pop`, its first stretch. -/
  | pop (waitInMs : Int32)
  /-- `queue_pop`, from the return of `Condition_Wait` on. -/
  | resume (condResult : CondResult)
  /-- `queue_push_w_dropped`, or `queue_push` if `wantDropped` is false. -/
  | push (capture : CaptureHandle) (wantDropped : Bool) (woken : List Nat)
  /-- `queue_stop`, its first stretch. -/
  | stop
  /-- `queue_disable`, its first stretch. -/
  | disable (woken : List Nat)
  /-- `queue_disable`, after a sleep. -/
  | retry (woken : List Nat)
  /-- `queue_enable` -/
  | enable
deriving DecidableEq, Repr

/-- The assertion of `queue_pop` after a wait that ends with `COND_OK`. -/
def popAssertion (q : QueueContext) : CondResult → Bool
  | .ok => (queuePopInternalLocked q).1.isSome || q.enabled == false
  | _ => true

/-! ## The stretches of `queue_pop` and `queue_push_w_dropped` -/

/-- How the first stretch ends on an enabled queue: with the oldest capture, with a
time-out, or in the wait. -/
theorem queuePopEnter_enabled {q : QueueContext} (h : q.enabled = true) (waitInMs : Int32) :
    (∃ c q', queuePopEnter q waitInMs = .returned ⟨q', .succeeded, some c, []⟩ ∧
      q'.enabled = true ∧ q'.queuePopBlocked = q.queuePopBlocked) ∨
    (∃ q', queuePopEnter q waitInMs = .returned ⟨q', .timeout, none, []⟩ ∧
      q'.enabled = true ∧ q'.queuePopBlocked = q.queuePopBlocked) ∨
    queuePopEnter q waitInMs = .waiting q.incPopBlocked := by
  have hb : q.queuePopBlocked + 1 - 1 = q.queuePopBlocked := by simp
  cases hc : q.contents with
  | nil =>
      have hpop := queuePopInternalLocked_nil (q.contents_incPopBlocked.trans hc)
      by_cases hw : waitInMs = 0
      · refine Or.inr (Or.inl ⟨q.incPopBlocked.decPopBlocked.setDroppedCount 0, ?_, h, hb⟩)
        simp [queuePopEnter, queuePopFinish, h, hpop, hw]
      · exact Or.inr (Or.inr (by simp [queuePopEnter, h, hpop, hw]))
  | cons c cs =>
      obtain ⟨hpop, -⟩ := queuePopInternalLocked_cons (q.contents_incPopBlocked.trans hc)
      refine Or.inl ⟨c, q.incPopBlocked.incReadLocation.decPopBlocked.setDroppedCount 0, ?_, h, hb⟩
      simp [queuePopEnter, queuePopFinish, h, hpop]

theorem queuePopEnter_disabled {q : QueueContext} (h : q.enabled = false) (waitInMs : Int32) :
    queuePopEnter q waitInMs = .returned ⟨q.setDroppedCount 0, .failed, none, []⟩ := by
  simp [queuePopEnter, queuePopFinish, h]

/-- A pop that returns from its first stretch leaves flag and counter alone, and brings a
capture if it succeeds. -/
theorem queuePopEnter_returned {q : QueueContext} {waitInMs : Int32} {r : PopReturn QueueContext}
    (h : queuePopEnter q waitInMs = .returned r) :
    r.queue.enabled = q.enabled ∧ r.queue.queuePopBlocked = q.queuePopBlocked ∧
      (r.wresult = .succeeded → r.capture ≠ none) := by
  cases he : q.enabled with
  | false =>
      rw [queuePopEnter_disabled he] at h
      cases h
      exact ⟨he, rfl, nofun⟩
  | true =>
      obtain ⟨c, q', hq, hen, hb⟩ | ⟨q', hq, hen, hb⟩ | hq := queuePopEnter_enabled he waitInMs
      · rw [hq] at h
        cases h
        exact ⟨hen, hb, fun _ => Option.some_ne_none c⟩
      · rw [hq] at h
        cases h
        exact ⟨hen, hb, nofun⟩
      · rw [hq] at h
        cases h

/-- A pop waits only on an enabled queue, and has then been counted. -/
theorem queuePopEnter_waiting {q q' : QueueContext} {waitInMs : Int32}
    (h : queuePopEnter q waitInMs = .waiting q') : q.enabled = true ∧ q' = q.incPopBlocked := by
  cases he : q.enabled with
  | false =>
      rw [queuePopEnter_disabled he] at h
      cases h
  | true =>
      obtain ⟨c, q', hq, -⟩ | ⟨q', hq, -⟩ | hq := queuePopEnter_enabled he waitInMs
      · rw [hq] at h
        cases h
      · rw [hq] at h
        cases h
      · rw [hq] at h
        cases h
        exact ⟨rfl, rfl⟩

theorem queuePopFinish_queue (q : QueueContext) (wresult : WaitResult)
    (capture : Option CaptureHandle) :
    (queuePopFinish q wresult capture).queue = q.setDroppedCount 0 := by
  cases he : q.enabled <;> simp [queuePopFinish, he]

theorem queuePopInternalLocked_flags (q : QueueContext) :
    (queuePopInternalLocked q).2.enabled = q.enabled ∧
      (queuePopInternalLocked q).2.queuePopBlocked = q.queuePopBlocked := by
  cases hq : q.isQueueEmpty with
  | false => simp only [queuePopInternalLocked, hq, if_true]; exact ⟨rfl, rfl⟩
  | true => simp [queuePopInternalLocked, hq]

theorem queuePopResume_queue (q : QueueContext) (condResult : CondResult) :
    (queuePopResume q condResult).queue.enabled = q.enabled ∧
      (queuePopResume q condResult).queue.queuePopBlocked = q.queuePopBlocked - 1 := by
  obtain ⟨he, hb⟩ := queuePopInternalLocked_flags q
  cases condResult with
  | ok =>
      rw [queuePopResume, queuePopFinish_queue]
      exact ⟨he, congrArg (· - 1) hb⟩
  | invalidArg => rw [queuePopResume, queuePopFinish_queue]; exact ⟨rfl, rfl⟩
  | error => rw [queuePopResume, queuePopFinish_queue]; exact ⟨rfl, rfl⟩
  | timeout => rw [queuePopResume, queuePopFinish_queue]; exact ⟨rfl, rfl⟩

theorem queuePushWDropped_flags (q : QueueContext) (c : CaptureHandle) (b : Bool) :
    (queuePushWDropped q c b).queue.enabled = q.enabled ∧
      (queuePushWDropped q c b).queue.queuePopBlocked = q.queuePopBlocked := by
  have hpop := queuePopInternalLocked_flags q
  cases he : q.enabled with
  | false => simp [queuePushWDropped, he]
  | true =>
      rw [he] at hpop
      cases hf : q.isQueueFull <;> cases b <;> simp only [queuePushWDropped, he, hf] <;>
        first | exact ⟨he, rfl⟩ | exact hpop

/-- An accepted push leaves the ring with an entry. -/
theorem contents_queuePushWDropped {q : QueueContext} (h : q.enabled = true) (c : CaptureHandle)
    (b : Bool) : (queuePushWDropped q c b).queue.contents ≠ [] := by
  have href := congrArg (fun r => r.queue.fifo.items) (queuePushWDropped_refines q c b)
  have hpush : (q.toFifoQueue.pushWDropped c b).queue.fifo.items =
      (q.toFifoQueue.fifo.push c).items := by
    cases b <;> simp [FifoQueue.pushWDropped, h]
  have hitems : (queuePushWDropped q c b).queue.contents = (q.toFifoQueue.fifo.push c).items :=
    href.symm.trans hpush
  rw [hitems, BoundedFifo.push]
  exact List.append_ne_nil_of_right_ne_nil _ (List.cons_ne_nil c [])

/-- The second stretch on a disabled queue fails, and releases what it has taken. -/
theorem queuePopResume_disabled {q : QueueContext} (h : q.enabled = false)
    (condResult : CondResult) :
    ∃ taken q', queuePopResume q condResult = ⟨q', .failed, none, taken.map .release⟩ ∧
      q.contents = taken ++ q'.contents := by
  cases condResult with
  | ok =>
      cases hc : q.contents with
      | nil =>
          refine ⟨[], q.decPopBlocked.setDroppedCount 0, ?_, hc.symm⟩
          simp [queuePopResume, queuePopFinish, queuePopInternalLocked_nil hc, h]
      | cons c cs =>
          obtain ⟨hpop, hcs⟩ := queuePopInternalLocked_cons hc
          refine ⟨[c], q.incReadLocation.decPopBlocked.setDroppedCount 0, ?_, ?_⟩
          · simp [queuePopResume, queuePopFinish, hpop, h]
          · rw [QueueContext.contents_setDroppedCount, QueueContext.contents_decPopBlocked, hcs]
            rfl
  | invalidArg =>
      exact ⟨[], q.decPopBlocked.setDroppedCount 0,
        by simp [queuePopResume, queuePopFinish, h], rfl⟩
  | error =>
      exact ⟨[], q.decPopBlocked.setDroppedCount 0,
        by simp [queuePopResume, queuePopFinish, h], rfl⟩
  | timeout =>
      exact ⟨[], q.decPopBlocked.setDroppedCount 0,
        by simp [queuePopResume, queuePopFinish, h], rfl⟩

/-- The second stretch succeeds without a capture exactly when the thread is told that
there is data and the ring of an enabled queue is empty. -/
theorem queuePopResume_empty_iff (q : QueueContext) (condResult : CondResult) :
    ((queuePopResume q condResult).wresult = .succeeded ∧
      (queuePopResume q condResult).capture = none) ↔
    condResult = .ok ∧ q.isQueueEmpty = true ∧ q.enabled = true := by
  cases he : q.enabled <;> cases condResult <;> cases hq : q.isQueueEmpty <;>
    simp [queuePopResume, queuePopFinish, queuePopInternalLocked, he, hq]

theorem popAssertion_iff (q : QueueContext) (condResult : CondResult) :
    popAssertion q condResult = true ↔
      (condResult = .ok → q.isQueueEmpty = false ∨ q.enabled = false) := by
  cases condResult <;> cases hq : q.isQueueEmpty <;>
    simp [popAssertion, queuePopInternalLocked, hq]

namespace SharedQueue

/-- A queue no call has been made on, and `n` threads. -/
def fresh (q : QueueContext) (n : Nat) : SharedQueue :=
  ⟨q, List.replicate n .idle, [], [], true⟩

/-- The last stretch of a `queue_pop`. -/
def popReturn (s : SharedQueue) (t : Nat) (r : PopReturn QueueContext) : SharedQueue :=
  { s with
    queue := r.queue
    threads := s.threads.set t .idle
    refs := s.refs ++ r.refs
    returns := s.returns ++ [(t, .popped r.wresult r.capture)] }

/-- The last stretch of a `queue_push_w_dropped`. -/
def pushReturn (s : SharedQueue) (t : Nat) (r : PushReturn QueueContext) : SharedQueue :=
  { s with
    queue := r.queue
    refs := s.refs ++ r.refs
    returns := s.returns ++ [(t, .pushed r.dropped)] }

/-- The last stretch of a `queue_disable`. -/
def disableReturn (s : SharedQueue) (t : Nat) (r : DisableReturn QueueContext) : SharedQueue :=
  { s with
    queue := r.queue
    threads := s.threads.set t .idle
    refs := s.refs ++ r.refs
    returns := s.returns ++ [(t, .disabled)] }

/-- The loops of `queue_disable`, from a test of `queue_pop_blocked` on: post and sleep,
or drain the ring and return. -/
def disableLoop (s : SharedQueue) (t : Nat) (woken : List Nat) : Option SharedQueue :=
  if s.queue.queuePopBlocked ≠ 0 then
    (conditionPost (s.threads.set t .asleep) woken).map fun threads => { s with threads }
  else some (s.disableReturn t (queueDrain s.queue))

/-- One stretch of thread `t`.  The result is `none` if the thread is not at a point
where it can do this. -/
def step (s : SharedQueue) (t : Nat) : Action → Option SharedQueue
  | .pop waitInMs =>
      if s.threads[t]? = some .idle then
        match queuePopEnter s.queue waitInMs with
        | .returned r => some (s.popReturn t r)
        | .waiting q =>
            some { s with queue := q, threads := s.threads.set t (.waiting waitInMs false) }
      else none
  | .resume condResult =>
      match s.threads[t]? with
      | some (.waiting waitInMs _) =>
          if conditionWaitReturns waitInMs condResult then
            some { s.popReturn t (queuePopResume s.queue condResult) with
              asserted := s.asserted && popAssertion s.queue condResult }
          else none
      | _ => none
  | .push capture wantDropped woken =>
      if s.threads[t]? = some .idle then
        let s' := s.pushReturn t (queuePushWDropped s.queue capture wantDropped)
        if s.queue.enabled then
          (conditionPost s.threads woken).map fun threads => { s' with threads }
        else some s'
      else none
  | .stop =>
      if s.threads[t]? = some .idle then
        some { s with queue := s.queue.setStopped true, threads := s.threads.set t .stopping }
      else none
  | .disable woken =>
      if s.threads[t]? = some .idle ∨ s.threads[t]? = some .stopping then
        { s with queue := queueDisableBegin s.queue }.disableLoop t woken
      else none
  | .retry woken => if s.threads[t]? = some .asleep then s.disableLoop t woken else none
  | .enable =>
      if s.threads[t]? = some .idle then some { s with queue := queueEnable s.queue } else none

/-- A sequence of stretches, each with the thread that carries it out. -/
def run (s : SharedQueue) (as : List (Nat × Action)) : Option SharedQueue :=
  Steps.run (fun s ta => s.step ta.1 ta.2) s as

/-! ## What a step can do -/

/-- The outcomes of a step, each with what it requires. -/
inductive Stepped (s : SharedQueue) (t : Nat) : Action → SharedQueue → Prop where
  | popReturned {waitInMs : Int32} {r : PopReturn QueueContext} :
      s.threads[t]? = some .idle → queuePopEnter s.queue waitInMs = .returned r →
      Stepped s t (.pop waitInMs) (s.popReturn t r)
  | popWaits {waitInMs : Int32} {q : QueueContext} :
      s.threads[t]? = some .idle → queuePopEnter s.queue waitInMs = .waiting q →
      Stepped s t (.pop waitInMs)
        { s with queue := q, threads := s.threads.set t (.waiting waitInMs false) }
  | resumed {waitInMs : Int32} {posted : Bool} {condResult : CondResult} :
      s.threads[t]? = some (.waiting waitInMs posted) →
      conditionWaitReturns waitInMs condResult = true →
      Stepped s t (.resume condResult)
        { s.popReturn t (queuePopResume s.queue condResult) with
          asserted := s.asserted && popAssertion s.queue condResult }
  | pushed {c : CaptureHandle} {b : Bool} {woken : List Nat} {threads : List Thread} :
      s.threads[t]? = some .idle → s.queue.enabled = true →
      conditionPost s.threads woken = some threads →
      Stepped s t (.push c b woken)
        { s.pushReturn t (queuePushWDropped s.queue c b) with threads }
  | refused {c : CaptureHandle} {b : Bool} {woken : List Nat} :
      s.threads[t]? = some .idle → s.queue.enabled = false →
      Stepped s t (.push c b woken) (s.pushReturn t ⟨s.queue, none, []⟩)
  | marked : s.threads[t]? = some .idle →
      Stepped s t .stop
        { s with queue := s.queue.setStopped true, threads := s.threads.set t .stopping }
  | disableWaits {thread : Thread} {woken : List Nat} {threads : List Thread} :
      s.threads[t]? = some thread → thread.isWaiting = false →
      s.queue.queuePopBlocked ≠ 0 →
      conditionPost (s.threads.set t .asleep) woken = some threads →
      Stepped s t (.disable woken) { s with queue := queueDisableBegin s.queue, threads }
  | disableReturns {thread : Thread} {woken : List Nat} :
      s.threads[t]? = some thread → thread.isWaiting = false →
      s.queue.queuePopBlocked = 0 →
      Stepped s t (.disable woken) (s.disableReturn t (queueDrain (queueDisableBegin s.queue)))
  | retryWaits {woken : List Nat} {threads : List Thread} :
      s.threads[t]? = some .asleep → s.queue.queuePopBlocked ≠ 0 →
      conditionPost (s.threads.set t .asleep) woken = some threads →
      Stepped s t (.retry woken) { s with threads }
  | retryReturns {woken : List Nat} :
      s.threads[t]? = some .asleep → s.queue.queuePopBlocked = 0 →
      Stepped s t (.retry woken) (s.disableReturn t (queueDrain s.queue))
  | enabled : s.threads[t]? = some .idle →
      Stepped s t .enable { s with queue := queueEnable s.queue }

theorem disableLoop_cases {s s' : SharedQueue} {t : Nat} {woken : List Nat}
    (h : s.disableLoop t woken = some s') :
    (s.queue.queuePopBlocked ≠ 0 ∧
      ∃ threads, conditionPost (s.threads.set t .asleep) woken = some threads ∧
        s' = { s with threads }) ∨
    (s.queue.queuePopBlocked = 0 ∧ s' = s.disableReturn t (queueDrain s.queue)) := by
  simp only [disableLoop] at h
  split at h
  next hb =>
      obtain ⟨threads, hp, rfl⟩ := Option.map_eq_some_iff.mp h
      exact Or.inl ⟨hb, threads, hp, rfl⟩
  next hb => exact Or.inr ⟨not_not.mp hb, (Option.some.inj h).symm⟩

theorem stepped_disable {s s' : SharedQueue} {t : Nat} {thread : Thread} {woken : List Nat}
    (ht : s.threads[t]? = some thread) (hw : thread.isWaiting = false)
    (h : { s with queue := queueDisableBegin s.queue }.disableLoop t woken = some s') :
    Stepped s t (.disable woken) s' := by
  obtain ⟨hb, threads, hp, rfl⟩ | ⟨hb, rfl⟩ := disableLoop_cases h
  · exact .disableWaits ht hw hb hp
  · exact .disableReturns ht hw hb

theorem stepped {s s' : SharedQueue} {t : Nat} {a : Action} (h : s.step t a = some s') :
    Stepped s t a s' := by
  cases a with
  | pop waitInMs =>
      obtain ⟨ht, h⟩ := Option.ite_none_right_eq_some.mp h
      cases hr : queuePopEnter s.queue waitInMs with
      | returned r =>
          simp only [hr, Option.some.injEq] at h
          exact h ▸ .popReturned ht hr
      | waiting q =>
          simp only [hr, Option.some.injEq] at h
          exact h ▸ .popWaits ht hr
  | resume condResult =>
      simp only [step] at h
      split at h
      next waitInMs posted ht =>
          obtain ⟨hc, h⟩ := Option.ite_none_right_eq_some.mp h
          exact Option.some.inj h ▸ .resumed ht hc
      next => cases h
  | push c b woken =>
      obtain ⟨ht, h⟩ := Option.ite_none_right_eq_some.mp h
      cases he : s.queue.enabled with
      | false =>
          have hpush : queuePushWDropped s.queue c b = ⟨s.queue, none, []⟩ := by
            simp [queuePushWDropped, he]
          simp only [he, Bool.false_eq_true, if_false, Option.some.injEq, hpush] at h
          exact h ▸ .refused ht he
      | true =>
          simp only [he, if_true] at h
          obtain ⟨threads, hp, rfl⟩ := Option.map_eq_some_iff.mp h
          exact .pushed ht he hp
  | stop =>
      obtain ⟨ht, h⟩ := Option.ite_none_right_eq_some.mp h
      exact Option.some.inj h ▸ .marked ht
  | disable woken =>
      obtain ⟨ht, h⟩ := Option.ite_none_right_eq_some.mp h
      rcases ht with ht | ht
      · exact stepped_disable ht rfl h
      · exact stepped_disable ht rfl h
  | retry woken =>
      obtain ⟨ht, h⟩ := Option.ite_none_right_eq_some.mp h
      obtain ⟨hb, threads, hp, rfl⟩ | ⟨hb, rfl⟩ := disableLoop_cases h
      · exact .retryWaits ht hb hp
      · exact .retryReturns ht hb
  | enable =>
      obtain ⟨ht, h⟩ := Option.ite_none_right_eq_some.mp h
      exact Option.some.inj h ▸ .enabled ht

end SharedQueue

end ZsaSdk
