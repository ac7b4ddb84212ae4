import ZsaSdk.Queue.Model
import ZsaSdk.Lib.BoundedFifo

/-!
# The queue interface, and what the ring buffer refines

`QueueApi` is the interface of `queue.h` that the rest of the SDK is written
against: creation, push, non-waiting pop, enable, disable and stop.  `entries`
and `enabled` are observers the code does not have.

The ring buffer of `queue.c` is one implementation.  `FifoQueue` is another: a
bounded list that drops its oldest element, which is what the interface promises.
`toFifoQueue` reads the list off the ring, and it is a homomorphism of
implementations (`ringHom`): every operation does the same to the list as to the
ring, returns the same result and makes the same reference counting calls.
-/

namespace ZsaSdk

open Ledger

/-! ## The interface -/

/-- `queue.h` -/
class QueueApi (Q : Type) where
  queueCreate : UInt32 → Option Q
  queuePushWDropped : Q → CaptureHandle → Bool → PushReturn Q
  queuePop : Q → PopReturn Q
  queueEnable : Q → Q
  queueDisable : Q → DisableReturn Q
  queueStop : Q → DisableReturn Q
  /-- The number of captures in the queue. -/
  entries : Q → Nat
  enabled : Q → Bool

instance : QueueApi QueueContext where
  queueCreate := queueCreate
  queuePushWDropped := queuePushWDropped
  queuePop := queuePop
  queueEnable := queueEnable
  queueDisable := queueDisable
  queueStop := queueStop
  entries q := q.contents.length
  enabled := QueueContext.enabled

def PushReturn.map {Q Q' : Type} (f : Q → Q') (r : PushReturn Q) : PushReturn Q' :=
  ⟨f r.queue, r.dropped, r.refs⟩

def PopReturn.map {Q Q' : Type} (f : Q → Q') (r : PopReturn Q) : PopReturn Q' :=
  ⟨f r.queue, r.wresult, r.capture, r.refs⟩

def DisableReturn.map {Q Q' : Type} (f : Q → Q') (r : DisableReturn Q) : DisableReturn Q' :=
  ⟨f r.queue, r.refs⟩

/-- A map between two implementations that no operation can tell apart. -/
structure QueueHom (Q Q' : Type) [QueueApi Q] [QueueApi Q'] where
  toFun : Q → Q'
  map_create : ∀ n, QueueApi.queueCreate n = (QueueApi.queueCreate n : Option Q).map toFun
  map_push : ∀ q c b, QueueApi.queuePushWDropped (toFun q) c b =
    (QueueApi.queuePushWDropped q c b).map toFun
  map_pop : ∀ q, QueueApi.queuePop (toFun q) = (QueueApi.queuePop q).map toFun
  map_enable : ∀ q, QueueApi.queueEnable (toFun q) = toFun (QueueApi.queueEnable q)
  map_disable : ∀ q, QueueApi.queueDisable (toFun q) = (QueueApi.queueDisable q).map toFun
  map_stop : ∀ q, QueueApi.queueStop (toFun q) = (QueueApi.queueStop q).map toFun
  map_entries : ∀ q, QueueApi.entries (toFun q) = QueueApi.entries q
  map_enabled : ∀ q, QueueApi.enabled (toFun q) = QueueApi.enabled q

/-! ## The bounded list -/

/-- A queue as its interface describes it. -/
structure FifoQueue where
  fifo : BoundedFifo CaptureHandle
  enabled : Bool

namespace FifoQueue

@[ext] theorem ext {p q : FifoQueue} (hf : p.fifo = q.fifo) (he : p.enabled = q.enabled) :
    p = q := by
  cases p
  cases q
  cases hf
  cases he
  rfl

/-- A queue of `queueDepth` captures starts disabled and empty. -/
def create (queueDepth : UInt32) : Option FifoQueue :=
  if h : 0 < queueDepth.toNat ∧ queueDepth.toNat ≤ 10000 then
    some ⟨BoundedFifo.empty queueDepth.toNat h.1, false⟩
  else none

/-- A push to an enabled queue takes a reference and appends.  If the queue is
full the oldest capture leaves it, with its reference to `*dropped` if there is
one, and is released otherwise.  A push to a disabled queue does nothing. -/
def pushWDropped (q : FifoQueue) (capture : CaptureHandle) (wantDropped : Bool) :
    PushReturn FifoQueue :=
  match q.enabled, wantDropped with
  | false, _ => ⟨q, none, []⟩
  | true, true => ⟨{ q with fifo := q.fifo.push capture }, q.fifo.evicted, [.acquire capture]⟩
  | true, false =>
      ⟨{ q with fifo := q.fifo.push capture }, none, releaseOf q.fifo.evicted ++ [.acquire capture]⟩

/-- A pop that does not wait returns the oldest capture with its reference, times
out on an empty queue and fails on a disabled one. -/
def pop (q : FifoQueue) : PopReturn FifoQueue :=
  match q.enabled, q.fifo.items with
  | false, _ => ⟨q, .failed, none, []⟩
  | true, [] => ⟨q, .timeout, none, []⟩
  | true, c :: _ => ⟨{ q with fifo := q.fifo.pop }, .succeeded, some c, []⟩

/-- Enabling keeps the captures. -/
def enable (q : FifoQueue) : FifoQueue := { q with enabled := true }

/-- Disabling releases every capture once, oldest first. -/
def disable (q : FifoQueue) : DisableReturn FifoQueue :=
  ⟨⟨q.fifo.clear, false⟩, q.fifo.items.map .release⟩

end FifoQueue

instance : QueueApi FifoQueue where
  queueCreate := FifoQueue.create
  queuePushWDropped := FifoQueue.pushWDropped
  queuePop := FifoQueue.pop
  queueEnable := FifoQueue.enable
  queueDisable := FifoQueue.disable
  queueStop := FifoQueue.disable
  entries q := q.fifo.items.length
  enabled := FifoQueue.enabled

/-! ## The ring refines the list -/

/-- The list a ring stands for. -/
def QueueContext.toFifoQueue (q : QueueContext) : FifoQueue where
  fifo :=
    { capacity := q.depth - 1
      capacity_pos := by have := q.one_lt_depth; omega
      items := q.contents
      length_le := by have := q.length_contents_lt; omega }
  enabled := q.enabled

@[simp] theorem QueueContext.toFifoQueue_items (q : QueueContext) :
    q.toFifoQueue.fifo.items = q.contents := rfl

@[simp] theorem QueueContext.toFifoQueue_enabled (q : QueueContext) :
    q.toFifoQueue.enabled = q.enabled := rfl

theorem QueueContext.full_toFifoQueue (q : QueueContext) :
    q.toFifoQueue.fifo.full = q.isQueueFull := by
  have hd := q.one_lt_depth
  rw [Bool.eq_iff_iff, BoundedFifo.full_iff, q.isQueueFull_iff]
  show q.contents.length = q.depth - 1 ↔ _
  omega

theorem queueCreate_refines (n : UInt32) :
    FifoQueue.create n = (queueCreate n).map QueueContext.toFifoQueue := by
  simp only [FifoQueue.create, queueCreate]
  by_cases h0 : n = 0
  · simp [h0]
  · have hpos : 0 < n.toNat := by
      rw [Nat.pos_iff_ne_zero]
      exact fun h => h0 (UInt32.toNat_inj.mp h)
    by_cases hbig : n > 10000
    · have : ¬ n.toNat ≤ 10000 := by
        have := UInt32.lt_iff_toNat_lt.mp hbig
        simp at this
        omega
      simp [h0, hbig, this]
    · have hle : n.toNat ≤ 10000 := by
        have := mt UInt32.lt_iff_toNat_lt.mpr hbig
        simp at this
        omega
      rw [dif_pos ⟨hpos, hle⟩, dif_neg h0, if_neg hbig, Option.map_some, Option.some.injEq]
      refine FifoQueue.ext (BoundedFifo.ext ?_ ?_) rfl
      · rfl
      · exact (Ring.segment_self _ _).symm

theorem toFifoQueue_queuePushInternalLocked {q : QueueContext} (c : CaptureHandle)
    (h : q.isQueueFull = false) :
    (queuePushInternalLocked q c).toFifoQueue = ⟨q.toFifoQueue.fifo.push c, q.enabled⟩ := by
  refine FifoQueue.ext (BoundedFifo.ext rfl ?_) rfl
  rw [BoundedFifo.items_push_of_not_full (by rw [q.full_toFifoQueue, h])]
  exact contents_queuePushInternalLocked c h

theorem queuePushWDropped_refines (q : QueueContext) (c : CaptureHandle) (b : Bool) :
    q.toFifoQueue.pushWDropped c b = (queuePushWDropped q c b).map QueueContext.toFifoQueue := by
  cases he : q.enabled with
  | false => simp [FifoQueue.pushWDropped, queuePushWDropped, he, PushReturn.map]
  | true =>
      cases hf : q.isQueueFull with
      | false =>
          have hfull : q.toFifoQueue.fifo.full = false := by rw [q.full_toFifoQueue, hf]
          have hpush := toFifoQueue_queuePushInternalLocked c hf
          cases b <;>
            simp [FifoQueue.pushWDropped, queuePushWDropped, he, hf, PushReturn.map, hpush,
              BoundedFifo.evicted_of_not_full hfull]
      | true =>
          have hfull : q.toFifoQueue.fifo.full = true := by rw [q.full_toFifoQueue, hf]
          obtain ⟨a, l, hitems, hev⟩ := BoundedFifo.exists_cons_of_full hfull
          obtain ⟨hpop, hl⟩ := queuePopInternalLocked_cons hitems
          -- After the oldest capture has left there is room for the new one.
          have hroom : q.incReadLocation.isQueueFull = false := by
            rw [Bool.eq_false_iff]
            intro h
            have h1 : q.incReadLocation.contents.length + 1 = q.depth :=
              q.incReadLocation.isQueueFull_iff.mp h
            have h2 := q.isQueueFull_iff.mp hf
            rw [hl] at h1
            rw [show q.contents = a :: l from hitems, List.length_cons] at h2
            omega
          have hnew : ∀ p : QueueContext, p.depth = q.depth → p.enabled = q.enabled →
              p.isQueueFull = false → p.contents = l →
              (⟨q.toFifoQueue.fifo.push c, true⟩ : FifoQueue) =
                (queuePushInternalLocked p c).toFifoQueue := by
            intro p hd hp hroom hc
            rw [toFifoQueue_queuePushInternalLocked c hroom]
            refine FifoQueue.ext (BoundedFifo.ext ?_ ?_) (he.symm.trans hp.symm)
            · show q.depth - 1 = p.depth - 1
              rw [hd]
            · rw [BoundedFifo.items_push_of_full hfull, hitems,
                BoundedFifo.items_push_of_not_full (by rw [p.full_toFifoQueue, hroom]),
                p.toFifoQueue_items, hc, List.tail_cons]
          cases b with
          | true =>
              simp only [FifoQueue.pushWDropped, queuePushWDropped, q.toFifoQueue_enabled, he, hf,
                hpop, hev, PushReturn.map, if_true, Bool.true_eq_false, if_false]
              rw [hnew q.incReadLocation rfl rfl hroom hl]
          | false =>
              simp only [FifoQueue.pushWDropped, queuePushWDropped, q.toFifoQueue_enabled, he, hf,
                hpop, hev, PushReturn.map, if_true, Bool.true_eq_false, if_false]
              rw [hnew (q.incReadLocation.setDroppedCount (q.incReadLocation.droppedCount + 1))
                rfl rfl hroom hl]

theorem queuePop_refines (q : QueueContext) :
    q.toFifoQueue.pop = (queuePop q).map QueueContext.toFifoQueue := by
  cases he : q.enabled with
  | false =>
      have hfifo : q.toFifoQueue.pop = ⟨q.toFifoQueue, .failed, none, []⟩ := by
        simp [FifoQueue.pop, he]
      have hring : queuePop q = ⟨q.setDroppedCount 0, .failed, none, []⟩ := by
        simp [queuePop, queuePopEnter, queuePopFinish, he]
      rw [hfifo, hring]
      rfl
  | true =>
      cases hc : q.contents with
      | nil =>
          have hpop := queuePopInternalLocked_nil (q := q.incPopBlocked) hc
          have hfifo : q.toFifoQueue.pop = ⟨q.toFifoQueue, .timeout, none, []⟩ := by
            simp [FifoQueue.pop, he, hc]
          have hring : queuePop q =
              ⟨q.incPopBlocked.decPopBlocked.setDroppedCount 0, .timeout, none, []⟩ := by
            simp [queuePop, queuePopEnter, hpop, queuePopFinish, he]
          rw [hfifo, hring]
          rfl
      | cons c cs =>
          obtain ⟨hpop, hcs⟩ := queuePopInternalLocked_cons (q := q.incPopBlocked) hc
          have hfifo : q.toFifoQueue.pop =
              ⟨{ q.toFifoQueue with fifo := q.toFifoQueue.fifo.pop }, .succeeded, some c, []⟩ := by
            simp [FifoQueue.pop, he, hc]
          have hring : queuePop q =
              ⟨q.incPopBlocked.incReadLocation.decPopBlocked.setDroppedCount 0, .succeeded,
                some c, []⟩ := by
            simp [queuePop, queuePopEnter, hpop, queuePopFinish, he]
          rw [hfifo, hring]
          refine congrArg (fun p => PopReturn.mk p .succeeded (some c) []) ?_
          refine FifoQueue.ext (BoundedFifo.ext rfl ?_) rfl
          rw [BoundedFifo.items_pop, q.toFifoQueue_items, hc]
          exact hcs.symm

theorem queueDisable_refines (q : QueueContext) :
    q.toFifoQueue.disable = (queueDisable q).map QueueContext.toFifoQueue := by
  obtain ⟨hrefs, hnil, hd, he, -⟩ := queueDrain_spec (queueDisableBegin q)
  refine congrArg₂ DisableReturn.mk (FifoQueue.ext (BoundedFifo.ext ?_ hnil.symm) he.symm)
    hrefs.symm
  show q.depth - 1 = (queueDrain (queueDisableBegin q)).queue.depth - 1
  rw [hd]
  rfl

theorem queueStop_refines (q : QueueContext) :
    q.toFifoQueue.disable = (queueStop q).map QueueContext.toFifoQueue :=
  queueDisable_refines (q.setStopped true)

/-- Reading the list off the ring is a homomorphism of queue implementations. -/
def ringHom : QueueHom QueueContext FifoQueue where
  toFun := QueueContext.toFifoQueue
  map_create := queueCreate_refines
  map_push := queuePushWDropped_refines
  map_pop := queuePop_refines
  map_enable _ := rfl
  map_disable := queueDisable_refines
  map_stop := queueStop_refines
  map_entries _ := rfl
  map_enabled _ := rfl

/-! ## Runs -/

/-- One call of the interface. -/
inductive QueueOp where
  | push (capture : CaptureHandle)
  | pushWDropped (capture : CaptureHandle) (wantDropped : Bool)
  | pop
  | enable
  | disable
  | stop
deriving DecidableEq, Repr

/-- What the caller sees of one call, with the reference counting calls made. -/
inductive QueueEvent where
  | pushed (dropped : Option CaptureHandle) (refs : List (RefOp CaptureHandle))
  | popped (wresult : WaitResult) (capture : Option CaptureHandle)
      (refs : List (RefOp CaptureHandle))
  | enabled
  | disabled (refs : List (RefOp CaptureHandle))
deriving DecidableEq, Repr

section Runs

variable {Q Q' : Type} [QueueApi Q] [QueueApi Q']

/-- Carry out one call.  `queue_push` passes no place for the dropped capture. -/
def queueStep (q : Q) : QueueOp → Q × QueueEvent
  | .push c =>
      let r := QueueApi.queuePushWDropped q c false
      (r.queue, .pushed r.dropped r.refs)
  | .pushWDropped c b =>
      let r := QueueApi.queuePushWDropped q c b
      (r.queue, .pushed r.dropped r.refs)
  | .pop =>
      let r := QueueApi.queuePop q
      (r.queue, .popped r.wresult r.capture r.refs)
  | .enable => (QueueApi.queueEnable q, .enabled)
  | .disable =>
      let r := QueueApi.queueDisable q
      (r.queue, .disabled r.refs)
  | .stop =>
      let r := QueueApi.queueStop q
      (r.queue, .disabled r.refs)

/-- Carry out a sequence of calls. -/
def queueRun (q : Q) : List QueueOp → Q × List QueueEvent
  | [] => (q, [])
  | op :: ops =>
      let first := queueStep q op
      let rest := queueRun first.1 ops
      (rest.1, first.2 :: rest.2)

theorem queueStep_hom (h : QueueHom Q Q') (q : Q) (op : QueueOp) :
    queueStep (h.toFun q) op = (h.toFun (queueStep q op).1, (queueStep q op).2) := by
  cases op with
  | push c => simp only [queueStep, h.map_push, PushReturn.map]
  | pushWDropped c b => simp only [queueStep, h.map_push, PushReturn.map]
  | pop => simp only [queueStep, h.map_pop, PopReturn.map]
  | enable => simp only [queueStep, h.map_enable]
  | disable => simp only [queueStep, h.map_disable, DisableReturn.map]
  | stop => simp only [queueStep, h.map_stop, DisableReturn.map]

theorem queueRun_hom (h : QueueHom Q Q') (ops : List QueueOp) :
    ∀ q : Q, queueRun (h.toFun q) ops = (h.toFun (queueRun q ops).1, (queueRun q ops).2) := by
  induction ops with
  | nil => intro q; rfl
  | cons op ops ih =>
      intro q
      simp only [queueRun, queueStep_hom h q op, ih]

end Runs

theorem FifoQueue.capacity_queueStep (f : FifoQueue) (op : QueueOp) :
    (queueStep f op).1.fifo.capacity = f.fifo.capacity := by
  have hpush : ∀ c b, (f.pushWDropped c b).queue.fifo.capacity = f.fifo.capacity := by
    intro c b
    simp only [FifoQueue.pushWDropped]
    split <;> rfl
  cases op with
  | push c => exact hpush c false
  | pushWDropped c b => exact hpush c b
  | pop =>
      show (f.pop).queue.fifo.capacity = _
      simp only [FifoQueue.pop]
      split <;> rfl
  | enable => rfl
  | disable => rfl
  | stop => rfl

theorem FifoQueue.capacity_queueRun (ops : List QueueOp) :
    ∀ f : FifoQueue, (queueRun f ops).1.fifo.capacity = f.fifo.capacity := by
  induction ops with
  | nil => intro f; rfl
  | cons op ops ih =>
      intro f
      exact (ih _).trans (f.capacity_queueStep op)

/-- Pushing to an enabled queue with room for all fills it up. -/
theorem FifoQueue.length_push_replicate (c : CaptureHandle) (n : Nat) :
    ∀ f : FifoQueue, f.enabled = true → f.fifo.items.length + n ≤ f.fifo.capacity →
      (queueRun f (List.replicate n (.push c))).1.fifo.items.length = f.fifo.items.length + n := by
  induction n with
  | zero => intro f _ _; rfl
  | succ n ih =>
      intro f he hroom
      have hfull : f.fifo.full = false := by
        rw [Bool.eq_false_iff]
        intro h
        have := f.fifo.full_iff.mp h
        omega
      have hstep : (queueStep f (.push c)).1 = ⟨f.fifo.push c, true⟩ := by
        simp [queueStep, QueueApi.queuePushWDropped, FifoQueue.pushWDropped, he]
      have hlen : (f.fifo.push c).items.length = f.fifo.items.length + 1 := by
        rw [BoundedFifo.items_push_of_not_full hfull, List.length_append, List.length_singleton]
      rw [List.replicate_succ, queueRun, hstep]
      rw [ih ⟨f.fifo.push c, true⟩ rfl (by rw [hlen]; simp; omega), hlen]
      omega

/-- The ring-buffer queue refines the bounded list: for every depth the code
accepts and every sequence of calls the locations stay inside the ring, the list
read off the ring is the list of the specification, which never exceeds the
depth, and the caller sees the same results and reference counting calls.  The
bound is reached. -/
theorem queue_refines_bounded_fifo (queueDepth : UInt32) (hpos : 1 ≤ queueDepth.toNat)
    (hle : queueDepth.toNat ≤ 10000) :
    ∃ (q : QueueContext) (f : FifoQueue),
      queueCreate queueDepth = some q ∧ FifoQueue.create queueDepth = some f ∧
      (∀ ops : List QueueOp,
        (queueRun q ops).1.depth = queueDepth.toNat + 1 ∧
        (queueRun q ops).1.readLocation.val < queueDepth.toNat + 1 ∧
        (queueRun q ops).1.writeLocation.val < queueDepth.toNat + 1 ∧
        (queueRun q ops).1.toFifoQueue = (queueRun f ops).1 ∧
        (queueRun q ops).2 = (queueRun f ops).2 ∧
        (queueRun q ops).1.contents.length ≤ queueDepth.toNat) ∧
      ∃ ops : List QueueOp, (queueRun q ops).1.contents.length = queueDepth.toNat := by
  have hf : FifoQueue.create queueDepth =
      some ⟨BoundedFifo.empty queueDepth.toNat hpos, false⟩ := by
    rw [FifoQueue.create, dif_pos ⟨hpos, hle⟩]
  have hmap := queueCreate_refines queueDepth
  rw [hf] at hmap
  obtain ⟨q, hq, hqf⟩ := Option.map_eq_some_iff.mp hmap.symm
  refine ⟨q, _, hq, hf, ?_, ?_⟩
  · intro ops
    have hrun := queueRun_hom ringHom ops q
    rw [show ringHom.toFun q = _ from hqf] at hrun
    have hstate : (queueRun q ops).1.toFifoQueue = _ := (congrArg Prod.fst hrun).symm
    have hcap : (queueRun q ops).1.depth - 1 = queueDepth.toNat := by
      have := FifoQueue.capacity_queueRun ops ⟨BoundedFifo.empty queueDepth.toNat hpos, false⟩
      rw [← hstate] at this
      exact this
    have hdepth : (queueRun q ops).1.depth = queueDepth.toNat + 1 := by
      have := (queueRun q ops).1.one_lt_depth
      omega
    have hlen := (queueRun q ops).1.length_contents_lt
    refine ⟨hdepth, ?_, ?_, hstate, (congrArg Prod.snd hrun).symm, by omega⟩
    · exact hdepth ▸ (queueRun q ops).1.readLocation.isLt
    · exact hdepth ▸ (queueRun q ops).1.writeLocation.isLt
  · refine ⟨.enable :: List.replicate queueDepth.toNat (.push default), ?_⟩
    have hrun := queueRun_hom ringHom
      (.enable :: List.replicate queueDepth.toNat (.push default)) q
    rw [show ringHom.toFun q = _ from hqf] at hrun
    have hstate := congrArg (fun r => r.1.fifo.items.length) hrun
    rw [show (queueRun q _).1.contents.length = _ from hstate.symm]
    have hfill := FifoQueue.length_push_replicate default queueDepth.toNat
      ⟨BoundedFifo.empty queueDepth.toNat hpos, true⟩ rfl (by simp [BoundedFifo.empty])
    exact hfill.trans (by simp [BoundedFifo.empty])

theorem queue_refines_bounded_fifo_two :
    ∃ (q : QueueContext) (f : FifoQueue),
      queueCreate 2 = some q ∧ FifoQueue.create 2 = some f ∧
      (queueRun q [.enable, .push ⟨1⟩, .push ⟨2⟩, .pushWDropped ⟨3⟩ true, .pop]).2 =
        (queueRun f [.enable, .push ⟨1⟩, .push ⟨2⟩, .pushWDropped ⟨3⟩ true, .pop]).2 := by
  obtain ⟨q, f, hq, hf, hrun, -⟩ := queue_refines_bounded_fifo 2 (by decide) (by decide)
  exact ⟨q, f, hq, hf, (hrun _).2.2.2.2.1⟩

/-- A queue of two captures that is full hands its oldest capture to a caller that
wants it. -/
example : (FifoQueue.create 2).map
    (fun f => (queueRun f [.enable, .push ⟨1⟩, .push ⟨2⟩, .pushWDropped ⟨3⟩ true, .pop]).2) =
    some [.enabled, .pushed none [.acquire ⟨1⟩], .pushed none [.acquire ⟨2⟩],
      .pushed (some ⟨1⟩) [.acquire ⟨3⟩], .popped .succeeded (some ⟨2⟩) []] := by decide

end ZsaSdk
