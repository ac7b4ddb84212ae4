import ZsaSdk.Capturesync.Simulation

/-!
# What each step of the synchroniser changes

Over bounded lists, one lemma for each building block of the synchroniser says
what it does to the slots, the internal queues and the heap.  The proofs about
the synchroniser cite these and do not unfold the functions again.

`items w k` and `isOpen w k` are the contents and the flag of the internal queue of
stream `k`.  Every step leaves the other stream alone, except for the notifiers,
which can close either queue at any queue operation.
-/

namespace ZsaSdk

open Ledger

/-! ## Setting the colour image of a capture -/

namespace Heap

variable (h : Heap) (d c e : CaptureHandle)

theorem typedImage_setColor (i : Option ImageHandle) :
    (h.captureSetColorImage d i).typedImage true c =
      if c = d then i else h.typedImage true c := by
  by_cases hc : c = d
  · simp [captureSetColorImage, typedImage, hc]
  · simp [captureSetColorImage, typedImage, hc]

theorem typedImage_false_setColor (i : Option ImageHandle) :
    (h.captureSetColorImage d i).typedImage false c = h.typedImage false c := by
  by_cases hc : c = d
  · simp [captureSetColorImage, typedImage, hc]
  · simp [captureSetColorImage, typedImage, hc]

/-- A merge sets an image, so no capture loses its typed image. -/
theorem typedImage_setColor_ne_none {h : Heap} {c e : CaptureHandle} {k : Bool}
    (d : CaptureHandle) (hc : h.typedImage true c ≠ none) (he : h.typedImage k e ≠ none) :
    (h.captureSetColorImage d (h.typedImage true c)).typedImage k e ≠ none := by
  cases k with
  | false =>
      rw [typedImage_false_setColor]
      exact he
  | true =>
      rw [typedImage_setColor]
      split
      · exact hc
      · exact he

/-- A merge gives the depth capture the colour timestamp of the colour capture. -/
theorem typedTs_setColor (k : Bool) :
    (h.captureSetColorImage d (h.typedImage true c)).typedTs k e =
      if e = d ∧ k = true then h.typedTs true c else h.typedTs k e := by
  have hts : ∀ i, (h.captureSetColorImage d (h.typedImage true c)).imageGetDeviceTimestampUsec i =
      h.imageGetDeviceTimestampUsec i := by
    intro i
    cases i <;> rfl
  simp only [typedTs]
  rw [hts]
  cases k with
  | false =>
      rw [typedImage_false_setColor, if_neg (fun hk => Bool.false_ne_true hk.2)]
  | true =>
      rw [typedImage_setColor]
      by_cases hed : e = d
      · rw [if_pos hed, if_pos ⟨hed, rfl⟩]
      · rw [if_neg hed, if_neg (fun hk => hed hk.1)]

end Heap

namespace World

/-! ## Reading and writing a slot -/

/-- There are two streams, this one and the other one. -/
theorem forall_stream {P : Bool → Prop} {k : Bool} (hthis : P k) (hother : P (!k)) : ∀ j, P j := by
  intro j
  cases k with
  | false => cases j <;> assumption
  | true => cases j <;> assumption

/-- Worlds with the same slots have the same frames. -/
theorem frame_congr {Q : Type} {w w' : World Q} (hc : w'.sync.color = w.sync.color)
    (hd : w'.sync.depthIr = w.sync.depthIr) : ∀ j, w'.frame j = w.frame j :=
  forall_stream (k := true) hc hd

theorem queue_congr {Q : Type} {w w' : World Q} (hc : w'.sync.color = w.sync.color)
    (hd : w'.sync.depthIr = w.sync.depthIr) : ∀ j, (w'.frame j).queue = (w.frame j).queue :=
  fun j => congrArg FrameInfo.queue (frame_congr hc hd j)

section Slots

variable {Q : Type} (w : World Q) (k : Bool) (f : FrameInfo Q)

@[simp] theorem frame_setFrame : (w.setFrame k f).frame k = f := by cases k <;> rfl

@[simp] theorem frame_setFrame_not : (w.setFrame k f).frame (!k) = w.frame (!k) := by
  cases k <;> rfl

@[simp] theorem heap_setFrame : (w.setFrame k f).heap = w.heap := by cases k <;> rfl

@[simp] theorem notifiers_setFrame : (w.setFrame k f).notifiers = w.notifiers := by
  cases k <;> rfl

@[simp] theorem schedule_setFrame : (w.setFrame k f).schedule = w.schedule := by cases k <;> rfl

@[simp] theorem published_setFrame : (w.setFrame k f).published = w.published := by
  cases k <;> rfl

@[simp] theorem captureRefs_setFrame : (w.setFrame k f).captureRefs = w.captureRefs := by
  cases k <;> rfl

@[simp] theorem imageRefs_setFrame : (w.setFrame k f).imageRefs = w.imageRefs := by
  cases k <;> rfl

@[simp] theorem syncQueue_setFrame : (w.setFrame k f).sync.syncQueue = w.sync.syncQueue := by
  cases k <;> rfl

@[simp] theorem frame_postCaptureRefs (ops : List (RefOp CaptureHandle)) :
    (w.postCaptureRefs ops).frame k = w.frame k := by
  cases k <;> rfl

@[simp] theorem frame_postImageRefs (ops : List (RefOp ImageHandle)) :
    (w.postImageRefs ops).frame k = w.frame k := by
  cases k <;> rfl

@[simp] theorem frame_captureDecRef (c : Option CaptureHandle) :
    (w.captureDecRef c).frame k = w.frame k := by
  cases k <;> rfl

@[simp] theorem frame_imageDecRef (i : Option ImageHandle) :
    (w.imageDecRef i).frame k = w.frame k := by
  cases k <;> rfl

@[simp] theorem heap_postCaptureRefs (ops : List (RefOp CaptureHandle)) :
    (w.postCaptureRefs ops).heap = w.heap := rfl

@[simp] theorem heap_postImageRefs (ops : List (RefOp ImageHandle)) :
    (w.postImageRefs ops).heap = w.heap := rfl

@[simp] theorem notifiers_postCaptureRefs (ops : List (RefOp CaptureHandle)) :
    (w.postCaptureRefs ops).notifiers = w.notifiers := rfl

@[simp] theorem notifiers_postImageRefs (ops : List (RefOp ImageHandle)) :
    (w.postImageRefs ops).notifiers = w.notifiers := rfl

@[simp] theorem schedule_postCaptureRefs (ops : List (RefOp CaptureHandle)) :
    (w.postCaptureRefs ops).schedule = w.schedule := rfl

@[simp] theorem schedule_postImageRefs (ops : List (RefOp ImageHandle)) :
    (w.postImageRefs ops).schedule = w.schedule := rfl

@[simp] theorem published_postCaptureRefs (ops : List (RefOp CaptureHandle)) :
    (w.postCaptureRefs ops).published = w.published := rfl

@[simp] theorem published_postImageRefs (ops : List (RefOp ImageHandle)) :
    (w.postImageRefs ops).published = w.published := rfl

@[simp] theorem syncQueue_postCaptureRefs (ops : List (RefOp CaptureHandle)) :
    (w.postCaptureRefs ops).sync.syncQueue = w.sync.syncQueue := rfl

@[simp] theorem syncQueue_postImageRefs (ops : List (RefOp ImageHandle)) :
    (w.postImageRefs ops).sync.syncQueue = w.sync.syncQueue := rfl

@[simp] theorem setFrame_frame : w.setFrame k (w.frame k) = w := by cases k <;> rfl

theorem setFrame_setFrame (g : FrameInfo Q) : (w.setFrame k f).setFrame k g = w.setFrame k g := by
  cases k <;> rfl

end Slots

/-! ## The session parameters -/

/-- The part of the context that only `capturesync_start` and the start-up filter
write. -/
structure Params where
  fpsPeriod : UInt64
  fps1QuarterPeriod : UInt64
  syncCaptures : Bool
  synchronizedImagesOnly : Bool
  waitingForCleanDepthTs : Bool
  disableSync : Bool
  depthDelayOffColorUsec : Int32
  running : Bool

/-- The session parameters of a world. -/
def params {Q : Type} (w : World Q) : Params where
  fpsPeriod := w.sync.fpsPeriod
  fps1QuarterPeriod := w.sync.fps1QuarterPeriod
  syncCaptures := w.sync.syncCaptures
  synchronizedImagesOnly := w.sync.synchronizedImagesOnly
  waitingForCleanDepthTs := w.sync.waitingForCleanDepthTs
  disableSync := w.sync.disableSync
  depthDelayOffColorUsec := w.sync.depthDelayOffColorUsec
  running := w.sync.running

@[simp] theorem params_setFrame {Q : Type} (w : World Q) (k : Bool) (f : FrameInfo Q) :
    (w.setFrame k f).params = w.params := by
  cases k <;> rfl

@[simp] theorem params_postCaptureRefs {Q : Type} (w : World Q)
    (ops : List (RefOp CaptureHandle)) : (w.postCaptureRefs ops).params = w.params := rfl

@[simp] theorem params_postImageRefs {Q : Type} (w : World Q) (ops : List (RefOp ImageHandle)) :
    (w.postImageRefs ops).params = w.params := rfl

/-! ## Queues of a stream -/

variable (w : World FifoQueue) (k : Bool)

/-- The captures in the internal queue of a stream. -/
def items : List CaptureHandle := (w.frame k).queue.fifo.items

/-- The internal queue of a stream is enabled. -/
def isOpen : Bool := (w.frame k).queue.enabled

/-- The capacities of the colour queue, the depth queue and `sync_queue`. -/
def caps : Nat × Nat × Nat :=
  (w.sync.color.queue.fifo.capacity, w.sync.depthIr.queue.fifo.capacity,
    w.sync.syncQueue.fifo.capacity)

theorem caps_setFrame {f : FrameInfo FifoQueue}
    (h : f.queue.fifo.capacity = (w.frame k).queue.fifo.capacity) :
    (w.setFrame k f).caps = w.caps := by
  cases k with
  | false => exact congrArg (fun n => (_, n, _)) h
  | true => exact congrArg (fun n => (n, _, _)) h

/-! ## Notifiers

A notifier leaves the heap, the slots and the session parameters alone, and closes
queues.  It never opens one and never adds to one. -/

/-- What the notifiers, and a push to `sync_queue`, can do to the two streams: `w'` is `w`
after some of their moves. -/
structure Interfered (w w' : World FifoQueue) : Prop where
  heap : w'.heap = w.heap
  params : w'.params = w.params
  slot : ∀ k, w'.frame k =
    ⟨(w'.frame k).queue, (w.frame k).capture, (w.frame k).image, (w.frame k).ts⟩
  queue : ∀ k, (w'.frame k).queue = (w.frame k).queue ∨
    (w'.isOpen k = false ∧ w'.items k = [])
  caps : w'.caps = w.caps

namespace Interfered

variable {w w' w'' : World FifoQueue}

theorem refl (w : World FifoQueue) : Interfered w w :=
  ⟨rfl, rfl, fun _ => rfl, fun _ => Or.inl rfl, rfl⟩

theorem trans (h : Interfered w w') (h' : Interfered w' w'') : Interfered w w'' where
  heap := h'.heap.trans h.heap
  params := h'.params.trans h.params
  slot k := by rw [h'.slot k, h.slot k]
  queue k := by
    rcases h'.queue k with he | hc
    · rcases h.queue k with he' | ⟨ho, hi⟩
      · exact Or.inl (he.trans he')
      · refine Or.inr ⟨?_, ?_⟩
        · exact (congrArg FifoQueue.enabled he).trans ho
        · exact (congrArg (fun q => q.fifo.items) he).trans hi
    · exact Or.inr hc
  caps := h'.caps.trans h.caps

theorem capture (h : Interfered w w') (k : Bool) : (w'.frame k).capture = (w.frame k).capture := by
  rw [h.slot k]

theorem image (h : Interfered w w') (k : Bool) : (w'.frame k).image = (w.frame k).image := by
  rw [h.slot k]

theorem ts (h : Interfered w w') (k : Bool) : (w'.frame k).ts = (w.frame k).ts := by
  rw [h.slot k]

/-- The captures left in a queue were there before. -/
theorem items_subset (h : Interfered w w') (k : Bool) : w'.items k ⊆ w.items k := by
  rcases h.queue k with he | ⟨-, hi⟩
  · have hi : w'.items k = w.items k := congrArg (fun q => q.fifo.items) he
    rw [hi]
    exact List.Subset.refl _
  · rw [hi]
    exact List.nil_subset _

theorem items_length (h : Interfered w w') (k : Bool) :
    (w'.items k).length ≤ (w.items k).length := by
  rcases h.queue k with he | ⟨-, hi⟩
  · exact Nat.le_of_eq (congrArg (fun q => q.fifo.items.length) he)
  · rw [hi]
    exact Nat.zero_le _

/-- A closed queue stays closed. -/
theorem isOpen_false (h : Interfered w w') {k : Bool} (ho : w.isOpen k = false) :
    w'.isOpen k = false := by
  rcases h.queue k with he | ⟨hc, -⟩
  · exact (congrArg FifoQueue.enabled he).trans ho
  · exact hc

end Interfered

theorem shutSyncQueue_interfered : Interfered w (w.shutSyncQueue FifoQueue.disable) where
  heap := rfl
  params := rfl
  slot k := by cases k <;> rfl
  queue k := Or.inl (by cases k <;> rfl)
  caps := rfl

theorem shutFrameQueue_interfered (j : Bool) :
    Interfered w (w.shutFrameQueue j FifoQueue.disable) where
  heap := by simp [shutFrameQueue, postCaptureRefs]
  params := by rw [shutFrameQueue, params_setFrame]; rfl
  slot k := by cases j <;> cases k <;> rfl
  queue k := by
    cases j <;> cases k
    · exact Or.inr ⟨rfl, rfl⟩
    · exact Or.inl rfl
    · exact Or.inl rfl
    · exact Or.inr ⟨rfl, rfl⟩
  caps := by cases j <;> rfl

theorem notifierMove_interfered (m : NotifierMove) : Interfered w (w.notifierMove m) := by
  cases m with
  | enter =>
      exact ⟨rfl, rfl, fun k => by cases k <;> rfl, fun k => Or.inl (by cases k <;> rfl), rfl⟩
  | advance i =>
      simp only [notifierMove]
      cases w.notifiers[i]? with
      | none => exact Interfered.refl w
      | some stage =>
          cases stage with
          | syncQueue =>
              have h := shutSyncQueue_interfered w
              exact ⟨h.heap, h.params, h.slot, h.queue, h.caps⟩
          | depthQueue =>
              have h := shutFrameQueue_interfered w false
              exact ⟨h.heap, h.params, h.slot, h.queue, h.caps⟩
          | colorQueue =>
              have h := shutFrameQueue_interfered w true
              exact ⟨h.heap, h.params, h.slot, h.queue, h.caps⟩

theorem foldl_notifierMove_interfered (moves : List NotifierMove) :
    ∀ w : World FifoQueue, Interfered w (moves.foldl notifierMove w) := by
  induction moves with
  | nil => intro w; exact Interfered.refl w
  | cons m moves ih =>
      intro w
      exact (notifierMove_interfered w m).trans (ih _)

theorem preempt_interfered : Interfered w w.preempt := by
  simp only [preempt]
  cases w.schedule with
  | nil => exact Interfered.refl w
  | cons moves rest =>
      have h := foldl_notifierMove_interfered moves { w with schedule := rest }
      exact ⟨h.heap, h.params, h.slot, h.queue, h.caps⟩

/-- Without a schedule the other threads do not move. -/
theorem preempt_of_nil {Q : Type} [QueueApi Q] {w : World Q} (h : w.schedule = []) :
    w.preempt = w := by
  simp [preempt, h]

/-! ## Publishing -/

theorem capacity_pushWDropped (q : FifoQueue) (c : CaptureHandle) (b : Bool) :
    (q.pushWDropped c b).queue.fifo.capacity = q.fifo.capacity := by
  cases he : q.enabled <;> cases b <;> simp [FifoQueue.pushWDropped, he]

theorem caps_pushSyncQueue (p : Published) : (w.pushSyncQueue p).caps = w.preempt.caps :=
  congrArg (fun n => (_, _, n)) (capacity_pushWDropped w.preempt.sync.syncQueue p.capture false)

theorem pushSyncQueue_interfered (p : Published) : Interfered w (w.pushSyncQueue p) := by
  have h := preempt_interfered w
  exact ⟨h.heap, h.params, h.slot, h.queue, (caps_pushSyncQueue w p).trans h.caps⟩

theorem publishSlot_interfered : Interfered w (w.publishSlot k) := by
  simp only [publishSlot]
  split
  · exact Interfered.refl w
  · split
    · exact Interfered.refl w
    · exact pushSyncQueue_interfered w _

theorem publishSlot_eq {c : CaptureHandle} (hc : (w.frame k).capture = some c) :
    w.publishSlot k = if w.sync.synchronizedImagesOnly then w
      else w.pushSyncQueue (.alone k c) := by
  simp [publishSlot, hc]

/-! ## Moving a stream forward -/

/-- A slot without a capture. -/
def emptySlot : World FifoQueue :=
  w.setFrame k ⟨(w.frame k).queue, none, none, 0⟩

/-- The slot takes the oldest capture of its queue. -/
def loadSlot (c : CaptureHandle) : World FifoQueue :=
  World.readTypedImage (w.setFrame k { w.frame k with
    queue := ⟨(w.frame k).queue.fifo.pop, (w.frame k).queue.enabled⟩ }) k c

theorem postCaptureRefs_nil {Q : Type} (w : World Q) : w.postCaptureRefs [] = w := by
  simp [postCaptureRefs]

theorem postImageRefs_nil {Q : Type} (w : World Q) : w.postImageRefs [] = w := by
  simp [postImageRefs]

/-- Releasing an empty slot does nothing but reset it. -/
theorem releaseSlot_of_null {w : World FifoQueue} {k : Bool} (hc : (w.frame k).capture = none)
    (hi : (w.frame k).image = none) :
    w.releaseSlot k = w.setFrame k { w.frame k with capture := none, image := none } := by
  simp only [releaseSlot, captureDecRef, imageDecRef, hc, hi, releaseOf_none, postCaptureRefs_nil,
    postImageRefs_nil]

theorem popSlot_closed (h : w.preempt.isOpen k = false) :
    w.popSlot k =
      (w.preempt.setFrame k { w.preempt.frame k with capture := none }, .failed) := by
  have hpop : QueueApi.queuePop (w.preempt.frame k).queue =
      (⟨(w.preempt.frame k).queue, .failed, none, []⟩ : PopReturn FifoQueue) := by
    have ho : (w.preempt.frame k).queue.enabled = false := h
    simp [QueueApi.queuePop, FifoQueue.pop, ho]
  simp only [popSlot, hpop, postCaptureRefs_nil]

theorem popSlot_nil (h : w.preempt.isOpen k = true) (hi : w.preempt.items k = []) :
    w.popSlot k =
      (w.preempt.setFrame k { w.preempt.frame k with capture := none }, .timeout) := by
  have hpop : QueueApi.queuePop (w.preempt.frame k).queue =
      (⟨(w.preempt.frame k).queue, .timeout, none, []⟩ : PopReturn FifoQueue) := by
    have ho : (w.preempt.frame k).queue.enabled = true := h
    have hn : (w.preempt.frame k).queue.fifo.items = [] := hi
    simp [QueueApi.queuePop, FifoQueue.pop, ho, hn]
  simp only [popSlot, hpop, postCaptureRefs_nil]

theorem popSlot_cons {c : CaptureHandle} {cs : List CaptureHandle} (h : w.preempt.isOpen k = true)
    (hi : w.preempt.items k = c :: cs) (ht : w.preempt.heap.typedImage k c ≠ none) :
    w.popSlot k = (w.preempt.loadSlot k c, .succeeded) := by
  have hpop : QueueApi.queuePop (w.preempt.frame k).queue =
      (⟨⟨(w.preempt.frame k).queue.fifo.pop, (w.preempt.frame k).queue.enabled⟩, .succeeded,
        some c, []⟩ : PopReturn FifoQueue) := by
    have ho : (w.preempt.frame k).queue.enabled = true := h
    have hn : (w.preempt.frame k).queue.fifo.items = c :: cs := hi
    simp [QueueApi.queuePop, FifoQueue.pop, ho, hn]
  simp only [popSlot, hpop, postCaptureRefs_nil]
  have hload : ∀ v : World FifoQueue, (World.readTypedImage (v.setFrame k
      { v.frame k with
        queue := ⟨(v.frame k).queue.fifo.pop, (v.frame k).queue.enabled⟩
        capture := some c }) k c) = v.loadSlot k c := by
    intro v
    cases k <;> rfl
  have himg : ((w.preempt.loadSlot k c).frame k).image = w.preempt.heap.typedImage k c := by
    simp [loadSlot, readTypedImage]
  rw [hload, himg, if_neg ht]

/-- `drop_sample` up to its pop: the capture of the slot is published if asked for,
and released. -/
def dropped (w : World FifoQueue) (k b : Bool) : World FifoQueue :=
  (if b then w.publishSlot k else w).releaseSlot k

theorem frame_dropped (b : Bool) : ∃ v, Interfered w v ∧ w.dropped k b =
    World.setFrame ((v.captureDecRef (v.frame k).capture).imageDecRef (v.frame k).image) k
      { v.frame k with capture := none, image := none } := by
  refine ⟨if b then w.publishSlot k else w, ?_, rfl⟩
  cases b with
  | false => exact Interfered.refl w
  | true => exact publishSlot_interfered w k

/-- `drop_sample` in full: what becomes of the slot depends on the queue after the
other threads have moved. -/
theorem dropSample_eq (r : WaitResult) (b : Bool)
    (ht : ∀ c ∈ (w.dropped k b).preempt.items k,
      (w.dropped k b).preempt.heap.typedImage k c ≠ none) :
    w.dropSample r k b =
      if r = .failed then ((w.dropped k b).emptySlot k, .failed)
      else if (w.dropped k b).preempt.isOpen k = false then
        ((w.dropped k b).preempt.emptySlot k, .failed)
      else
        match (w.dropped k b).preempt.items k with
        | [] => ((w.dropped k b).preempt.emptySlot k, .timeout)
        | c :: _ => ((w.dropped k b).preempt.loadSlot k c, .succeeded) := by
  have hd : (if b then w.publishSlot k else w).releaseSlot k = w.dropped k b := rfl
  obtain ⟨v, -, hv⟩ := frame_dropped w k b
  have hc : ((w.dropped k b).frame k).capture = none := by rw [hv, frame_setFrame]
  have hi : ((w.dropped k b).frame k).image = none := by rw [hv, frame_setFrame]
  -- The reset at the end of `drop_sample` finds a slot that is empty already.
  have hreset : ∀ u : World FifoQueue, (u.frame k).capture = none → (u.frame k).image = none →
      (u.releaseSlot k).setFrame k { (u.releaseSlot k).frame k with ts := 0 } = u.emptySlot k := by
    intro u huc hui
    rw [releaseSlot_of_null huc hui, frame_setFrame, setFrame_setFrame]
    rfl
  have hp := preempt_interfered (w.dropped k b)
  have hpi : ((w.dropped k b).preempt.frame k).image = none := (hp.image k).trans hi
  have hnull : ∀ u : World FifoQueue,
      (u.setFrame k { u.frame k with capture := none }).emptySlot k = u.emptySlot k := by
    intro u
    rw [emptySlot, frame_setFrame, setFrame_setFrame]
    rfl
  simp only [dropSample, hd]
  by_cases hr : r = .failed
  · subst hr
    simp only [ne_eq, not_true_eq_false, if_false, reduceCtorEq, not_false_eq_true, if_true]
    rw [hreset _ hc hi]
  · rw [if_neg hr]
    simp only [ne_eq, hr, not_false_eq_true, if_true]
    cases ho : (w.dropped k b).preempt.isOpen k with
    | false =>
        rw [popSlot_closed _ _ ho]
        simp only [reduceCtorEq, not_false_eq_true, if_true]
        rw [hreset _ (by rw [frame_setFrame]) (by rw [frame_setFrame]; exact hpi), hnull]
    | true =>
        cases hit : (w.dropped k b).preempt.items k with
        | nil =>
            rw [popSlot_nil _ _ ho hit]
            simp only [Bool.true_eq_false, if_false, reduceCtorEq, not_false_eq_true, if_true]
            rw [hreset _ (by rw [frame_setFrame]) (by rw [frame_setFrame]; exact hpi), hnull]
        | cons c cs =>
            rw [popSlot_cons _ _ ho hit (ht c (by rw [hit]; exact List.mem_cons_self ..))]
            simp only [Bool.true_eq_false, not_true_eq_false, if_false]

/-- Clearing a slot whose capture and image are null together. -/
theorem clearSlot_eq {w : World FifoQueue} {k : Bool}
    (h : (w.frame k).capture = none ↔ (w.frame k).image = none) :
    w.clearSlot k =
      World.setFrame ((w.captureDecRef (w.frame k).capture).imageDecRef (w.frame k).image) k
        ⟨(w.frame k).queue, none, none,
          if (w.frame k).capture = none then (w.frame k).ts else 0xffffffffffffffff⟩ := by
  cases hc : (w.frame k).capture with
  | none =>
      have hi := h.mp hc
      have hsame : w.clearSlot k = w := by simp [clearSlot, hc, hi]
      have heta : w.frame k = ⟨(w.frame k).queue, (w.frame k).capture, (w.frame k).image,
          (w.frame k).ts⟩ := rfl
      rw [hc, hi] at heta
      rw [hsame, hi, if_pos rfl, ← heta]
      simp [captureDecRef, imageDecRef, postCaptureRefs_nil, postImageRefs_nil]
  | some c =>
      cases hi : (w.frame k).image with
      | none => exact absurd (h.mpr hi) (by rw [hc]; exact Option.some_ne_none c)
      | some i =>
          have hset : ∀ (v : World FifoQueue) (ops : List (RefOp ImageHandle))
              (f g : FrameInfo FifoQueue),
              ((v.setFrame k f).postImageRefs ops).setFrame k g =
                (v.postImageRefs ops).setFrame k g := by
            intro v ops f g
            cases k <;> rfl
          simp only [clearSlot, hc, hi, frame_setFrame, captureDecRef, imageDecRef, hset,
            reduceCtorEq, if_false]

/-! ## Accepting a capture -/

theorem frame_readTypedImage (c : CaptureHandle) :
    (w.readTypedImage k c).frame k =
      ⟨(w.frame k).queue, some c, w.heap.typedImage k c, w.heap.typedTs k c⟩ := by
  simp [readTypedImage, Heap.typedTs]

theorem frame_readTypedImage_not (c : CaptureHandle) :
    (w.readTypedImage k c).frame (!k) = w.frame (!k) := by
  simp [readTypedImage]

theorem heap_readTypedImage (c : CaptureHandle) : (w.readTypedImage k c).heap = w.heap := by
  simp [readTypedImage, postImageRefs]

/-- A capture is pushed to the internal queue of its stream. -/
def pushed (w : World FifoQueue) (k : Bool) (c : CaptureHandle) : World FifoQueue :=
  (w.postCaptureRefs ((w.frame k).queue.pushWDropped c true).refs).setFrame k
    { w.frame k with queue := ((w.frame k).queue.pushWDropped c true).queue }

/-- The capture that leaves a full internal queue. -/
def evicted (w : World FifoQueue) (k : Bool) (c : CaptureHandle) : Option CaptureHandle :=
  ((w.frame k).queue.pushWDropped c true).dropped

theorem storeCapture_of_null {w : World FifoQueue} {k : Bool} (c : CaptureHandle)
    (h : (w.frame k).capture = none) :
    w.storeCapture c k = (w.readTypedImage k c).postCaptureRefs [.acquire c] := by
  simp [storeCapture, h]

theorem storeCapture_of_some {w : World FifoQueue} {k : Bool} (c : CaptureHandle)
    {d : CaptureHandle} (h : (w.frame k).capture = some d) :
    w.storeCapture c k =
      match w.preempt.evicted k c with
      | none => w.preempt.pushed k c
      | some e => (w.preempt.pushed k c).replaceSample e k := by
  simp only [storeCapture, h]
  rfl

theorem frame_pushed (c : CaptureHandle) : (w.pushed k c).frame k =
    { w.frame k with queue := ((w.frame k).queue.pushWDropped c true).queue } := by
  rw [pushed, frame_setFrame]

theorem frame_pushed_not (c : CaptureHandle) : (w.pushed k c).frame (!k) = w.frame (!k) := by
  simp [pushed]

theorem heap_pushed (c : CaptureHandle) : (w.pushed k c).heap = w.heap := by
  simp [pushed, postCaptureRefs]

/-- A closed queue refuses the capture. -/
theorem pushed_closed {w : World FifoQueue} {k : Bool} (c : CaptureHandle)
    (h : w.isOpen k = false) : w.pushed k c = w ∧ w.evicted k c = none := by
  have ho : (w.frame k).queue.enabled = false := h
  have hpush : (w.frame k).queue.pushWDropped c true = ⟨(w.frame k).queue, none, []⟩ := by
    simp [FifoQueue.pushWDropped, ho]
  refine ⟨?_, ?_⟩
  · rw [pushed, hpush, postCaptureRefs_nil]
    cases k <;> rfl
  · rw [evicted, hpush]

/-- An open queue takes the capture and gives back its oldest one if it is full. -/
theorem pushed_open {w : World FifoQueue} {k : Bool} (c : CaptureHandle) (h : w.isOpen k = true) :
    (w.evicted k c).toList ++ (w.pushed k c).items k = w.items k ++ [c] ∧
      (w.pushed k c).isOpen k = true := by
  have ho : (w.frame k).queue.enabled = true := h
  have hpush : (w.frame k).queue.pushWDropped c true =
      ⟨⟨(w.frame k).queue.fifo.push c, true⟩, (w.frame k).queue.fifo.evicted, [.acquire c]⟩ := by
    simp [FifoQueue.pushWDropped, ho]
  have hframe := frame_pushed w k c
  rw [hpush] at hframe
  refine ⟨?_, ?_⟩
  · rw [evicted, hpush, items, hframe]
    exact BoundedFifo.evicted_append_push _ _
  · rw [isOpen, hframe]

/-- `replace_sample` on a taken slot: the capture in it is published and released, and
the new one takes its place. -/
theorem replaceSample_eq {w : World FifoQueue} {k : Bool} {d : CaptureHandle} (e : CaptureHandle)
    (h : (w.frame k).capture = some d) :
    ∃ v, v = w.publishSlot k ∧ w.replaceSample e k =
      World.readTypedImage ((v.captureDecRef (some d)).imageDecRef (v.frame k).image) k e := by
  refine ⟨w.publishSlot k, rfl, ?_⟩
  have hc : ((w.publishSlot k).frame k).capture = some d :=
    ((publishSlot_interfered w k).capture k).trans h
  simp only [replaceSample, hc]

end World

end ZsaSdk
