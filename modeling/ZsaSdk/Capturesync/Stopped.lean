import ZsaSdk.Capturesync.Failure
import ZsaSdk.Capturesync.Start

/-!
# A stopped synchroniser

After its creation, and after `capturesync_stop`, the synchroniser does not run, its queues are
disabled and empty, and its slots are empty.  Until the next `capturesync_start` no call changes
that: captures are turned away, reads fail, and the notifiers find nothing to stop.
-/

namespace ZsaSdk

namespace World

/-- The synchroniser is stopped. -/
structure Stopped {Q : Type} [QueueApi Q] (w : World Q) : Prop where
  running : w.sync.running = false
  slot : ∀ k, (w.frame k).capture = none ∧ (w.frame k).image = none
  queue : ∀ k, QueueApi.enabled (w.frame k).queue = false ∧ QueueApi.entries (w.frame k).queue = 0
  syncQueue : QueueApi.enabled w.sync.syncQueue = false ∧ QueueApi.entries w.sync.syncQueue = 0

theorem stopped_map {Q Q' : Type} [QueueApi Q] [QueueApi Q'] (h : QueueHom Q Q') {w : World Q} :
    Stopped (w.map h.toFun) ↔ Stopped w := by
  have hqueue : ∀ q, (QueueApi.enabled (h.toFun q) = false ∧ QueueApi.entries (h.toFun q) = 0) ↔
      (QueueApi.enabled q = false ∧ QueueApi.entries q = 0) := by
    intro q
    rw [h.map_enabled, h.map_entries]
  constructor
  · intro hs
    exact ⟨hs.running, fun k => by simpa [FrameInfo.map] using hs.slot k,
      fun k => (hqueue _).mp (by simpa [FrameInfo.map] using hs.queue k),
      (hqueue _).mp hs.syncQueue⟩
  · intro hs
    exact ⟨hs.running, fun k => by simpa [FrameInfo.map] using hs.slot k,
      fun k => by simpa [FrameInfo.map] using (hqueue _).mpr (hs.queue k),
      (hqueue _).mpr hs.syncQueue⟩

/-! ## Slots -/

theorem image_clearSlot (w : World FifoQueue) (k : Bool) :
    ((w.clearSlot k).frame k).image = none := by
  cases hc : (w.frame k).capture <;> cases hi : (w.frame k).image <;> simp [clearSlot, hc, hi]

theorem queue_clearSlot (w : World FifoQueue) (k : Bool) :
    ((w.clearSlot k).frame k).queue = (w.frame k).queue := by
  cases hc : (w.frame k).capture <;> cases hi : (w.frame k).image <;> simp [clearSlot, hc, hi]

theorem clearSlot_of_null {w : World FifoQueue} {k : Bool}
    (h : (w.frame k).capture = none ∧ (w.frame k).image = none) : w.clearSlot k = w := by
  simp [clearSlot, h.1, h.2]

/-! ## What the calls do to a stopped synchroniser -/

variable {w w' : World FifoQueue}

/-- The notifiers leave a stopped synchroniser stopped. -/
theorem Stopped.of_interfered (h : Stopped w) (hi : Interfered w w')
    (hq : w'.sync.syncQueue = w.sync.syncQueue ∨
      w'.sync.syncQueue = (FifoQueue.disable w.sync.syncQueue).queue) : Stopped w' where
  running := (congrArg Params.running hi.params).trans h.running
  slot k := ⟨(hi.capture k).trans (h.slot k).1, (hi.image k).trans (h.slot k).2⟩
  queue k := by
    rcases hi.queue k with he | ⟨ho, hn⟩
    · rw [he]
      exact h.queue k
    · exact ⟨ho, congrArg List.length hn⟩
  syncQueue := by
    rcases hq with he | he
    · rw [he]
      exact h.syncQueue
    · rw [he]
      exact ⟨rfl, rfl⟩

theorem Stopped.notifierMove (h : Stopped w) (m : NotifierMove) : Stopped (w.notifierMove m) := by
  refine h.of_interfered (notifierMove_interfered w m) ?_
  cases m with
  | enter => exact Or.inl rfl
  | advance i =>
      simp only [World.notifierMove]
      cases w.notifiers[i]? with
      | none => exact Or.inl rfl
      | some stage =>
          cases stage with
          | syncQueue => exact Or.inr rfl
          | depthQueue => exact Or.inl rfl
          | colorQueue => exact Or.inl rfl

theorem Stopped.stopQueues (h : Stopped w) : Stopped w.stopQueues := by
  have hi := (shutSyncQueue_interfered w).trans
    ((shutFrameQueue_interfered _ false).trans (shutFrameQueue_interfered _ true))
  exact h.of_interfered hi (Or.inr rfl)

/-- Only the flag, the slots and the queues matter. -/
theorem Stopped.congr (h : Stopped w) (hr : w'.sync.running = w.sync.running)
    (hf : ∀ k, w'.frame k = w.frame k) (hs : w'.sync.syncQueue = w.sync.syncQueue) :
    Stopped w' where
  running := hr.trans h.running
  slot k := by
    rw [hf]
    exact h.slot k
  queue k := by
    rw [hf]
    exact h.queue k
  syncQueue := by
    rw [hs]
    exact h.syncQueue

theorem Stopped.addLocked (h : Stopped w) (c : CaptureHandle) (ts : UInt64) (k : Bool) :
    w.addLocked c ts k = w := by
  rw [World.addLocked, if_pos h.running]

end World

open World

variable {w : World FifoQueue}

theorem capturesyncAddCapture_stopped (h : Stopped w) (r : Result) (c : Option CaptureHandle)
    (k : Bool) : Stopped (capturesyncAddCapture w r c k) := by
  simp only [capturesyncAddCapture]
  split
  · exact h.stopQueues
  · cases c with
    | none => exact h
    | some c =>
        simp only
        cases w.heap.typedImage k c with
        | none => exact h
        | some i =>
            have hrefs : Stopped (w.postImageRefs [.acquire i, .release i]) :=
              h.congr rfl (frame_congr rfl rfl) rfl
            simp only [hrefs.addLocked]
            exact hrefs

theorem capturesyncGetCapture_stopped (h : Stopped w) : Stopped (capturesyncGetCapture w).1 := by
  have hpop : w.sync.syncQueue.pop = ⟨w.sync.syncQueue, .failed, none, []⟩ := by
    have he : w.sync.syncQueue.enabled = false := h.syncQueue.1
    simp [FifoQueue.pop, he]
  have hget : (capturesyncGetCapture w).1 = { w.postCaptureRefs [] with sync := w.sync } := by
    simp only [capturesyncGetCapture, show QueueApi.queuePop w.sync.syncQueue = _ from hpop]
  rw [hget]
  exact h.congr rfl (frame_congr rfl rfl) rfl

/-- `capturesync_stop` stops the synchroniser, whatever the notifiers do meanwhile. -/
theorem capturesyncStop_stopped (w : World FifoQueue) : Stopped (capturesyncStop w) := by
  obtain ⟨hi, hclosed⟩ := shutDown_interfered w
  have hstop : capturesyncStop w = (w.shutDown.clearSlot true).clearSlot false := rfl
  have hkeep : ((w.shutDown.clearSlot true).clearSlot false).frame true =
      (w.shutDown.clearSlot true).frame true := frame_clearSlot_not _ false
  have hkeep' : (w.shutDown.clearSlot true).frame false = w.shutDown.frame false :=
    frame_clearSlot_not _ true
  have hqueue : ∀ k, ((capturesyncStop w).frame k).queue = (w.shutDown.frame k).queue := by
    intro k
    cases k with
    | false => rw [hstop, queue_clearSlot, hkeep']
    | true => rw [hstop, hkeep, queue_clearSlot]
  constructor
  · exact congrArg Params.running (settings_capturesyncStop w)
  · intro k
    cases k with
    | false => exact ⟨capture_clearSlot _ false, image_clearSlot _ false⟩
    | true =>
        rw [hstop, hkeep]
        exact ⟨capture_clearSlot _ true, image_clearSlot _ true⟩
  · intro k
    rw [hqueue]
    exact ⟨(hclosed k).1, congrArg List.length (hclosed k).2⟩
  · rw [hstop, syncQueue_clearSlot, syncQueue_clearSlot]
    exact ⟨rfl, rfl⟩

/-- Over empty slots it leaves the timestamps alone. -/
theorem ts_capturesyncStop {w : World FifoQueue}
    (h : ∀ k, (w.frame k).capture = none ∧ (w.frame k).image = none) (k : Bool) :
    ((capturesyncStop w).frame k).ts = (w.frame k).ts := by
  obtain ⟨hi, -⟩ := shutDown_interfered w
  have hslot : ∀ j, (w.shutDown.frame j).capture = none ∧ (w.shutDown.frame j).image = none :=
    fun j => by
      rw [hi.capture j, hi.image j]
      cases j with
      | false => exact h false
      | true => exact h true
  have hstop : capturesyncStop w = (w.shutDown.clearSlot true).clearSlot false := rfl
  rw [hstop, clearSlot_of_null (hslot true), clearSlot_of_null (hslot false), hi.ts k]
  cases k <;> rfl

theorem capturesyncCreate_stopped {heap : Heap} {b : Bool}
    (h : capturesyncCreate FifoQueue heap b = some w) : Stopped w := by
  simp only [capturesyncCreate, Option.bind_eq_bind, Option.pure_def, Option.bind_eq_some_iff,
    Option.some.injEq] at h
  obtain ⟨q, -, p, -, r, -, he⟩ := h
  subst he
  refine ⟨rfl, fun k => ?_, fun k => ?_, ⟨rfl, rfl⟩⟩
  · cases k <;> exact ⟨rfl, rfl⟩
  · cases k <;> exact ⟨rfl, rfl⟩

/-! ## Over ring buffers -/

section Ring

variable {w w' : World QueueContext}

/-- A call of the synchroniser by one of its clients, or a move of the notifiers, between two
calls that start or stop it. -/
inductive ClientStep (w : World QueueContext) : World QueueContext → Prop where
  | addCapture (r : Result) (c : Option CaptureHandle) (k : Bool) :
      ClientStep w (capturesyncAddCapture w r c k)
  | getCapture : ClientStep w (capturesyncGetCapture w).1
  | notifier (m : NotifierMove) : ClientStep w (w.notifierMove m)
  | schedule (moves : List (List NotifierMove)) : ClientStep w { w with schedule := moves }

/-- No client can wake a stopped synchroniser. -/
theorem ClientStep.stopped (hstep : ClientStep w w') (h : Stopped w) : Stopped w' := by
  rw [← stopped_map ringHom] at h ⊢
  cases hstep with
  | addCapture r c k =>
      rw [← capturesyncAddCapture_map]
      exact capturesyncAddCapture_stopped h r c k
  | getCapture =>
      have hstopped := capturesyncGetCapture_stopped h
      rw [capturesyncGetCapture_map] at hstopped
      exact hstopped
  | notifier m =>
      rw [← World.notifierMove_map]
      exact h.notifierMove m
  | schedule moves => exact h.congr rfl (frame_congr rfl rfl) rfl

theorem capturesyncStop_stopped_ring (w : World QueueContext) : Stopped (capturesyncStop w) := by
  rw [← stopped_map ringHom, ← capturesyncStop_map]
  exact capturesyncStop_stopped _

theorem capturesyncCreate_stopped_ring {heap : Heap} {b : Bool}
    (h : capturesyncCreate QueueContext heap b = some w) : Stopped w := by
  have hfifo : capturesyncCreate FifoQueue heap b = some (w.map ringHom.toFun) := by
    rw [capturesyncCreate_map ringHom, h, Option.map_some]
  exact (stopped_map ringHom).mp (capturesyncCreate_stopped hfifo)

theorem ts_capturesyncStop_ring
    (h : ∀ k, (w.frame k).capture = none ∧ (w.frame k).image = none) (k : Bool) :
    ((capturesyncStop w).frame k).ts = (w.frame k).ts := by
  have hmap : ∀ j, ((w.map ringHom.toFun).frame j).capture = none ∧
      ((w.map ringHom.toFun).frame j).image = none := by
    intro j
    rw [World.frame_map]
    exact h j
  have hts := ts_capturesyncStop hmap k
  rw [capturesyncStop_map, World.frame_map, World.frame_map] at hts
  exact hts

end Ring

end ZsaSdk
