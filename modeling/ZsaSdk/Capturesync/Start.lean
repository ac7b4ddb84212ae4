import ZsaSdk.Capturesync.Session

/-!
# Sessions of an idle synchroniser

A synchroniser is idle after its creation and after `capturesync_stop`, whatever
happened before, notifiers included.  Then both slots and all three queues are
empty, so a session that starts there depends on nothing but the heap, the flag
`disable_sync` and the configuration: as lists it is `Session.begin`.
-/

namespace ZsaSdk

open Ledger World

/-- The synchroniser has just been created, or stopped, and no other call is under
way. -/
structure Idle {Q : Type} [QueueApi Q] (w : World Q) : Prop where
  schedule : w.schedule = []
  notifiers : w.notifiers = []
  origin : (∃ heap b, capturesyncCreate Q heap b = some w) ∨
    ∃ v : World Q, Reachable v ∧ capturesyncStop v = w

theorem Idle.reachable {Q : Type} [QueueApi Q] {w : World Q} (h : Idle w) : Reachable w := by
  rcases h.origin with ⟨heap, b, hc⟩ | ⟨v, hv, he⟩
  · exact Reachable.create hc
  · rw [← he]
    exact hv.stop

theorem Idle.map {Q Q' : Type} [QueueApi Q] [QueueApi Q'] (f : QueueHom Q Q') {w : World Q}
    (h : Idle w) : Idle (w.map f.toFun) where
  schedule := h.schedule
  notifiers := h.notifiers
  origin := by
    rcases h.origin with ⟨heap, b, hc⟩ | ⟨v, hv, he⟩
    · refine Or.inl ⟨heap, b, ?_⟩
      rw [capturesyncCreate_map f, hc, Option.map_some]
    · refine Or.inr ⟨v.map f.toFun, hv.map f, ?_⟩
      rw [capturesyncStop_map, he]

/-! ## What a queue can hold -/

theorem items_pushWDropped_subset (q : FifoQueue) (c : CaptureHandle) :
    (q.pushWDropped c false).queue.fifo.items ⊆ q.fifo.items ++ [c] := by
  cases he : q.enabled with
  | false => simp [FifoQueue.pushWDropped, he]
  | true =>
      simp only [FifoQueue.pushWDropped, he]
      rw [← BoundedFifo.evicted_append_push]
      exact List.subset_append_right _ _

/-- What a pop returns was in the queue, and what it leaves was in the queue. -/
theorem pop_mem (q : FifoQueue) :
    (∀ c, q.pop.capture = some c → c ∈ q.fifo.items) ∧ q.pop.queue.fifo.items ⊆ q.fifo.items := by
  cases he : q.enabled with
  | false => simp [FifoQueue.pop, he]
  | true =>
      cases hi : q.fifo.items with
      | nil => simp [FifoQueue.pop, he, hi]
      | cons d ds => simp [FifoQueue.pop, he, hi]

/-- A pop that succeeds returns a capture. -/
theorem pop_succeeded {q : FifoQueue} (h : q.pop.wresult = .succeeded) :
    ∃ c, q.pop.capture = some c := by
  cases he : q.enabled with
  | false => simp [FifoQueue.pop, he] at h
  | true =>
      cases hi : q.fifo.items with
      | nil => simp [FifoQueue.pop, he, hi] at h
      | cons d ds => exact ⟨d, by simp [FifoQueue.pop, he, hi]⟩

/-! ## The start of a session -/

variable {w : World FifoQueue}

theorem capture_clearSlot (w : World FifoQueue) (k : Bool) :
    ((w.clearSlot k).frame k).capture = none := by
  cases hc : (w.frame k).capture <;> cases hi : (w.frame k).image <;> simp [clearSlot, hc, hi]

theorem frame_clearSlot_not (w : World FifoQueue) (k : Bool) :
    (w.clearSlot k).frame (!k) = w.frame (!k) := by
  cases hc : (w.frame k).capture <;> cases hi : (w.frame k).image <;> simp [clearSlot, hc, hi]

theorem syncQueue_clearSlot (w : World FifoQueue) (k : Bool) :
    (w.clearSlot k).sync.syncQueue = w.sync.syncQueue := by
  cases hc : (w.frame k).capture <;> cases hi : (w.frame k).image <;>
    simp [clearSlot, hc, hi, captureDecRef, imageDecRef]

theorem capturesyncStop_empty (w : World FifoQueue) :
    (∀ k, ((capturesyncStop w).frame k).capture = none) ∧
      (capturesyncStop w).sync.syncQueue.fifo.items = [] := by
  have hstop : capturesyncStop w = (w.shutDown.clearSlot true).clearSlot false := rfl
  have hsync : w.shutDown.sync.syncQueue.fifo.items = [] := rfl
  rw [hstop]
  refine ⟨?_, ?_⟩
  · intro k
    cases k with
    | false => exact capture_clearSlot _ false
    | true =>
        have hkeep := frame_clearSlot_not (w.shutDown.clearSlot true) false
        rw [Bool.not_false] at hkeep
        rw [hkeep]
        exact capture_clearSlot _ true
  · rw [syncQueue_clearSlot, syncQueue_clearSlot]
    exact hsync

/-- An idle synchroniser holds nothing. -/
theorem Idle.empty (h : Idle w) :
    (∀ k, (w.frame k).capture = none ∧ w.items k = []) ∧ w.sync.syncQueue.fifo.items = [] := by
  rcases h.origin with ⟨heap, b, hc⟩ | ⟨v, hv, he⟩
  · simp only [capturesyncCreate, Option.bind_eq_bind, Option.pure_def, Option.bind_eq_some_iff,
      Option.some.injEq] at hc
    obtain ⟨q, -, p, -, r, -, he⟩ := hc
    subst he
    refine ⟨fun k => ?_, rfl⟩
    cases k <;> exact ⟨rfl, rfl⟩
  · subst he
    obtain ⟨hslots, hsync⟩ := capturesyncStop_empty v
    exact ⟨fun k => ⟨hslots k, (hv.stop.inv.slot k).drained (hslots k)⟩, hsync⟩

/-- A session that starts on an idle synchroniser is empty. -/
theorem Idle.session_start (h : Idle w) {config : DeviceConfiguration}
    (hfps : 0 < convertFpsToUint config.cameraFps) :
    (capturesyncStart w config).1.session =
      Session.begin w.heap w.published w.sync.disableSync config := by
  obtain ⟨hslots, hsync⟩ := h.empty
  have hcaps := h.reachable.inv.core.caps
  simp only [caps, defaultCaps, Prod.mk.injEq] at hcaps
  obtain ⟨hcolor, hdepth, hcap⟩ := hcaps
  have hstream : ∀ (f : FrameInfo FifoQueue), f.capture = none → f.queue.fifo.items = [] →
      f.queue.fifo.capacity = queueDefaultSize.toNat →
      streamOf { f with queue := f.queue.enable } = ⟨[], true, queueDefaultSize.toNat⟩ := by
    intro f hc hi hn
    simp [streamOf, FifoQueue.enable, hc, hi, hn]
  have hqueue : w.sync.syncQueue.enable =
      ⟨BoundedFifo.empty (queueDefaultSize / 2).toNat (by decide), true⟩ :=
    FifoQueue.ext (BoundedFifo.ext hcap hsync) rfl
  simp only [capturesyncStart, hfps, if_true, session, Session.begin, Session.mk.injEq]
  refine ⟨trivial, rfl, ?_, hqueue, trivial⟩
  funext k
  cases k with
  | false => exact hstream w.sync.depthIr (hslots false).1 (hslots false).2 hdepth
  | true => exact hstream w.sync.color (hslots true).1 (hslots true).2 hcolor

/-- The calls of a session on an idle synchroniser, over ring buffers, do what they
do to the lists, and return the same. -/
theorem Idle.callRun_session {w : World QueueContext} (h : Idle w) {config : DeviceConfiguration}
    (hfps : 0 < convertFpsToUint config.cameraFps) (calls : List SessionCall) :
    (callRun (capturesyncStart w config).1 (calls.map SessionCall.toCall)).1.toFifo.session =
        ((Session.begin w.heap w.published w.sync.disableSync config).run calls).1 ∧
      (callRun (capturesyncStart w config).1 (calls.map SessionCall.toCall)).2 =
        ((Session.begin w.heap w.published w.sync.disableSync config).run calls).2 := by
  have hf : Idle w.toFifo := h.map ringHom
  have hstart : (capturesyncStart w config).1.toFifo = (capturesyncStart w.toFifo config).1 :=
    (congrArg Prod.fst (capturesyncStart_map ringHom w config)).symm
  have hring := callRun_ring (capturesyncStart w config).1 (calls.map SessionCall.toCall)
  rw [hstart] at hring
  have hquiet : Quiet (capturesyncStart w.toFifo config).1 := by
    simp only [capturesyncStart, hfps, if_true]
    exact ⟨hf.schedule, hf.notifiers⟩
  have hrun := ZsaSdk.callRun_session calls
    (capturesyncStart_inv hf.reachable.inv hf.notifiers config) hquiet
  rw [hf.session_start hfps, hring] at hrun
  exact hrun

end ZsaSdk
