import ZsaSdk.Capturesync.Invariant

/-!
# The representation invariant holds in every reachable state

`RepInv` collects the facts about queues and slots.  Every entry point keeps it:
the start and the end of a session, a capture of either kind, a read, and the
moves of the notifiers between two calls.  `Reachable` closes the states under
these, and the invariant carries over to the ring buffers because the slots, the
session parameters and the queue contents do not depend on the implementation.
-/

namespace ZsaSdk

open Ledger

namespace World

variable {w w' : World FifoQueue} {k : Bool}

/-- The representation invariant between two calls. -/
structure RepInv (w : World FifoQueue) : Prop where
  core : Core w
  slot : ∀ k, SlotInv w k
  oneNull : OneNull w

/-! ## Accepting a capture -/

theorem Core.pushed (h : Core w) {c : CaptureHandle} (ht : w.heap.typedImage k c ≠ none) :
    Core (w.pushed k c) := by
  cases ho : w.isOpen k with
  | false =>
      rw [(pushed_closed c ho).1]
      exact h
  | true =>
      obtain ⟨hitems, hopen⟩ := pushed_open c ho
      have hpost : Core (w.postCaptureRefs ((w.frame k).queue.pushWDropped c true).refs) :=
        h.congr rfl rfl rfl rfl (queue_congr rfl rfl)
      have hframe := frame_pushed w k c
      have hmem : ∀ e ∈ (w.pushed k c).items k, e ∈ w.items k ++ [c] := by
        intro e he
        rw [← hitems]
        exact List.mem_append_right _ he
      have hflag : ((w.frame k).queue.pushWDropped c true).queue.enabled = w.isOpen k := by
        rw [ho]
        rw [isOpen, hframe] at hopen
        exact hopen
      rw [items, hframe] at hmem
      refine hpost.setQueue ?_ ?_ ?_ ?_
      · rw [frame_postCaptureRefs]
        exact capacity_pushWDropped _ c true
      · rw [isOpen, frame_postCaptureRefs]
        exact hflag
      · intro hc
        rw [isOpen, frame_postCaptureRefs] at hc
        exact absurd (hc.symm.trans ho) Bool.false_ne_true
      · intro e he
        rcases List.mem_append.mp (hmem e he) with hm | hm
        · exact h.typed k e hm
        · rw [List.mem_singleton.mp hm]
          exact ht

theorem SlotInv.pushed_not (h : SlotInv w (!k)) (c : CaptureHandle) :
    SlotInv (w.pushed k c) (!k) :=
  h.congr (heap_pushed w k c) (frame_pushed_not w k c)

/-- Behind a taken slot the queue may change freely. -/
theorem SlotInv.pushed (h : SlotInv w k) {d : CaptureHandle} (hd : (w.frame k).capture = some d)
    (c : CaptureHandle) : SlotInv (w.pushed k c) k where
  null_iff := by rw [frame_pushed]; exact h.null_iff
  image_eq e he := by
    rw [frame_pushed] at he ⊢
    rw [heap_pushed]
    exact h.image_eq e he
  ts_eq i hi := by
    rw [frame_pushed] at hi ⊢
    rw [heap_pushed]
    exact h.ts_eq i hi
  drained hc := by
    rw [frame_pushed] at hc
    have hn : (w.frame k).capture = none := hc
    rw [hd] at hn
    cases hn

theorem evicted_mem {c e : CaptureHandle} (h : w.evicted k c = some e) : e ∈ w.items k ++ [c] := by
  cases ho : w.isOpen k with
  | false =>
      rw [(pushed_closed c ho).2] at h
      cases h
  | true =>
      rw [← (pushed_open c ho).1, h]
      exact List.mem_append_left _ (List.mem_singleton_self e)

/-- An accepted capture with its typed image keeps the facts about both streams. -/
theorem storeCapture_inv (h : Core w) (hs : ∀ j, SlotInv w j) {c : CaptureHandle}
    (ht : w.heap.typedImage k c ≠ none) :
    Core (w.storeCapture c k) ∧ ∀ j, SlotInv (w.storeCapture c k) j := by
  cases hc : (w.frame k).capture with
  | none =>
      rw [storeCapture_of_null c hc]
      refine ⟨?_, forall_stream (k := k) ?_ ?_⟩
      · exact (h.readTypedImage k c).congr rfl rfl rfl rfl (queue_congr rfl rfl)
      · exact (SlotInv.readTypedImage ht).congr rfl (frame_postCaptureRefs _ _ _)
      · exact ((hs (!k)).readTypedImage_not c).congr rfl (frame_postCaptureRefs _ _ _)
  | some d =>
      rw [storeCapture_of_some c hc]
      have hi := preempt_interfered w
      have hcore := h.preempt
      have hslot : ∀ j, SlotInv w.preempt j := fun j => (hs j).of_interfered hi
      have hd : (w.preempt.frame k).capture = some d := (hi.capture k).trans hc
      have ht' : w.preempt.heap.typedImage k c ≠ none := by rw [hi.heap]; exact ht
      have hcore' := hcore.pushed ht'
      have hthis := (hslot k).pushed hd c
      have hother := (hslot (!k)).pushed_not c
      cases he : w.preempt.evicted k c with
      | none => exact ⟨hcore', forall_stream hthis hother⟩
      | some e =>
          -- The evicted capture was queued, or is the new one, so it has its image.
          have hte : (w.preempt.pushed k c).heap.typedImage k e ≠ none := by
            rw [heap_pushed]
            rcases List.mem_append.mp (evicted_mem he) with hm | hm
            · exact hcore.typed k e hm
            · rw [List.mem_singleton.mp hm]
              exact ht'
          have hd' : ((w.preempt.pushed k c).frame k).capture = some d := by
            rw [frame_pushed]
            exact hd
          obtain ⟨v, hv, hrep⟩ := replaceSample_eq e hd'
          have hiv := publishSlot_interfered (w.preempt.pushed k c) k
          rw [← hv] at hiv
          have hcorev : Core ((v.captureDecRef (some d)).imageDecRef (v.frame k).image) := by
            rw [hv]
            exact (hcore'.publishSlot k).congr rfl rfl rfl rfl (queue_congr rfl rfl)
          have hotherv : SlotInv ((v.captureDecRef (some d)).imageDecRef (v.frame k).image) (!k) :=
            (hother.of_interfered hiv).congr rfl (by simp [captureDecRef, imageDecRef])
          simp only [hrep]
          refine ⟨hcorev.readTypedImage k e,
            forall_stream (SlotInv.readTypedImage ?_) (hotherv.readTypedImage_not e)⟩
          have hheap : ((v.captureDecRef (some d)).imageDecRef (v.frame k).image).heap =
              (w.preempt.pushed k c).heap := hiv.heap
          rw [hheap]
          exact hte

/-- Only the heap, the notifiers, the session parameters and the two streams matter. -/
theorem RepInv.congr (h : RepInv w) (hh : w'.heap = w.heap) (hn : w'.notifiers = w.notifiers)
    (hp : w'.params = w.params) (hc : w'.caps = w.caps) (hf : ∀ k, w'.frame k = w.frame k) :
    RepInv w' where
  core := h.core.congr hh hn hp hc (fun k => by rw [hf])
  slot k := (h.slot k).congr hh (hf k)
  oneNull := by
    simp only [OneNull]
    rw [hf, hf]
    exact h.oneNull

theorem RepInv.store (h : RepInv w) {c : CaptureHandle} (ht : w.heap.typedImage k c ≠ none) :
    RepInv (w.storeCapture c k).syncLoop := by
  obtain ⟨hcore, hslot⟩ := storeCapture_inv h.core h.slot ht
  obtain ⟨hcore', hslot', hnull⟩ := syncLoop_inv hcore hslot
  exact ⟨hcore', hslot', hnull⟩

theorem RepInv.pushSyncQueue (h : RepInv w) (p : Published) : RepInv (w.pushSyncQueue p) := by
  have hi := pushSyncQueue_interfered w p
  exact ⟨h.core.pushSyncQueue p, fun k => (h.slot k).of_interfered hi, h.oneNull.of_interfered hi⟩

/-- The start-up filter writes its own flag and its counter. -/
theorem RepInv.setWaiting (h : RepInv w) (b : Bool) :
    RepInv { w with sync := { w.sync with waitingForCleanDepthTs := b } } where
  core := ⟨h.core.typed, h.core.closed, h.core.order, h.core.stage, h.core.period, h.core.caps⟩
  slot k := (h.slot k).congr rfl (by cases k <;> rfl)
  oneNull := h.oneNull

theorem RepInv.addLocked (h : RepInv w) {c : CaptureHandle} (ht : w.heap.typedImage k c ≠ none)
    (ts : UInt64) : RepInv (w.addLocked c ts k) := by
  simp only [World.addLocked]
  split
  · exact h
  · split
    · exact h.pushSyncQueue _
    · split
      · split
        · exact h.congr rfl rfl rfl rfl (frame_congr rfl rfl)
        · exact (h.setWaiting false).store ht
      · exact h.store ht

theorem RepInv.stopQueues (h : RepInv w) : RepInv w.stopQueues := by
  have hi := (shutSyncQueue_interfered w).trans
    ((shutFrameQueue_interfered _ false).trans (shutFrameQueue_interfered _ true))
  refine ⟨h.core.of_interfered hi (fun _ => rfl) (fun _ => rfl),
    fun k => (h.slot k).of_interfered hi, h.oneNull.of_interfered hi⟩

end World

open World

variable {w : World FifoQueue}

theorem capturesyncAddCapture_inv (h : RepInv w) (r : Result) (c : Option CaptureHandle)
    (k : Bool) : RepInv (capturesyncAddCapture w r c k) := by
  simp only [capturesyncAddCapture]
  split
  · exact h.stopQueues
  · cases c with
    | none => exact h
    | some c =>
        simp only
        cases ht : w.heap.typedImage k c with
        | none => exact h
        | some i =>
            have hrefs : RepInv (w.postImageRefs [.acquire i, .release i]) :=
              h.congr rfl rfl rfl rfl (frame_congr rfl rfl)
            refine hrefs.addLocked ?_ _
            have hh : (w.postImageRefs [.acquire i, .release i]).heap = w.heap := rfl
            rw [hh, ht]
            exact Option.some_ne_none i

/-! ## The other entry points -/

theorem convertFpsToUint_period (fps : Fps) (h : 0 < convertFpsToUint fps) :
    ((1 * 1000000) / convertFpsToUint fps).toUInt64 ≠ 0 := by
  cases fps with
  | framesPerSecond5 => decide
  | framesPerSecond15 => decide
  | framesPerSecond30 => decide
  | unknown n => exact absurd h (UInt32.lt_irrefl 0)

/-- A start opens all queues.  No notifier may be on its way, since one that has
closed the depth queue would go on to close the colour queue. -/
theorem capturesyncStart_inv (h : RepInv w) (hn : w.notifiers = []) (config : DeviceConfiguration) :
    RepInv (capturesyncStart w config).1 := by
  simp only [capturesyncStart]
  split
  · next hfps =>
    refine ⟨⟨?_, ?_, ?_, ?_, ?_, h.core.caps⟩, ?_, h.oneNull⟩
    · intro k c hc
      cases k <;> exact h.core.typed _ c hc
    · intro k ho
      cases k <;> cases ho
    · intro ho
      cases ho
    · intro hm
      rw [show _ = w.notifiers from rfl, hn] at hm
      cases hm
    · intro _
      exact convertFpsToUint_period _ hfps
    · intro k
      cases k
      · exact ⟨(h.slot false).null_iff, (h.slot false).image_eq, (h.slot false).ts_eq,
          (h.slot false).drained⟩
      · exact ⟨(h.slot true).null_iff, (h.slot true).image_eq, (h.slot true).ts_eq,
          (h.slot true).drained⟩
  · refine ⟨⟨h.core.typed, h.core.closed, h.core.order, h.core.stage, h.core.period, h.core.caps⟩,
      fun k => (h.slot k).congr rfl (by cases k <;> rfl), h.oneNull⟩

namespace World

/-- `capturesync_stop` up to the point where it clears the slots. -/
def shutDown (w : World FifoQueue) : World FifoQueue :=
  let w := { w with sync := { w.sync with running := false } }
  let w := w.preempt.shutFrameQueue true QueueApi.queueDisable
  let w := w.preempt.shutFrameQueue false QueueApi.queueDisable
  w.preempt.shutSyncQueue QueueApi.queueDisable

/-- Both queues are closed and empty in the end, in whatever order the notifiers get at
them. -/
theorem shutDown_interfered (w : World FifoQueue) :
    Interfered { w with sync := { w.sync with running := false } } w.shutDown ∧
      ∀ k, w.shutDown.isOpen k = false ∧ w.shutDown.items k = [] := by
  unfold shutDown
  generalize ({ w with sync := { w.sync with running := false } } : World FifoQueue) = v
  have h1 := (preempt_interfered v).trans (shutFrameQueue_interfered v.preempt true)
  have hc : (v.preempt.shutFrameQueue true QueueApi.queueDisable).isOpen true = false := rfl
  have hci : (v.preempt.shutFrameQueue true QueueApi.queueDisable).items true = [] := rfl
  simp only
  generalize v.preempt.shutFrameQueue true QueueApi.queueDisable = v1 at *
  have h2 := (preempt_interfered v1).trans (shutFrameQueue_interfered v1.preempt false)
  have hd : (v1.preempt.shutFrameQueue false QueueApi.queueDisable).isOpen false = false := rfl
  have hdi : (v1.preempt.shutFrameQueue false QueueApi.queueDisable).items false = [] := rfl
  generalize v1.preempt.shutFrameQueue false QueueApi.queueDisable = v2 at *
  have h3 := (preempt_interfered v2).trans (shutSyncQueue_interfered v2.preempt)
  refine ⟨h1.trans (h2.trans h3), ?_⟩
  intro k
  cases k with
  | false => exact ⟨h3.isOpen_false hd, List.subset_nil.mp (hdi ▸ h3.items_subset false)⟩
  | true =>
      have h23 := h2.trans h3
      exact ⟨h23.isOpen_false hc, List.subset_nil.mp (hci ▸ h23.items_subset true)⟩

variable {k : Bool}

/-- A cleared slot over an empty queue. -/
theorem SlotInv.clearSlot (h : SlotInv w k) (hn : w.items k = []) : SlotInv (w.clearSlot k) k := by
  rw [clearSlot_eq h.null_iff]
  refine ⟨by simp, fun c hc => ?_, fun i hi => ?_, fun _ => ?_⟩
  · rw [frame_setFrame] at hc
    cases hc
  · rw [frame_setFrame] at hi
    cases hi
  · rw [items, frame_setFrame]
    exact hn

theorem SlotInv.clearSlot_not (h : SlotInv w k) (hother : SlotInv w (!k)) :
    SlotInv (w.clearSlot k) (!k) := by
  rw [clearSlot_eq h.null_iff]
  refine hother.congr ?_ ?_
  · rw [heap_setFrame]
    rfl
  · rw [frame_setFrame_not]
    simp [captureDecRef, imageDecRef]

theorem Core.clearSlot (h : Core w) (hs : SlotInv w k) : Core (w.clearSlot k) := by
  rw [clearSlot_eq hs.null_iff]
  have hrefs : Core ((w.captureDecRef (w.frame k).capture).imageDecRef (w.frame k).image) :=
    h.congr rfl rfl rfl rfl (queue_congr rfl rfl)
  exact hrefs.setFrame (by simp [captureDecRef, imageDecRef])

end World

theorem capturesyncStop_inv (h : RepInv w) : RepInv (capturesyncStop w) := by
  obtain ⟨hi, hclosed⟩ := shutDown_interfered w
  have hrun : RepInv { w with sync := { w.sync with running := false } } :=
    ⟨⟨h.core.typed, h.core.closed, h.core.order, h.core.stage, h.core.period, h.core.caps⟩,
      fun k => (h.slot k).congr rfl (by cases k <;> rfl), h.oneNull⟩
  have hcore : Core w.shutDown :=
    hrun.core.of_interfered hi (fun _ => (hclosed false).1) (fun _ => (hclosed false).1)
  have hslot : ∀ k, SlotInv w.shutDown k := fun k => (hrun.slot k).of_interfered hi
  have hcolor := (hslot true).clearSlot (hclosed true).2
  have hdepth : SlotInv (w.shutDown.clearSlot true) false :=
    (hslot true).clearSlot_not (hslot false)
  have hcore' := hcore.clearSlot (hslot true)
  have hitems : (w.shutDown.clearSlot true).items false = [] := by
    rw [clearSlot_eq (hslot true).null_iff]
    exact (hclosed false).2
  have hstop : capturesyncStop w = (w.shutDown.clearSlot true).clearSlot false := rfl
  rw [hstop]
  refine ⟨hcore'.clearSlot hdepth, ?_, Or.inr ?_⟩
  · intro k
    cases k with
    | false => exact hdepth.clearSlot hitems
    | true => exact hdepth.clearSlot_not hcolor
  · rw [clearSlot_eq hdepth.null_iff, frame_setFrame]

theorem capacity_pop (q : FifoQueue) : q.pop.queue.fifo.capacity = q.fifo.capacity := by
  cases he : q.enabled <;> cases hi : q.fifo.items <;> simp [FifoQueue.pop, he, hi]

theorem capturesyncGetCapture_inv (h : RepInv w) : RepInv (capturesyncGetCapture w).1 := by
  have hcap : ∀ v : World FifoQueue, v.sync.color = w.sync.color → v.sync.depthIr = w.sync.depthIr →
      v.sync.syncQueue = w.sync.syncQueue.pop.queue → v.caps = w.caps := by
    intro v hc hd hs
    rw [caps, hc, hd, hs, capacity_pop]
    rfl
  simp only [capturesyncGetCapture]
  split <;> exact h.congr rfl rfl rfl (hcap _ rfl rfl rfl) (frame_congr rfl rfl)

theorem capturesyncCreate_inv {heap : Heap} {b : Bool}
    (h : capturesyncCreate FifoQueue heap b = some w) : RepInv w := by
  obtain ⟨q, hq, hqc⟩ : ∃ q, (QueueApi.queueCreate queueDefaultSize : Option FifoQueue) = some q ∧
      q.fifo.capacity = queueDefaultSize.toNat := ⟨_, rfl, rfl⟩
  obtain ⟨p, hp, hpc⟩ : ∃ p, (QueueApi.queueCreate (queueDefaultSize / 2) : Option FifoQueue) =
      some p ∧ p.fifo.capacity = (queueDefaultSize / 2).toNat := ⟨_, rfl, rfl⟩
  simp only [capturesyncCreate, hq, hp, Option.bind_eq_bind, Option.bind_some, Option.pure_def,
    Option.some.injEq] at h
  subst h
  refine ⟨⟨?_, ?_, fun _ => rfl, fun _ => rfl, fun hs => absurd hs Bool.false_ne_true, ?_⟩, ?_,
    Or.inl rfl⟩
  · intro k c hc
    cases k <;> cases hc
  · intro k _
    cases k <;> rfl
  · exact Prod.ext hqc (Prod.ext hqc hpc)
  · intro k
    refine ⟨?_, ?_, ?_, ?_⟩
    · cases k <;> exact ⟨fun _ => rfl, fun _ => rfl⟩
    · intro c hc
      cases k <;> cases hc
    · intro i hi
      cases k <;> cases hi
    · intro _
      cases k <;> rfl

/-! ## Reachable states -/

/-- The states between two calls, in any interleaving.  `schedule` says what the
notifiers will do during the next calls and may be anything. -/
inductive Reachable {Q : Type} [QueueApi Q] : World Q → Prop where
  | create {w : World Q} {heap : Heap} {b : Bool} :
      capturesyncCreate Q heap b = some w → Reachable w
  | start {w : World Q} (config : DeviceConfiguration) :
      Reachable w → w.notifiers = [] → Reachable (capturesyncStart w config).1
  | addCapture {w : World Q} (r : Result) (c : Option CaptureHandle) (k : Bool) :
      Reachable w → Reachable (capturesyncAddCapture w r c k)
  | getCapture {w : World Q} : Reachable w → Reachable (capturesyncGetCapture w).1
  | stop {w : World Q} : Reachable w → Reachable (capturesyncStop w)
  | notifier {w : World Q} (m : NotifierMove) : Reachable w → Reachable (w.notifierMove m)
  | schedule {w : World Q} (moves : List (List NotifierMove)) :
      Reachable w → Reachable { w with schedule := moves }

theorem Reachable.map {Q Q' : Type} [QueueApi Q] [QueueApi Q'] (h : QueueHom Q Q') {w : World Q}
    (hw : Reachable w) : Reachable (w.map h.toFun) := by
  induction hw with
  | @create w heap b hc =>
      have hm : capturesyncCreate Q' heap b = some (w.map h.toFun) := by
        rw [capturesyncCreate_map h, hc, Option.map_some]
      exact Reachable.create hm
  | start config _ hn ih =>
      have hs := Reachable.start config ih hn
      rw [capturesyncStart_map] at hs
      exact hs
  | addCapture r c k _ ih =>
      rw [← capturesyncAddCapture_map]
      exact ih.addCapture r c k
  | getCapture _ ih =>
      have hg := ih.getCapture
      rw [capturesyncGetCapture_map] at hg
      exact hg
  | stop _ ih =>
      rw [← capturesyncStop_map]
      exact ih.stop
  | notifier m _ ih =>
      rw [← World.notifierMove_map]
      exact ih.notifier m
  | schedule moves _ ih => exact ih.schedule moves

theorem Reachable.inv (h : Reachable w) : RepInv w := by
  induction h with
  | create hc => exact capturesyncCreate_inv hc
  | start config _ hn ih => exact capturesyncStart_inv ih hn config
  | addCapture r c k _ ih => exact capturesyncAddCapture_inv ih r c k
  | getCapture _ ih => exact capturesyncGetCapture_inv ih
  | stop _ ih => exact capturesyncStop_inv ih
  | @notifier w m _ ih =>
      have hi := notifierMove_interfered w m
      exact ⟨ih.core.notifierMove m, fun k => (ih.slot k).of_interfered hi,
        ih.oneNull.of_interfered hi⟩
  | schedule moves _ ih => exact ih.congr rfl rfl rfl rfl (frame_congr rfl rfl)

/-- Between two calls, for each stream: capture and image of the slot are null
together, behind an empty slot nothing is queued, and the timestamp is that of the
image.  One of the slots is empty, and a synchronising session has a period. -/
theorem representation_invariant {w : World QueueContext} (h : Reachable w) :
    (∀ k, ((w.frame k).capture = none ↔ (w.frame k).image = none) ∧
      ((w.frame k).capture = none → (w.frame k).queue.contents = []) ∧
      ∀ i, (w.frame k).image = some i → (w.frame k).ts = w.heap.devTimestampUsec i) ∧
    ((w.frame true).capture = none ∨ (w.frame false).capture = none) ∧
    (w.sync.syncCaptures = true → 0 < w.sync.fpsPeriod) := by
  have hinv : RepInv (w.map QueueContext.toFifoQueue) := (h.map ringHom).inv
  refine ⟨?_, hinv.oneNull, ?_⟩
  · intro k
    have hslot := hinv.slot k
    cases k with
    | false => exact ⟨hslot.null_iff, hslot.drained, hslot.ts_eq⟩
    | true => exact ⟨hslot.null_iff, hslot.drained, hslot.ts_eq⟩
  · intro hs
    have hp : w.sync.fpsPeriod ≠ 0 := hinv.core.period hs
    exact UInt64.pos_iff_ne_zero.mpr hp

/-- Capture `n` holds a colour image and an infrared image, both taken at `1000 n`. -/
def pairedHeap : Heap where
  captures c := ⟨some ⟨2 * c.id⟩, some ⟨2 * c.id + 1⟩⟩
  devTimestampUsec i := UInt64.ofNat (i.id / 2 * 1000)

/-- Both sensors at 30 frames a second, without a delay. -/
def pairedConfiguration : DeviceConfiguration :=
  ⟨.r720p, .nfovUnbinned, .framesPerSecond30, false, 0⟩

theorem representation_invariant_first_capture :
    ∃ w : World QueueContext, Reachable w ∧ (w.frame true).capture = some ⟨1⟩ ∧
      (w.frame false).capture = none ∧ (w.frame false).queue.contents = [] ∧
      0 < w.sync.fpsPeriod := by
  obtain ⟨w, hw⟩ : ∃ w, capturesyncCreate QueueContext pairedHeap false = some w := ⟨_, rfl⟩
  have hn : w.notifiers = [] := by
    rw [← Option.some.inj hw]
    rfl
  have hreach := ((Reachable.create hw).start pairedConfiguration hn).addCapture .succeeded
    (some ⟨1⟩) true
  obtain ⟨hslot, -, hperiod⟩ := representation_invariant hreach
  have hdepth : ((capturesyncAddCapture (capturesyncStart w pairedConfiguration).1 .succeeded
      (some ⟨1⟩) true).frame false).capture = none := by
    rw [← Option.some.inj hw]
    rfl
  refine ⟨_, hreach, ?_, hdepth, (hslot false).2.1 hdepth, hperiod ?_⟩
  · rw [← Option.some.inj hw]
    rfl
  · rw [← Option.some.inj hw]
    rfl

end ZsaSdk
