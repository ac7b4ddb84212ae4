import ZsaSdk.Capturesync.Steps

/-!
# The representation invariant of the synchroniser

Two facts carry the state of the synchroniser from call to call.

*Queues* (`Core`).  Every queued capture has its typed image, a closed queue is
empty, and the colour queue is closed only after the depth queue: a notifier that
is about to close the colour queue has closed the depth queue before.

*Slots* (`SlotInv`).  Capture and image of a slot are null together, the image is
the typed image of the capture, the timestamp is the timestamp of the image, and
behind an empty slot the queue is empty.

The order of the queues matters in one place.  After a merge both slots are
refilled through one result variable, and a failure on the colour queue keeps the
depth queue from being read.  The depth slot then stays empty, and the invariant
asks that nothing is queued behind it.
-/

namespace ZsaSdk

open Ledger

namespace World

variable {w w' : World FifoQueue} {k : Bool}

/-- The capacities `capturesync_create` gives the queues. -/
def defaultCaps : Nat × Nat × Nat :=
  (queueDefaultSize.toNat, queueDefaultSize.toNat, (queueDefaultSize / 2).toNat)

/-- The facts about the queues that hold at every point of every call. -/
structure Core (w : World FifoQueue) : Prop where
  typed : ∀ k, ∀ c ∈ w.items k, w.heap.typedImage k c ≠ none
  closed : ∀ k, w.isOpen k = false → w.items k = []
  order : w.isOpen true = false → w.isOpen false = false
  stage : NotifierStage.colorQueue ∈ w.notifiers → w.isOpen false = false
  period : w.params.syncCaptures = true → w.params.fpsPeriod ≠ 0
  caps : w.caps = defaultCaps

/-- The facts about one slot that hold between calls and at the loop head. -/
structure SlotInv (w : World FifoQueue) (k : Bool) : Prop where
  null_iff : (w.frame k).capture = none ↔ (w.frame k).image = none
  image_eq : ∀ c, (w.frame k).capture = some c → (w.frame k).image = w.heap.typedImage k c
  ts_eq : ∀ i, (w.frame k).image = some i → (w.frame k).ts = w.heap.devTimestampUsec i
  drained : (w.frame k).capture = none → w.items k = []

/-- One of the two slots is empty. -/
def OneNull (w : World FifoQueue) : Prop :=
  (w.frame true).capture = none ∨ (w.frame false).capture = none

/-! ## Interference -/

theorem SlotInv.of_interfered (h : SlotInv w k) (hi : Interfered w w') : SlotInv w' k where
  null_iff := by rw [hi.capture, hi.image]; exact h.null_iff
  image_eq c hc := by
    rw [hi.capture] at hc
    rw [hi.image, hi.heap]
    exact h.image_eq c hc
  ts_eq i he := by
    rw [hi.image] at he
    rw [hi.ts, hi.heap]
    exact h.ts_eq i he
  drained hc := by
    rw [hi.capture] at hc
    have hsub := hi.items_subset k
    rw [h.drained hc] at hsub
    exact List.eq_nil_of_subset_nil hsub

theorem OneNull.of_interfered (h : OneNull w) (hi : Interfered w w') : OneNull w' := by
  simp only [OneNull]
  rw [hi.capture, hi.capture]
  exact h

theorem Core.of_interfered (h : Core w) (hi : Interfered w w')
    (horder : w'.isOpen true = false → w'.isOpen false = false)
    (hstage : NotifierStage.colorQueue ∈ w'.notifiers → w'.isOpen false = false) : Core w' where
  typed k c hc := by
    rw [hi.heap]
    exact h.typed k c (hi.items_subset k hc)
  closed k ho := by
    rcases hi.queue k with he | ⟨-, hn⟩
    · have ho' : w.isOpen k = false := (congrArg FifoQueue.enabled he).symm.trans ho
      exact (congrArg (fun q => q.fifo.items) he).trans (h.closed k ho')
    · exact hn
  order := horder
  stage := hstage
  period := by rw [hi.params]; exact h.period
  caps := hi.caps.trans h.caps

theorem Core.notifierMove (h : Core w) (m : NotifierMove) : Core (w.notifierMove m) := by
  have hi := notifierMove_interfered w m
  cases m with
  | enter =>
      refine h.of_interfered hi h.order ?_
      intro hmem
      have hmem' : NotifierStage.colorQueue ∈ w.notifiers ++ [.syncQueue] := hmem
      rcases List.mem_append.mp hmem' with hm | hm
      · exact h.stage hm
      · cases List.mem_singleton.mp hm
  | advance i =>
      cases hn : w.notifiers[i]? with
      | none =>
          have he : w.notifierMove (.advance i) = w := by simp [World.notifierMove, hn]
          rw [he]
          exact h
      | some stage =>
          cases stage with
          | syncQueue =>
              have he : w.notifierMove (.advance i) =
                  { w.shutSyncQueue QueueApi.queueStop with
                    notifiers := w.notifiers.set i .depthQueue } := by
                simp [World.notifierMove, hn]
              rw [he] at hi ⊢
              refine h.of_interfered hi h.order ?_
              intro hmem
              rcases List.mem_or_eq_of_mem_set hmem with hm | hm
              · exact h.stage hm
              · cases hm
          | depthQueue =>
              have he : w.notifierMove (.advance i) =
                  { w.shutFrameQueue false QueueApi.queueStop with
                    notifiers := w.notifiers.set i .colorQueue } := by
                simp [World.notifierMove, hn]
              rw [he] at hi ⊢
              exact h.of_interfered hi (fun _ => rfl) (fun _ => rfl)
          | colorQueue =>
              have he : w.notifierMove (.advance i) =
                  { w.shutFrameQueue true QueueApi.queueStop with
                    notifiers := w.notifiers.eraseIdx i } := by
                simp [World.notifierMove, hn]
              have hmem : NotifierStage.colorQueue ∈ w.notifiers := List.mem_of_getElem? hn
              rw [he] at hi ⊢
              exact h.of_interfered hi (fun _ => h.stage hmem) (fun _ => h.stage hmem)

theorem Core.foldl_notifierMove (moves : List NotifierMove) :
    ∀ {w : World FifoQueue}, Core w → Core (moves.foldl World.notifierMove w) := by
  induction moves with
  | nil => intro w h; exact h
  | cons m moves ih =>
      intro w h
      exact ih (h.notifierMove m)

theorem Core.preempt (h : Core w) : Core w.preempt := by
  simp only [World.preempt]
  cases w.schedule with
  | nil => exact h
  | cons moves rest =>
      have h' : Core { w with schedule := rest } :=
          ⟨h.typed, h.closed, h.order, h.stage, h.period, h.caps⟩
      exact Core.foldl_notifierMove moves h'

theorem Core.pushSyncQueue (h : Core w) (p : Published) : Core (w.pushSyncQueue p) := by
  have h' := h.preempt
  exact ⟨h'.typed, h'.closed, h'.order, h'.stage, h'.period, (caps_pushSyncQueue w p).trans h'.caps⟩

theorem Core.publishSlot (h : Core w) (k : Bool) : Core (w.publishSlot k) := by
  simp only [World.publishSlot]
  split
  · exact h
  · split
    · exact h
    · exact h.pushSyncQueue _

/-! ## Changing one slot -/

/-- Only the heap, the notifiers, the session parameters and the queues matter to
`Core`. -/
theorem Core.congr (h : Core w) (hh : w'.heap = w.heap) (hn : w'.notifiers = w.notifiers)
    (hp : w'.params = w.params) (hc : w'.caps = w.caps)
    (hq : ∀ k, (w'.frame k).queue = (w.frame k).queue) : Core w' := by
  have hi : ∀ k, w'.items k = w.items k := fun k => congrArg (fun q => q.fifo.items) (hq k)
  have ho : ∀ k, w'.isOpen k = w.isOpen k := fun k => congrArg FifoQueue.enabled (hq k)
  refine ⟨?_, ?_, ?_, ?_, ?_, hc.trans h.caps⟩
  · intro k c hc
    rw [hi] at hc
    rw [hh]
    exact h.typed k c hc
  · intro k hc
    rw [ho] at hc
    rw [hi]
    exact h.closed k hc
  · rw [ho, ho]
    exact h.order
  · rw [hn, ho]
    exact h.stage
  · rw [hp]
    exact h.period

/-- Only the heap and the slot itself matter to `SlotInv`. -/
theorem SlotInv.congr (h : SlotInv w k) (hh : w'.heap = w.heap) (hf : w'.frame k = w.frame k) :
    SlotInv w' k where
  null_iff := by rw [hf]; exact h.null_iff
  image_eq c hc := by
    rw [hf] at hc
    rw [hf, hh]
    exact h.image_eq c hc
  ts_eq i hi := by
    rw [hf] at hi
    rw [hf, hh]
    exact h.ts_eq i hi
  drained hc := by
    rw [hf] at hc
    have hitems : w'.items k = w.items k := congrArg (fun f => f.queue.fifo.items) hf
    rw [hitems]
    exact h.drained hc

/-- A slot that is rewritten with its queue kept. -/
theorem Core.setFrame (h : Core w) {f : FrameInfo FifoQueue} (hq : f.queue = (w.frame k).queue) :
    Core (w.setFrame k f) := by
  refine h.congr (heap_setFrame w k f) (notifiers_setFrame w k f) (params_setFrame w k f)
    (caps_setFrame w k (by rw [hq])) ?_
  exact forall_stream (k := k) (by rw [frame_setFrame, hq]) (by rw [frame_setFrame_not])

theorem Core.dropped (h : Core w) (k b : Bool) : Core (w.dropped k b) := by
  have hrelease : ∀ v : World FifoQueue, Core v → Core (v.releaseSlot k) := by
    intro v hv
    have hrefs : Core ((v.captureDecRef (v.frame k).capture).imageDecRef (v.frame k).image) :=
      hv.congr rfl rfl rfl rfl (queue_congr rfl rfl)
    exact hrefs.setFrame (by simp [captureDecRef, imageDecRef])
  cases b with
  | false => exact hrelease w h
  | true => exact hrelease _ (h.publishSlot k)

theorem SlotInv.dropped_not (h : SlotInv w (!k)) (b : Bool) : SlotInv (w.dropped k b) (!k) := by
  obtain ⟨v, hv, he⟩ := frame_dropped w k b
  refine (h.of_interfered hv).congr ?_ ?_
  · rw [he, heap_setFrame]
    rfl
  · rw [he, frame_setFrame_not]
    simp [captureDecRef, imageDecRef]

theorem Core.emptySlot (h : Core w) (k : Bool) : Core (w.emptySlot k) := h.setFrame rfl

theorem SlotInv.emptySlot_not (h : SlotInv w (!k)) : SlotInv (w.emptySlot k) (!k) :=
  h.congr (heap_setFrame _ _ _) (frame_setFrame_not _ _ _)

theorem SlotInv.emptySlot (h : w.items k = []) : SlotInv (w.emptySlot k) k where
  null_iff := by simp [World.emptySlot]
  image_eq c hc := by simp [World.emptySlot] at hc
  ts_eq i hi := by simp [World.emptySlot] at hi
  drained _ := by
    have hi : (w.emptySlot k).items k = w.items k := by simp [World.emptySlot, items]
    rw [hi, h]

theorem frame_loadSlot (w : World FifoQueue) (k : Bool) (c : CaptureHandle) :
    (w.loadSlot k c).frame k =
      ⟨⟨(w.frame k).queue.fifo.pop, (w.frame k).queue.enabled⟩, some c, w.heap.typedImage k c,
        w.heap.typedTs k c⟩ := by
  simp [loadSlot, frame_readTypedImage]

theorem frame_loadSlot_not (w : World FifoQueue) (k : Bool) (c : CaptureHandle) :
    (w.loadSlot k c).frame (!k) = w.frame (!k) := by
  simp [loadSlot, frame_readTypedImage_not]

/-- A slot that is rewritten with another queue of the same state. -/
theorem Core.setQueue (h : Core w) {f : FrameInfo FifoQueue}
    (hcap : f.queue.fifo.capacity = (w.frame k).queue.fifo.capacity)
    (he : f.queue.enabled = w.isOpen k) (hclosed : w.isOpen k = false → f.queue.fifo.items = [])
    (ht : ∀ c ∈ f.queue.fifo.items, w.heap.typedImage k c ≠ none) : Core (w.setFrame k f) := by
  have hopen : ∀ j, (w.setFrame k f).isOpen j = w.isOpen j := by
    refine forall_stream (k := k) ?_ ?_
    · rw [isOpen, frame_setFrame]
      exact he
    · rw [isOpen, frame_setFrame_not]
      rfl
  refine ⟨?_, ?_, ?_, ?_, ?_, (caps_setFrame w k hcap).trans h.caps⟩
  · rw [heap_setFrame]
    refine forall_stream (k := k) ?_ ?_
    · rw [items, frame_setFrame]
      exact ht
    · rw [items, frame_setFrame_not]
      exact h.typed (!k)
  · refine forall_stream (k := k) ?_ ?_
    · rw [hopen, items, frame_setFrame]
      exact hclosed
    · rw [hopen, items, frame_setFrame_not]
      exact h.closed (!k)
  · rw [hopen, hopen]
    exact h.order
  · rw [hopen, notifiers_setFrame]
    exact h.stage
  · rw [params_setFrame]
    exact h.period

theorem Core.readTypedImage (h : Core w) (k : Bool) (c : CaptureHandle) :
    Core (w.readTypedImage k c) := by
  have hpost : Core (w.postImageRefs (acquireOf (w.heap.typedImage k c))) :=
    h.congr rfl rfl rfl rfl (queue_congr rfl rfl)
  exact hpost.setFrame (by simp)

theorem Core.loadSlot (h : Core w) (k : Bool) (c : CaptureHandle) : Core (w.loadSlot k c) := by
  have hpop : Core (w.setFrame k { w.frame k with
      queue := ⟨(w.frame k).queue.fifo.pop, (w.frame k).queue.enabled⟩ }) := by
    refine h.setQueue rfl rfl ?_ ?_
    · intro ho
      have hn : (w.frame k).queue.fifo.items = [] := h.closed k ho
      rw [BoundedFifo.items_pop, hn, List.tail_nil]
    · intro d hd
      exact h.typed k d ((List.tail_sublist _).subset hd)
  exact hpop.readTypedImage k c

theorem SlotInv.readTypedImage_not (h : SlotInv w (!k)) (c : CaptureHandle) :
    SlotInv (w.readTypedImage k c) (!k) :=
  h.congr (heap_readTypedImage w k c) (frame_readTypedImage_not w k c)

theorem SlotInv.readTypedImage {c : CaptureHandle} (ht : w.heap.typedImage k c ≠ none) :
    SlotInv (w.readTypedImage k c) k where
  null_iff := by rw [frame_readTypedImage]; simp [ht]
  image_eq d hd := by
    rw [frame_readTypedImage] at hd ⊢
    rw [heap_readTypedImage, Option.some.inj hd]
  ts_eq i hi := by
    rw [frame_readTypedImage] at hi ⊢
    have hi' : w.heap.typedImage k c = some i := hi
    simp only [heap_readTypedImage, Heap.typedTs, hi', Heap.imageGetDeviceTimestampUsec]
  drained hc := by
    rw [frame_readTypedImage] at hc
    cases hc

theorem SlotInv.loadSlot_not (h : SlotInv w (!k)) (c : CaptureHandle) :
    SlotInv (w.loadSlot k c) (!k) := by
  have hq := h.congr (heap_setFrame w k { w.frame k with
    queue := ⟨(w.frame k).queue.fifo.pop, (w.frame k).queue.enabled⟩ }) (frame_setFrame_not w k _)
  exact hq.readTypedImage_not c

theorem SlotInv.loadSlot {c : CaptureHandle} (ht : w.heap.typedImage k c ≠ none) :
    SlotInv (w.loadSlot k c) k :=
  SlotInv.readTypedImage (by rw [heap_setFrame]; exact ht)

/-! ## `drop_sample` -/

/-- What `drop_sample` keeps.  A failure that was there before is passed on without a
look at the queue, which has to be empty then. -/
theorem dropSample_inv (h : Core w) (hother : SlotInv w (!k)) (r : WaitResult) (b : Bool)
    (hempty : r = .failed → (w.dropped k b).items k = []) :
    Core (w.dropSample r k b).1 ∧ SlotInv (w.dropSample r k b).1 (!k) ∧
      SlotInv (w.dropSample r k b).1 k ∧
      ((w.dropSample r k b).2 ≠ .succeeded → ((w.dropSample r k b).1.frame k).capture = none) ∧
      ((w.dropSample r k b).2 = .failed →
        r = .failed ∨ (w.dropSample r k b).1.isOpen k = false) := by
  have hd := h.dropped k b
  have hp := hd.preempt
  have hod := hother.dropped_not b
  have hop := hod.of_interfered (preempt_interfered _)
  rw [dropSample_eq w k r b (hp.typed k)]
  split
  · next hr =>
    exact ⟨hd.emptySlot k, hod.emptySlot_not, SlotInv.emptySlot (hempty hr),
      fun _ => by simp [emptySlot], fun _ => Or.inl hr⟩
  · split
    · next hr ho =>
      refine ⟨hp.emptySlot k, hop.emptySlot_not, SlotInv.emptySlot (hp.closed k ho),
        fun _ => by simp [emptySlot], fun _ => Or.inr ?_⟩
      have hopen : ((w.dropped k b).preempt.emptySlot k).isOpen k =
          (w.dropped k b).preempt.isOpen k := by simp [emptySlot, isOpen]
      rw [hopen]
      exact ho
    · cases hi : (w.dropped k b).preempt.items k with
      | nil =>
          exact ⟨hp.emptySlot k, hop.emptySlot_not, SlotInv.emptySlot hi,
            fun _ => by simp [emptySlot], fun hf => by cases hf⟩
      | cons c cs =>
          have ht := hp.typed k c (by rw [hi]; exact List.mem_cons_self ..)
          exact ⟨hp.loadSlot k c, hop.loadSlot_not c, SlotInv.loadSlot ht,
            fun hf => absurd rfl hf, fun hf => by cases hf⟩

/-! ## The loop -/

theorem frame_mergeCaptures (w : World FifoQueue) (d c : CaptureHandle) (j : Bool) :
    (w.mergeCaptures d c).frame j = w.frame j := by
  cases j <;> rfl

theorem heap_mergeCaptures (w : World FifoQueue) (d c : CaptureHandle) :
    (w.mergeCaptures d c).heap = w.heap.captureSetColorImage d (w.heap.typedImage true c) := rfl

/-- A merge sets an image, so no capture loses its typed image. -/
theorem Core.mergeCaptures (h : Core w) {c : CaptureHandle} (d : CaptureHandle)
    (hc : w.heap.typedImage true c ≠ none) : Core (w.mergeCaptures d c) where
  typed j e he := by
    rw [heap_mergeCaptures]
    exact Heap.typedImage_setColor_ne_none d hc (h.typed j e he)
  closed := h.closed
  order := h.order
  stage := h.stage
  period := h.period
  caps := h.caps

/-- The image of the colour slot survives a merge, even into its own capture. -/
theorem SlotInv.mergeCaptures_color (h : SlotInv w true) {c : CaptureHandle} (d : CaptureHandle)
    (hc : (w.frame true).capture = some c) : SlotInv (w.mergeCaptures d c) true where
  null_iff := h.null_iff
  image_eq e he := by
    have hec : c = e := Option.some.inj (hc.symm.trans he)
    subst hec
    rw [frame_mergeCaptures, heap_mergeCaptures, Heap.typedImage_setColor, h.image_eq c hc]
    split <;> rfl
  ts_eq := h.ts_eq
  drained := h.drained

theorem SlotInv.mergeCaptures_depth (h : SlotInv w false) (d c : CaptureHandle) :
    SlotInv (w.mergeCaptures d c) false where
  null_iff := h.null_iff
  image_eq e he := by
    rw [frame_mergeCaptures, heap_mergeCaptures, Heap.typedImage_false_setColor]
    exact h.image_eq e he
  ts_eq := h.ts_eq
  drained := h.drained

/-- The image of a slot that holds a capture. -/
theorem SlotInv.typed (h : SlotInv w k) {c : CaptureHandle} (hc : (w.frame k).capture = some c) :
    w.heap.typedImage k c ≠ none := by
  rw [← h.image_eq c hc]
  intro hn
  rw [h.null_iff.mpr hn] at hc
  cases hc

/-- The invariant at the head of the loop. -/
structure LoopInv (s : World FifoQueue × WaitResult) : Prop where
  core : Core s.1
  color : SlotInv s.1 true
  depth : SlotInv s.1 false
  stopped : s.2 ≠ .succeeded → OneNull s.1

theorem loopGuard_iff {s : World FifoQueue × WaitResult} :
    loopGuard s = true ↔ s.2 = .succeeded ∧ (∃ d, (s.1.frame false).capture = some d) ∧
      ∃ c, (s.1.frame true).capture = some c := by
  simp only [loopGuard, Bool.and_eq_true, beq_iff_eq, Option.isSome_iff_exists, frame, and_assoc]

theorem items_dropped_false (w : World FifoQueue) (k : Bool) :
    (w.dropped k false).items k = w.items k := by
  simp [World.dropped, releaseSlot, items]

theorem dropSample_loopInv {s : World FifoQueue × WaitResult} (h : LoopInv s)
    (hr : s.2 = .succeeded) (k b : Bool) : LoopInv (s.1.dropSample s.2 k b) := by
  have hother : SlotInv s.1 (!k) := by
    cases k with
    | false => exact h.color
    | true => exact h.depth
  obtain ⟨hcore, hnot, hthis, hnull, -⟩ :=
    dropSample_inv h.core hother s.2 b (fun hf => by rw [hr] at hf; cases hf)
  cases k with
  | false => exact ⟨hcore, hnot, hthis, fun hs => Or.inr (hnull hs)⟩
  | true => exact ⟨hcore, hthis, hnot, fun hs => Or.inl (hnull hs)⟩

/-- One iteration keeps the invariant.  After a merge, a failure of the first pop means
that the colour queue is closed, so the depth queue is closed and empty. -/
theorem loopBody_inv {s : World FifoQueue × WaitResult} (hg : loopGuard s = true)
    (h : LoopInv s) : LoopInv (loopBody s) := by
  obtain ⟨hr, ⟨d, hd⟩, ⟨c, hc⟩⟩ := loopGuard_iff.mp hg
  obtain ⟨w, r⟩ := s
  have hc' : w.sync.color.capture = some c := hc
  have hd' : w.sync.depthIr.capture = some d := hd
  simp only [loopBody]
  cases syncWindow w.sync.depthDelayOffColorUsec w.sync.fpsPeriod w.sync.fps1QuarterPeriod
      w.sync.color.ts w.sync.depthIr.ts with
  | dropDepth => exact dropSample_loopInv h hr false true
  | dropColor => exact dropSample_loopInv h hr true true
  | merge =>
      simp only [hc', hd']
      generalize hp : (Published.merged d c (w.heap.typedImage true c)) = p
      have hcore := (h.core.mergeCaptures d (h.color.typed hc)).pushSyncQueue p
      have hi := pushSyncQueue_interfered (w.mergeCaptures d c) p
      have hcolor := (h.color.mergeCaptures_color d hc).of_interfered hi
      have hdepth := (h.depth.mergeCaptures_depth d c).of_interfered hi
      obtain ⟨hcore1, hdepth1, hcolor1, -, hfail1⟩ := dropSample_inv (k := true) hcore hdepth r
        false (fun hf => by rw [show r = .succeeded from hr] at hf; cases hf)
      generalize ((w.mergeCaptures d c).pushSyncQueue p).dropSample r true false = s1 at *
      have hempty : s1.2 = .failed → (s1.1.dropped false false).items false = [] := by
        intro hf
        rw [items_dropped_false]
        rcases hfail1 hf with hf' | ho
        · rw [show r = .succeeded from hr] at hf'
          cases hf'
        · exact hcore1.closed false (hcore1.order ho)
      obtain ⟨hcore2, hcolor2, hdepth2, hnull2, -⟩ :=
        dropSample_inv (k := false) hcore1 hcolor1 s1.2 false hempty
      exact ⟨hcore2, hcolor2, hdepth2, fun hs => Or.inr (hnull2 hs)⟩

/-! ### The loop ends -/

/-- What the two internal queues hold together. -/
def pending (w : World FifoQueue) : Nat := (w.items true).length + (w.items false).length

theorem Interfered.pending_le (h : Interfered w w') : w'.pending ≤ w.pending :=
  Nat.add_le_add (h.items_length true) (h.items_length false)

theorem pending_dropped (w : World FifoQueue) (k b : Bool) :
    (w.dropped k b).pending ≤ w.pending := by
  obtain ⟨v, hv, he⟩ := frame_dropped w k b
  have hp : (w.dropped k b).pending = v.pending := by
    rw [he]
    cases k <;> rfl
  rw [hp]
  exact hv.pending_le

/-- A drop adds nothing to the queues, and takes a capture out if it succeeds. -/
theorem dropSample_pending (h : Core w) (r : WaitResult) (k b : Bool) :
    (w.dropSample r k b).1.pending ≤ w.pending ∧
      ((w.dropSample r k b).2 = .succeeded → (w.dropSample r k b).1.pending < w.pending) := by
  have hp := (h.dropped k b).preempt
  have hle := pending_dropped w k b
  have hle' := (preempt_interfered (w.dropped k b)).pending_le
  have hempty : ∀ v : World FifoQueue, (v.emptySlot k).pending = v.pending := by
    intro v
    cases k <;> rfl
  rw [dropSample_eq w k r b (hp.typed k)]
  split
  · exact ⟨by rw [hempty]; exact hle, fun hs => by cases hs⟩
  · split
    · exact ⟨by rw [hempty]; exact hle'.trans hle, fun hs => by cases hs⟩
    · cases hi : (w.dropped k b).preempt.items k with
      | nil => exact ⟨by rw [hempty]; exact hle'.trans hle, fun hs => by cases hs⟩
      | cons c cs =>
          have hlt : ((w.dropped k b).preempt.loadSlot k c).pending <
              (w.dropped k b).preempt.pending := by
            have hload : ((w.dropped k b).preempt.loadSlot k c).items k = cs := by
              show (((w.dropped k b).preempt.loadSlot k c).frame k).queue.fifo.items = cs
              rw [frame_loadSlot]
              show ((w.dropped k b).preempt.items k).tail = cs
              rw [hi, List.tail_cons]
            have hnot : ((w.dropped k b).preempt.loadSlot k c).items (!k) =
                (w.dropped k b).preempt.items (!k) := by
              show (((w.dropped k b).preempt.loadSlot k c).frame (!k)).queue.fifo.items = _
              rw [frame_loadSlot_not]
              rfl
            cases k
            · simp only [Bool.not_false] at hnot
              simp only [pending, hload, hnot, hi, List.length_cons]
              omega
            · simp only [Bool.not_true] at hnot
              simp only [pending, hload, hnot, hi, List.length_cons]
              omega
          exact ⟨(Nat.le_of_lt hlt).trans (hle'.trans hle), fun _ =>
            Nat.lt_of_lt_of_le hlt (hle'.trans hle)⟩

/-- An iteration after which the loop goes on has taken a capture out of a queue. -/
theorem loopBody_pending {s : World FifoQueue × WaitResult} (hg : loopGuard s = true)
    (h : LoopInv s) (hg' : loopGuard (loopBody s) = true) :
    (loopBody s).1.pending < s.1.pending := by
  obtain ⟨hr', -, -⟩ := loopGuard_iff.mp hg'
  obtain ⟨hr, ⟨d, hd⟩, ⟨c, hc⟩⟩ := loopGuard_iff.mp hg
  obtain ⟨w, r⟩ := s
  have hc' : w.sync.color.capture = some c := hc
  have hd' : w.sync.depthIr.capture = some d := hd
  simp only [loopBody] at hr' ⊢
  cases hw : syncWindow w.sync.depthDelayOffColorUsec w.sync.fpsPeriod w.sync.fps1QuarterPeriod
      w.sync.color.ts w.sync.depthIr.ts with
  | dropDepth =>
      rw [hw] at hr'
      exact (dropSample_pending h.core r false true).2 hr'
  | dropColor =>
      rw [hw] at hr'
      exact (dropSample_pending h.core r true true).2 hr'
  | merge =>
      rw [hw] at hr'
      simp only [hc', hd'] at hr' ⊢
      generalize hp : (Published.merged d c (w.heap.typedImage true c)) = p at hr' ⊢
      have hcore := (h.core.mergeCaptures d (h.color.typed hc)).pushSyncQueue p
      have hi := pushSyncQueue_interfered (w.mergeCaptures d c) p
      have hdepth := (h.depth.mergeCaptures_depth d c).of_interfered hi
      have hcore1 := (dropSample_inv (k := true) hcore hdepth r false
        (fun hf => by rw [show r = .succeeded from hr] at hf; cases hf)).1
      have hle1 := (dropSample_pending hcore r true false).1
      have hlt2 := (dropSample_pending hcore1 _ false false).2 hr'
      have hmerge : (w.mergeCaptures d c).pending = w.pending := rfl
      have hpush := hi.pending_le
      rw [hmerge] at hpush
      exact Nat.lt_of_lt_of_le hlt2 (hle1.trans hpush)

/-- The loop of `capturesync_add_capture` ends by its own condition. -/
theorem syncLoop_ends (h : Core w) (hc : SlotInv w true) (hd : SlotInv w false) :
    loopGuard (Loop.run loopGuard loopBody w.loopFuel (w, WaitResult.succeeded)) = false := by
  have h0 : LoopInv (w, .succeeded) := ⟨h, hc, hd, fun hs => absurd rfl hs⟩
  exact Loop.run_stops LoopInv (fun s => s.1.pending)
    (fun s hg hi => loopBody_inv hg hi) (fun s hg hi hg' => loopBody_pending hg hi hg')
    w.loopFuel (w, .succeeded) h0 (Nat.lt_succ_self _)

/-- The loop leaves one slot empty. -/
theorem syncLoop_inv (h : Core w) (hs : ∀ k, SlotInv w k) :
    Core w.syncLoop ∧ (∀ k, SlotInv w.syncLoop k) ∧ OneNull w.syncLoop := by
  have h0 : LoopInv (w, .succeeded) := ⟨h, hs true, hs false, fun he => absurd rfl he⟩
  have hend := syncLoop_ends h (hs true) (hs false)
  have hinv := Loop.run_invariant LoopInv (fun s hg hi => loopBody_inv hg hi) w.loopFuel
    (w, .succeeded) h0
  refine ⟨hinv.core, forall_stream (k := true) hinv.color hinv.depth, ?_⟩
  by_cases hs : (Loop.run loopGuard loopBody w.loopFuel (w, WaitResult.succeeded)).2 = .succeeded
  · simp only [OneNull]
    by_contra hboth
    rw [not_or] at hboth
    have hg : loopGuard (Loop.run loopGuard loopBody w.loopFuel (w, WaitResult.succeeded)) = true :=
      loopGuard_iff.mpr ⟨hs, Option.ne_none_iff_exists'.mp hboth.2,
        Option.ne_none_iff_exists'.mp hboth.1⟩
    rw [hg] at hend
    cases hend
  · exact hinv.stopped hs

end World

end ZsaSdk
