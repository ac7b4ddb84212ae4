import ZsaSdk.Capturesync.Model

/-!
# The synchroniser over two queue implementations

The synchroniser uses its queues through their interface only.  So a homomorphism
of queue implementations carries every call of the synchroniser over one
implementation to the same call over the other: the slots, the ledgers, what is
published and what is returned are the same, and the queues correspond.

Applied to `ringHom` this reduces every statement about the synchroniser over ring
buffers to the synchroniser over bounded lists (`callRun_ring`).
-/

namespace ZsaSdk

open Ledger

section Map

variable {Q Q' : Type}

/-- Replace the queue of a slot. -/
def FrameInfo.map (φ : Q → Q') (f : FrameInfo Q) : FrameInfo Q' :=
  ⟨φ f.queue, f.capture, f.image, f.ts⟩

/-- Replace the queues of a context. -/
def CapturesyncContext.map (φ : Q → Q') (s : CapturesyncContext Q) : CapturesyncContext Q' where
  syncQueue := φ s.syncQueue
  color := s.color.map φ
  depthIr := s.depthIr.map φ
  fpsPeriod := s.fpsPeriod
  fps1QuarterPeriod := s.fps1QuarterPeriod
  syncCaptures := s.syncCaptures
  synchronizedImagesOnly := s.synchronizedImagesOnly
  waitingForCleanDepthTs := s.waitingForCleanDepthTs
  depthCapturesDropped := s.depthCapturesDropped
  disableSync := s.disableSync
  depthDelayOffColorUsec := s.depthDelayOffColorUsec
  running := s.running

/-- Replace the queues of a world. -/
def World.map (φ : Q → Q') (w : World Q) : World Q' where
  heap := w.heap
  sync := w.sync.map φ
  captureRefs := w.captureRefs
  imageRefs := w.imageRefs
  published := w.published
  notifiers := w.notifiers
  schedule := w.schedule

end Map

namespace World

section Slots

variable {Q Q' : Type} (w : World Q)

@[simp] theorem frame_map (φ : Q → Q') (k : Bool) : (w.map φ).frame k = (w.frame k).map φ := by
  cases k <;> rfl

theorem releaseSlot_map (φ : Q → Q') (k : Bool) :
    (w.map φ).releaseSlot k = (w.releaseSlot k).map φ := by
  cases k <;> rfl

theorem readTypedImage_map (φ : Q → Q') (k : Bool) (c : CaptureHandle) :
    (w.map φ).readTypedImage k c = (w.readTypedImage k c).map φ := by
  cases k <;> rfl

theorem clearSlot_map (φ : Q → Q') (k : Bool) : (w.map φ).clearSlot k = (w.clearSlot k).map φ := by
  simp only [clearSlot]
  rw [frame_map]
  cases hc : (w.frame k).capture with
  | none =>
      simp only [FrameInfo.map, hc, frame_map]
      cases hi : (w.frame k).image with
      | none => rfl
      | some i => cases k <;> rfl
  | some c =>
      have hset : ((w.map φ).captureDecRef (some c)).setFrame k
          { (w.frame k).map φ with capture := none, ts := 0xffffffffffffffff } =
          ((w.captureDecRef (some c)).setFrame k
            { w.frame k with capture := none, ts := 0xffffffffffffffff }).map φ := by
        cases k <;> rfl
      simp only [FrameInfo.map, hc] at hset ⊢
      rw [hset, frame_map]
      simp only [FrameInfo.map]
      cases hi : (((w.captureDecRef (some c)).setFrame k
          { w.frame k with capture := none, ts := 0xffffffffffffffff }).frame k).image with
      | none => rfl
      | some i => cases k <;> rfl

end Slots

/-! ## Queue operations -/

variable {Q Q' : Type} [QueueApi Q] [QueueApi Q'] (h : QueueHom Q Q') (w : World Q)

theorem shutSyncQueue_map {shut : Q → DisableReturn Q} {shut' : Q' → DisableReturn Q'}
    (hs : ∀ q, shut' (h.toFun q) = (shut q).map h.toFun) :
    (w.map h.toFun).shutSyncQueue shut' = (w.shutSyncQueue shut).map h.toFun := by
  have hq := hs w.sync.syncQueue
  simp only [shutSyncQueue, map, CapturesyncContext.map, hq, DisableReturn.map, postCaptureRefs]

theorem shutFrameQueue_map {shut : Q → DisableReturn Q} {shut' : Q' → DisableReturn Q'}
    (hs : ∀ q, shut' (h.toFun q) = (shut q).map h.toFun) (k : Bool) :
    (w.map h.toFun).shutFrameQueue k shut' = (w.shutFrameQueue k shut).map h.toFun := by
  have hq := hs (w.frame k).queue
  simp only [shutFrameQueue, frame_map, FrameInfo.map, hq, DisableReturn.map]
  cases k <;> rfl

theorem notifierMove_map (m : NotifierMove) :
    (w.map h.toFun).notifierMove m = (w.notifierMove m).map h.toFun := by
  cases m with
  | enter => rfl
  | advance i =>
      have hn : (w.map h.toFun).notifiers = w.notifiers := rfl
      simp only [notifierMove, hn]
      cases w.notifiers[i]? with
      | none => rfl
      | some stage =>
          cases stage with
          | syncQueue => simp only [shutSyncQueue_map h w h.map_stop]; rfl
          | depthQueue => simp only [shutFrameQueue_map h w h.map_stop]; rfl
          | colorQueue => simp only [shutFrameQueue_map h w h.map_stop]; rfl

theorem foldl_notifierMove_map (moves : List NotifierMove) :
    ∀ w : World Q, moves.foldl notifierMove (w.map h.toFun) =
      (moves.foldl notifierMove w).map h.toFun := by
  induction moves with
  | nil => intro w; rfl
  | cons m moves ih =>
      intro w
      rw [List.foldl_cons, List.foldl_cons, notifierMove_map, ih]

theorem preempt_map : (w.map h.toFun).preempt = w.preempt.map h.toFun := by
  have hs : (w.map h.toFun).schedule = w.schedule := rfl
  simp only [preempt, hs]
  cases w.schedule with
  | nil => rfl
  | cons moves rest => exact foldl_notifierMove_map h moves { w with schedule := rest }

theorem pushSyncQueue_map (p : Published) :
    (w.map h.toFun).pushSyncQueue p = (w.pushSyncQueue p).map h.toFun := by
  simp only [pushSyncQueue, preempt_map]
  have hp := h.map_push w.preempt.sync.syncQueue p.capture false
  have he := h.map_enabled w.preempt.sync.syncQueue
  simp only [map, CapturesyncContext.map, postCaptureRefs, hp, he, PushReturn.map]

theorem publishSlot_map (k : Bool) :
    (w.map h.toFun).publishSlot k = (w.publishSlot k).map h.toFun := by
  have hs : (w.map h.toFun).sync.synchronizedImagesOnly = w.sync.synchronizedImagesOnly := rfl
  simp only [publishSlot, hs, frame_map, FrameInfo.map]
  cases w.sync.synchronizedImagesOnly with
  | true => rfl
  | false =>
      cases (w.frame k).capture with
      | none => rfl
      | some c => exact pushSyncQueue_map h w _

theorem popSlot_map (k : Bool) :
    (w.map h.toFun).popSlot k = ((w.popSlot k).1.map h.toFun, (w.popSlot k).2) := by
  simp only [popSlot, preempt_map, frame_map, FrameInfo.map, h.map_pop, PopReturn.map]
  generalize w.preempt = v
  generalize QueueApi.queuePop (v.frame k).queue = r
  have hset : ((v.map h.toFun).postCaptureRefs r.refs).setFrame k
      ⟨h.toFun r.queue, r.capture, (v.frame k).image, (v.frame k).ts⟩ =
      ((v.postCaptureRefs r.refs).setFrame k
        { v.frame k with queue := r.queue, capture := r.capture }).map h.toFun := by
    cases k <;> rfl
  rw [hset]
  cases r.wresult with
  | succeeded =>
      cases r.capture with
      | none => rfl
      | some c =>
          simp only [readTypedImage_map, frame_map, FrameInfo.map]
          split <;> rfl
  | failed => rfl
  | timeout => rfl

theorem dropSample_map (r : WaitResult) (k b : Bool) :
    (w.map h.toFun).dropSample r k b =
      ((w.dropSample r k b).1.map h.toFun, (w.dropSample r k b).2) := by
  have hpub : (if b then (w.map h.toFun).publishSlot k else w.map h.toFun) =
      (if b then w.publishSlot k else w).map h.toFun := by
    cases b with
    | false => rfl
    | true => exact publishSlot_map h w k
  simp only [dropSample, hpub, releaseSlot_map]
  generalize (if b then w.publishSlot k else w).releaseSlot k = v
  have hpop : (if r ≠ .failed then (v.map h.toFun).popSlot k else (v.map h.toFun, r)) =
      ((if r ≠ .failed then v.popSlot k else (v, r)).1.map h.toFun,
        (if r ≠ .failed then v.popSlot k else (v, r)).2) := by
    split
    · exact popSlot_map h v k
    · rfl
  rw [hpop]
  generalize (if r ≠ .failed then v.popSlot k else (v, r)) = x
  obtain ⟨v', r'⟩ := x
  simp only
  split
  · rw [releaseSlot_map]
    cases k <;> rfl
  · rfl

theorem replaceSample_map (c : CaptureHandle) (k : Bool) :
    (w.map h.toFun).replaceSample c k = (w.replaceSample c k).map h.toFun := by
  simp only [replaceSample, publishSlot_map, frame_map, FrameInfo.map]
  cases ((w.publishSlot k).frame k).capture with
  | none => cases k <;> rfl
  | some c' =>
      exact readTypedImage_map (((w.publishSlot k).captureDecRef (some c')).imageDecRef
        ((w.publishSlot k).frame k).image) h.toFun k c

/-! ## Calls -/

theorem loopGuard_map (s : World Q × WaitResult) :
    loopGuard (s.1.map h.toFun, s.2) = loopGuard s := rfl

theorem loopBody_map (s : World Q × WaitResult) :
    loopBody (s.1.map h.toFun, s.2) = ((loopBody s).1.map h.toFun, (loopBody s).2) := by
  obtain ⟨w, r⟩ := s
  have hwindow : syncWindow (w.map h.toFun).sync.depthDelayOffColorUsec
      (w.map h.toFun).sync.fpsPeriod (w.map h.toFun).sync.fps1QuarterPeriod
      (w.map h.toFun).sync.color.ts (w.map h.toFun).sync.depthIr.ts =
      syncWindow w.sync.depthDelayOffColorUsec w.sync.fpsPeriod w.sync.fps1QuarterPeriod
        w.sync.color.ts w.sync.depthIr.ts := rfl
  have hcolor : (w.map h.toFun).sync.color.capture = w.sync.color.capture := rfl
  have hdepth : (w.map h.toFun).sync.depthIr.capture = w.sync.depthIr.capture := rfl
  simp only [loopBody, hwindow, hcolor, hdepth]
  cases syncWindow w.sync.depthDelayOffColorUsec w.sync.fpsPeriod w.sync.fps1QuarterPeriod
      w.sync.color.ts w.sync.depthIr.ts with
  | dropDepth => exact dropSample_map h w r false true
  | dropColor => exact dropSample_map h w r true true
  | merge =>
      cases w.sync.color.capture with
      | none => simp only; split <;> rfl
      | some color =>
          cases w.sync.depthIr.capture with
          | none => simp only; split <;> rfl
          | some depth =>
              have hm : (w.map h.toFun).mergeCaptures depth color =
                  (w.mergeCaptures depth color).map h.toFun := rfl
              have hh : (w.map h.toFun).heap = w.heap := rfl
              simp only [hm, hh, pushSyncQueue_map, dropSample_map]

theorem syncLoop_map : (w.map h.toFun).syncLoop = w.syncLoop.map h.toFun := by
  have hfuel : (w.map h.toFun).loopFuel = w.loopFuel :=
    congrArg₂ (· + · + 1) (h.map_entries _) (h.map_entries _)
  have hrun : (fun s : World Q × WaitResult => (s.1.map h.toFun, s.2))
        (Loop.run loopGuard loopBody w.loopFuel (w, .succeeded)) =
      Loop.run loopGuard loopBody w.loopFuel (w.map h.toFun, .succeeded) :=
    Loop.run_map (fun s : World Q × WaitResult => (s.1.map h.toFun, s.2))
      (loopGuard_map h) (fun s _ => (loopBody_map h s).symm) w.loopFuel (w, .succeeded)
  simp only [syncLoop, hfuel]
  exact (congrArg Prod.fst hrun).symm

theorem storeCapture_map (c : CaptureHandle) (k : Bool) :
    (w.map h.toFun).storeCapture c k = (w.storeCapture c k).map h.toFun := by
  simp only [storeCapture, frame_map, FrameInfo.map]
  cases (w.frame k).capture with
  | none => cases k <;> rfl
  | some c' =>
      simp only [preempt_map, frame_map, FrameInfo.map, h.map_push, PushReturn.map]
      generalize w.preempt = v
      generalize QueueApi.queuePushWDropped (v.frame k).queue c true = r
      have hset : ((v.map h.toFun).postCaptureRefs r.refs).setFrame k
          ⟨h.toFun r.queue, (v.frame k).capture, (v.frame k).image, (v.frame k).ts⟩ =
          ((v.postCaptureRefs r.refs).setFrame k { v.frame k with queue := r.queue }).map
            h.toFun := by
        cases k <;> rfl
      rw [hset]
      cases r.dropped with
      | none => rfl
      | some d => exact replaceSample_map h _ d k

theorem addLocked_map (c : CaptureHandle) (ts : UInt64) (k : Bool) :
    (w.map h.toFun).addLocked c ts k = (w.addLocked c ts k).map h.toFun := by
  have hrun : (w.map h.toFun).sync.running = w.sync.running := rfl
  have hsync : (w.map h.toFun).sync.syncCaptures = w.sync.syncCaptures := rfl
  have hdis : (w.map h.toFun).sync.disableSync = w.sync.disableSync := rfl
  have hwait : (w.map h.toFun).sync.waitingForCleanDepthTs = w.sync.waitingForCleanDepthTs := rfl
  have hfps : (w.map h.toFun).sync.fpsPeriod = w.sync.fpsPeriod := rfl
  have hstore : ∀ v : World Q, ((v.map h.toFun).storeCapture c k).syncLoop =
      ((v.storeCapture c k).syncLoop).map h.toFun := by
    intro v
    rw [storeCapture_map, syncLoop_map]
  simp only [addLocked, hrun, hsync, hdis, hwait, hfps]
  split
  · rfl
  · split
    · exact pushSyncQueue_map h w _
    · split
      · split
        · rfl
        · exact hstore { w with sync := { w.sync with waitingForCleanDepthTs := false } }
      · exact hstore w

theorem stopQueues_map : (w.map h.toFun).stopQueues = w.stopQueues.map h.toFun := by
  simp only [stopQueues, shutSyncQueue_map h _ h.map_stop, shutFrameQueue_map h _ h.map_stop]

end World

variable {Q Q' : Type} [QueueApi Q] [QueueApi Q'] (h : QueueHom Q Q')

theorem capturesyncAddCapture_map (w : World Q) (r : Result) (c : Option CaptureHandle) (k : Bool) :
    capturesyncAddCapture (w.map h.toFun) r c k = (capturesyncAddCapture w r c k).map h.toFun := by
  simp only [capturesyncAddCapture]
  split
  · exact w.stopQueues_map h
  · cases c with
    | none => rfl
    | some c =>
        have hh : (w.map h.toFun).heap = w.heap := rfl
        simp only [hh]
        cases w.heap.typedImage k c with
        | none => rfl
        | some i =>
            exact World.addLocked_map h (w.postImageRefs [.acquire i, .release i]) c
              (w.heap.devTimestampUsec i) k

theorem capturesyncCreate_map (heap : Heap) (b : Bool) :
    capturesyncCreate Q' heap b = (capturesyncCreate Q heap b).map (World.map h.toFun) := by
  simp only [capturesyncCreate]
  rw [h.map_create, h.map_create]
  cases (QueueApi.queueCreate queueDefaultSize : Option Q) with
  | none => rfl
  | some d =>
      cases (QueueApi.queueCreate (queueDefaultSize / 2) : Option Q) with
      | none => rfl
      | some s =>
          simp only [Option.map_some, Option.bind_eq_bind, Option.bind_some, Option.pure_def,
            Option.some.injEq]
          rw [← World.shutSyncQueue_map h _ h.map_disable,
            ← World.shutFrameQueue_map h _ h.map_disable,
            ← World.shutFrameQueue_map h _ h.map_disable]
          rfl

theorem capturesyncStart_map (w : World Q) (config : DeviceConfiguration) :
    capturesyncStart (w.map h.toFun) config =
      ((capturesyncStart w config).1.map h.toFun, (capturesyncStart w config).2) := by
  unfold capturesyncStart
  simp only
  split
  · simp only [World.map, CapturesyncContext.map, FrameInfo.map, h.map_enable]
  · rfl

theorem capturesyncStop_map (w : World Q) :
    capturesyncStop (w.map h.toFun) = (capturesyncStop w).map h.toFun := by
  have hrun : ({ w.map h.toFun with
      sync := { (w.map h.toFun).sync with running := false } } : World Q') =
      ({ w with sync := { w.sync with running := false } } : World Q).map h.toFun := rfl
  simp only [capturesyncStop, hrun, World.preempt_map, World.shutFrameQueue_map h _ h.map_disable,
    World.shutSyncQueue_map h _ h.map_disable, World.clearSlot_map]

theorem capturesyncGetCapture_map (w : World Q) :
    capturesyncGetCapture (w.map h.toFun) =
      ((capturesyncGetCapture w).1.map h.toFun, (capturesyncGetCapture w).2) := by
  have hq : (w.map h.toFun).sync.syncQueue = h.toFun w.sync.syncQueue := rfl
  simp only [capturesyncGetCapture, hq, h.map_pop, PopReturn.map]
  generalize QueueApi.queuePop w.sync.syncQueue = r
  cases r.wresult with
  | succeeded => cases r.capture <;> rfl
  | failed => rfl
  | timeout => rfl

theorem capturesyncDestroy_map (w : World Q) :
    capturesyncDestroy (w.map h.toFun) = (capturesyncDestroy w).map h.toFun := by
  simp only [capturesyncDestroy, capturesyncStop_map, World.shutFrameQueue_map h _ h.map_disable,
    World.shutSyncQueue_map h _ h.map_disable]

theorem callStep_map (w : World Q) (call : Call) :
    callStep (w.map h.toFun) call = ((callStep w call).1.map h.toFun, (callStep w call).2) := by
  cases call with
  | start config => simp only [callStep, capturesyncStart_map]
  | addCapture r c k => simp only [callStep, capturesyncAddCapture_map]
  | getCapture => simp only [callStep, capturesyncGetCapture_map]
  | stop => simp only [callStep, capturesyncStop_map]

theorem callRun_map (calls : List Call) :
    ∀ w : World Q, callRun (w.map h.toFun) calls =
      ((callRun w calls).1.map h.toFun, (callRun w calls).2) := by
  induction calls with
  | nil => intro w; rfl
  | cons call calls ih =>
      intro w
      simp only [callRun, callStep_map, ih]

/-! ## From ring buffers to bounded lists -/

/-- The world over bounded lists that a world over ring buffers stands for. -/
def World.toFifo (w : World QueueContext) : World FifoQueue := w.map QueueContext.toFifoQueue

/-- A run over ring buffers is the run over bounded lists. -/
theorem callRun_ring (w : World QueueContext) (calls : List Call) :
    callRun w.toFifo calls = ((callRun w calls).1.toFifo, (callRun w calls).2) :=
  callRun_map ringHom calls w

end ZsaSdk
