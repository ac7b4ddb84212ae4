import ZsaSdk.Capturesync.Representation

/-!
# A session as two lists

What the synchroniser is for, without slots, timestamps and result codes.  Each
stream is the list of its captures that have not left it yet, oldest first: the
head is the one in the slot, the tail is the internal queue.  Between two calls
one of the lists is empty.

`World.session` reads the lists off a world.  As long as no notifier is on its
way and calls are atomic (`Calm`), every call does to the lists what the abstract
call does, and returns the same (`callRun_session`).  The single `wresult` that the
refills of both slots share disappears here: a refill that fails or times out
leaves an empty list, and the loop goes on exactly as long as both lists have a
head.
-/

namespace ZsaSdk

open Ledger World

/-! ## The abstract session -/

/-- One stream: its captures, and whether and how many more its queue takes. -/
structure Stream where
  captures : List CaptureHandle
  isOpen : Bool
  capacity : Nat
deriving DecidableEq, Repr

/-- A call between the start and the stop of a session. -/
inductive SessionCall where
  | addCapture (captureResult : Result) (captureRaw : Option CaptureHandle) (colorCapture : Bool)
  | getCapture
deriving DecidableEq, Repr

def SessionCall.toCall : SessionCall → Call
  | .addCapture r c k => .addCapture r c k
  | .getCapture => .getCapture

/-- The state of a session. -/
structure Session where
  heap : Heap
  params : Params
  stream : Bool → Stream
  syncQueue : FifoQueue
  published : List Published

namespace Session

def setCaptures (s : Session) (k : Bool) (l : List CaptureHandle) : Session :=
  { s with stream := Function.update s.stream k { s.stream k with captures := l } }

/-- Push to `sync_queue`. -/
def publish (s : Session) (p : Published) : Session :=
  { s with
    syncQueue := (s.syncQueue.pushWDropped p.capture false).queue
    published := if s.syncQueue.enabled then s.published ++ [p] else s.published }

/-- Publish a capture on its own, unless only synchronised images are wanted. -/
def publishAlone (s : Session) (k : Bool) (c : CaptureHandle) : Session :=
  if s.params.synchronizedImagesOnly then s else s.publish (.alone k c)

/-- What the window says about the heads of the two streams. -/
def decision (s : Session) (color depth : CaptureHandle) : WindowDecision :=
  syncWindow s.params.depthDelayOffColorUsec s.params.fpsPeriod s.params.fps1QuarterPeriod
    (s.heap.typedTs true color) (s.heap.typedTs false depth)

/-- Both streams have a head. -/
def guard (s : Session) : Bool :=
  !(s.stream false).captures.isEmpty && !(s.stream true).captures.isEmpty

/-- Set the image of the colour capture on the depth capture, and publish that. -/
def merge (s : Session) (color depth : CaptureHandle) : Session :=
  publish { s with heap := s.heap.captureSetColorImage depth (s.heap.typedImage true color) }
    (.merged depth color (s.heap.typedImage true color))

/-- One iteration of the loop. -/
def body (s : Session) : Session :=
  match (s.stream true).captures, (s.stream false).captures with
  | c :: cs, d :: ds =>
      match s.decision c d with
      | .dropDepth => (s.publishAlone false d).setCaptures false ds
      | .dropColor => (s.publishAlone true c).setCaptures true cs
      | .merge => ((s.merge c d).setCaptures true cs).setCaptures false ds
  | _, _ => s

/-- The number of captures in the two streams. -/
def size (s : Session) : Nat := (s.stream true).captures.length + (s.stream false).captures.length

/-- The loop, until one stream is empty. -/
def loop (s : Session) : Session := Loop.run guard body s.size s

/-- A stream takes a capture.  If its queue is full it gives up its head. -/
def store (s : Session) (c : CaptureHandle) (k : Bool) : Session :=
  match (s.stream k).captures with
  | [] => s.setCaptures k [c]
  | d :: ds =>
      if (s.stream k).isOpen = false then s
      else if ds.length = (s.stream k).capacity then
        (s.publishAlone k d).setCaptures k (ds ++ [c])
      else s.setCaptures k (d :: ds ++ [c])

/-- The start-up filter lets a depth capture through. -/
def setClean (s : Session) : Session :=
  { s with params := { s.params with waitingForCleanDepthTs := false } }

/-- A capture with its typed image arrives. -/
def accept (s : Session) (c : CaptureHandle) (k : Bool) : Session :=
  if s.params.running = false then s
  else if s.params.syncCaptures = false || s.params.disableSync = true then s.publish (.alone k c)
  else if k = false && s.params.waitingForCleanDepthTs then
    if s.heap.typedTs k c / s.params.fpsPeriod > 10 then s
    else (s.setClean.store c k).loop
  else (s.store c k).loop

/-- A failed result closes all queues.  What is in the slots stays. -/
def fail (s : Session) : Session :=
  { s with
    stream := fun k => ⟨(s.stream k).captures.take 1, false, (s.stream k).capacity⟩
    syncQueue := s.syncQueue.disable.queue }

/-- `capturesync_add_capture` -/
def add (s : Session) (r : Result) (c : Option CaptureHandle) (k : Bool) : Session :=
  if r = .failed then s.fail
  else
    match c with
    | none => s
    | some c => if s.heap.typedImage k c = none then s else s.accept c k

/-- `capturesync_get_capture` -/
def get (s : Session) : Session × WaitResult × Option CaptureHandle :=
  ({ s with syncQueue := s.syncQueue.pop.queue }, s.syncQueue.pop.wresult, s.syncQueue.pop.capture)

/-- The session parameters a valid configuration sets.  `disable_sync` is not one of
them. -/
def startParams (config : DeviceConfiguration) (disableSync : Bool) : Params where
  fpsPeriod := ((1 * 1000000) / convertFpsToUint config.cameraFps).toUInt64
  fps1QuarterPeriod := ((1 * 1000000) / convertFpsToUint config.cameraFps).toUInt64 / 4
  syncCaptures := !(config.colorResolution == .off || config.depthMode == .off)
  synchronizedImagesOnly := config.synchronizedImagesOnly
  waitingForCleanDepthTs := true
  disableSync := disableSync
  depthDelayOffColorUsec := config.depthDelayOffColorUsec
  running := true

/-- A session that begins on an idle synchroniser. -/
def begin (heap : Heap) (published : List Published) (disableSync : Bool)
    (config : DeviceConfiguration) : Session where
  heap := heap
  params := startParams config disableSync
  stream _ := ⟨[], true, queueDefaultSize.toNat⟩
  syncQueue := ⟨BoundedFifo.empty (queueDefaultSize / 2).toNat (by decide), true⟩
  published := published

/-- One call within a session. -/
def step (s : Session) : SessionCall → Session × Reply
  | .addCapture r c k => (s.add r c k, .added)
  | .getCapture => (s.get.1, .got s.get.2.1 s.get.2.2)

/-- The calls of a session, one after the other. -/
def run (s : Session) : List SessionCall → Session × List Reply
  | [] => (s, [])
  | call :: calls =>
      (((s.step call).1.run calls).1, (s.step call).2 :: ((s.step call).1.run calls).2)

end Session

namespace Session

theorem captures_setCaptures (s : Session) (k : Bool) (l : List CaptureHandle) :
    ((s.setCaptures k l).stream k).captures = l := by
  simp [setCaptures]

theorem stream_setCaptures_of_ne (s : Session) {j k : Bool} (h : j ≠ k) (l : List CaptureHandle) :
    (s.setCaptures k l).stream j = s.stream j := by
  simp [setCaptures, h]

theorem setCaptures_setCaptures (s : Session) (k : Bool) (l l' : List CaptureHandle) :
    (s.setCaptures k l).setCaptures k l' = s.setCaptures k l' := by
  simp [setCaptures]

theorem publishAlone_setCaptures (s : Session) (j k : Bool) (c : CaptureHandle)
    (l : List CaptureHandle) :
    (s.setCaptures k l).publishAlone j c = (s.publishAlone j c).setCaptures k l := by
  have hp : (s.setCaptures k l).params = s.params := rfl
  simp only [publishAlone]
  rw [hp]
  split
  · rfl
  · rfl

end Session

/-! ## The session a world stands for -/

namespace World

variable {w : World FifoQueue} {k : Bool}

/-- The stream a slot and its queue stand for. -/
def streamOf (f : FrameInfo FifoQueue) : Stream :=
  ⟨f.capture.toList ++ f.queue.fifo.items, f.queue.enabled, f.queue.fifo.capacity⟩

/-- The session a world stands for. -/
def session (w : World FifoQueue) : Session where
  heap := w.heap
  params := w.params
  stream k := streamOf (w.frame k)
  syncQueue := w.sync.syncQueue
  published := w.published

theorem session_setFrame (w : World FifoQueue) (k : Bool) (f : FrameInfo FifoQueue) :
    (w.setFrame k f).session =
      { w.session with stream := Function.update w.session.stream k (streamOf f) } := by
  have hstream : (fun j => streamOf ((w.setFrame k f).frame j)) =
      Function.update (fun j => streamOf (w.frame j)) k (streamOf f) := by
    funext j
    cases k <;> cases j <;> simp [Function.update, setFrame, frame]
  simp only [session, heap_setFrame, params_setFrame, syncQueue_setFrame, published_setFrame,
    hstream]

/-- A slot and a queue that are rewritten with the flag and the capacity kept. -/
theorem session_setFrame_captures (w : World FifoQueue) (k : Bool) {f : FrameInfo FifoQueue}
    {l : List CaptureHandle} (ho : f.queue.enabled = (w.frame k).queue.enabled)
    (hc : f.queue.fifo.capacity = (w.frame k).queue.fifo.capacity)
    (hl : f.capture.toList ++ f.queue.fifo.items = l) :
    (w.setFrame k f).session = w.session.setCaptures k l := by
  rw [session_setFrame]
  have hstream : streamOf f = { w.session.stream k with captures := l } := by
    simp only [streamOf, session, ho, hc, hl]
  rw [hstream]
  rfl

theorem session_postCaptureRefs (w : World FifoQueue) (ops : List (RefOp CaptureHandle)) :
    (w.postCaptureRefs ops).session = w.session := by
  simp only [session, frame_postCaptureRefs]
  rfl

theorem session_postImageRefs (w : World FifoQueue) (ops : List (RefOp ImageHandle)) :
    (w.postImageRefs ops).session = w.session := by
  simp only [session, frame_postImageRefs]
  rfl

/-- Nothing happens but the call at hand. -/
structure Quiet (w : World FifoQueue) : Prop where
  schedule : w.schedule = []
  notifiers : w.notifiers = []

theorem Quiet.preempt (h : Quiet w) : w.preempt = w := preempt_of_nil h.schedule

theorem Quiet.setFrame (h : Quiet w) (k : Bool) (f : FrameInfo FifoQueue) :
    Quiet (w.setFrame k f) :=
  ⟨by rw [schedule_setFrame, h.schedule], by rw [notifiers_setFrame, h.notifiers]⟩

theorem Quiet.readTypedImage (h : Quiet w) (k : Bool) (c : CaptureHandle) :
    Quiet (w.readTypedImage k c) := by
  have hrefs : Quiet (w.postImageRefs (acquireOf (w.heap.typedImage k c))) :=
    ⟨h.schedule, h.notifiers⟩
  exact hrefs.setFrame k _

/-! ## Publishing -/

theorem frame_pushSyncQueue (h : Quiet w) (p : Published) (j : Bool) :
    (w.pushSyncQueue p).frame j = w.frame j := by
  simp only [pushSyncQueue, h.preempt]
  cases j <;> rfl

theorem session_pushSyncQueue (h : Quiet w) (p : Published) :
    (w.pushSyncQueue p).session = w.session.publish p ∧ Quiet (w.pushSyncQueue p) := by
  simp only [session, frame_pushSyncQueue h]
  simp only [pushSyncQueue, h.preempt]
  exact ⟨rfl, h.schedule, h.notifiers⟩

theorem frame_publishSlot (h : Quiet w) (j : Bool) : (w.publishSlot k).frame j = w.frame j := by
  simp only [publishSlot]
  split
  · rfl
  · split
    · rfl
    · exact frame_pushSyncQueue h _ j

theorem session_publishSlot (h : Quiet w) {c : CaptureHandle} (hc : (w.frame k).capture = some c) :
    (w.publishSlot k).session = w.session.publishAlone k c ∧ Quiet (w.publishSlot k) := by
  rw [publishSlot_eq w k hc]
  have hs : w.sync.synchronizedImagesOnly = w.session.params.synchronizedImagesOnly := rfl
  rw [hs]
  simp only [Session.publishAlone]
  split
  · exact ⟨rfl, h⟩
  · exact session_pushSyncQueue h _

/-! ## Moving a stream forward -/

theorem session_emptySlot (h : w.items k = []) :
    (w.emptySlot k).session = w.session.setCaptures k [] :=
  session_setFrame_captures w k rfl rfl h

theorem session_readTypedImage (w : World FifoQueue) (k : Bool) (c : CaptureHandle) :
    (w.readTypedImage k c).session = w.session.setCaptures k (c :: w.items k) := by
  rw [← session_postImageRefs w (acquireOf (w.heap.typedImage k c))]
  exact session_setFrame_captures _ k (by simp) (by simp) rfl

theorem session_loadSlot {c : CaptureHandle} {cs : List CaptureHandle}
    (h : w.items k = c :: cs) :
    (w.loadSlot k c).session = w.session.setCaptures k (c :: cs) := by
  have hi : (w.frame k).queue.fifo.items = c :: cs := h
  have hpop : ∀ f : FrameInfo FifoQueue, f.queue.enabled = (w.frame k).queue.enabled →
      f.queue.fifo = (w.frame k).queue.fifo.pop →
      ((w.setFrame k f).readTypedImage k c).session = w.session.setCaptures k (c :: cs) := by
    intro f ho hf
    rw [session_readTypedImage, items, frame_setFrame, hf, BoundedFifo.items_pop, hi,
      List.tail_cons, session_setFrame_captures w k ho (by rw [hf]; rfl) rfl,
      Session.setCaptures_setCaptures]
  exact hpop _ rfl rfl

/-- Up to its pop, `drop_sample` publishes the head and takes it off the stream. -/
theorem session_dropped (hq : Quiet w) {c : CaptureHandle} (hc : (w.frame k).capture = some c)
    (b : Bool) :
    (w.dropped k b).session =
        (if b then w.session.publishAlone k c else w.session).setCaptures k (w.items k) ∧
      Quiet (w.dropped k b) ∧ (w.dropped k b).items k = w.items k := by
  have hrelease : ∀ v : World FifoQueue, Quiet v → v.items k = w.items k →
      (v.releaseSlot k).session = v.session.setCaptures k (w.items k) ∧
        Quiet (v.releaseSlot k) ∧ (v.releaseSlot k).items k = w.items k := by
    intro v hv hi
    have hrefs : Quiet ((v.captureDecRef (v.frame k).capture).imageDecRef (v.frame k).image) :=
      ⟨hv.schedule, hv.notifiers⟩
    refine ⟨?_, hrefs.setFrame k _, ?_⟩
    · rw [← session_postCaptureRefs v (releaseOf (v.frame k).capture),
        ← session_postImageRefs _ (releaseOf (v.frame k).image)]
      exact session_setFrame_captures _ k (by simp) (by simp) hi
    · simp only [releaseSlot, items, frame_setFrame]
      exact hi
  cases b with
  | false => exact hrelease w hq rfl
  | true =>
      obtain ⟨hs, hq'⟩ := session_publishSlot hq hc
      have hi : (w.publishSlot k).items k = w.items k := by
        rw [items, frame_publishSlot hq]
        rfl
      have h := hrelease (w.publishSlot k) hq' hi
      rw [hs] at h
      exact h

/-- `drop_sample` takes the head off a stream. -/
theorem session_dropSample (h : Core w) (hq : Quiet w) {c : CaptureHandle}
    (hc : (w.frame k).capture = some c) {r : WaitResult} (hr : r = .failed → w.items k = [])
    (b : Bool) :
    (w.dropSample r k b).1.session =
        (if b then w.session.publishAlone k c else w.session).setCaptures k (w.items k) ∧
      Quiet (w.dropSample r k b).1 := by
  obtain ⟨hs, hqd, hi⟩ := session_dropped hq hc b
  have hcore := h.dropped k b
  have hpre := hqd.preempt
  -- Loading or emptying the slot leaves the list of the stream as it is.
  have hempty : (w.dropped k b).items k = [] →
      ((w.dropped k b).emptySlot k).session = (w.dropped k b).session ∧
        Quiet ((w.dropped k b).emptySlot k) := by
    intro hn
    refine ⟨?_, hqd.setFrame k _⟩
    rw [session_emptySlot hn, hs, Session.setCaptures_setCaptures, ← hi, hn]
  rw [← hs, dropSample_eq w k r b (by rw [hpre]; exact hcore.typed k), hpre]
  split
  · next hf => exact hempty (hi.trans (hr hf))
  · split
    · next ho => exact hempty (hcore.closed k ho)
    · cases hl : (w.dropped k b).items k with
      | nil => exact hempty hl
      | cons d ds =>
          refine ⟨?_, (hqd.setFrame k _).readTypedImage k d⟩
          rw [session_loadSlot hl, hs, Session.setCaptures_setCaptures, ← hi, hl]

/-! ## The loop -/

theorem captures_of_some {c : CaptureHandle} (hc : (w.frame k).capture = some c) :
    (w.session.stream k).captures = c :: w.items k := by
  simp only [session, streamOf, hc]
  rfl

theorem SlotInv.captures_of_none (h : SlotInv w k) (hc : (w.frame k).capture = none) :
    (w.session.stream k).captures = [] := by
  have hi : (w.frame k).queue.fifo.items = [] := h.drained hc
  simp only [session, streamOf, hc, hi]
  rfl

/-- The head of a stream is in the slot. -/
theorem SlotInv.head (h : SlotInv w k) {c : CaptureHandle} {cs : List CaptureHandle}
    (hc : (w.session.stream k).captures = c :: cs) :
    (w.frame k).capture = some c ∧ w.items k = cs := by
  cases hf : (w.frame k).capture with
  | none =>
      rw [h.captures_of_none hf] at hc
      cases hc
  | some d =>
      rw [captures_of_some hf, List.cons.injEq] at hc
      exact ⟨congrArg some hc.1, hc.2⟩

/-- The timestamp in a slot is that of the typed image of its capture. -/
theorem SlotInv.typedTs (h : SlotInv w k) {c : CaptureHandle} (hc : (w.frame k).capture = some c) :
    w.heap.typedTs k c = (w.frame k).ts := by
  obtain ⟨i, hi⟩ := Option.ne_none_iff_exists'.mp (h.typed hc)
  have himg : (w.frame k).image = some i := (h.image_eq c hc).trans hi
  rw [h.ts_eq i himg, Heap.typedTs, hi]
  rfl

theorem session_mergeCaptures (w : World FifoQueue) (d c : CaptureHandle) :
    (w.mergeCaptures d c).session =
      { w.session with
        heap := w.heap.captureSetColorImage d (w.heap.typedImage true c) } := by
  simp only [session, frame_mergeCaptures]
  rfl

theorem session_guard {s : World FifoQueue × WaitResult} (h : LoopInv s) :
    s.1.session.guard = loopGuard s := by
  have hdead : OneNull s.1 → s.1.session.guard = false := by
    intro hn
    rcases hn with hc | hd
    · simp [Session.guard, h.color.captures_of_none hc]
    · simp [Session.guard, h.depth.captures_of_none hd]
  cases hg : loopGuard s with
  | true =>
      obtain ⟨-, ⟨d, hd⟩, ⟨c, hc⟩⟩ := loopGuard_iff.mp hg
      simp [Session.guard, captures_of_some hc, captures_of_some hd]
  | false =>
      by_cases hr : s.2 = .succeeded
      · refine hdead ?_
        simp only [OneNull]
        by_contra hboth
        rw [not_or] at hboth
        have hg' : loopGuard s = true := loopGuard_iff.mpr
          ⟨hr, Option.ne_none_iff_exists'.mp hboth.2, Option.ne_none_iff_exists'.mp hboth.1⟩
        rw [hg] at hg'
        cases hg'
      · exact hdead (h.stopped hr)

/-- The branch that merges the two slots and then moves both on, the colour slot first. -/
theorem session_mergeBranch (h : LoopInv (w, .succeeded)) (hq : Quiet w) {c d : CaptureHandle}
    (hc : (w.frame true).capture = some c) (hd : (w.frame false).capture = some d)
    {v : World FifoQueue} {s : World FifoQueue × WaitResult}
    (hv : v = (w.mergeCaptures d c).pushSyncQueue (.merged d c (w.heap.typedImage true c)))
    (hs : s = v.dropSample .succeeded true false) :
    (s.1.dropSample s.2 false false).1.session =
        ((w.session.merge c d).setCaptures true (w.items true)).setCaptures false (w.items false) ∧
      Quiet (s.1.dropSample s.2 false false).1 := by
  have hqm : Quiet (w.mergeCaptures d c) := ⟨hq.schedule, hq.notifiers⟩
  obtain ⟨hsp, hqp⟩ := session_pushSyncQueue hqm (.merged d c (w.heap.typedImage true c))
  have hmerge : w.session.merge c d = Session.publish { w.session with
      heap := w.heap.captureSetColorImage d (w.heap.typedImage true c) }
      (.merged d c (w.heap.typedImage true c)) := rfl
  have hcore := (h.core.mergeCaptures d (h.color.typed hc)).pushSyncQueue
    (.merged d c (w.heap.typedImage true c))
  have hi := pushSyncQueue_interfered (w.mergeCaptures d c)
    (.merged d c (w.heap.typedImage true c))
  have hdepth := (h.depth.mergeCaptures_depth d c).of_interfered hi
  have hframe : ∀ j, v.frame j = w.frame j := fun j => by
    rw [hv, frame_pushSyncQueue hqm, frame_mergeCaptures]
  rw [session_mergeCaptures, ← hmerge] at hsp
  rw [← hv] at hsp hqp hcore hdepth
  have hitems : ∀ j, v.items j = w.items j := fun j => by rw [items, hframe]; rfl
  obtain ⟨hs1, hq1⟩ := session_dropSample (r := .succeeded) hcore hqp
    (show (v.frame true).capture = some c by rw [hframe, hc]) (by rintro ⟨⟩) false
  obtain ⟨hcore1, hdepth1, -, -, hfail1⟩ := dropSample_inv (k := true) hcore hdepth .succeeded false
    (by rintro ⟨⟩)
  rw [← hs] at hs1 hq1 hcore1 hdepth1 hfail1
  have hstream1 : (s.1.session.stream false).captures = d :: w.items false := by
    rw [hs1]
    have hkeep : ((v.session.setCaptures true (v.items true)).stream false).captures =
        (v.session.stream false).captures := rfl
    rw [if_neg Bool.false_ne_true, hkeep, captures_of_some (k := false) (c := d)
      (by rw [hframe]; exact hd), hitems]
  obtain ⟨hd1, hi1⟩ : (s.1.frame false).capture = some d ∧ s.1.items false = w.items false :=
    hdepth1.head hstream1
  have hempty : s.2 = .failed → s.1.items false = [] := by
    intro hf
    rcases hfail1 hf with hf' | ho
    · cases hf'
    · exact hcore1.closed false (hcore1.order ho)
  obtain ⟨hs2, hq2⟩ := session_dropSample hcore1 hq1 hd1 hempty false
  refine ⟨?_, hq2⟩
  rw [hs2, hs1, hi1, hitems, hsp]
  rfl

/-- One iteration of the loop does to the lists what the abstract iteration does. -/
theorem session_loopBody {s : World FifoQueue × WaitResult} (hg : loopGuard s = true)
    (h : LoopInv s) (hq : Quiet s.1) :
    (loopBody s).1.session = s.1.session.body ∧ Quiet (loopBody s).1 := by
  obtain ⟨hr, ⟨d, hd⟩, ⟨c, hc⟩⟩ := loopGuard_iff.mp hg
  obtain ⟨w, r⟩ := s
  obtain rfl : r = .succeeded := hr
  have hc' : w.sync.color.capture = some c := hc
  have hd' : w.sync.depthIr.capture = some d := hd
  have hwin : w.session.decision c d = syncWindow w.sync.depthDelayOffColorUsec w.sync.fpsPeriod
      w.sync.fps1QuarterPeriod w.sync.color.ts w.sync.depthIr.ts := by
    have hct : w.session.heap.typedTs true c = w.sync.color.ts := h.color.typedTs hc
    have hdt : w.session.heap.typedTs false d = w.sync.depthIr.ts := h.depth.typedTs hd
    rw [Session.decision, hct, hdt]
    rfl
  simp only [loopBody, Session.body, captures_of_some (k := true) hc,
    captures_of_some (k := false) hd, hwin]
  cases syncWindow w.sync.depthDelayOffColorUsec w.sync.fpsPeriod w.sync.fps1QuarterPeriod
      w.sync.color.ts w.sync.depthIr.ts with
  | dropDepth => exact session_dropSample (r := .succeeded) h.core hq hd (by rintro ⟨⟩) true
  | dropColor => exact session_dropSample (r := .succeeded) h.core hq hc (by rintro ⟨⟩) true
  | merge =>
      simp only [hc', hd']
      exact session_mergeBranch h hq hc hd rfl rfl

theorem session_syncLoop (h : Core w) (hs : ∀ k, SlotInv w k) (hq : Quiet w) :
    w.syncLoop.session = w.session.loop ∧ Quiet w.syncLoop := by
  have h0 : LoopInv (w, .succeeded) ∧ Quiet w :=
    ⟨⟨h, hs true, hs false, fun hn => absurd rfl hn⟩, hq⟩
  have hstep : ∀ s : World FifoQueue × WaitResult, loopGuard s = true → LoopInv s ∧ Quiet s.1 →
      LoopInv (loopBody s) ∧ Quiet (loopBody s).1 :=
    fun s hg hi => ⟨loopBody_inv hg hi.1, (session_loopBody hg hi.1 hi.2).2⟩
  have hrun : (Loop.run loopGuard loopBody w.loopFuel (w, WaitResult.succeeded)).1.session =
      Loop.run Session.guard Session.body w.loopFuel w.session :=
    Loop.run_map_of_invariant (fun s => LoopInv s ∧ Quiet s.1) (fun s => s.1.session) hstep
      (fun s hi => session_guard hi.1) (fun s hg hi => (session_loopBody hg hi.1 hi.2).1)
      w.loopFuel (w, .succeeded) h0
  have hinv := Loop.run_invariant (fun s => LoopInv s ∧ Quiet s.1) hstep w.loopFuel
    (w, WaitResult.succeeded) h0
  refine ⟨?_, hinv.2⟩
  have hend : Session.guard (Loop.run Session.guard Session.body w.loopFuel w.session) = false := by
    rw [← hrun, session_guard hinv.1]
    exact syncLoop_ends h (hs true) (hs false)
  cases hg : w.session.guard with
  | false =>
      rw [show w.syncLoop.session = _ from hrun, Session.loop, Loop.run_false hg, Loop.run_false hg]
  | true =>
      -- Both slots are taken, so the lists have more captures than the loop has iterations.
      have hfuel : w.loopFuel ≤ w.session.size := by
        rw [session_guard h0.1] at hg
        obtain ⟨-, ⟨d, hd⟩, ⟨c, hc⟩⟩ := loopGuard_iff.mp hg
        have hd : (w.frame false).capture = some d := hd
        have hc : (w.frame true).capture = some c := hc
        rw [Session.size, captures_of_some hc, captures_of_some hd, List.length_cons,
          List.length_cons]
        have hentries : w.loopFuel = (w.items true).length + (w.items false).length + 1 := rfl
        omega
      rw [show w.syncLoop.session = _ from hrun]
      exact (Loop.run_of_stopped hend hfuel).symm

/-! ## Accepting a capture -/

theorem Quiet.pushed (h : Quiet w) (k : Bool) (c : CaptureHandle) : Quiet (w.pushed k c) := by
  have hrefs : Quiet (w.postCaptureRefs ((w.frame k).queue.pushWDropped c true).refs) :=
    ⟨h.schedule, h.notifiers⟩
  exact hrefs.setFrame k _

theorem session_pushed {c d : CaptureHandle} (hd : (w.frame k).capture = some d)
    {l : List CaptureHandle} (hl : (w.pushed k c).items k = l) :
    (w.pushed k c).session = w.session.setCaptures k (d :: l) := by
  have hcap := capacity_pushWDropped (w.frame k).queue c true
  have hen : ((w.frame k).queue.pushWDropped c true).queue.enabled =
      (w.frame k).queue.enabled := by
    cases he : (w.frame k).queue.enabled <;> simp [FifoQueue.pushWDropped, he]
  rw [items, frame_pushed] at hl
  rw [← session_postCaptureRefs w ((w.frame k).queue.pushWDropped c true).refs]
  refine session_setFrame_captures _ k ?_ ?_ ?_
  · rw [frame_postCaptureRefs]
    exact hen
  · rw [frame_postCaptureRefs]
    exact hcap
  · rw [hd, hl]
    rfl

/-- A capture is evicted exactly if the queue is open and full. -/
theorem evicted_pushed (ho : w.isOpen k = true) (c : CaptureHandle) :
    (∃ e l, w.items k = e :: l ∧ (w.items k).length = (w.frame k).queue.fifo.capacity ∧
      w.evicted k c = some e ∧ (w.pushed k c).items k = l ++ [c]) ∨
    ((w.items k).length ≠ (w.frame k).queue.fifo.capacity ∧ w.evicted k c = none ∧
      (w.pushed k c).items k = w.items k ++ [c]) := by
  have ho' : (w.frame k).queue.enabled = true := ho
  have hev : w.evicted k c = (w.frame k).queue.fifo.evicted := by
    simp [evicted, FifoQueue.pushWDropped, ho']
  have happ := (pushed_open c ho).1
  cases hf : (w.frame k).queue.fifo.full with
  | true =>
      obtain ⟨e, l, hi, he⟩ := BoundedFifo.exists_cons_of_full hf
      have hi' : w.items k = e :: l := hi
      left
      refine ⟨e, l, hi', (BoundedFifo.full_iff _).mp hf, hev.trans he, ?_⟩
      rw [hev, he, hi'] at happ
      exact (List.cons.inj happ).2
  | false =>
      right
      have hn := BoundedFifo.evicted_of_not_full hf
      refine ⟨?_, hev.trans hn, ?_⟩
      · intro hlen
        rw [(BoundedFifo.full_iff _).mpr hlen] at hf
        cases hf
      · rw [hev, hn] at happ
        exact happ

theorem session_storeCapture (hs : SlotInv w k) (hq : Quiet w) (c : CaptureHandle) :
    (w.storeCapture c k).session = w.session.store c k ∧ Quiet (w.storeCapture c k) := by
  cases hc : (w.frame k).capture with
  | none =>
      rw [storeCapture_of_null c hc]
      refine ⟨?_, ?_⟩
      · rw [session_postCaptureRefs, Session.store, hs.captures_of_none hc, session_readTypedImage,
          hs.drained hc]
      · have hr := hq.readTypedImage k c
        exact ⟨hr.schedule, hr.notifiers⟩
  | some d =>
      rw [storeCapture_of_some c hc, hq.preempt, Session.store, captures_of_some hc]
      have hopen : (w.session.stream k).isOpen = w.isOpen k := rfl
      have hcap : (w.session.stream k).capacity = (w.frame k).queue.fifo.capacity := rfl
      simp only [hopen, hcap]
      cases ho : w.isOpen k with
      | false =>
          obtain ⟨hp, he⟩ := pushed_closed c ho
          simp only [he, hp, if_true]
          exact ⟨trivial, hq⟩
      | true =>
          rw [if_neg Bool.true_eq_false.mp]
          rcases evicted_pushed ho c with ⟨e, l, hi, hlen, he, hl⟩ | ⟨hlen, he, hl⟩
          · simp only [he, hlen, if_true]
            have hd : ((w.pushed k c).frame k).capture = some d := by
              rw [frame_pushed]
              exact hc
            obtain ⟨v, hv, hrep⟩ := replaceSample_eq e hd
            obtain ⟨hsv, hqv⟩ := session_publishSlot (hq.pushed k c) hd
            have hiv : v.items k = l ++ [c] := by
              rw [hv, items, frame_publishSlot (hq.pushed k c)]
              exact hl
            rw [← hv] at hsv hqv
            rw [hrep]
            have hqr : Quiet ((v.captureDecRef (some d)).imageDecRef (v.frame k).image) :=
              ⟨hqv.schedule, hqv.notifiers⟩
            refine ⟨?_, hqr.readTypedImage k e⟩
            have hitems : World.items ((v.captureDecRef (some d)).imageDecRef (v.frame k).image) k =
                l ++ [c] := by
              rw [items, frame_imageDecRef, frame_captureDecRef]
              exact hiv
            rw [session_readTypedImage, hitems, imageDecRef, session_postImageRefs, captureDecRef,
              session_postCaptureRefs, hsv, session_pushed hc hl,
              Session.publishAlone_setCaptures, Session.setCaptures_setCaptures, hi]
            rfl
          · simp only [he, if_neg hlen]
            refine ⟨?_, hq.pushed k c⟩
            rw [session_pushed hc hl]
            rfl

/-! ## Calls -/

theorem session_addLocked (h : RepInv w) (hq : Quiet w) {c : CaptureHandle} {i : ImageHandle}
    (ht : w.heap.typedImage k c = some i) :
    (w.addLocked c (w.heap.devTimestampUsec i) k).session = w.session.accept c k ∧
      Quiet (w.addLocked c (w.heap.devTimestampUsec i) k) := by
  have hts : w.session.heap.typedTs k c = w.heap.devTimestampUsec i := by
    have hh : w.session.heap = w.heap := rfl
    rw [hh, Heap.typedTs, ht]
    rfl
  have hstore : ∀ v : World FifoQueue, RepInv v → Quiet v → v.heap.typedImage k c ≠ none →
      (v.storeCapture c k).syncLoop.session = (v.session.store c k).loop ∧
        Quiet (v.storeCapture c k).syncLoop := by
    intro v hv hqv htv
    obtain ⟨hss, hqs⟩ := session_storeCapture (hv.slot k) hqv c
    obtain ⟨hcore, hslot⟩ := storeCapture_inv hv.core hv.slot htv
    rw [← hss]
    exact session_syncLoop hcore hslot hqs
  have htn : w.heap.typedImage k c ≠ none := by
    rw [ht]
    exact Option.some_ne_none i
  have hrun : w.session.params.running = w.sync.running := rfl
  have hsync : w.session.params.syncCaptures = w.sync.syncCaptures := rfl
  have hdis : w.session.params.disableSync = w.sync.disableSync := rfl
  have hwait : w.session.params.waitingForCleanDepthTs = w.sync.waitingForCleanDepthTs := rfl
  have hper : w.session.params.fpsPeriod = w.sync.fpsPeriod := rfl
  simp only [addLocked, Session.accept, hts, hrun, hsync, hdis, hwait, hper]
  split
  · exact ⟨rfl, hq⟩
  · split
    · exact session_pushSyncQueue hq _
    · split
      · split
        · refine ⟨?_, hq.schedule, hq.notifiers⟩
          rfl
        · have hclean : World.session
              { w with sync := { w.sync with waitingForCleanDepthTs := false } } =
              w.session.setClean := by
            rfl
          have hst := hstore _ (h.setWaiting false) ⟨hq.schedule, hq.notifiers⟩ htn
          rw [hclean] at hst
          exact hst
      · exact hstore w h hq htn

theorem session_stopQueues (h : RepInv w) (hq : Quiet w) :
    w.stopQueues.session = w.session.fail ∧ Quiet w.stopQueues := by
  have hstream : ∀ j, streamOf (w.stopQueues.frame j) =
      ⟨(w.session.stream j).captures.take 1, false, (w.session.stream j).capacity⟩ := by
    intro j
    have htake : (w.session.stream j).captures.take 1 = (w.frame j).capture.toList := by
      cases hc : (w.frame j).capture with
      | none => rw [(h.slot j).captures_of_none hc]; rfl
      | some c => rw [captures_of_some hc]; rfl
    rw [htake, ← List.append_nil (w.frame j).capture.toList]
    cases j <;> rfl
  refine ⟨?_, hq.schedule, hq.notifiers⟩
  simp only [session, Session.fail] at hstream ⊢
  simp only [hstream]
  rfl

end World

variable {w : World FifoQueue}

theorem session_addCapture (h : RepInv w) (hq : Quiet w) (r : Result) (c : Option CaptureHandle)
    (k : Bool) :
    (capturesyncAddCapture w r c k).session = w.session.add r c k ∧
      Quiet (capturesyncAddCapture w r c k) := by
  simp only [capturesyncAddCapture, Session.add]
  split
  · exact session_stopQueues h hq
  · cases c with
    | none => exact ⟨rfl, hq⟩
    | some c =>
        have hh : w.session.heap = w.heap := rfl
        simp only [hh]
        cases ht : w.heap.typedImage k c with
        | none => exact ⟨rfl, hq⟩
        | some i =>
            have hrefs : RepInv (w.postImageRefs [.acquire i, .release i]) :=
              h.congr rfl rfl rfl rfl (frame_congr rfl rfl)
            have hadd := session_addLocked hrefs ⟨hq.schedule, hq.notifiers⟩
              (show (w.postImageRefs [.acquire i, .release i]).heap.typedImage k c = some i from ht)
            rw [session_postImageRefs] at hadd
            exact hadd

/-- What `capturesync_get_capture` returns is what the pop returns. -/
theorem capturesyncGetCapture_result (w : World FifoQueue) :
    (capturesyncGetCapture w).2 = (w.sync.syncQueue.pop.wresult, w.sync.syncQueue.pop.capture) := by
  have hpop : QueueApi.queuePop w.sync.syncQueue = w.sync.syncQueue.pop := rfl
  simp only [capturesyncGetCapture, hpop]
  cases he : w.sync.syncQueue.enabled with
  | false => simp only [FifoQueue.pop, he]
  | true =>
      cases hi : w.sync.syncQueue.fifo.items with
      | nil => simp only [FifoQueue.pop, he, hi]
      | cons c cs => simp only [FifoQueue.pop, he, hi]

theorem session_getCapture (hq : Quiet w) :
    (capturesyncGetCapture w).1.session = w.session.get.1 ∧
      (capturesyncGetCapture w).2 = w.session.get.2 ∧ Quiet (capturesyncGetCapture w).1 := by
  have hsession : ∀ (q : FifoQueue) (ops : List (RefOp CaptureHandle)),
      World.session { w.postCaptureRefs ops with sync := { w.sync with syncQueue := q } } =
        { w.session with syncQueue := q } := by
    intro q ops
    rfl
  refine ⟨?_, capturesyncGetCapture_result w, ?_⟩
  · simp only [capturesyncGetCapture]
    split
    · rw [session_postCaptureRefs]
      exact hsession _ _
    · exact hsession _ _
  · simp only [capturesyncGetCapture]
    split <;> exact ⟨hq.schedule, hq.notifiers⟩

/-- Every run of a session does to the lists what the abstract run does, and returns
the same. -/
theorem callRun_session (calls : List SessionCall) : ∀ {w : World FifoQueue}, RepInv w → Quiet w →
    (callRun w (calls.map SessionCall.toCall)).1.session = (w.session.run calls).1 ∧
      (callRun w (calls.map SessionCall.toCall)).2 = (w.session.run calls).2 := by
  induction calls with
  | nil => intro w _ _; exact ⟨rfl, rfl⟩
  | cons call calls ih =>
      intro w h hq
      cases call with
      | addCapture r c k =>
          obtain ⟨hs, hq'⟩ := session_addCapture h hq r c k
          obtain ⟨hs', hr'⟩ := ih (capturesyncAddCapture_inv h r c k) hq'
          rw [hs] at hs' hr'
          exact ⟨hs', congrArg (Reply.added :: ·) hr'⟩
      | getCapture =>
          obtain ⟨hs, hr, hq'⟩ := session_getCapture hq
          obtain ⟨hs', hr'⟩ := ih (capturesyncGetCapture_inv h) hq'
          rw [hs] at hs' hr'
          refine ⟨hs', ?_⟩
          have hfirst : Reply.got (capturesyncGetCapture w).2.1 (capturesyncGetCapture w).2.2 =
              .got w.session.get.2.1 w.session.get.2.2 := by rw [hr]
          exact congrArg₂ List.cons hfirst hr'

end ZsaSdk
