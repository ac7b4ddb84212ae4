import ZsaSdk.Queue.Refinement

/-!
# The capture synchroniser

`capturesync.c`.  Two sensors deliver captures, each in its own order.  The
synchroniser holds the oldest capture of each stream in a slot and the later ones
in an internal queue, compares the timestamps of the two slots, and publishes
merged or single captures to a third queue, from which the user reads.

*Parameters.*  The functions are written against the interface `QueueApi`, as the
C file is written against `queue.h`.  `colorCapture` plays the part of the pointer
`frame_info`: `true` selects `sync->color`, `false` selects `sync->depth_ir`.

*State.*  `World` is the context together with what it shares with its clients:
the images a capture holds (`Heap`), the ledgers of the capture and image
references taken and dropped by this file and its queues, and the list of the
captures pushed to `sync_queue`, which the proofs read and the code does not.

*Other threads.*  A call with a failed result stops the three queues without
taking the lock of the synchroniser, so it can run in the middle of another call.
Such a call is a notifier: `notifiers` holds the queue each one stops next.  Every
queue operation made under the lock is preceded by `preempt`, which lets notifiers
move as the next entry of `schedule` says.  With an empty schedule a call is
atomic.

Logging is left out, and with it the fields only the log reads.
-/

namespace ZsaSdk

open Ledger

/-! ## Captures and images -/

/-- The images of a capture the synchroniser uses: `image[IMAGE_TYPE_COLOR]` and
`image[IMAGE_TYPE_IR]` of `capture_context_t`. -/
structure CaptureContext where
  color : Option ImageHandle
  ir : Option ImageHandle
deriving DecidableEq, Repr

/-- What captures and images hold. -/
structure Heap where
  captures : CaptureHandle → CaptureContext
  devTimestampUsec : ImageHandle → UInt64

namespace Heap

/-- `get_typed_image`: `capture_get_color_image` for the colour stream and
`capture_get_ir_image` for the depth stream, less the reference they take. -/
def typedImage (h : Heap) (colorCapture : Bool) (c : CaptureHandle) : Option ImageHandle :=
  match colorCapture with
  | true => (h.captures c).color
  | false => (h.captures c).ir

/-- `image_get_device_timestamp_usec` -/
def imageGetDeviceTimestampUsec (h : Heap) : Option ImageHandle → UInt64
  | none => 0
  | some i => h.devTimestampUsec i

/-- `capture_set_color_image`.  The references a capture holds to its own images are
not those of the synchroniser. -/
def captureSetColorImage (h : Heap) (c : CaptureHandle) (image : Option ImageHandle) : Heap where
  captures := fun c' => if c' = c then { h.captures c with color := image } else h.captures c'
  devTimestampUsec := h.devTimestampUsec

/-- The timestamp of the typed image of a capture. -/
def typedTs (h : Heap) (colorCapture : Bool) (c : CaptureHandle) : UInt64 :=
  h.imageGetDeviceTimestampUsec (h.typedImage colorCapture c)

end Heap

/-! ## The synchronisation window -/

/-- `TS_SUBTRACT` on `uint64_t` -/
def tsSubtract (ts val : UInt64) : UInt64 := if ts ≤ val then 0 else ts - val

/-- `TS_SUBTRACT` on `int64_t` -/
def tsSubtractSigned (ts val : Int64) : Int64 := if ts ≤ val then 0 else ts - val

/-- `TS_ADD` on `int64_t` -/
def tsAdd (ts val : Int64) : Int64 := if ts + val ≤ 0 then 0 else ts + val

/-- What one iteration of the loop does with the two slots. -/
inductive WindowDecision where
  | dropDepth
  | dropColor
  | merge
deriving DecidableEq, Repr

/-- The comparison of the two slots.  With a negative delay the depth timestamp
sets the window and the colour timestamp is looked for in it, otherwise the other
way round. -/
def syncWindow (depthDelayOffColorUsec : Int32) (fpsPeriod fps1QuarterPeriod : UInt64)
    (colorTs depthTs : UInt64) : WindowDecision :=
  if depthDelayOffColorUsec < 0 then
    let beginSyncWindow := tsSubtract depthTs fps1QuarterPeriod
    let beginSyncWindow :=
      (tsSubtractSigned beginSyncWindow.toInt64 depthDelayOffColorUsec.toInt64).toUInt64
    let endSyncWindow := beginSyncWindow + fpsPeriod
    if colorTs > endSyncWindow then .dropDepth
    else if colorTs < beginSyncWindow then .dropColor
    else .merge
  else
    let beginSyncWindow := tsSubtract colorTs fps1QuarterPeriod
    let beginSyncWindow := (tsAdd beginSyncWindow.toInt64 depthDelayOffColorUsec.toInt64).toUInt64
    let endSyncWindow := beginSyncWindow + fpsPeriod
    if depthTs > endSyncWindow then .dropColor
    else if depthTs < beginSyncWindow then .dropDepth
    else .merge

/-! ## The context -/

/-- `frame_info_t`.  `get_typed_image` is `Heap.typedImage` of the stream. -/
structure FrameInfo (Q : Type) where
  queue : Q
  /-- The oldest capture received from the sensor. -/
  capture : Option CaptureHandle
  /-- The typed image of the capture. -/
  image : Option ImageHandle
  /-- The timestamp of the image. -/
  ts : UInt64

/-- `capturesync_context_t` -/
structure CapturesyncContext (Q : Type) where
  syncQueue : Q
  color : FrameInfo Q
  depthIr : FrameInfo Q
  fpsPeriod : UInt64
  fps1QuarterPeriod : UInt64
  syncCaptures : Bool
  synchronizedImagesOnly : Bool
  waitingForCleanDepthTs : Bool
  depthCapturesDropped : Int32
  disableSync : Bool
  depthDelayOffColorUsec : Int32
  running : Bool

/-- A capture pushed to `sync_queue`: on its own, from one of the two streams, or
merged, as the depth capture with the image of the colour capture. -/
inductive Published where
  | alone (colorCapture : Bool) (capture : CaptureHandle)
  | merged (depth color : CaptureHandle) (image : Option ImageHandle)
deriving DecidableEq, Repr

/-- The handle that is pushed. -/
def Published.capture : Published → CaptureHandle
  | .alone _ c => c
  | .merged d _ _ => d

/-- The queue a notifier stops next. -/
inductive NotifierStage where
  | syncQueue
  | depthQueue
  | colorQueue
deriving DecidableEq, Repr

/-- A move of the other threads: a call with a failed result begins, or the `i`-th
one stops its next queue. -/
inductive NotifierMove where
  | enter
  | advance (i : Nat)
deriving DecidableEq, Repr

/-- The synchroniser and what it shares with its clients. -/
structure World (Q : Type) where
  heap : Heap
  sync : CapturesyncContext Q
  captureRefs : List (RefOp CaptureHandle)
  imageRefs : List (RefOp ImageHandle)
  published : List Published
  notifiers : List NotifierStage
  schedule : List (List NotifierMove)

namespace World

variable {Q : Type} [QueueApi Q]

/-- The slot `frame_info` points to. -/
def frame (w : World Q) (colorCapture : Bool) : FrameInfo Q :=
  match colorCapture with
  | true => w.sync.color
  | false => w.sync.depthIr

def setFrame (w : World Q) (colorCapture : Bool) (f : FrameInfo Q) : World Q :=
  match colorCapture with
  | true => { w with sync := { w.sync with color := f } }
  | false => { w with sync := { w.sync with depthIr := f } }

/-! ## Reference counting calls -/

/-- Enter reference counting calls on captures in the ledger. -/
def postCaptureRefs (w : World Q) (ops : List (RefOp CaptureHandle)) : World Q :=
  { w with captureRefs := w.captureRefs ++ ops }

/-- Enter reference counting calls on images in the ledger. -/
def postImageRefs (w : World Q) (ops : List (RefOp ImageHandle)) : World Q :=
  { w with imageRefs := w.imageRefs ++ ops }

/-- `capture_dec_ref`; a null handle is refused. -/
def captureDecRef (w : World Q) (c : Option CaptureHandle) : World Q :=
  w.postCaptureRefs (releaseOf c)

/-- `image_dec_ref`; a null handle is refused. -/
def imageDecRef (w : World Q) (i : Option ImageHandle) : World Q := w.postImageRefs (releaseOf i)

/-! ## Shutting queues down -/

/-- Shut `sync_queue` down, with `queue_disable` or `queue_stop`. -/
def shutSyncQueue (w : World Q) (shut : Q → DisableReturn Q) : World Q :=
  let r := shut w.sync.syncQueue
  { w.postCaptureRefs r.refs with sync := { w.sync with syncQueue := r.queue } }

/-- Shut the internal queue of a stream down. -/
def shutFrameQueue (w : World Q) (colorCapture : Bool) (shut : Q → DisableReturn Q) : World Q :=
  let f := w.frame colorCapture
  let r := shut f.queue
  (w.postCaptureRefs r.refs).setFrame colorCapture { f with queue := r.queue }

/-- One move of the other threads. -/
def notifierMove (w : World Q) : NotifierMove → World Q
  | .enter => { w with notifiers := w.notifiers ++ [.syncQueue] }
  | .advance i =>
      match w.notifiers[i]? with
      | none => w
      | some .syncQueue =>
          { w.shutSyncQueue QueueApi.queueStop with notifiers := w.notifiers.set i .depthQueue }
      | some .depthQueue =>
          { w.shutFrameQueue false QueueApi.queueStop with
            notifiers := w.notifiers.set i .colorQueue }
      | some .colorQueue =>
          { w.shutFrameQueue true QueueApi.queueStop with notifiers := w.notifiers.eraseIdx i }

/-- The other threads move between two queue operations. -/
def preempt (w : World Q) : World Q :=
  match w.schedule with
  | [] => w
  | moves :: rest => moves.foldl notifierMove { w with schedule := rest }

/-! ## Queue operations under the lock -/

/-- `queue_push(sync->sync_queue, p.capture)` -/
def pushSyncQueue (w : World Q) (p : Published) : World Q :=
  let w := w.preempt
  let r := QueueApi.queuePushWDropped w.sync.syncQueue p.capture false
  { w.postCaptureRefs r.refs with
    sync := { w.sync with syncQueue := r.queue }
    published :=
      if QueueApi.enabled w.sync.syncQueue then w.published ++ [p] else w.published }

/-- Publish the capture of a slot on its own, unless only synchronised images are
wanted.  A push of a null capture is refused. -/
def publishSlot (w : World Q) (colorCapture : Bool) : World Q :=
  if w.sync.synchronizedImagesOnly then w
  else
    match (w.frame colorCapture).capture with
    | none => w
    | some c => w.pushSyncQueue (.alone colorCapture c)

/-- Release the capture and the image of a slot, and set both to null. -/
def releaseSlot (w : World Q) (colorCapture : Bool) : World Q :=
  let f := w.frame colorCapture
  ((w.captureDecRef f.capture).imageDecRef f.image).setFrame colorCapture
    { f with capture := none, image := none }

/-- Read the typed image of the capture in a slot, with a reference, and its
timestamp. -/
def readTypedImage (w : World Q) (colorCapture : Bool) (c : CaptureHandle) : World Q :=
  let image := w.heap.typedImage colorCapture c
  (w.postImageRefs (acquireOf image)).setFrame colorCapture
    { w.frame colorCapture with
      capture := some c
      image := image
      ts := w.heap.imageGetDeviceTimestampUsec image }

/-- The part of `drop_sample` that pops the next capture into the slot.  A capture
without its typed image turns the result into a failure; the timestamp is then
reset by the caller. -/
def popSlot (w : World Q) (colorCapture : Bool) : World Q × WaitResult :=
  let w := w.preempt
  let f := w.frame colorCapture
  let r := QueueApi.queuePop f.queue
  let w := (w.postCaptureRefs r.refs).setFrame colorCapture
    { f with queue := r.queue, capture := r.capture }
  match r.wresult, r.capture with
  | .succeeded, some c =>
      let w := w.readTypedImage colorCapture c
      if (w.frame colorCapture).image = none then (w, .failed) else (w, .succeeded)
  | .succeeded, none => (w, .failed)
  | wresult, _ => (w, wresult)

/-- `drop_sample`.  The two calls that follow a merge share the variable `wresult`. -/
def dropSample (w : World Q) (wresult : WaitResult) (colorCapture dropIntoQueue : Bool) :
    World Q × WaitResult :=
  let w := if dropIntoQueue then w.publishSlot colorCapture else w
  let w := w.releaseSlot colorCapture
  let (w, wresult) := if wresult ≠ .failed then w.popSlot colorCapture else (w, wresult)
  if wresult ≠ .succeeded then
    let w := w.releaseSlot colorCapture
    (w.setFrame colorCapture { w.frame colorCapture with ts := 0 }, wresult)
  else (w, wresult)

/-- `replace_sample` -/
def replaceSample (w : World Q) (captureNew : CaptureHandle) (colorCapture : Bool) : World Q :=
  let w := w.publishSlot colorCapture
  let f := w.frame colorCapture
  let w := (w.captureDecRef f.capture).imageDecRef f.image
  match f.capture with
  | some _ => w.readTypedImage colorCapture captureNew
  | none => w.setFrame colorCapture { f with capture := none, image := none, ts := 0 }

/-- `merge_captures`, which returns the depth capture.  The reference the getter
takes is dropped once the image is set. -/
def mergeCaptures (w : World Q) (depth color : CaptureHandle) : World Q :=
  let image := w.heap.typedImage true color
  let w := w.postImageRefs (acquireOf image)
  let w := { w with heap := w.heap.captureSetColorImage depth image }
  w.imageDecRef image

/-! ## The loop -/

/-- The condition of the loop of `capturesync_add_capture`. -/
def loopGuard (s : World Q × WaitResult) : Bool :=
  s.2 == .succeeded && s.1.sync.depthIr.capture.isSome && s.1.sync.color.capture.isSome

/-- The body of the loop.  The last branch is the one after the two `continue`s; the
guard has just tested both captures. -/
def loopBody (s : World Q × WaitResult) : World Q × WaitResult :=
  let (w, wresult) := s
  match syncWindow w.sync.depthDelayOffColorUsec w.sync.fpsPeriod w.sync.fps1QuarterPeriod
      w.sync.color.ts w.sync.depthIr.ts with
  | .dropDepth => w.dropSample wresult false true
  | .dropColor => w.dropSample wresult true true
  | .merge =>
      match w.sync.color.capture, w.sync.depthIr.capture with
      | some color, some depth =>
          let image := w.heap.typedImage true color
          let w := w.mergeCaptures depth color
          let w := w.pushSyncQueue (.merged depth color image)
          let (w, wresult) := w.dropSample wresult true false
          w.dropSample wresult false false
      | _, _ =>
          if wresult = .failed then
            ({ w with sync := { w.sync with running := false } }, wresult)
          else (w, wresult)

/-- Every iteration but the last pops an internal queue, so the loop ends within
this many iterations. -/
def loopFuel (w : World Q) : Nat :=
  QueueApi.entries w.sync.color.queue + QueueApi.entries w.sync.depthIr.queue + 1

/-- The loop of `capturesync_add_capture`. -/
def syncLoop (w : World Q) : World Q :=
  (Loop.run loopGuard loopBody w.loopFuel (w, .succeeded)).1

/-! ## `capturesync_add_capture` -/

/-- Store an accepted capture in its slot, or in the internal queue if the slot is
taken.  A full internal queue gives back its oldest capture, which replaces the
one in the slot. -/
def storeCapture (w : World Q) (captureRaw : CaptureHandle) (colorCapture : Bool) : World Q :=
  match (w.frame colorCapture).capture with
  | none => (w.readTypedImage colorCapture captureRaw).postCaptureRefs [.acquire captureRaw]
  | some _ =>
      let w := w.preempt
      let f := w.frame colorCapture
      let r := QueueApi.queuePushWDropped f.queue captureRaw true
      let w := (w.postCaptureRefs r.refs).setFrame colorCapture { f with queue := r.queue }
      match r.dropped with
      | none => w
      | some droppedSample => w.replaceSample droppedSample colorCapture

/-- The critical section of `capturesync_add_capture`, for a capture whose typed image
has the timestamp `tsRawCapture`. -/
def addLocked (w : World Q) (captureRaw : CaptureHandle) (tsRawCapture : UInt64)
    (colorCapture : Bool) : World Q :=
  if w.sync.running = false then w
  else if w.sync.syncCaptures = false || w.sync.disableSync = true then
    w.pushSyncQueue (.alone colorCapture captureRaw)
  else if colorCapture = false && w.sync.waitingForCleanDepthTs then
    if tsRawCapture / w.sync.fpsPeriod > 10 then
      { w with sync := { w.sync with depthCapturesDropped := w.sync.depthCapturesDropped + 1 } }
    else
      let w := { w with sync := { w.sync with waitingForCleanDepthTs := false } }
      (w.storeCapture captureRaw colorCapture).syncLoop
  else (w.storeCapture captureRaw colorCapture).syncLoop

/-- The three calls of `queue_stop` that follow a failed result. -/
def stopQueues (w : World Q) : World Q :=
  ((w.shutSyncQueue QueueApi.queueStop).shutFrameQueue false QueueApi.queueStop).shutFrameQueue
    true QueueApi.queueStop

end World

variable {Q : Type} [QueueApi Q]

/-- `capturesync_add_capture` -/
def capturesyncAddCapture (w : World Q) (captureResult : Result)
    (captureRaw : Option CaptureHandle) (colorCapture : Bool) : World Q :=
  if captureResult = .failed then w.stopQueues
  else
    match captureRaw with
    | none => w
    | some c =>
        match w.heap.typedImage colorCapture c with
        | none => w
        | some image =>
            let w := w.postImageRefs [.acquire image, .release image]
            w.addLocked c (w.heap.devTimestampUsec image) colorCapture

/-! ## The other entry points -/

/-- `QUEUE_DEFAULT_SIZE` -/
def queueDefaultSize : UInt32 := 500000 / (1000000 / convertFpsToUint .framesPerSecond30)

/-- `capturesync_create`, when its allocations succeed.  `disableSync` is what the
environment variable says. -/
def capturesyncCreate (Q : Type) [QueueApi Q] (heap : Heap) (disableSync : Bool) :
    Option (World Q) := do
  let depthQueue ← QueueApi.queueCreate queueDefaultSize
  let colorQueue ← QueueApi.queueCreate queueDefaultSize
  let syncQueue ← QueueApi.queueCreate (queueDefaultSize / 2)
  let w : World Q :=
    { heap
      sync :=
        { syncQueue
          color := ⟨colorQueue, none, none, 0⟩
          depthIr := ⟨depthQueue, none, none, 0⟩
          fpsPeriod := 0
          fps1QuarterPeriod := 0
          syncCaptures := false
          synchronizedImagesOnly := false
          waitingForCleanDepthTs := false
          depthCapturesDropped := 0
          disableSync
          depthDelayOffColorUsec := 0
          running := false }
      captureRefs := []
      imageRefs := []
      published := []
      notifiers := []
      schedule := [] }
  pure (((w.shutFrameQueue true QueueApi.queueDisable).shutFrameQueue false
    QueueApi.queueDisable).shutSyncQueue QueueApi.queueDisable)

/-- `capturesync_start` -/
def capturesyncStart (w : World Q) (config : DeviceConfiguration) : World Q × Result :=
  let s := { w.sync with
    waitingForCleanDepthTs := true
    synchronizedImagesOnly := config.synchronizedImagesOnly }
  let cameraFps := convertFpsToUint config.cameraFps
  if 0 < cameraFps then
    let fpsPeriod := ((1 * 1000000) / cameraFps).toUInt64
    ({ w with
      sync := { s with
        fpsPeriod := fpsPeriod
        fps1QuarterPeriod := fpsPeriod / 4
        depthDelayOffColorUsec := config.depthDelayOffColorUsec
        syncCaptures := !(config.colorResolution == .off || config.depthMode == .off)
        color := { s.color with queue := QueueApi.queueEnable s.color.queue }
        depthIr := { s.depthIr with queue := QueueApi.queueEnable s.depthIr.queue }
        syncQueue := QueueApi.queueEnable s.syncQueue
        running := true } }, .succeeded)
  else ({ w with sync := s }, .failed)

namespace World

/-- The part of `capturesync_stop` that empties a slot.  The timestamp is reset only if
the slot holds a capture. -/
def clearSlot (w : World Q) (colorCapture : Bool) : World Q :=
  let w := match (w.frame colorCapture).capture with
    | none => w
    | some c => (w.captureDecRef (some c)).setFrame colorCapture
        { w.frame colorCapture with capture := none, ts := 0xffffffffffffffff }
  match (w.frame colorCapture).image with
  | none => w
  | some i => (w.imageDecRef (some i)).setFrame colorCapture
      { w.frame colorCapture with image := none }

end World

/-- `capturesync_stop` -/
def capturesyncStop (w : World Q) : World Q :=
  let w := { w with sync := { w.sync with running := false } }
  let w := w.preempt.shutFrameQueue true QueueApi.queueDisable
  let w := w.preempt.shutFrameQueue false QueueApi.queueDisable
  let w := w.preempt.shutSyncQueue QueueApi.queueDisable
  (w.clearSlot true).clearSlot false

/-- `capturesync_get_capture` with a timeout of 0.  A capture that is returned takes
its reference with it. -/
def capturesyncGetCapture (w : World Q) : World Q × WaitResult × Option CaptureHandle :=
  let r := QueueApi.queuePop w.sync.syncQueue
  let w := { w.postCaptureRefs r.refs with sync := { w.sync with syncQueue := r.queue } }
  match r.wresult, r.capture with
  | .succeeded, some c => (w.postCaptureRefs [.give c], .succeeded, some c)
  | wresult, _ => (w, wresult, none)

/-- `capturesync_destroy`, up to the point where the memory is freed. -/
def capturesyncDestroy (w : World Q) : World Q :=
  (((capturesyncStop w).shutFrameQueue false QueueApi.queueDisable).shutFrameQueue true
    QueueApi.queueDisable).shutSyncQueue QueueApi.queueDisable

/-! ## Runs of calls -/

/-- One call of the interface. -/
inductive Call where
  | start (config : DeviceConfiguration)
  | addCapture (captureResult : Result) (captureRaw : Option CaptureHandle) (colorCapture : Bool)
  | getCapture
  | stop
deriving DecidableEq, Repr

/-- What the caller sees of one call. -/
inductive Reply where
  | started (result : Result)
  | added
  | got (wresult : WaitResult) (capture : Option CaptureHandle)
  | stopped
deriving DecidableEq, Repr

/-- Carry out one call. -/
def callStep (w : World Q) : Call → World Q × Reply
  | .start config =>
      let r := capturesyncStart w config
      (r.1, .started r.2)
  | .addCapture result capture colorCapture =>
      (capturesyncAddCapture w result capture colorCapture, .added)
  | .getCapture =>
      let r := capturesyncGetCapture w
      (r.1, .got r.2.1 r.2.2)
  | .stop => (capturesyncStop w, .stopped)

/-- Carry out a sequence of calls, each one atomic. -/
def callRun (w : World Q) : List Call → World Q × List Reply
  | [] => (w, [])
  | call :: calls =>
      let first := callStep w call
      let rest := callRun first.1 calls
      (rest.1, first.2 :: rest.2)

end ZsaSdk
