import ZsaSdk.Color.Frame

/-!
# Samples of the camera on Windows

Media Foundation calls `CMFCameraReader::OnReadSample` with each sample.  The reader reads the
sample into a `CFrameContext`, makes an image of it and a capture of the image, and passes the
capture to the callback that it was started with.  The image is a view of the frame context,
which is then deleted together with it, or a copy.  At the end the reader asks for the next
sample; if that fails it reports a failure and stops.

*Failures.*  Every call that can fail takes its outcome from `SampleOutcome`.

*Clients.*  From the call of the registered callback with the result of a sample until it
returns, clients make calls of their own, given with the sample.  The other calls of the
callback come without a capture; what clients do in them is part of what they do afterwards.

The locks, the flushing of the stream in `Stop` and the picture itself are left out.
-/

namespace ZsaSdk

open Ledger

/-- What the constructor of `CFrameContext` reads from a sample.  The time stamp is the one its
walk over the metadata finds. -/
structure FrameContext where
  buffer : Option Nat
  bufferLength : UInt32
  exposureTime : UInt64
  whiteBalance : UInt32
  isoSpeed : UInt32
  capturePts : UInt64
deriving DecidableEq, Repr

/-- `CFrameContext::GetFrameSize` -/
def FrameContext.frameSize (f : FrameContext) : UInt64 := f.bufferLength.toUInt64

/-- What happens while a sample is handled: the allocation of the frame context, the answer of
the allocate callback, the allocation of the image's context and its lock, the allocation of
the capture, the device time stamp of the sample, and the request for the next one. -/
structure SampleOutcome where
  frameContext : Option Nat
  answer : Option (Nat × Nat)
  contextOk : Bool
  lockOk : Bool
  captureOk : Bool
  deviceTimestamp : Option UInt64
  readSampleOk : Bool
deriving DecidableEq, Repr

/-- `FrameDestroyCallback`, which deletes the frame context behind its second argument. -/
def frameDestroyCallback : ImageDestroyCb := .user 1

/-- `mfcamerareader_free_allocation` -/
def mfcamerareaderFreeAllocation : ImageDestroyCb := .user 2

/-- `CMFCameraReader`, with the fields that `OnReadSample` reads. -/
structure MfCameraReader where
  started : Bool
  flushing : Bool
  useMfBuffer : Bool
  imageFormat : ImageFormat
  widthPixels : UInt32
  heightPixels : UInt32
  /-- `m_pCallback` is not null. -/
  callback : Bool
  /-- `m_pCallbackContext` is not null. -/
  callbackContext : Bool
deriving DecidableEq, Repr

/-- The variables of `OnReadSample` at the call of the registered callback. -/
structure SampleCall where
  clients : Clients
  frameContext : Option Nat
  image : Option ImageHandle
  capture : Option CaptureHandle
  result : Result
  dropped : Bool
  frameContextRefd : Bool
  metadata : Option ImageMetadata

/-- A call of the registered callback.  `callback` says that there is one. -/
structure Notification where
  callback : Bool
  result : Result
  capture : Option CaptureHandle
deriving DecidableEq, Repr

/-- How `OnReadSample` ends: the objects, the sample that was handled, the calls of the
registered callback, the status returned, and whether the reader was stopped. -/
structure SampleEnd where
  clients : Clients
  handled : Option SampleCall
  notified : List Notification
  statusOk : Bool
  stopped : Bool

namespace MfCameraReader

/-- `CMFCameraReader::GetStride` -/
def getStride (r : MfCameraReader) : Int32 :=
  match r.imageFormat with
  | .colorNv12 => r.widthPixels.toInt32
  | .colorYuy2 => (r.widthPixels * 2).toInt32
  | .colorBgra32 => (r.widthPixels * 4).toInt32
  | _ => 0

/-- The arguments of `image_create_from_buffer` that both functions below share. -/
def imageArgs (r : MfCameraReader) (f : FrameContext) (buffer : Option Nat) (cb : ImageDestroyCb)
    (context : Nat) : ImageArgs :=
  ⟨r.imageFormat, r.widthPixels.toInt32, r.heightPixels.toInt32, r.getStride, buffer,
    f.frameSize, cb, context⟩

/-- `CMFCameraReader::CreateImage` -/
def createImage (r : MfCameraReader) (s : Clients) (f : FrameContext) (frameContext : Nat)
    (o : SampleOutcome) : Clients × Result × Option ImageHandle :=
  s.createImage (r.imageArgs f f.buffer frameDestroyCallback frameContext) o.contextOk o.lockOk

/-- `CMFCameraReader::CreateImageCopy` -/
def createImageCopy (r : MfCameraReader) (s : Clients) (f : FrameContext) (o : SampleOutcome) :
    Clients × Result × Option ImageHandle :=
  match s.allocate f.frameSize o.answer with
  | (s, none) => (s, .failed, none)
  | (s, some buffer) =>
      match s.createImage (r.imageArgs f (some buffer) mfcamerareaderFreeAllocation 0) o.contextOk
          o.lockOk with
      | (s, .succeeded, image) => (s, .succeeded, image)
      | (s, .failed, image) => (s.freeBuffer (some buffer), .failed, image)

/-- The image of a sample: a view of the frame context, or a copy. -/
def makeImage (r : MfCameraReader) (s : Clients) (f : FrameContext) (frameContext : Nat)
    (o : SampleOutcome) : Clients × Result × Option ImageHandle :=
  if r.useMfBuffer then r.createImage s f frameContext o else r.createImageCopy s f o

def sampleMetadata (f : FrameContext) (deviceTime : UInt64) : ImageMetadata where
  systemTimestampNsec := deviceTime * 100
  deviceTimestampUsec := tick90kHzToUsec f.capturePts
  exposureUsec := f.exposureTime
  isoSpeed := f.isoSpeed
  whiteBalance := f.whiteBalance

/-- `OnReadSample` from the allocation of the frame context to the call of the registered
callback. -/
def prepare (r : MfCameraReader) (s : Clients) (f : FrameContext) (o : SampleOutcome) :
    Option SampleCall :=
  match o.frameContext with
  | none => some ⟨s, none, none, none, .failed, false, false, none⟩
  | some frameContext =>
      if f.capturePts = 0 then
        some ⟨s, some frameContext, none, none, .failed, true, false, none⟩
      else
        -- With a view the flag is set whether or not there is an image.
        match r.makeImage s f frameContext o with
        | (s, .failed, image) =>
            some ⟨s, some frameContext, image, none, .failed, false, r.useMfBuffer, none⟩
        | (s, .succeeded, image) =>
            match s.createCapture o.captureOk, o.deviceTimestamp with
            | (s, .succeeded, some c), some deviceTime =>
                (s.step (.captureSet .color c image)).map fun s =>
                  ⟨s, some frameContext, image, some c, .succeeded, false, r.useMfBuffer,
                    some (sampleMetadata f deviceTime)⟩
            | (s, _, capture), _ =>
                some ⟨s, some frameContext, image, capture, .failed, false, r.useMfBuffer, none⟩

/-- The sample is reported, unless it is dropped, and the references are released. -/
def handleSample (r : MfCameraReader) (s : Clients) (f : FrameContext) (o : SampleOutcome)
    (consumer : List ObjectCall) : Option (Clients × SampleCall) :=
  (r.prepare s f o).bind fun call =>
    (if call.dropped then some call.clients else call.clients.run consumer).bind fun returned =>
      (returned.release call.image call.capture).map fun s => (s, call)

/-- The end of `OnReadSample`: a failure is reported, and the reader is stopped. -/
def finish (r : MfCameraReader) (s : Clients) (handled : Option SampleCall)
    (notified : List Notification) (statusOk : Bool) : SampleEnd :=
  if !statusOk && r.callback && r.callbackContext then
    ⟨s, handled, notified ++ [⟨r.callback, .failed, none⟩], statusOk, true⟩
  else ⟨s, handled, notified, statusOk, false⟩

/-- The call of the registered callback for a sample. -/
def notify (r : MfCameraReader) (call : SampleCall) : List Notification :=
  if call.dropped then [] else [⟨r.callback, call.result, call.capture⟩]

/-- `CMFCameraReader::OnReadSample` -/
def onReadSample (r : MfCameraReader) (s : Clients) (statusOk : Bool) (sample : Option FrameContext)
    (o : SampleOutcome) (consumer : List ObjectCall) : Option SampleEnd :=
  if statusOk then
    if r.started && !r.flushing then
      match sample, r.callback && r.callbackContext with
      | some f, true =>
          (r.handleSample s f o consumer).map fun handled =>
            r.finish handled.1 (some handled.2) (r.notify handled.2) o.readSampleOk
      | _, _ => some (r.finish s none [] o.readSampleOk)
    else some (r.finish s none [] true)
  -- The pointer is not tested here.
  else some (r.finish s none [⟨r.callback, .failed, none⟩] false)

end MfCameraReader

/-! ## Where a sample fails

Conditions on the sample, the reader before it, and the outcomes. -/

/-- How a sample ends. -/
inductive SampleFate where
  | noContext
  | dropped
  | noImage
  | noCapture
  | noTimestamp
  | delivered
deriving DecidableEq, Repr

namespace SampleFate

def hasImage : SampleFate → Bool
  | .noContext | .dropped | .noImage => false
  | .noCapture | .noTimestamp | .delivered => true

/-- The image was asked for. -/
def triesImage : SampleFate → Bool
  | .noContext | .dropped => false
  | .noImage | .noCapture | .noTimestamp | .delivered => true

def hasCapture : SampleFate → Bool
  | .noContext | .dropped | .noImage | .noCapture => false
  | .noTimestamp | .delivered => true

/-- A sample that ends like this is handled well, given whether the image is a view of the frame
context and whether the next sample could be requested. -/
def handledWell (useMfBuffer readSampleOk : Bool) : SampleFate → Bool
  | .dropped | .delivered => true
  | .noContext | .noCapture => readSampleOk
  | .noImage => !useMfBuffer && readSampleOk
  | .noTimestamp => false

end SampleFate

namespace MfCameraReader

/-- `image_create_from_buffer` takes the size and the format of the stream, and nothing fails
in it. -/
def imageAccepted (r : MfCameraReader) (o : SampleOutcome) : Bool :=
  r.imageFormat.known &&
    !(r.widthPixels.toInt32 ≤ 0 || r.widthPixels.toInt32 > 20000) &&
    !(r.heightPixels.toInt32 ≤ 0 || r.heightPixels.toInt32 > 20000) && o.contextOk && o.lockOk

/-- There is a buffer for the image: the one of the frame context, or one of the allocator. -/
def hasBuffer (r : MfCameraReader) (f : FrameContext) (o : SampleOutcome) : Bool :=
  if r.useMfBuffer then f.buffer != none && f.frameSize != 0
  else asksCallback .color f.frameSize && o.answer != none

def sampleFate (r : MfCameraReader) (f : FrameContext) (o : SampleOutcome) : SampleFate :=
  if o.frameContext = none then .noContext
  else if f.capturePts = 0 then .dropped
  else if !(r.imageAccepted o && r.hasBuffer f o) then .noImage
  else if !o.captureOk then .noCapture
  else if o.deviceTimestamp = none then .noTimestamp
  else .delivered

/-- The whole of `OnReadSample` goes well. -/
def handlesWell (r : MfCameraReader) (statusOk : Bool) (sample : Option FrameContext)
    (o : SampleOutcome) : Bool :=
  if statusOk then
    if r.started && !r.flushing && r.callback && r.callbackContext then
      sample.all fun f => (r.sampleFate f o).handledWell r.useMfBuffer o.readSampleOk
    else true
  else r.callback && !r.callbackContext

section Create

variable {r : MfCameraReader} {s : Clients} {f : FrameContext} {o : SampleOutcome}

/-- The checks of `image_create_from_buffer`, for a buffer with a size. -/
theorem accepted_imageArgs (buffer : Option Nat) (cb : ImageDestroyCb) (context : Nat) :
    (r.imageArgs f buffer cb context).accepted o.contextOk o.lockOk =
      (r.imageAccepted o && (buffer != none && f.frameSize != 0)) := by
  rw [ImageArgs.accepted, imageAccepted, imageArgs]
  generalize (r.imageFormat.known &&
    !(r.widthPixels.toInt32 ≤ 0 || r.widthPixels.toInt32 > 20000) &&
    !(r.heightPixels.toInt32 ≤ 0 || r.heightPixels.toInt32 > 20000)) = size
  cases size <;> cases o.contextOk <;> cases o.lockOk <;> simp

/-- A copy has a size, because the allocator gives no buffer without one. -/
theorem frameSize_of_asks (h : asksCallback .color f.frameSize = true) :
    (f.frameSize != 0) = true := by
  rw [asksCallback] at h
  simp only [Bool.and_eq_true] at h
  exact h.1.2

theorem createImageCopy_of_buffer {buffer : Nat}
    (h : (s.allocate f.frameSize o.answer).2 = some buffer) :
    r.createImageCopy s f o =
      match (s.allocate f.frameSize o.answer).1.createImage
          (r.imageArgs f (some buffer) mfcamerareaderFreeAllocation 0) o.contextOk o.lockOk with
      | (s, .succeeded, image) => (s, .succeeded, image)
      | (s, .failed, image) => (s.freeBuffer (some buffer), .failed, image) := by
  have hpair : s.allocate f.frameSize o.answer =
      ((s.allocate f.frameSize o.answer).1, some buffer) := Prod.ext rfl h
  rw [createImageCopy]
  generalize s.allocate f.frameSize o.answer = allocated at hpair
  rw [hpair]

theorem createImageCopy_of_no_buffer (h : (s.allocate f.frameSize o.answer).2 = none) :
    r.createImageCopy s f o = ((s.allocate f.frameSize o.answer).1, .failed, none) := by
  have hpair : s.allocate f.frameSize o.answer =
      ((s.allocate f.frameSize o.answer).1, none) := Prod.ext rfl h
  rw [createImageCopy]
  generalize s.allocate f.frameSize o.answer = allocated at hpair
  rw [hpair]

theorem makeImage_made (hs : s.Balanced) (frameContext : Nat)
    (h : (r.imageAccepted o && r.hasBuffer f o) = true) :
    ∃ s₁ i, r.makeImage s f frameContext o = (s₁, .succeeded, some i) ∧ s₁.Balanced ∧
      s₁.imageRefs = {i} + s.imageRefs ∧ s₁.captureRefs = s.captureRefs ∧
      (r.useMfBuffer = true →
        ⟨i, some frameDestroyCallback, f.buffer, frameContext⟩ ∈ s₁.created) := by
  rw [hasBuffer] at h
  rw [makeImage]
  cases huse : r.useMfBuffer with
  | true =>
      rw [huse, if_pos rfl] at h
      have hcreate := Clients.createImage_accepted (s := s)
        ((accepted_imageArgs (r := r) f.buffer frameDestroyCallback frameContext).trans h)
      obtain ⟨hbalanced, himage, hcapture, hcreated⟩ := Clients.createImage_lent hs hcreate
      refine ⟨_, _, hcreate, hbalanced, himage, hcapture, fun _ => ?_⟩
      rw [hcreated]
      exact List.mem_append_right _ List.mem_cons_self
  | false =>
      rw [huse, if_neg Bool.false_ne_true, Bool.and_eq_true, Bool.and_eq_true, bne_iff_ne] at h
      obtain ⟨haccepted, hasks, hanswer⟩ := h
      obtain ⟨buffer, hbuffer⟩ := (Clients.allocate_isSome_iff s _ _).mpr ⟨hasks, hanswer⟩
      have hargs : (r.imageArgs f (some buffer) mfcamerareaderFreeAllocation 0).accepted
          o.contextOk o.lockOk = true := by
        rw [accepted_imageArgs, haccepted, frameSize_of_asks hasks]
        rfl
      have hcreate := Clients.createImage_accepted (s := (s.allocate f.frameSize o.answer).1) hargs
      obtain ⟨hbalanced, himage, hcapture, -⟩ :=
        Clients.createImage_lent (hs.allocate f.frameSize o.answer) hcreate
      refine ⟨_, _, ?_, hbalanced, himage, hcapture, nofun⟩
      rw [if_neg Bool.false_ne_true, createImageCopy_of_buffer hbuffer, hcreate]

theorem makeImage_not_made (hs : s.Balanced) (frameContext : Nat)
    (h : (r.imageAccepted o && r.hasBuffer f o) = false) :
    ∃ s₁, r.makeImage s f frameContext o = (s₁, .failed, none) ∧ s₁.Balanced ∧
      s₁.imageRefs = s.imageRefs ∧ s₁.captureRefs = s.captureRefs := by
  rw [hasBuffer] at h
  rw [makeImage]
  cases huse : r.useMfBuffer with
  | true =>
      rw [huse, if_pos rfl] at h
      obtain ⟨s₁, hcreate⟩ := Clients.createImage_rejected (s := s)
        ((accepted_imageArgs (r := r) f.buffer frameDestroyCallback frameContext).trans h)
      obtain ⟨hbalanced, himage, hcapture, -⟩ := Clients.createImage_lent hs hcreate
      exact ⟨s₁, hcreate, hbalanced, himage.trans (zero_add _), hcapture⟩
  | false =>
      rw [huse, if_neg Bool.false_ne_true] at h
      rw [if_neg Bool.false_ne_true]
      have hbalanced := hs.allocate f.frameSize o.answer
      cases hbuffer : (s.allocate f.frameSize o.answer).2 with
      | none =>
          exact ⟨_, createImageCopy_of_no_buffer hbuffer, hbalanced, rfl, rfl⟩
      | some buffer =>
          have hasks := (Clients.allocate_isSome_iff s _ _).mp ⟨buffer, hbuffer⟩
          have hargs : (r.imageArgs f (some buffer) mfcamerareaderFreeAllocation 0).accepted
              o.contextOk o.lockOk = false := by
            rw [hasks.1, bne_iff_ne.mpr hasks.2] at h
            rw [accepted_imageArgs, frameSize_of_asks hasks.1]
            exact h
          obtain ⟨s₁, hcreate⟩ := Clients.createImage_rejected
            (s := (s.allocate f.frameSize o.answer).1) hargs
          obtain ⟨hbalanced₁, himage, hcapture, -⟩ := Clients.createImage_lent hbalanced hcreate
          refine ⟨_, ?_, hbalanced₁.freeBuffer (some buffer), himage.trans (zero_add _), hcapture⟩
          rw [createImageCopy_of_buffer hbuffer, hcreate]

end Create

end MfCameraReader

/-! ## The call of the registered callback -/

/-- What holds at the call for a sample with the given fate.  `s` are the objects before it. -/
structure SampleCall.Sound (r : MfCameraReader) (s : Clients) (f : FrameContext)
    (o : SampleOutcome) (fate : SampleFate) (call : SampleCall) : Prop where
  balanced : call.clients.Balanced
  imageRefs : call.clients.imageRefs = held call.image + s.imageRefs
  captureRefs : call.clients.captureRefs = held call.capture + s.captureRefs
  frameContext : call.frameContext = o.frameContext
  context : o.frameContext = none ↔ fate = .noContext
  image : call.image.isSome = fate.hasImage
  capture : call.capture.isSome = fate.hasCapture
  result : call.result = if fate = .delivered then .succeeded else .failed
  dropped : call.dropped = decide (fate = .dropped)
  frameContextRefd : call.frameContextRefd = (r.useMfBuffer && fate.triesImage)
  created : ∀ h frameContext, call.image = some h → call.frameContext = some frameContext →
    r.useMfBuffer = true →
    ⟨h, some frameDestroyCallback, f.buffer, frameContext⟩ ∈ call.clients.created

theorem SampleCall.Sound.lent {r : MfCameraReader} {s : Clients} {f : FrameContext}
    {o : SampleOutcome} {fate : SampleFate} {call : SampleCall} (h : call.Sound r s f o fate) :
    Clients.Lent call.image call.capture call.clients := by
  refine ⟨h.balanced, ?_, ?_⟩
  · rw [h.imageRefs]
    exact Multiset.le_add_right _ _
  · rw [h.captureRefs]
    exact Multiset.le_add_right _ _

namespace MfCameraReader

variable {r : MfCameraReader} {s : Clients} {f : FrameContext} {o : SampleOutcome}

theorem context_iff {frameContext : Nat} (hcontext : o.frameContext = some frameContext)
    {fate : SampleFate} (hne : fate ≠ .noContext) :
    o.frameContext = none ↔ fate = .noContext := by
  rw [hcontext]
  exact iff_of_false (Option.some_ne_none _) hne

/-- The variables when there is an image: the capture cannot be created, or the device time
stamp is missing, or nothing fails. -/
theorem prepare_with_image (hs : s.Balanced) {frameContext : Nat}
    (hcontext : o.frameContext = some frameContext) (hpts : f.capturePts ≠ 0)
    (hmade : (r.imageAccepted o && r.hasBuffer f o) = true) :
    ∃ call, r.prepare s f o = some call ∧ call.Sound r s f o (r.sampleFate f o) := by
  obtain ⟨s₁, i, hmake, hbalanced, hrefs, hcapture, hcreated⟩ :=
    makeImage_made hs frameContext hmade
  have himage : s₁.imageRefs = held (some i) + s.imageRefs := hrefs
  have hrecord : ∀ h c, some i = some h → some frameContext = some c → r.useMfBuffer = true →
      ⟨h, some frameDestroyCallback, f.buffer, c⟩ ∈ s₁.created := by
    rintro h c ⟨⟩ ⟨⟩
    exact hcreated
  rw [prepare, sampleFate, hcontext, if_neg (Option.some_ne_none _), if_neg hpts, hmade]
  simp only
  rw [if_neg hpts, hmake]
  simp only
  cases hcaptureOk : o.captureOk with
  | false =>
      rw [Clients.createCapture_failed]
      exact ⟨_, rfl, hbalanced, himage, hcapture.trans (zero_add _).symm, hcontext.symm,
        context_iff hcontext nofun, rfl, rfl, rfl, rfl, (Bool.and_true _).symm, hrecord⟩
  | true =>
      have hmem : i ∈ s₁.imageRefs := by
        rw [hrefs]
        exact Multiset.mem_add.mpr (Or.inl (Multiset.mem_singleton_self _))
      cases htime : o.deviceTimestamp with
      | none =>
          exact ⟨_, rfl, ObjectStore.Accounts.captureCreate hbalanced true, himage,
            congrArg _ hcapture, hcontext.symm, context_iff hcontext nofun, rfl, rfl, rfl, rfl,
            (Bool.and_true _).symm, hrecord⟩
      | some deviceTime =>
          obtain ⟨s₂, hstep, hbalanced₂, himage₂, hcapture₂, hcreated₂⟩ :=
            Clients.captureSet_new hbalanced hmem .color
          refine ⟨_, congrArg (Option.map _) hstep, hbalanced₂, himage₂.trans himage, ?_,
            hcontext.symm, context_iff hcontext nofun, rfl, rfl, rfl, rfl,
            (Bool.and_true _).symm, ?_⟩
          · exact hcapture₂.trans (congrArg _ hcapture)
          · intro h c hh hc huse
            rw [hcreated₂]
            exact hrecord h c hh hc huse

/-- The registered callback is called with variables that the fate of the sample says. -/
theorem prepare_spec (hs : s.Balanced) :
    ∃ call, r.prepare s f o = some call ∧ call.Sound r s f o (r.sampleFate f o) := by
  cases hcontext : o.frameContext with
  | none =>
      rw [prepare, sampleFate, hcontext, if_pos rfl]
      exact ⟨_, rfl, hs, (zero_add _).symm, (zero_add _).symm, hcontext.symm,
        iff_of_true hcontext rfl, rfl, rfl, rfl, rfl, (Bool.and_false _).symm, nofun⟩
  | some frameContext =>
      by_cases hpts : f.capturePts = 0
      · rw [prepare, sampleFate, hcontext, if_neg (Option.some_ne_none _), if_pos hpts]
        simp only
        rw [if_pos hpts]
        exact ⟨_, rfl, hs, (zero_add _).symm, (zero_add _).symm, hcontext.symm,
          context_iff hcontext nofun, rfl, rfl, rfl, rfl, (Bool.and_false _).symm, nofun⟩
      cases hmade : (r.imageAccepted o && r.hasBuffer f o) with
      | true => exact prepare_with_image hs hcontext hpts hmade
      | false =>
          obtain ⟨s₁, hmake, hbalanced, himage, hcapture⟩ :=
            makeImage_not_made hs frameContext hmade
          rw [prepare, sampleFate, hcontext, if_neg (Option.some_ne_none _), if_neg hpts, hmade]
          simp only
          rw [if_neg hpts, hmake]
          exact ⟨_, rfl, hbalanced, himage.trans (zero_add _).symm,
            hcapture.trans (zero_add _).symm, hcontext.symm, context_iff hcontext nofun, rfl, rfl,
            rfl, rfl, (Bool.and_true _).symm, nofun⟩

end MfCameraReader

/-! ## Ownership of the frame context, and reports -/

namespace SampleCall

/-- The frame context that the reader deletes itself. -/
def deletes (call : SampleCall) : List Nat :=
  if call.frameContextRefd then [] else call.frameContext.toList

/-- The image that the frame context is left to. -/
def owner (call : SampleCall) : Option ImageHandle :=
  if call.frameContextRefd then call.image else none

/-- The frame context that a free callback deletes. -/
def deletedBy (c : ObjectStore.FreeCall) : Option Nat :=
  if c.cb = frameDestroyCallback then some c.context else none

end SampleCall

/-- A failure is reported without a capture and at most once, and only if there is a callback to
report it to. -/
@[mk_iff]
structure Reported (notified : List Notification) : Prop where
  noCapture : ∀ n ∈ notified, n.result = .failed → n.capture = none
  failedOnce : (notified.filter fun n => n.result = .failed).length ≤ 1
  callback : ∀ n ∈ notified, n.callback = true

/-- The frame context is deleted once, and failures are reported as they should be. -/
structure SampleEnd.Correct (e : SampleEnd) : Prop where
  deletedOnce : ∀ call, e.handled = some call → Clients.GivenBackOnce call.deletes call.owner
    SampleCall.deletedBy call.frameContext.toList e.clients
  reported : Reported e.notified

section Reports

variable {r : MfCameraReader} {s final : Clients} {f : FrameContext} {o : SampleOutcome}
  {fate : SampleFate} {call : SampleCall}

/-- Only a view that was not made leaves the frame context to nobody. -/
theorem SampleCall.deletedOnce_iff (hsound : call.Sound r s f o fate) (hfinal : final.Balanced)
    (hcreated : call.clients.created ⊆ final.created) :
    Clients.GivenBackOnce call.deletes call.owner deletedBy call.frameContext.toList final ↔
      ¬ (r.useMfBuffer = true ∧ fate = .noImage) := by
  have hrefd := hsound.frameContextRefd
  rw [deletes, owner]
  cases h : call.frameContextRefd with
  | false =>
      rw [h] at hrefd
      refine iff_of_true ((Clients.givenBackOnce_none hfinal).mpr rfl) ?_
      rintro ⟨huse, rfl⟩
      rw [huse] at hrefd
      cases hrefd
  | true =>
      rw [h, eq_comm, Bool.and_eq_true] at hrefd
      obtain ⟨huse, htries⟩ := hrefd
      obtain ⟨frameContext, hcontext⟩ : ∃ frameContext, call.frameContext = some frameContext := by
        refine Option.ne_none_iff_exists'.mp ?_
        rw [hsound.frameContext, Ne, hsound.context]
        rintro rfl
        cases htries
      have himage := hsound.image
      rw [if_pos rfl, if_pos rfl, hcontext]
      cases hi : call.image with
      | none =>
          rw [hi] at himage
          refine iff_of_false ?_ ?_
          · rw [Clients.givenBackOnce_none hfinal]
            exact nofun
          · rw [not_not]
            refine ⟨huse, ?_⟩
            cases fate with
            | noImage => rfl
            | noContext => cases htries
            | dropped => cases htries
            | _ => cases himage
      | some h =>
          rw [hi] at himage
          refine iff_of_true ?_ ?_
          · exact Clients.givenBackOnce_some hfinal
              (hcreated (hsound.created h frameContext hi hcontext huse)) rfl
          · rintro ⟨-, rfl⟩
            cases himage

/-- The report at the end. -/
def MfCameraReader.lastReport (readSampleOk : Bool) : List Notification :=
  if readSampleOk then [] else [⟨true, .failed, none⟩]

theorem MfCameraReader.finish_eq (hcallback : r.callback = true)
    (hcontext : r.callbackContext = true) (handled : Option SampleCall)
    (notified : List Notification) (statusOk : Bool) :
    r.finish final handled notified statusOk =
      ⟨final, handled, notified ++ lastReport statusOk, statusOk, !statusOk⟩ := by
  rw [finish, hcallback, hcontext, lastReport]
  cases statusOk with
  | true => simp
  | false => simp

/-- The reports of a sample are right unless the device time stamp is missing, which is reported
with the capture, or a failure is reported a second time at the end. -/
theorem reports_iff (hsound : call.Sound r s f o fate) (hcallback : r.callback = true)
    (readSampleOk : Bool) :
    Reported (r.notify call ++ MfCameraReader.lastReport readSampleOk) ↔
      fate = .dropped ∨ fate = .delivered ∨ fate ≠ .noTimestamp ∧ readSampleOk = true := by
  have hcapture := hsound.capture
  rw [MfCameraReader.notify, hcallback, hsound.dropped, hsound.result, MfCameraReader.lastReport]
  cases fate with
  | dropped => cases readSampleOk <;> simp [reported_iff]
  | delivered => cases readSampleOk <;> simp [reported_iff]
  | noTimestamp =>
      have hsome : call.capture ≠ none := Option.isSome_iff_ne_none.mp hcapture
      refine iff_of_false ?_ (by simp)
      exact fun h => hsome (h.noCapture _ (List.mem_append_left _ List.mem_cons_self) rfl)
  | noContext =>
      have hnone := Option.not_isSome_iff_eq_none.mp (Bool.eq_false_iff.mp hcapture)
      cases readSampleOk <;> simp [reported_iff, hnone]
  | noImage =>
      have hnone := Option.not_isSome_iff_eq_none.mp (Bool.eq_false_iff.mp hcapture)
      cases readSampleOk <;> simp [reported_iff, hnone]
  | noCapture =>
      have hnone := Option.not_isSome_iff_eq_none.mp (Bool.eq_false_iff.mp hcapture)
      cases readSampleOk <;> simp [reported_iff, hnone]

/-- The end of a sample is right precisely if its fate can be handled well. -/
theorem SampleEnd.correct_iff (hsound : call.Sound r s f o fate) (hfinal : final.Balanced)
    (hcreated : call.clients.created ⊆ final.created) (hcallback : r.callback = true)
    (hcontext : r.callbackContext = true) (readSampleOk : Bool) :
    (r.finish final (some call) (r.notify call) readSampleOk).Correct ↔
      fate.handledWell r.useMfBuffer readSampleOk = true := by
  have hdeleted := SampleCall.deletedOnce_iff hsound hfinal hcreated
  have hreports := reports_iff hsound hcallback readSampleOk
  rw [MfCameraReader.finish_eq hcallback hcontext]
  have hboth : SampleEnd.Correct ⟨final, some call,
        r.notify call ++ MfCameraReader.lastReport readSampleOk, readSampleOk, !readSampleOk⟩ ↔
      ¬ (r.useMfBuffer = true ∧ fate = .noImage) ∧
        (fate = .dropped ∨ fate = .delivered ∨ fate ≠ .noTimestamp ∧ readSampleOk = true) := by
    rw [← hdeleted, ← hreports]
    constructor
    · intro h
      exact ⟨h.deletedOnce call rfl, h.reported⟩
    · rintro ⟨hdel, hreported⟩
      exact ⟨fun call' heq => Option.some.inj heq ▸ hdel, hreported⟩
  rw [hboth]
  cases fate with
  | noImage => cases r.useMfBuffer <;> simp [SampleFate.handledWell]
  | _ => simp [SampleFate.handledWell]

theorem SampleEnd.correct_iff_reported {e : SampleEnd} (he : e.handled = none) :
    e.Correct ↔ Reported e.notified := by
  refine ⟨fun h => h.reported, fun h => ⟨fun call hcall => ?_, h⟩⟩
  rw [he] at hcall
  cases hcall

/-- Without a sample there is at most the report at the end. -/
theorem SampleEnd.correct_of_no_sample (r : MfCameraReader) (s : Clients) (statusOk : Bool) :
    (r.finish s none [] statusOk).Correct := by
  rw [MfCameraReader.finish]
  split
  · next h =>
    simp only [Bool.and_eq_true] at h
    rw [correct_iff_reported rfl]
    simp [reported_iff, h.1.2]
  · rw [correct_iff_reported rfl]
    simp [reported_iff]

/-- A failed status is reported at once, whether or not there is a callback, and again at the
end. -/
theorem SampleEnd.correct_failed_iff (r : MfCameraReader) (s : Clients) :
    (r.finish s none [⟨r.callback, .failed, none⟩] false).Correct ↔
      (r.callback && !r.callbackContext) = true := by
  rw [MfCameraReader.finish]
  cases r.callback with
  | false => simp [correct_iff_reported, reported_iff]
  | true =>
      cases r.callbackContext with
      | false => simp [correct_iff_reported, reported_iff]
      | true => simp [correct_iff_reported, reported_iff]

/-- A sample is handled and its references are released. -/
theorem handleSample_spec {consumer : List ObjectCall} (hs : s.Balanced)
    (hconsumer : ∀ call, r.prepare s f o = some call →
      Steps.Along Clients.step (Clients.Borrows call.image call.capture) call.clients consumer) :
    ∃ call final, r.handleSample s f o consumer = some (final, call) ∧
      call.Sound r s f o (r.sampleFate f o) ∧ final.Balanced ∧
      call.clients.created ⊆ final.created := by
  obtain ⟨call, hprepare, hsound⟩ := MfCameraReader.prepare_spec (r := r) (f := f) (o := o) hs
  rw [MfCameraReader.handleSample, hprepare, Option.bind_some]
  cases call.dropped with
  | true =>
      have hnone : Steps.Along Clients.step (Clients.Borrows call.image call.capture)
          call.clients [] := trivial
      obtain ⟨returned, final, hrun, hrelease, hfinal, -, -, hcreated⟩ :=
        Clients.release_spec hsound.lent hnone
      obtain rfl := Option.some.inj hrun
      refine ⟨call, final, ?_, hsound, hfinal, hcreated⟩
      rw [if_pos rfl, Option.bind_some, hrelease]
      rfl
  | false =>
      obtain ⟨returned, final, hrun, hrelease, hfinal, -, -, hcreated⟩ :=
        Clients.release_spec hsound.lent (hconsumer call hprepare)
      refine ⟨call, final, ?_, hsound, hfinal, hcreated⟩
      rw [if_neg Bool.false_ne_true, hrun, Option.bind_some, hrelease]
      rfl

end Reports

/-- `OnReadSample` goes through, deletes the frame context once, and reports failures as it
should, precisely under these conditions.  If it is called with a failed status, there is a
callback, and there is no context for it.  Otherwise, if a sample is handled at all, it is
dropped for its time stamp, or delivered; or it fails, and the request for the next one does
not: for want of a frame context or of a capture, or because a copy could not be made. -/
theorem sample_handled_iff (r : MfCameraReader) (s : Clients) (hs : s.Balanced) (statusOk : Bool)
    (sample : Option FrameContext) (o : SampleOutcome) (consumer : List ObjectCall)
    (hconsumer : ∀ f call, sample = some f → r.prepare s f o = some call →
      Steps.Along Clients.step (Clients.Borrows call.image call.capture) call.clients consumer) :
    (∃ e, r.onReadSample s statusOk sample o consumer = some e ∧ e.Correct) ↔
      r.handlesWell statusOk sample o = true := by
  have hgoes : ∀ {e : SampleEnd} {P : Prop}, (e.Correct ↔ P) →
      ((∃ e', some e = some e' ∧ e'.Correct) ↔ P) := fun h =>
    ⟨fun ⟨_, heq, hcorrect⟩ => h.mp (Option.some.inj heq ▸ hcorrect), fun hp => ⟨_, rfl, h.mpr hp⟩⟩
  unfold MfCameraReader.onReadSample
  rw [MfCameraReader.handlesWell]
  cases statusOk with
  | false =>
      rw [if_neg Bool.false_ne_true, if_neg Bool.false_ne_true]
      exact hgoes (SampleEnd.correct_failed_iff r s)
  | true =>
      rw [if_pos rfl, if_pos rfl, Bool.and_assoc]
      cases hstarted : (r.started && !r.flushing) with
      | false => exact hgoes (iff_of_true (SampleEnd.correct_of_no_sample r s true) rfl)
      | true =>
          rw [if_pos rfl, Bool.true_and]
          cases hcallback : (r.callback && r.callbackContext) with
          | false =>
              cases sample with
              | none => exact hgoes (iff_of_true (SampleEnd.correct_of_no_sample r s _) rfl)
              | some f => exact hgoes (iff_of_true (SampleEnd.correct_of_no_sample r s _) rfl)
          | true =>
              cases sample with
              | none => exact hgoes (iff_of_true (SampleEnd.correct_of_no_sample r s _) rfl)
              | some f =>
                  obtain ⟨call, final, hhandled, hsound, hfinal, hcreated⟩ :=
                    handleSample_spec (o := o) hs (hconsumer f · rfl)
                  rw [Bool.and_eq_true] at hcallback
                  simp only [hhandled, Option.map_some]
                  exact hgoes (SampleEnd.correct_iff hsound hfinal hcreated hcallback.1
                    hcallback.2 o.readSampleOk)

/-- A reader that streams NV12 pictures of 1280 by 720, with images that are views. -/
def viewReader : MfCameraReader := ⟨true, false, true, .colorNv12, 1280, 720, true, true⟩

def nv12Sample : FrameContext := ⟨some 64, 1382400, 8000, 4500, 100, 90000⟩

/-- The frame context is the one at address 7, and nothing fails. -/
def sampleWell : SampleOutcome := ⟨some 7, some (4096, 0), true, true, true, some 1, true⟩

/-- A sample that is delivered, whose capture a client keeps. -/
theorem sample_handled_delivered :
    ∃ e, viewReader.onReadSample .initial true (some nv12Sample) sampleWell
      [.captureIncRef ⟨0⟩] = some e ∧ e.Correct := by
  refine (sample_handled_iff viewReader .initial Clients.balanced_initial true (some nv12Sample)
    sampleWell [.captureIncRef ⟨0⟩] ?_).mpr (by decide)
  intro f call hf hcall
  obtain rfl := Option.some.inj hf
  obtain rfl := Option.some.inj (hcall.symm.trans rfl)
  have hcapture : (⟨0⟩ : CaptureHandle) ∈ held (some (⟨0⟩ : CaptureHandle)) + 0 := by decide
  exact ⟨⟨hcapture, nofun, nofun⟩, fun _ _ => trivial⟩

/-- If the context of the image cannot be allocated, the frame context is deleted by nobody.  If
the device time stamp is missing, the failure is reported with the capture.  A failed status is
reported twice. -/
theorem failed_view_keeps_context :
    (¬ ∃ e, viewReader.onReadSample .initial true (some nv12Sample)
      { sampleWell with contextOk := false } [] = some e ∧ e.Correct) ∧
    (viewReader.onReadSample .initial true (some nv12Sample)
      { sampleWell with deviceTimestamp := none } []).map SampleEnd.notified =
      some [⟨true, .failed, some ⟨0⟩⟩] ∧
    (viewReader.onReadSample .initial false none sampleWell []).map SampleEnd.notified =
      some [⟨true, .failed, none⟩, ⟨true, .failed, none⟩] := by
  refine ⟨?_, rfl, rfl⟩
  rintro ⟨e, he, hcorrect⟩
  obtain rfl := Option.some.inj (he.symm.trans rfl)
  obtain ⟨t, -, heq⟩ := hcorrect.deletedOnce _ rfl [] trivial
  exact List.cons_ne_nil _ _ heq.symm

end ZsaSdk
