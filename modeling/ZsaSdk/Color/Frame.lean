import ZsaSdk.Color.Metadata
import ZsaSdk.Color.Model
import ZsaSdk.Image.Handover
import ZsaSdk.Uvc.Delivery

/-!
# Frames of the camera on Linux

libuvc calls `UVCCameraReader::Callback` with each frame.  The reader copies the frame into a
buffer of the allocator, or decodes it there, makes an image of the buffer and a capture of the
image, and passes the capture to the callback that it was started with.

*Failures.*  Every call that can fail takes its outcome from `FrameOutcome`.

*Clients.*  From the call of the registered callback until it returns, clients make calls of
their own, given with the frame.

*Records.*  `FrameCall.frees` are the pointers that the reader itself has passed to
`allocator_free`; the code does not look at them.
-/

namespace ZsaSdk

open Ledger

/-- The fields of `uvc_frame_t` that the reader reads.  The bytes of the picture play no part. -/
structure UvcFrame where
  width : UInt32
  height : UInt32
  step : UInt64
  dataBytes : UInt64
  metadata : Nat → UInt8
  metadataBytes : UInt64
  captureTimeSec : Int64
  captureTimeNsec : Int64

/-- `_uvc_populate_frame`.  The size is that of the frame descriptor in use; data and metadata are
copied as `UserFrame.populate` does. -/
def uvcPopulateFrame (frame : UserFrame) (hold : HeldFrame) (format : ImageFormat)
    (wWidth wHeight : UInt16) (sec nsec : Int64) : UvcFrame where
  width := wWidth.toUInt32
  height := wHeight.toUInt32
  step := match format with
    | .colorYuy2 => (wWidth.toUInt32 * 2).toUInt64
    | .colorNv12 => wWidth.toUInt64
    | _ => 0
  dataBytes := (frame.populate hold).data.length.toUInt64
  metadata := Bytes.memory (frame.populate hold).metadata
  metadataBytes := (frame.populate hold).metadata.length.toUInt64
  captureTimeSec := sec
  captureTimeNsec := nsec

/-- What happens while a frame is handled: the answer of the allocate callback, the decoder,
the allocation of the image's context and its lock, and the allocation of the capture. -/
structure FrameOutcome where
  answer : Option (Nat × Nat)
  initDecompressOk : Bool
  decompressStatus : Int32
  contextOk : Bool
  lockOk : Bool
  captureOk : Bool
deriving DecidableEq, Repr

/-- What the reader stores in an image besides its buffer. -/
structure ImageMetadata where
  systemTimestampNsec : UInt64
  deviceTimestampUsec : UInt64
  exposureUsec : UInt64
  isoSpeed : UInt32
  whiteBalance : UInt32
deriving DecidableEq, Repr

/-- `ZSA_90K_HZ_TICK_TO_USEC` -/
def tick90kHzToUsec (x : UInt64) : UInt64 := x * 100 / 9

/-- `uvc_camerareader_free_allocation`, which passes the buffer to `allocator_free`. -/
def uvcCamerareaderFreeAllocation : ImageDestroyCb := .user 0

/-- `UVCCameraReader` with its decoder. -/
structure UvcFrameReader extends UvcCameraReader where
  /-- `m_decoder` is not null. -/
  decoder : Bool

/-- The variables at the call of the registered callback. -/
structure FrameCall where
  reader : UvcFrameReader
  clients : Clients
  buffer : Option Nat
  frees : List (Option Nat)
  image : Option ImageHandle
  capture : Option CaptureHandle
  result : Result
  metadata : Option ImageMetadata

/-- How `UVCCameraReader::Callback` ends.  If it has called the registered callback, `call` has
the variables at the call, and the objects when it returned. -/
structure CallbackEnd where
  reader : UvcFrameReader
  clients : Clients
  call : Option (FrameCall × Clients)

namespace UvcFrameReader

/-- The frame is decoded. -/
def decodesMjpeg (r : UvcFrameReader) : Bool :=
  r.inputImageFormat = .colorMjpg ∧ r.outputImageFormat = .colorBgra32

def frameStride (r : UvcFrameReader) (frame : UvcFrame) : Int32 :=
  if r.decodesMjpeg then frame.width.toInt32 * 4 else frame.step.toUInt32.toInt32

def frameSize (r : UvcFrameReader) (frame : UvcFrame) : UInt64 :=
  if r.decodesMjpeg then ObjectStore.sizeT (r.frameStride frame) * frame.height.toUInt64
  else frame.dataBytes

/-- `UVCCameraReader::DecodeMJPEGtoBGRA32` -/
def decodeMjpegToBgra32 (r : UvcFrameReader) (outSize : UInt64) (o : FrameOutcome) :
    UvcFrameReader × Result :=
  if (r.widthPixels * r.heightPixels * 4).toUInt64 > outSize then (r, .failed)
  else if r.decoder = false ∧ o.initDecompressOk = false then (r, .failed)
  else if o.decompressStatus ≠ 0 then ({ r with decoder := true }, .failed)
  else ({ r with decoder := true }, .succeeded)

/-- Fill the buffer, if there is one: decode the frame, or copy it. -/
def fillBuffer (r : UvcFrameReader) (buffer : Option Nat) (size : UInt64) (o : FrameOutcome) :
    UvcFrameReader × Result :=
  if buffer = none then (r, .failed)
  else if r.decodesMjpeg then r.decodeMjpegToBgra32 size o
  else (r, .succeeded)

/-- The image of a frame.  Its size is the one the stream was started with. -/
def imageArgs (r : UvcFrameReader) (frame : UvcFrame) (buffer : Option Nat) : ImageArgs where
  format := r.outputImageFormat
  widthPixels := r.widthPixels.toInt32
  heightPixels := r.heightPixels.toInt32
  strideBytes := r.frameStride frame
  buffer := buffer
  size := r.frameSize frame
  cb := uvcCamerareaderFreeAllocation
  context := 0

def imageMetadata (frame : UvcFrame) (values : FrameMetadata) : ImageMetadata where
  systemTimestampNsec :=
    frame.captureTimeSec.toUInt64 * 1000000000 + frame.captureTimeNsec.toUInt64
  deviceTimestampUsec := tick90kHzToUsec values.framePts
  exposureUsec := values.exposureTime
  isoSpeed := values.isoSpeed
  whiteBalance := values.whiteBalance

/-- The callback from the allocation of the buffer to the call of the registered callback. -/
def prepare (r : UvcFrameReader) (s : Clients) (frame : UvcFrame) (values : FrameMetadata)
    (o : FrameOutcome) : Option FrameCall :=
  let allocated := s.allocate (r.frameSize frame) o.answer
  let buffer := allocated.2
  let filled := r.fillBuffer buffer (r.frameSize frame) o
  match filled.2 with
  -- This is the only place where a failure releases the buffer.
  | .failed =>
      some ⟨filled.1, allocated.1.freeBuffer buffer, buffer, [buffer], none, none, .failed, none⟩
  | .succeeded =>
      match allocated.1.createImage (r.imageArgs frame buffer) o.contextOk o.lockOk with
      | (s, .failed, image) => some ⟨filled.1, s, buffer, [], image, none, .failed, none⟩
      | (s, .succeeded, image) =>
          match s.createCapture o.captureOk with
          | (s, .succeeded, some c) =>
              (s.step (.captureSet .color c image)).map fun s =>
                ⟨filled.1, s, buffer, [], image, some c, .succeeded,
                  some (imageMetadata frame values)⟩
          | (s, _, capture) => some ⟨filled.1, s, buffer, [], image, capture, .failed, none⟩

/-- The reader does not stream, or the frame has no time stamp. -/
def drops (r : UvcFrameReader) (frame : UvcFrame) : Bool :=
  !r.streaming || (parseMetadata frame.metadata frame.metadataBytes).framePts == 0

/-- `UVCCameraReader::Callback` -/
def frameCallback (r : UvcFrameReader) (s : Clients) (frame : Option UvcFrame) (o : FrameOutcome)
    (consumer : List ObjectCall) : Option CallbackEnd :=
  match frame with
  | none => some ⟨r, s, none⟩
  | some frame =>
      if r.drops frame then some ⟨r, s, none⟩
      else
        (r.prepare s frame (parseMetadata frame.metadata frame.metadataBytes) o).bind fun call =>
          (call.clients.run consumer).bind fun returned =>
            (returned.release call.image call.capture).map fun s =>
              ⟨call.reader, s, some (call, returned)⟩

/-! ## Where a frame fails

Conditions on the frame, the reader before it, and the outcomes. -/

/-- The allocator hands out a buffer. -/
def allocates (r : UvcFrameReader) (frame : UvcFrame) (o : FrameOutcome) : Bool :=
  asksCallback .color (r.frameSize frame) && o.answer != none

/-- The frame is to be decoded, and is not: the buffer is too small for the picture, there is no
decoder, or it reports an error. -/
def decodeFails (r : UvcFrameReader) (frame : UvcFrame) (o : FrameOutcome) : Bool :=
  r.decodesMjpeg && ((r.widthPixels * r.heightPixels * 4).toUInt64 > r.frameSize frame ||
    !r.decoder && !o.initDecompressOk || o.decompressStatus != 0)

/-- `image_create_from_buffer` takes the size and the format of the stream, and nothing fails
in it. -/
def imageAccepted (r : UvcFrameReader) (o : FrameOutcome) : Bool :=
  r.outputImageFormat.known &&
    !(r.widthPixels.toInt32 ≤ 0 || r.widthPixels.toInt32 > 20000) &&
    !(r.heightPixels.toInt32 ≤ 0 || r.heightPixels.toInt32 > 20000) && o.contextOk && o.lockOk

/-- Nothing fails. -/
def completes (r : UvcFrameReader) (frame : UvcFrame) (o : FrameOutcome) : Bool :=
  r.allocates frame o && !r.decodeFails frame o && r.imageAccepted o && o.captureOk

section Prepare

variable {r : UvcFrameReader} {s : Clients} {frame : UvcFrame} {o : FrameOutcome}

theorem allocate_of_allocates (h : r.allocates frame o = true) :
    ∃ buffer, (s.allocate (r.frameSize frame) o.answer).2 = some buffer := by
  rw [allocates, Bool.and_eq_true, bne_iff_ne] at h
  exact (Clients.allocate_isSome_iff s _ _).mpr h

theorem allocate_of_not_allocates (h : r.allocates frame o = false) :
    (s.allocate (r.frameSize frame) o.answer).2 = none := by
  cases hb : (s.allocate (r.frameSize frame) o.answer).2 with
  | none => rfl
  | some buffer =>
      have hboth := (Clients.allocate_isSome_iff s _ _).mp ⟨buffer, hb⟩
      rw [allocates, hboth.1, Bool.true_and, bne_eq_false_iff_eq] at h
      exact absurd h hboth.2

theorem fillBuffer_some (r : UvcFrameReader) (frame : UvcFrame) (o : FrameOutcome) (buffer : Nat) :
    (r.fillBuffer (some buffer) (r.frameSize frame) o).2 =
      if r.decodeFails frame o then .failed else .succeeded := by
  rw [fillBuffer, if_neg (Option.some_ne_none buffer), decodeFails]
  cases hd : r.decodesMjpeg with
  | false => rfl
  | true =>
      rw [if_pos rfl, Bool.true_and, decodeMjpegToBgra32]
      generalize (r.widthPixels * r.heightPixels * 4).toUInt64 = bytes
      split
      · next hsize => simp [hsize]
      next hsize =>
      split
      · next hinit => simp [hinit]
      next hinit =>
      split
      · next hstatus => simp [hstatus]
      · next hstatus =>
        rw [not_and_or, Bool.not_eq_false, Bool.not_eq_false] at hinit
        simp only [ne_eq, not_not] at hstatus
        obtain hinit | hinit := hinit
        · simp [hsize, hinit, hstatus]
        · simp [hsize, hinit, hstatus]

/-- A buffer that is handed out has a size. -/
theorem accepted_imageArgs (h : r.allocates frame o = true) (buffer : Nat) :
    (r.imageArgs frame (some buffer)).accepted o.contextOk o.lockOk = r.imageAccepted o := by
  have hsize : (r.frameSize frame != 0) = true := by
    rw [allocates, asksCallback] at h
    simp only [Bool.and_eq_true] at h
    exact h.1.1.2
  have hbuffer : (some buffer != none) = true := rfl
  simp only [ImageArgs.accepted, imageAccepted, imageArgs, hsize, hbuffer, Bool.and_true]
  rfl

end Prepare

end UvcFrameReader

/-! ## The call of the registered callback -/

/-- What holds at the call, however the frame was handled.  `s` are the objects before it. -/
structure FrameCall.Sound (s : Clients) (call : FrameCall) : Prop where
  balanced : call.clients.Balanced
  imageRefs : call.clients.imageRefs = held call.image + s.imageRefs
  captureRefs : call.clients.captureRefs = held call.capture + s.captureRefs
  created : ∀ h, call.image = some h →
    ⟨h, some uvcCamerareaderFreeAllocation, call.buffer, 0⟩ ∈ call.clients.created
  notified : call.capture = none ↔ call.result = .failed

theorem FrameCall.Sound.lent {s : Clients} {call : FrameCall} (h : call.Sound s) :
    Clients.Lent call.image call.capture call.clients := by
  refine ⟨h.balanced, ?_, ?_⟩
  · rw [h.imageRefs]
    exact Multiset.le_add_right _ _
  · rw [h.captureRefs]
    exact Multiset.le_add_right _ _

/-- What has become of the buffer at the call. -/
inductive FrameCall.Buffer (r : UvcFrameReader) (frame : UvcFrame) (o : FrameOutcome)
    (call : FrameCall) : Prop where
  /-- There is none, and the null pointer was freed. -/
  | missing : r.allocates frame o = false → call.buffer = none → call.frees = [none] →
      call.image = none → Buffer r frame o call
  | freed (buffer : Nat) : r.allocates frame o = true → r.decodeFails frame o = true →
      call.buffer = some buffer → call.frees = [some buffer] → call.image = none →
      Buffer r frame o call
  /-- Nobody has it any more. -/
  | lost (buffer : Nat) : r.allocates frame o = true → r.decodeFails frame o = false →
      r.imageAccepted o = false → call.buffer = some buffer → call.frees = [] →
      call.image = none → Buffer r frame o call
  | owned (buffer : Nat) (h : ImageHandle) : r.allocates frame o = true →
      r.decodeFails frame o = false → r.imageAccepted o = true → call.buffer = some buffer →
      call.frees = [] → call.image = some h → Buffer r frame o call

namespace UvcFrameReader

variable {r : UvcFrameReader} {s : Clients} {frame : UvcFrame} {o : FrameOutcome}

/-- A failure before the image is created. -/
theorem sound_freed (hs : s.Balanced) (reader : UvcFrameReader) (buffer : Option Nat) :
    FrameCall.Sound s ⟨reader, (s.allocate (r.frameSize frame) o.answer).1.freeBuffer buffer,
      buffer, [buffer], none, none, .failed, none⟩ :=
  ⟨(hs.allocate _ _).freeBuffer _, (zero_add _).symm, (zero_add _).symm, nofun,
    iff_of_true rfl rfl⟩

/-- The image is created and belongs to the reader. -/
theorem sound_image (hs : s.Balanced) (reader : UvcFrameReader) (buffer : Option Nat) {s₁ : Clients}
    {result : Result} {image : Option ImageHandle}
    (hcreate : (s.allocate (r.frameSize frame) o.answer).1.createImage (r.imageArgs frame buffer)
      o.contextOk o.lockOk = (s₁, result, image)) :
    FrameCall.Sound s ⟨reader, s₁, buffer, [], image, none, .failed, none⟩ := by
  obtain ⟨hbalanced, himage, hcapture, hcreated⟩ :=
    Clients.createImage_lent (hs.allocate _ _) hcreate
  refine ⟨hbalanced, himage, hcapture.trans (zero_add _).symm, ?_, iff_of_true rfl rfl⟩
  rintro h rfl
  rw [hcreated]
  exact List.mem_append_right _ List.mem_cons_self

/-- The capture is created too, and gets the image. -/
theorem sound_capture {reader : UvcFrameReader} {buffer : Option Nat} {s₁ : Clients}
    {h : ImageHandle}
    (hcall : FrameCall.Sound s ⟨reader, s₁, buffer, [], some h, none, .failed, none⟩)
    (metadata : Option ImageMetadata) :
    ∃ s₂, (s₁.createCapture true).1.step (.captureSet .color ⟨s₁.store.captures.length⟩ (some h)) =
        some s₂ ∧
      FrameCall.Sound s ⟨reader, s₂, buffer, [], some h, some ⟨s₁.store.captures.length⟩,
        .succeeded, metadata⟩ := by
  have himage : s₁.imageRefs = held (some h) + s.imageRefs := hcall.imageRefs
  have hcapture : s₁.captureRefs = held none + s.captureRefs := hcall.captureRefs
  have hmem : h ∈ s₁.imageRefs := by
    rw [himage]
    exact Multiset.mem_add.mpr (Or.inl (Multiset.mem_singleton_self _))
  obtain ⟨s₂, hstep, hbalanced, himage₂, hcapture₂, hcreated₂⟩ :=
    Clients.captureSet_new hcall.balanced hmem .color
  refine ⟨s₂, hstep, hbalanced, himage₂.trans himage, ?_, ?_, iff_of_false nofun nofun⟩
  · rw [hcapture₂]
    show _ + s₁.captureRefs = _
    rw [hcapture, held_none, zero_add]
    rfl
  · intro h' hh'
    rw [hcreated₂]
    exact hcall.created h' hh'

theorem prepare_of_failed {values : FrameMetadata} {buffer : Option Nat}
    (hbuffer : (s.allocate (r.frameSize frame) o.answer).2 = buffer)
    (hfill : (r.fillBuffer buffer (r.frameSize frame) o).2 = .failed) :
    r.prepare s frame values o = some ⟨(r.fillBuffer buffer (r.frameSize frame) o).1,
      (s.allocate (r.frameSize frame) o.answer).1.freeBuffer buffer, buffer, [buffer], none, none,
      .failed, none⟩ := by
  subst hbuffer
  simp only [prepare]
  rw [hfill]

theorem prepare_of_no_image {values : FrameMetadata} {buffer : Option Nat} {s₁ : Clients}
    {image : Option ImageHandle}
    (hbuffer : (s.allocate (r.frameSize frame) o.answer).2 = buffer)
    (hfill : (r.fillBuffer buffer (r.frameSize frame) o).2 = .succeeded)
    (himage : (s.allocate (r.frameSize frame) o.answer).1.createImage (r.imageArgs frame buffer)
      o.contextOk o.lockOk = (s₁, .failed, image)) :
    r.prepare s frame values o = some ⟨(r.fillBuffer buffer (r.frameSize frame) o).1, s₁, buffer,
      [], image, none, .failed, none⟩ := by
  subst hbuffer
  simp only [prepare]
  rw [hfill]
  simp only
  rw [himage]

/-- The end of the function when there is an image. -/
theorem prepare_of_image (values : FrameMetadata) {buffer : Option Nat} {s₁ : Clients}
    {h : ImageHandle}
    (hbuffer : (s.allocate (r.frameSize frame) o.answer).2 = buffer)
    (hfill : (r.fillBuffer buffer (r.frameSize frame) o).2 = .succeeded)
    (himage : (s.allocate (r.frameSize frame) o.answer).1.createImage (r.imageArgs frame buffer)
      o.contextOk o.lockOk = (s₁, .succeeded, some h)) :
    r.prepare s frame values o =
      if o.captureOk then
        ((s₁.createCapture true).1.step
          (.captureSet .color ⟨s₁.store.captures.length⟩ (some h))).map fun s =>
          ⟨(r.fillBuffer buffer (r.frameSize frame) o).1, s, buffer, [], some h,
            some ⟨s₁.store.captures.length⟩, .succeeded, some (imageMetadata frame values)⟩
      else some ⟨(r.fillBuffer buffer (r.frameSize frame) o).1, s₁, buffer, [], some h, none,
        .failed, none⟩ := by
  subst hbuffer
  simp only [prepare]
  rw [hfill]
  simp only
  rw [himage]
  simp only
  cases o.captureOk with
  | true => rfl
  | false =>
      rw [Clients.createCapture_failed]
      rfl

/-- The registered callback is called, with sound variables, and the buffer is where the frame
and the outcomes say. -/
theorem prepare_spec (hs : s.Balanced) (r : UvcFrameReader) (frame : UvcFrame)
    (values : FrameMetadata) (o : FrameOutcome) :
    ∃ call, r.prepare s frame values o = some call ∧ call.Sound s ∧ call.Buffer r frame o ∧
      call.result = if r.completes frame o then .succeeded else .failed := by
  rw [completes]
  cases halloc : r.allocates frame o with
  | false =>
      have hbuffer := allocate_of_not_allocates (s := s) halloc
      exact ⟨_, prepare_of_failed hbuffer rfl, sound_freed hs _ _,
        .missing halloc rfl rfl rfl, rfl⟩
  | true =>
      obtain ⟨buffer, hbuffer⟩ := allocate_of_allocates (s := s) halloc
      have hfill := fillBuffer_some r frame o buffer
      cases hdecode : r.decodeFails frame o with
      | true =>
          rw [hdecode, if_pos rfl] at hfill
          exact ⟨_, prepare_of_failed hbuffer hfill, sound_freed hs _ _,
            .freed buffer halloc hdecode rfl rfl rfl, rfl⟩
      | false =>
          rw [hdecode, if_neg Bool.false_ne_true] at hfill
          have haccepted := accepted_imageArgs halloc buffer
          cases himage : r.imageAccepted o with
          | false =>
              obtain ⟨s₁, hcreate⟩ := Clients.createImage_rejected
                (s := (s.allocate (r.frameSize frame) o.answer).1) (haccepted.trans himage)
              exact ⟨_, prepare_of_no_image hbuffer hfill hcreate, sound_image hs _ _ hcreate,
                .lost buffer halloc hdecode himage rfl rfl rfl, rfl⟩
          | true =>
              have hcreate := Clients.createImage_accepted
                (s := (s.allocate (r.frameSize frame) o.answer).1) (haccepted.trans himage)
              have hsound := sound_image hs (r.fillBuffer (some buffer) (r.frameSize frame) o).1
                (some buffer) hcreate
              have heq := prepare_of_image values hbuffer hfill hcreate
              cases hcapture : o.captureOk with
              | false =>
                  rw [hcapture, if_neg Bool.false_ne_true] at heq
                  exact ⟨_, heq, hsound, .owned buffer _ halloc hdecode himage rfl rfl rfl, rfl⟩
              | true =>
                  obtain ⟨s₂, hstep, hsound₂⟩ :=
                    sound_capture hsound (some (imageMetadata frame values))
                  rw [hcapture, if_pos rfl, hstep] at heq
                  exact ⟨_, heq, hsound₂, .owned buffer _ halloc hdecode himage rfl rfl rfl, rfl⟩

end UvcFrameReader

/-! ## Ownership of the buffer -/

namespace FrameCall

/-- The pointer that a free callback passes to `allocator_free`. -/
def freedBy (c : ObjectStore.FreeCall) : Option (Option Nat) :=
  if c.cb = uvcCamerareaderFreeAllocation then some c.buffer else none

/-- The reader has kept to the rules of ownership.  `s` are the objects before the frame,
`returned` those when the registered callback has returned, and `final` those at the end. -/
structure Owned (s : Clients) (call : FrameCall) (returned final : Clients) : Prop where
  noNull : none ∉ call.frees
  /-- The buffer goes back to the allocator once. -/
  once : Clients.GivenBackOnce call.frees call.image freedBy (call.buffer.toList.map some) final
  imageRef : call.clients.imageRefs = held call.image + s.imageRefs ∧
    returned.imageRefs = held call.image + final.imageRefs
  captureRef : call.clients.captureRefs = held call.capture + s.captureRefs ∧
    returned.captureRefs = held call.capture + final.captureRefs
  notified : call.capture = none ↔ call.result = .failed

/-- Ownership is kept exactly if there is a buffer, and it is freed or belongs to an image. -/
theorem owned_iff {r : UvcFrameReader} {s returned final : Clients} {frame : UvcFrame}
    {o : FrameOutcome} {call : FrameCall} (hsound : call.Sound s)
    (hbuffer : call.Buffer r frame o) (hfinal : final.Balanced)
    (himage : returned.imageRefs = held call.image + final.imageRefs)
    (hcapture : returned.captureRefs = held call.capture + final.captureRefs)
    (hcreated : call.clients.created ⊆ final.created) :
    call.Owned s returned final ↔
      r.allocates frame o = true ∧ (r.decodeFails frame o = true ∨ r.imageAccepted o = true) := by
  have howned : none ∉ call.frees →
      Clients.GivenBackOnce call.frees call.image freedBy (call.buffer.toList.map some) final →
      call.Owned s returned final := fun hnull honce =>
    ⟨hnull, honce, ⟨hsound.imageRefs, himage⟩, ⟨hsound.captureRefs, hcapture⟩, hsound.notified⟩
  cases hbuffer with
  | missing halloc hbuf hfrees hnone =>
      refine iff_of_false ?_ ?_
      · intro h
        exact h.noNull (hfrees ▸ List.mem_cons_self)
      · rw [halloc]
        exact fun h => Bool.false_ne_true h.1
  | freed buffer halloc hdecode hbuf hfrees hnone =>
      refine iff_of_true (howned ?_ ?_) ⟨halloc, Or.inl hdecode⟩
      · rw [hfrees]
        exact List.not_mem_cons_of_ne_of_not_mem nofun List.not_mem_nil
      · rw [hnone, Clients.givenBackOnce_none hfinal, hfrees, hbuf]
        rfl
  | lost buffer halloc hdecode haccepted hbuf hfrees hnone =>
      refine iff_of_false ?_ ?_
      · intro h
        have honce := h.once
        rw [hnone, Clients.givenBackOnce_none hfinal, hfrees, hbuf] at honce
        cases honce
      · rw [hdecode, haccepted]
        exact fun h => h.2.elim Bool.false_ne_true Bool.false_ne_true
  | owned buffer h halloc hdecode haccepted hbuf hfrees hsome =>
      refine iff_of_true (howned ?_ ?_) ⟨halloc, Or.inr haccepted⟩
      · rw [hfrees]
        exact List.not_mem_nil
      · rw [hfrees, hsome, hbuf]
        refine Clients.givenBackOnce_some hfinal (hcreated (hsound.created h hsome)) ?_
        rw [hbuf]
        rfl

end FrameCall

/-- If the registered callback was called, ownership has been kept. -/
def CallbackEnd.Owned (s : Clients) (e : CallbackEnd) : Prop :=
  ∀ call returned, e.call = some (call, returned) → call.Owned s returned e.clients

theorem CallbackEnd.owned_of_no_call {s : Clients} {e : CallbackEnd} (h : e.call = none) :
    e.Owned s := by
  intro call returned hcall
  rw [h] at hcall
  cases hcall

/-- The callback goes through, and keeps ownership of the buffer, the image and the capture,
precisely if the frame is dropped, or if there is a buffer and it is released because the frame
cannot be decoded, or given to an image.  The clients may do what they like with the capture
while they have it, and afterwards. -/
theorem frame_buffer_owned_iff (r : UvcFrameReader) (s : Clients) (hs : s.Balanced)
    (frame : Option UvcFrame) (o : FrameOutcome) (consumer : List ObjectCall)
    (hconsumer : ∀ f call, frame = some f →
      r.prepare s f (parseMetadata f.metadata f.metadataBytes) o = some call →
      Steps.Along Clients.step (Clients.Borrows call.image call.capture) call.clients consumer) :
    (∃ e, r.frameCallback s frame o consumer = some e ∧ e.Owned s) ↔
      ∀ f, frame = some f → r.drops f = false →
        r.allocates f o = true ∧ (r.decodeFails f o = true ∨ r.imageAccepted o = true) := by
  cases frame with
  | none =>
      refine iff_of_true ⟨⟨r, s, none⟩, rfl, CallbackEnd.owned_of_no_call rfl⟩ ?_
      intro f hf
      cases hf
  | some f =>
      rw [UvcFrameReader.frameCallback]
      cases hdrop : r.drops f with
      | true =>
          rw [if_pos rfl]
          refine iff_of_true ⟨⟨r, s, none⟩, rfl, CallbackEnd.owned_of_no_call rfl⟩ ?_
          rintro f' hf' hdrop'
          rw [← Option.some.inj hf', hdrop] at hdrop'
          cases hdrop'
      | false =>
          rw [if_neg Bool.false_ne_true]
          obtain ⟨call, hprepare, hsound, hbuffer, -⟩ := UvcFrameReader.prepare_spec hs r f
            (parseMetadata f.metadata f.metadataBytes) o
          obtain ⟨returned, final, hrun, hrelease, hfinal, himage, hcapture, hcreated⟩ :=
            Clients.release_spec hsound.lent (hconsumer f call rfl hprepare)
          have howned := FrameCall.owned_iff hsound hbuffer hfinal himage hcapture hcreated
          rw [hprepare, Option.bind_some, hrun, Option.bind_some, hrelease, Option.map_some]
          constructor
          · rintro ⟨e, he, hown⟩ f' hf' -
            obtain rfl := Option.some.inj he
            obtain rfl := Option.some.inj hf'
            exact howned.mp (hown call returned rfl)
          · intro h
            refine ⟨_, rfl, ?_⟩
            intro call' returned' heq
            cases heq
            exact howned.mpr (h f rfl hdrop)

/-- A reader that streams NV12 pictures of 1280 by 720. -/
def nv12Reader : UvcFrameReader where
  initialized := true
  streaming := true
  using60hzPower := true
  widthPixels := 1280
  heightPixels := 720
  inputImageFormat := .colorNv12
  outputImageFormat := .colorNv12
  callback := true
  decoder := false

/-- The metadata of a frame with the time stamp 90000. -/
def stampedMetadata : List UInt8 :=
  Bytes.ofNumber 4 0x80000001 ++ Bytes.ofNumber 4 44 ++ Bytes.ofNumber 8 0 ++
    Bytes.ofNumber 8 90000 ++ Bytes.ofNumber 20 0

/-- A frame of that stream of which `bytes` bytes were received. -/
def nv12Frame (bytes : UInt64) : UvcFrame where
  width := 1280
  height := 720
  step := 1280
  dataBytes := bytes
  metadata := Bytes.memory stampedMetadata
  metadataBytes := 44
  captureTimeSec := 7
  captureTimeNsec := 0

/-- libuvc makes such a frame of the bytes it has collected. -/
theorem uvcPopulateFrame_nv12Frame (frame : UserFrame) (hold : HeldFrame)
    (hmetadata : hold.metadata = stampedMetadata) :
    uvcPopulateFrame frame hold .colorNv12 1280 720 7 0 =
      nv12Frame hold.data.length.toUInt64 := by
  have hne : ¬ stampedMetadata = [] := by decide
  simp only [uvcPopulateFrame, UserFrame.data_populate, UserFrame.metadata_populate, hmetadata,
    if_neg hne]
  rfl

/-- Nothing fails. -/
def allWell : FrameOutcome := ⟨some (4096, 0), true, 0, true, true, true⟩

/-- A whole frame, whose capture a client keeps. -/
theorem frame_buffer_owned_whole :
    ∃ e, nv12Reader.frameCallback .initial (some (nv12Frame 1382400)) allWell
      [.captureIncRef ⟨0⟩] = some e ∧ e.Owned .initial := by
  refine (frame_buffer_owned_iff nv12Reader .initial Clients.balanced_initial
    (some (nv12Frame 1382400)) allWell [.captureIncRef ⟨0⟩] ?_).mpr ?_
  · intro f call hf hcall
    obtain rfl := Option.some.inj hf
    obtain rfl := Option.some.inj (hcall.symm.trans rfl)
    have hcapture : (⟨0⟩ : CaptureHandle) ∈ held (some (⟨0⟩ : CaptureHandle)) + 0 := by decide
    exact ⟨⟨hcapture, nofun, nofun⟩, fun _ _ => trivial⟩
  · intro f hf _
    obtain rfl := Option.some.inj hf
    exact ⟨by decide, Or.inr (by decide)⟩

/-- A frame of which nothing was received.  There is no buffer, and the null pointer is passed
to `allocator_free`. -/
theorem empty_frame_frees_null :
    (nv12Reader.prepare .initial (nv12Frame 0) .zero allWell).map FrameCall.frees = some [none] ∧
    ¬ ∃ e, nv12Reader.frameCallback .initial (some (nv12Frame 0)) allWell [] = some e ∧
      e.Owned .initial := by
  refine ⟨rfl, ?_⟩
  rintro ⟨e, he, howned⟩
  obtain rfl := Option.some.inj (he.symm.trans rfl)
  exact (howned _ _ rfl).noNull List.mem_cons_self

end ZsaSdk
