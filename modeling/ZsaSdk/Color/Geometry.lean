import ZsaSdk.Color.Frame
import ZsaSdk.Image.Sizes

/-!
# The size of delivered images

An image of the camera has the width and the height that the stream was started with, but the
stride and the number of bytes of the frame at hand.  Nothing compares the two, except that a
frame is decoded only into a buffer that is large enough for the picture.  So an image can be
read by its own geometry precisely if the frame covers the picture (`Covers`).
-/

namespace ZsaSdk

open ObjectStore (sizeT toNat_sizeT)

/-- The buffer has the bytes that the geometry says, and a row has those of its pixels. -/
def GeometryFits (image : ObjectStore.ImageContext) : Prop :=
  match image.format with
  | .colorNv12 =>
      3 * (image.heightPixels.toInt * image.strideBytes.toInt) ≤ 2 * image.bufferSize.toNat ∧
        image.widthPixels.toInt ≤ image.strideBytes.toInt
  | .colorYuy2 =>
      image.heightPixels.toInt * image.strideBytes.toInt ≤ image.bufferSize.toNat ∧
        2 * image.widthPixels.toInt ≤ image.strideBytes.toInt
  | .colorBgra32 =>
      image.heightPixels.toInt * image.strideBytes.toInt ≤ image.bufferSize.toNat ∧
        4 * image.widthPixels.toInt ≤ image.strideBytes.toInt
  | _ => True

/-- The frame covers a picture of the width and height of the stream.  A frame that is copied
has rows that are long enough, and all the rows were received; a frame that is decoded is
neither narrower nor lower than the picture. -/
def UvcFrame.Covers (frame : UvcFrame) (format : ImageFormat) (width height : UInt32) : Prop :=
  let step := frame.step.toUInt32.toInt32.toInt
  match format with
  | .colorNv12 => 3 * (height.toNat * step) ≤ 2 * frame.dataBytes.toNat ∧ width.toNat ≤ step
  | .colorYuy2 => height.toNat * step ≤ frame.dataBytes.toNat ∧ 2 * width.toNat ≤ step
  | .colorBgra32 =>
      height ≤ frame.height ∧ 4 * (width.toNat : Int) ≤ (frame.width.toInt32 * 4).toInt
  | _ => True

/-! ## Delivery -/

namespace UvcFrameReader

variable {r : UvcFrameReader} {s : Clients} {frame : UvcFrame} {o : FrameOutcome}

/-- The frame is not dropped, and nothing fails. -/
def delivers (r : UvcFrameReader) (frame : UvcFrame) (o : FrameOutcome) : Bool :=
  !r.drops frame && r.completes frame o

/-- The image as it is created. -/
def newImage (r : UvcFrameReader) (frame : UvcFrame) (buffer : Nat) : ObjectStore.ImageContext :=
  ⟨1, true, some buffer, r.frameSize frame, r.outputImageFormat, r.widthPixels.toInt32,
    r.heightPixels.toInt32, r.frameStride frame, some uvcCamerareaderFreeAllocation, 0⟩

/-- The image that is handed on. -/
theorem delivered_image (hs : s.Balanced) (hdelivers : r.delivers frame o = true)
    (values : FrameMetadata) :
    ∃ call h buffer, r.prepare s frame values o = some call ∧ call.result = .succeeded ∧
      call.image = some h ∧ call.clients.store.image h =
        some { r.newImage frame buffer with refCount := 2 } := by
  simp only [delivers, completes, Bool.and_eq_true, Bool.not_eq_true'] at hdelivers
  obtain ⟨-, ⟨⟨halloc, hdecode⟩, himage⟩, hcapture⟩ := hdelivers
  obtain ⟨buffer, hbuffer⟩ := allocate_of_allocates (s := s) halloc
  have hfill := fillBuffer_some r frame o buffer
  rw [hdecode, if_neg Bool.false_ne_true] at hfill
  have hcreate := Clients.createImage_accepted
    (s := (s.allocate (r.frameSize frame) o.answer).1)
    ((accepted_imageArgs halloc buffer).trans himage)
  have hsound := sound_image hs (r.fillBuffer (some buffer) (r.frameSize frame) o).1
    (some buffer) hcreate
  obtain ⟨s₂, hstep, -⟩ := sound_capture hsound (some (imageMetadata frame values))
  have heq := prepare_of_image values hbuffer hfill hcreate
  rw [hcapture, if_pos rfl, hstep, Option.map_some] at heq
  refine ⟨_, _, buffer, heq, rfl, rfl, ?_⟩
  exact Clients.image_of_captureSet
    (ObjectStore.image_pushed (x := some (r.newImage frame buffer)) rfl) hstep

/-- Nothing else is handed on as a success. -/
theorem delivers_of_succeeded (hs : s.Balanced) {values : FrameMetadata} {call : FrameCall}
    (hdrop : r.drops frame = false) (hcall : r.prepare s frame values o = some call)
    (hresult : call.result = .succeeded) : r.delivers frame o = true := by
  obtain ⟨call', hcall', -, -, hcompletes⟩ := prepare_spec hs r frame values o
  obtain rfl := Option.some.inj (hcall.symm.trans hcall')
  rw [delivers, hdrop]
  cases h : r.completes frame o with
  | true => rfl
  | false =>
      rw [h, if_neg Bool.false_ne_true, hresult] at hcompletes
      cases hcompletes

end UvcFrameReader

/-! ## Geometry -/

/-- What a successful start leaves. -/
theorem UvcCameraReader.start_succeeded {r₀ r : UvcCameraReader} {width height : UInt32}
    {format : ImageFormat} {started : StartOutcome}
    (h : r₀.start width height format started = (r, .succeeded)) :
    inputFormat format = some r.inputImageFormat ∧ r.outputImageFormat = format ∧
      r.widthPixels = width ∧ r.heightPixels = height := by
  simp only [start] at h
  split at h
  · cases h
  split at h
  · cases h
  split at h
  · cases h
  next input hinput =>
  split at h
  · cases h
  split at h
  · cases h
  obtain rfl := (Prod.mk.inj h).1
  exact ⟨hinput, rfl, rfl, rfl⟩

/-- A width or a height that is accepted is the same as an `int`. -/
theorem toInt_of_accepted {x : UInt32} (h : !(x.toInt32 ≤ 0 || x.toInt32 > 20000)) :
    x.toInt32.toInt = x.toNat ∧ 0 < x.toNat := by
  simp only [Bool.not_eq_true', Bool.or_eq_false_iff, decide_eq_false_iff_not, Int32.not_le,
    Int32.lt_iff_toInt_lt, Int32.toInt_zero] at h
  have hpos := h.1
  have hint : x.toInt32.toInt = x.toBitVec.toInt := rfl
  rw [hint, BitVec.toInt_eq_toNat_cond, UInt32.toNat_toBitVec] at hpos ⊢
  split at hpos
  · next hlt =>
    rw [if_pos hlt]
    exact ⟨rfl, by omega⟩
  · have hlt := x.toNat_lt
    omega

/-- The size of a buffer for a frame that is decoded, whose stride is positive. -/
theorem toNat_decodedSize {stride : Int32} (h : 0 < stride.toInt) (height : UInt32) :
    ((sizeT stride * height.toUInt64).toNat : Int) = stride.toInt * height.toNat := by
  have hstride := toNat_sizeT stride
  have hlt := stride.toInt_lt
  have hheight := height.toNat_lt
  rw [Int.emod_eq_of_lt (by omega) (by omega)] at hstride
  have hprod : (sizeT stride).toNat * height.toNat < 2 ^ 31 * 2 ^ 32 :=
    Nat.mul_lt_mul_of_lt_of_le (by omega) (by omega) (by decide)
  rw [UInt64.toNat_mul, UInt32.toNat_toUInt64, Nat.mod_eq_of_lt (by omega), Int.natCast_mul,
    hstride]

namespace UvcFrameReader

variable {r : UvcFrameReader} {frame : UvcFrame} {o : FrameOutcome}

theorem decodesMjpeg_iff {format : ImageFormat}
    (hinput : UvcCameraReader.inputFormat format = some r.inputImageFormat)
    (houtput : r.outputImageFormat = format) :
    r.decodesMjpeg = decide (format = .colorBgra32) := by
  rw [decodesMjpeg, houtput]
  cases format with
  | colorBgra32 =>
      obtain h := Option.some.inj hinput
      simp [← h]
  | _ => simp

/-- The image of a frame that is copied. -/
theorem stride_size_copied (h : r.decodesMjpeg = false) (frame : UvcFrame) :
    r.frameStride frame = frame.step.toUInt32.toInt32 ∧ r.frameSize frame = frame.dataBytes := by
  rw [frameStride, frameSize, h]
  exact ⟨rfl, rfl⟩

/-- The image of a frame that is decoded. -/
theorem stride_size_decoded (h : r.decodesMjpeg = true) (frame : UvcFrame) :
    r.frameStride frame = frame.width.toInt32 * 4 ∧
      r.frameSize frame = sizeT (frame.width.toInt32 * 4) * frame.height.toUInt64 := by
  rw [frameSize, frameStride, h]
  exact ⟨rfl, rfl⟩

/-- The image can be read by its geometry precisely if the frame covers the picture. -/
theorem geometryFits_iff {format : ImageFormat} {width height : UInt32} {n : Int}
    (hinput : UvcCameraReader.inputFormat format = some r.inputImageFormat)
    (houtput : r.outputImageFormat = format) (hwidth : r.widthPixels = width)
    (hheight : r.heightPixels = height) (haccepted : r.imageAccepted o = true) (frame : UvcFrame)
    (buffer : Nat) :
    GeometryFits { r.newImage frame buffer with refCount := n } ↔
      frame.Covers format width height := by
  simp only [imageAccepted, Bool.and_eq_true] at haccepted
  obtain ⟨⟨⟨⟨-, hw⟩, hh⟩, -⟩, -⟩ := haccepted
  obtain ⟨hw, hwpos⟩ := toInt_of_accepted hw
  obtain ⟨hh, -⟩ := toInt_of_accepted hh
  have hdecodes := decodesMjpeg_iff hinput houtput
  subst hwidth hheight
  simp only [GeometryFits, newImage, houtput, hw, hh]
  cases format with
  | colorBgra32 =>
      obtain ⟨hstride, hsize⟩ := stride_size_decoded hdecodes frame
      simp only [hstride, hsize, UvcFrame.Covers]
      rw [and_congr_left_iff]
      intro hrow
      have hpos : 0 < (frame.width.toInt32 * 4).toInt := by omega
      rw [toNat_decodedSize hpos, Int.mul_comm, UInt32.le_iff_toNat_le, ← Int.ofNat_le]
      exact Int.mul_le_mul_left hpos
  | colorNv12 =>
      obtain ⟨hstride, hsize⟩ := stride_size_copied hdecodes frame
      simp only [hstride, hsize, UvcFrame.Covers]
  | colorYuy2 =>
      obtain ⟨hstride, hsize⟩ := stride_size_copied hdecodes frame
      simp only [hstride, hsize, UvcFrame.Covers]
  | _ => exact Iff.rfl

end UvcFrameReader

/-- Every image of a stream that is handed on as a success is as large as its geometry says
precisely if the frame, if it is delivered, covers a picture of the width and height that the
stream was started with. -/
theorem delivered_geometry_iff {r₀ : UvcCameraReader} {width height : UInt32}
    {format : ImageFormat} {started : UvcCameraReader.StartOutcome} {r : UvcFrameReader}
    (hstart : r₀.start width height format started = (r.toUvcCameraReader, .succeeded))
    {s : Clients} (hs : s.Balanced) (frame : UvcFrame) (o : FrameOutcome) :
    (∀ call h image, r.drops frame = false →
      r.prepare s frame (parseMetadata frame.metadata frame.metadataBytes) o = some call →
      call.result = .succeeded → call.image = some h → call.clients.store.image h = some image →
      GeometryFits image) ↔
    (r.delivers frame o = true → frame.Covers format width height) := by
  obtain ⟨hinput, houtput, hwidth, hheight⟩ := UvcCameraReader.start_succeeded hstart
  have hiff (haccepted : r.imageAccepted o = true) (buffer : Nat) :=
    UvcFrameReader.geometryFits_iff (n := 2) hinput houtput hwidth hheight haccepted frame buffer
  constructor
  · intro h hdelivers
    obtain ⟨call, image, buffer, hcall, hresult, himage, hcontext⟩ :=
      UvcFrameReader.delivered_image hs hdelivers
        (parseMetadata frame.metadata frame.metadataBytes)
    simp only [UvcFrameReader.delivers, UvcFrameReader.completes, Bool.and_eq_true,
      Bool.not_eq_true'] at hdelivers
    exact (hiff hdelivers.2.1.2 buffer).mp
      (h call image _ hdelivers.1 hcall hresult himage hcontext)
  · intro h call image context hdrop hcall hresult himage hcontext
    have hdelivers := UvcFrameReader.delivers_of_succeeded hs hdrop hcall hresult
    obtain ⟨call', image', buffer, hcall', -, himage', hcontext'⟩ :=
      UvcFrameReader.delivered_image hs hdelivers
        (parseMetadata frame.metadata frame.metadataBytes)
    obtain rfl := Option.some.inj (hcall.symm.trans hcall')
    obtain rfl := Option.some.inj (himage.symm.trans himage')
    obtain rfl := Option.some.inj (hcontext.symm.trans hcontext')
    have hcovers := h hdelivers
    simp only [UvcFrameReader.delivers, UvcFrameReader.completes, Bool.and_eq_true] at hdelivers
    exact (hiff hdelivers.2.1.2 buffer).mpr hcovers

/-- A whole NV12 frame. -/
theorem delivered_geometry_whole :
    UvcCameraReader.start { UvcCameraReader.new with initialized := true } 1280 720 .colorNv12
      ⟨true, true⟩ = (nv12Reader.toUvcCameraReader, .succeeded) ∧
    ∀ call h image, nv12Reader.drops (nv12Frame 1382400) = false →
      nv12Reader.prepare .initial (nv12Frame 1382400)
        (parseMetadata (nv12Frame 1382400).metadata (nv12Frame 1382400).metadataBytes) allWell =
        some call → call.result = .succeeded → call.image = some h →
      call.clients.store.image h = some image → GeometryFits image := by
  have hstart : UvcCameraReader.start { UvcCameraReader.new with initialized := true } 1280 720
      .colorNv12 ⟨true, true⟩ = (nv12Reader.toUvcCameraReader, .succeeded) := rfl
  refine ⟨hstart, (delivered_geometry_iff hstart Clients.balanced_initial (nv12Frame 1382400)
    allWell).mpr ?_⟩
  exact fun _ => ⟨by decide, by decide⟩

/-- An NV12 frame of which 1000 bytes were received is handed on as a picture of 1280 by 720. -/
theorem truncated_frame_undersized :
    UvcCameraReader.start { UvcCameraReader.new with initialized := true } 1280 720 .colorNv12
      ⟨true, true⟩ = (nv12Reader.toUvcCameraReader, .succeeded) ∧ ∃ call h image,
    nv12Reader.drops (nv12Frame 1000) = false ∧
    nv12Reader.prepare .initial (nv12Frame 1000)
      (parseMetadata (nv12Frame 1000).metadata (nv12Frame 1000).metadataBytes) allWell =
      some call ∧
    call.result = .succeeded ∧ call.image = some h ∧ call.clients.store.image h = some image ∧
    image.bufferSize = 1000 ∧ image.heightPixels = 720 ∧ image.strideBytes = 1280 ∧
    ¬ GeometryFits image := by
  refine ⟨rfl, _, _, _, by decide, rfl, rfl, rfl, rfl, rfl, rfl, rfl, ?_⟩
  rintro ⟨hsize, -⟩
  exact absurd hsize (by decide)

end ZsaSdk
