import ZsaSdk.Lib.Bytes

/-!
# Payloads of a video stream

The part of libuvc's `stream.c` that puts frames together.  The camera sends payloads: a header,
with metadata at its end, and a piece of the image.  A bit of the header alternates from one frame
to the next (FID), and another one is set in the last payload of a frame (EOF).

`_uvc_process_payload` collects the pieces in `outbuf` and the metadata in `meta_outbuf`, and
`_uvc_swap_buffers` makes a complete frame available to the user thread.  The two buffers are
lists here; how far they have been written is recorded in `outEnd` and `metaOutEnd`, which the code
does not read.  `published` records every frame that has been made available.

*Memory.*  A payload is the memory from its start on, together with its length.  The fields of the
header are read without a look at the length.
-/

namespace ZsaSdk

/-- `LIBUVC_XFER_BUF_SIZE` -/
def libuvcXferBufSize : Nat := 16 * 1024 * 1024

/-- `LIBUVC_XFER_META_BUF_SIZE` -/
def libuvcXferMetaBufSize : Nat := 4 * 1024

/-- `COLOR_CAMERA_VID` -/
def colorCameraVid : UInt16 := 0x045e

/-- `COLOR_CAMERA_PID` -/
def colorCameraPid : UInt16 := 0x097d

/-- `isight_tag` -/
def isightTag : List UInt8 :=
  [0x11, 0x22, 0x33, 0x44, 0xde, 0xad, 0xbe, 0xef, 0xde, 0xad, 0xfa, 0xce]

/-- A payload transfer. -/
structure UvcPayload where
  memory : Nat → UInt8
  length : Nat

/-- `DW_TO_INT` -/
def dwToInt (memory : Nat → UInt8) (offset : Nat) : UInt32 :=
  UInt32.ofNat (Bytes.number memory offset 4)

/-- What `_uvc_swap_buffers` hands to the user thread. -/
structure HeldFrame where
  data : List UInt8
  metadata : List UInt8
  pts : UInt32
  lastScr : UInt32
  seq : UInt32
deriving DecidableEq, Repr

/-- The part of `uvc_stream_handle_t` that puts frames together. -/
structure StreamAssembly where
  isIsight : Bool
  fid : UInt8
  outbuf : List UInt8
  metaOutbuf : List UInt8
  pts : UInt32
  lastScr : UInt32
  seq : UInt32
  outEnd : Nat
  metaOutEnd : Nat
  published : List HeldFrame
deriving DecidableEq, Repr

/-- `is_isight`, which `uvc_open` sets from the descriptor of the device. -/
def isIsightDevice (idVendor idProduct : UInt16) : Bool := idVendor == 0x05ac && idProduct == 0x8501

/-! ## The header -/

/-- The header says that there is a presentation time. -/
def hasPts (headerInfo : UInt8) : Bool := headerInfo &&& 4 != 0

/-- The header says that there is a source clock. -/
def hasScr (headerInfo : UInt8) : Bool := headerInfo &&& 8 != 0

/-- The payload is the last one of its frame. -/
def isEof (headerInfo : UInt8) : Bool := headerInfo &&& 2 != 0

/-- The error bit. -/
def isError (headerInfo : UInt8) : Bool := headerInfo &&& 0x40 != 0

/-- `variable_offset`, where the source clock stands. -/
def scrOffset (headerInfo : UInt8) : Nat := if hasPts headerInfo then 6 else 2

/-- `variable_offset`, where the metadata start. -/
def metadataOffset (headerInfo : UInt8) : Nat :=
  if hasScr headerInfo then scrOffset headerInfo + 6 else scrOffset headerInfo

namespace StreamAssembly

/-- The stream of a device after `uvc_stream_start`. -/
def start (idVendor idProduct : UInt16) : StreamAssembly where
  isIsight := isIsightDevice idVendor idProduct
  fid := 0
  outbuf := []
  metaOutbuf := []
  pts := 0
  lastScr := 0
  seq := 1
  outEnd := 0
  metaOutEnd := 0
  published := []

/-- The frame that has been put together so far. -/
def current (s : StreamAssembly) : HeldFrame := ⟨s.outbuf, s.metaOutbuf, s.pts, s.lastScr, s.seq⟩

/-- `_uvc_swap_buffers` -/
def swapBuffers (s : StreamAssembly) : StreamAssembly :=
  { s with
    published := s.published ++ [s.current]
    seq := s.seq + 1
    outbuf := []
    metaOutbuf := []
    lastScr := 0
    pts := 0 }

/-- Append to `outbuf`. -/
def appendData (s : StreamAssembly) (data : List UInt8) : StreamAssembly :=
  { s with
    outbuf := s.outbuf ++ data
    outEnd := max s.outEnd (s.outbuf.length + data.length) }

/-- Append to `meta_outbuf`. -/
def appendMetadata (s : StreamAssembly) (metadata : List UInt8) : StreamAssembly :=
  { s with
    metaOutbuf := s.metaOutbuf ++ metadata
    metaOutEnd := max s.metaOutEnd (s.metaOutbuf.length + metadata.length) }

/-- The frame before was not ended by its last payload. -/
def beginFrame (s : StreamAssembly) (fid : UInt8) : StreamAssembly :=
  if s.fid ≠ fid ∧ s.outbuf.length ≠ 0 then { s.swapBuffers with fid := fid }
  else { s with fid := fid }

/-- The presentation time and the source clock, as far as the header has them. -/
def setClocks (s : StreamAssembly) (headerInfo : UInt8) (pts scr : UInt32) : StreamAssembly :=
  { s with
    pts := if hasPts headerInfo then pts else s.pts
    lastScr := if hasScr headerInfo then scr else s.lastScr }

/-- The part of `_uvc_process_payload` that reads the header. -/
def readHeader (s : StreamAssembly) (memory : Nat → UInt8) (headerLen : Nat)
    (headerInfo : UInt8) : StreamAssembly :=
  let s := (s.beginFrame (headerInfo &&& 1)).setClocks headerInfo (dwToInt memory 2)
    (dwToInt memory (scrOffset headerInfo))
  if headerLen > metadataOffset headerInfo then
    s.appendMetadata
      (Bytes.slice memory (metadataOffset headerInfo) (headerLen - metadataOffset headerInfo))
  else s

/-- The part of `_uvc_process_payload` that copies the image. -/
def readData (s : StreamAssembly) (data : List UInt8) (headerInfo : UInt8) : StreamAssembly :=
  if data.length > 0 then
    let s := s.appendData data
    if isEof headerInfo then s.swapBuffers else s
  else s

/-- The magic bytes of an iSight camera stand at an offset. -/
def isightTagAt (memory : Nat → UInt8) (offset : Nat) : Bool :=
  Bytes.slice memory offset isightTag.length == isightTag

/-- The payload of an iSight camera that has no header. -/
def withoutHeader (s : StreamAssembly) (payload : UvcPayload) : Bool :=
  s.isIsight && (payload.length < 14 || !isightTagAt payload.memory 2) &&
    (payload.length < 15 || !isightTagAt payload.memory 3)

/-- `_uvc_process_payload` -/
def processPayload (s : StreamAssembly) (payload : UvcPayload) : StreamAssembly :=
  if payload.length = 0 then s
  else if s.withoutHeader payload then
    s.readData (Bytes.slice payload.memory 0 payload.length) 0
  else
    let headerLen := (payload.memory 0).toNat
    if headerLen > payload.length then s
    else
      let dataLen := if s.isIsight then 0 else payload.length - headerLen
      let data := Bytes.slice payload.memory headerLen dataLen
      if headerLen < 2 then s.readData data 0
      else
        let headerInfo := payload.memory 1
        if isError headerInfo then s
        else (s.readHeader payload.memory headerLen headerInfo).readData data headerInfo

/-- The payloads of a stream, one after the other. -/
def processPayloads (s : StreamAssembly) (payloads : List UvcPayload) : StreamAssembly :=
  payloads.foldl processPayload s

/-! ## What is ignored -/

/-- An empty payload, one that is shorter than its header, and one with the error bit. -/
def Ignored (payload : UvcPayload) : Prop :=
  payload.length = 0 ∨ payload.length < (payload.memory 0).toNat ∨
    (2 ≤ (payload.memory 0).toNat ∧ isError (payload.memory 1) = true)

instance (payload : UvcPayload) : Decidable (Ignored payload) :=
  inferInstanceAs (Decidable (_ ∨ _ ∨ _ ∧ _))

/-- A payload that is ignored changes nothing, unless the camera is an iSight. -/
theorem processPayload_ignored {s : StreamAssembly} {payload : UvcPayload}
    (hs : s.isIsight = false) (h : Ignored payload) : s.processPayload payload = s := by
  have hheader : s.withoutHeader payload = false := by simp [withoutHeader, hs]
  simp only [processPayload, hheader, Bool.false_eq_true, if_false]
  split
  · rfl
  next hlength =>
    split
    · rfl
    next hle =>
      split
      next hlt =>
        obtain h | h | h := h
        · exact absurd h hlength
        · exact absurd h hle
        · omega
      · split
        · rfl
        next herror =>
          obtain h | h | h := h
          · exact absurd h hlength
          · exact absurd h hle
          · exact absurd h.2 herror

end StreamAssembly

end ZsaSdk
