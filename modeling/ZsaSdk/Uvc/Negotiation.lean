import ZsaSdk.Lib.Search
import ZsaSdk.Uvc.Descriptors

/-!
# Negotiation of a video stream

The part of libuvc's `stream.c` that agrees with the camera on a format.
`uvc_get_stream_ctrl_format_size` looks for a frame of the wanted size in a format of the wanted
kind, asks the camera for the largest values at each one, and probes the first one that has the
wanted frame rate.

*The camera.*  What libusb and the camera answer is a state machine of its own (`LibusbHandle`).
Nothing is assumed about it here.  `UvcSession.sent` records the control transfers.

*Division.*  A frame rate of zero and a step of zero are divided by if the intervals of a frame are
a range; the outcome is `crash`.
-/

namespace ZsaSdk

/-! ## Formats -/

/-- `enum uvc_frame_format`, where `UVC_FRAME_FORMAT_UNKNOWN` is `UVC_FRAME_FORMAT_ANY`. -/
inductive UvcFrameFormat where
  | any
  | uncompressed
  | compressed
  | yuyv
  | uyvy
  | rgb
  | bgr
  | mjpeg
  | gray8
  | gray16
  | by8
  | ba81
  | sgrbg8
  | sgbrg8
  | srggb8
  | sbggr8
  | nv12
deriving DecidableEq, Repr

/-- `struct format_table_entry` -/
structure FormatTableEntry where
  abstractFmt : UInt8
  guid : List UInt8
  children : List UvcFrameFormat

/-- A GUID that begins with a four-character code. -/
def fourccGuid (fourcc : List UInt8) : List UInt8 :=
  fourcc ++ [0x00, 0x00, 0x10, 0x00, 0x80, 0x00, 0x00, 0xaa, 0x00, 0x38, 0x9b, 0x71]

/-- `ABS_FMT`, which leaves `abstract_fmt` zero. -/
def absFmt (children : List UvcFrameFormat) : FormatTableEntry :=
  ⟨0, List.replicate 16 0, children⟩

/-- `FMT` -/
def fmt (guid : List UInt8) : FormatTableEntry := ⟨0, guid, []⟩

/-- `_get_format_entry` -/
def getFormatEntry : UvcFrameFormat → Option FormatTableEntry
  | .any => some (absFmt [.uncompressed, .compressed])
  | .uncompressed => some (absFmt [.yuyv, .uyvy, .gray8, .gray16, .nv12])
  | .yuyv => some (fmt (fourccGuid [0x59, 0x55, 0x59, 0x32]))
  | .uyvy => some (fmt (fourccGuid [0x55, 0x59, 0x56, 0x59]))
  | .gray8 => some (fmt (fourccGuid [0x59, 0x38, 0x30, 0x30]))
  | .gray16 => some (fmt (fourccGuid [0x59, 0x31, 0x36, 0x20]))
  | .nv12 => some (fmt (fourccGuid [0x4e, 0x56, 0x31, 0x32]))
  | .by8 => some (fmt (fourccGuid [0x42, 0x59, 0x38, 0x20]))
  | .ba81 => some (fmt (fourccGuid [0x42, 0x41, 0x38, 0x31]))
  | .sgrbg8 => some (fmt (fourccGuid [0x47, 0x52, 0x42, 0x47]))
  | .sgbrg8 => some (fmt (fourccGuid [0x47, 0x42, 0x52, 0x47]))
  | .srggb8 => some (fmt (fourccGuid [0x52, 0x47, 0x47, 0x42]))
  | .sbggr8 => some (fmt (fourccGuid [0x42, 0x47, 0x47, 0x52]))
  | .compressed => some (absFmt [.mjpeg])
  | .mjpeg => some (fmt mjpgFourcc)
  | .rgb | .bgr => none

/-- How deep the table goes below a format. -/
def UvcFrameFormat.depth : UvcFrameFormat → Nat
  | .any => 2
  | .uncompressed | .compressed => 1
  | _ => 0

theorem depth_child {format child : UvcFrameFormat} {entry : FormatTableEntry}
    (h : getFormatEntry format = some entry) (hchild : child ∈ entry.children) :
    child.depth < format.depth := by
  revert hchild
  cases format <;> cases h <;> cases child <;> decide

/-- `_uvc_frame_format_matches_guid` -/
def frameFormatMatchesGuid (format : UvcFrameFormat) (guid : List UInt8) : Bool :=
  match _h : getFormatEntry format with
  | none => false
  | some entry =>
      (entry.abstractFmt == 0 && guid == entry.guid) ||
        entry.children.attach.any fun child => frameFormatMatchesGuid child.1 guid
termination_by format.depth
decreasing_by exact depth_child _h child.2

/-! ## The control block -/

/-- `uvc_stream_ctrl_t` -/
structure UvcStreamCtrl where
  bmHint : UInt16
  bFormatIndex : UInt8
  bFrameIndex : UInt8
  dwFrameInterval : UInt32
  wKeyFrameRate : UInt16
  wPFrameRate : UInt16
  wCompQuality : UInt16
  wCompWindowSize : UInt16
  wDelay : UInt16
  dwMaxVideoFrameSize : UInt32
  dwMaxPayloadTransferSize : UInt32
  dwClockFrequency : UInt32
  bmFramingInfo : UInt8
  bPreferredVersion : UInt8
  bMinVersion : UInt8
  bMaxVersion : UInt8
  bInterfaceNumber : UInt8
deriving DecidableEq, Repr

/-- The fields of `uvc_device_info_t` that are used here: of the control interface the version and
the clock, and the streaming interfaces. -/
structure UvcDeviceInfo where
  bcdUVC : UInt16
  dwClockFrequency : UInt32
  streamIfs : List UvcStreamingInterface

/-- The control block has the fields of version 1.1. -/
def UvcDeviceInfo.long (info : UvcDeviceInfo) : Bool := info.bcdUVC ≥ 0x0110

/-- The buffer of a `SET` transfer. -/
def UvcStreamCtrl.encode (ctrl : UvcStreamCtrl) (long : Bool) : List UInt8 :=
  shortToSw ctrl.bmHint ++ [ctrl.bFormatIndex, ctrl.bFrameIndex] ++ intToDw ctrl.dwFrameInterval ++
    shortToSw ctrl.wKeyFrameRate ++ shortToSw ctrl.wPFrameRate ++ shortToSw ctrl.wCompQuality ++
    shortToSw ctrl.wCompWindowSize ++ shortToSw ctrl.wDelay ++ intToDw ctrl.dwMaxVideoFrameSize ++
    intToDw ctrl.dwMaxPayloadTransferSize ++
    if long then
      intToDw ctrl.dwClockFrequency ++
        [ctrl.bmFramingInfo, ctrl.bPreferredVersion, ctrl.bMinVersion, ctrl.bMaxVersion]
    else []

/-- The fields that are decoded following a `GET` transfer. -/
def UvcStreamCtrl.decode (ctrl : UvcStreamCtrl) (info : UvcDeviceInfo) (buf : Nat → UInt8) :
    UvcStreamCtrl :=
  let ctrl := { ctrl with
    bmHint := swToShort buf 0
    bFormatIndex := buf 2
    bFrameIndex := buf 3
    dwFrameInterval := dwToInt buf 4
    wKeyFrameRate := swToShort buf 8
    wPFrameRate := swToShort buf 10
    wCompQuality := swToShort buf 12
    wCompWindowSize := swToShort buf 14
    wDelay := swToShort buf 16
    dwMaxVideoFrameSize := dwToInt buf 18
    dwMaxPayloadTransferSize := dwToInt buf 22 }
  if info.long then
    { ctrl with
      dwClockFrequency := dwToInt buf 26
      bmFramingInfo := buf 30
      bPreferredVersion := buf 31
      bMinVersion := buf 32
      bMaxVersion := buf 33 }
  else { ctrl with dwClockFrequency := info.dwClockFrequency }

/-- `_uvc_find_frame_desc_stream_if`.  The frame comes with its parent. -/
def UvcStreamingInterface.findFrameDesc (streamIf : UvcStreamingInterface)
    (formatId frameId : UInt8) : Option (UvcFormatDesc × UvcFrameDesc) :=
  streamIf.formatDescs.findSome? fun format =>
    if format.bFormatIndex = formatId then
      (format.frameDescs.find? fun frame => frame.bFrameIndex = frameId).map fun frame =>
        (format, frame)
    else none

/-- `uvc_find_frame_desc` -/
def UvcDeviceInfo.findFrameDesc (info : UvcDeviceInfo) (formatId frameId : UInt8) :
    Option (UvcFormatDesc × UvcFrameDesc) :=
  info.streamIfs.findSome? fun streamIf => streamIf.findFrameDesc formatId frameId

/-- The repair of the block for cameras that do not say how large a frame is. -/
def UvcStreamCtrl.fixUp (ctrl : UvcStreamCtrl) (info : UvcDeviceInfo) : UvcStreamCtrl :=
  if ctrl.dwMaxVideoFrameSize = 0 then
    match info.findFrameDesc ctrl.bFormatIndex ctrl.bFrameIndex with
    | some (_, frame) => { ctrl with dwMaxVideoFrameSize := frame.dwMaxVideoFrameBufferSize }
    | none => ctrl
  else ctrl

/-! ## Transfers -/

/-- `UVC_SET_CUR` -/
def uvcSetCur : UInt8 := 0x01

/-- `UVC_GET_CUR` -/
def uvcGetCur : UInt8 := 0x81

/-- `UVC_GET_MAX` -/
def uvcGetMax : UInt8 := 0x83

/-- `UVC_SUCCESS` -/
def uvcSuccess : Int := 0

/-- `UVC_ERROR_INVALID_MODE` -/
def uvcErrorInvalidMode : Int := -51

/-- `LIBUSB_ERROR_NOT_FOUND` -/
def libusbErrorNotFound : Int := -5

/-- `LIBUSB_ERROR_NOT_SUPPORTED` -/
def libusbErrorNotSupported : Int := -12

/-- The arguments of `libusb_control_transfer`; `data` is what is sent to the device. -/
structure ControlTransfer where
  requestType : UInt8
  request : UInt8
  value : UInt16
  index : UInt16
  data : List UInt8
  length : Nat
deriving DecidableEq, Repr

/-- libusb and the camera behind it: the result of each call, and the bytes that a transfer
receives. -/
structure LibusbHandle (δ : Type) where
  controlTransfer : δ → ControlTransfer → Int × List UInt8 × δ
  detachKernelDriver : δ → UInt8 → Int × δ
  claimInterface : δ → UInt8 → Int × δ
  setInterfaceAltSetting : δ → UInt8 → UInt8 → Int × δ
  releaseInterface : δ → UInt8 → Int × δ
  attachKernelDriver : δ → UInt8 → Int × δ

/-- `uvc_device_handle_t`, as far as it changes here, and the state of the camera. -/
structure UvcSession (δ : Type) where
  device : δ
  claimed : UInt32
  sent : List ControlTransfer
deriving DecidableEq, Repr

variable {δ : Type}

/-- `libusb_control_transfer` -/
def UvcSession.transfer (s : UvcSession δ) (usb : LibusbHandle δ) (t : ControlTransfer) :
    Int × List UInt8 × UvcSession δ :=
  match usb.controlTransfer s.device t with
  | (err, received, device) => (err, received, { s with device := device, sent := s.sent ++ [t] })

/-- `uvc_claim_if` -/
def uvcClaimIf (usb : LibusbHandle δ) (s : UvcSession δ) (idx : UInt8) : Int × UvcSession δ :=
  if s.claimed &&& (1 <<< idx.toUInt32) ≠ 0 then (uvcSuccess, s)
  else
    match usb.detachKernelDriver s.device idx with
    | (ret, device) =>
        let s := { s with device := device }
        if ret = uvcSuccess ∨ ret = libusbErrorNotFound ∨ ret = libusbErrorNotSupported then
          match usb.claimInterface s.device idx with
          | (ret, device) =>
              if ret = 0 then
                (ret, { s with device := device, claimed := s.claimed ||| (1 <<< idx.toUInt32) })
              else (ret, { s with device := device })
        else (ret, s)

/-- `uvc_release_if` -/
def uvcReleaseIf (usb : LibusbHandle δ) (s : UvcSession δ) (idx : UInt8) : Int × UvcSession δ :=
  if s.claimed &&& (1 <<< idx.toUInt32) = 0 then (uvcSuccess, s)
  else
    match usb.setInterfaceAltSetting s.device idx 0 with
    | (_, device) =>
        match usb.releaseInterface device idx with
        | (ret, device) =>
            if ret = uvcSuccess then
              let s := { s with claimed := s.claimed &&& ~~~(1 <<< idx.toUInt32) }
              match usb.attachKernelDriver device idx with
              | (ret, device) =>
                  let s := { s with device := device }
                  if ret = libusbErrorNotFound ∨ ret = libusbErrorNotSupported then (uvcSuccess, s)
                  else (ret, s)
            else (ret, { s with device := device })

/-- The transfer of `uvc_query_stream_ctrl`. -/
def streamCtrlTransfer (info : UvcDeviceInfo) (ctrl : UvcStreamCtrl) (probe : Bool) (req : UInt8) :
    ControlTransfer where
  requestType := if req = uvcSetCur then 0x21 else 0xa1
  request := req
  value := if probe then 0x0100 else 0x0200
  index := ctrl.bInterfaceNumber.toUInt16
  data := if req = uvcSetCur then ctrl.encode info.long else []
  length := if info.long then 34 else 26

/-- `uvc_query_stream_ctrl` -/
def uvcQueryStreamCtrl (usb : LibusbHandle δ) (info : UvcDeviceInfo) (ctrl : UvcStreamCtrl)
    (probe : Bool) (req : UInt8) (s : UvcSession δ) : Int × UvcStreamCtrl × UvcSession δ :=
  let t := streamCtrlTransfer info ctrl probe req
  match s.transfer usb t with
  | (err, received, s) =>
      if err ≤ 0 then (err, ctrl, s)
      else if req = uvcSetCur then (uvcSuccess, ctrl, s)
      else
        -- the buffer was cleared before
        let buf := Bytes.memory (received.take t.length)
        (uvcSuccess, (ctrl.decode info buf).fixUp info, s)

/-- `uvc_probe_stream_ctrl` -/
def uvcProbeStreamCtrl (usb : LibusbHandle δ) (info : UvcDeviceInfo) (ctrl : UvcStreamCtrl)
    (s : UvcSession δ) : Int × UvcStreamCtrl × UvcSession δ :=
  match uvcQueryStreamCtrl usb info ctrl true uvcSetCur s with
  | (_, ctrl, s) =>
      match uvcQueryStreamCtrl usb info ctrl true uvcGetCur s with
      | (_, ctrl, s) => (uvcSuccess, ctrl, s)

/-! ## The search -/

/-- The interval of a frame for a frame rate: one of those listed, or that of the rate itself if it
is in the range.  The first `none` is a division by zero. -/
def UvcFrameDesc.intervalFor (frame : UvcFrameDesc) (fps : Int32) : Option (Option UInt32) :=
  match frame.intervals with
  | some intervals =>
      some ((intervals.takeWhile (· ≠ 0)).find? fun interval =>
        10000000 / interval = fps.toUInt32 || fps = 0)
  | none =>
      if fps = 0 then none
      else
        let interval100ns := ((10000000 : Int32) / fps).toUInt32
        let intervalOffset := interval100ns - frame.dwMinFrameInterval
        if interval100ns ≥ frame.dwMinFrameInterval && interval100ns ≤ frame.dwMaxFrameInterval then
          if intervalOffset = 0 then some (some interval100ns)
          else if frame.dwFrameIntervalStep = 0 then none
          else if intervalOffset % frame.dwFrameIntervalStep = 0 then some (some interval100ns)
          else some none
        else some none

section Search

variable (usb : LibusbHandle δ) (info : UvcDeviceInfo) (fps : Int32)

/-- The body of the innermost loop, for a frame of the wanted size. -/
def tryFrame (streamIf : UvcStreamingInterface) (format : UvcFormatDesc) (frame : UvcFrameDesc)
    (st : UvcStreamCtrl × UvcSession δ) : Search.Verdict × UvcStreamCtrl × UvcSession δ :=
  let ctrl := { st.1 with bInterfaceNumber := streamIf.bInterfaceNumber }
  match uvcClaimIf usb st.2 ctrl.bInterfaceNumber with
  | (_, s) =>
      match uvcQueryStreamCtrl usb info ctrl true uvcGetMax s with
      | (_, ctrl, s) =>
          match frame.intervalFor fps with
          | none => (.crash, ctrl, s)
          | some none => (.miss, ctrl, s)
          | some (some interval) =>
              (.found,
                { ctrl with
                  bmHint := 1
                  bFormatIndex := format.bFormatIndex
                  bFrameIndex := frame.bFrameIndex
                  dwFrameInterval := interval }, s)

/-- The frame has the wanted size. -/
def UvcFrameDesc.hasSize (frame : UvcFrameDesc) (width height : Int) : Bool :=
  !(frame.wWidth.toNat ≠ width || frame.wHeight.toNat ≠ height)

/-- The loops of `uvc_get_stream_ctrl_format_size`. -/
def searchFormatSize (cf : UvcFrameFormat) (width height : Int)
    (st : UvcStreamCtrl × UvcSession δ) : Search.Verdict × UvcStreamCtrl × UvcSession δ :=
  Search.search (fun streamIf st =>
    Search.search (fun format st =>
      if frameFormatMatchesGuid cf format.guidFormat then
        Search.search (fun frame st =>
          if frame.hasSize width height then tryFrame usb info fps streamIf format frame st
          else (.miss, st)) format.frameDescs st
      else (.miss, st)) streamIf.formatDescs st) info.streamIfs st

/-- `uvc_get_stream_ctrl_format_size`.  `none` is a division by zero. -/
def uvcGetStreamCtrlFormatSize (ctrl : UvcStreamCtrl) (cf : UvcFrameFormat) (width height : Int)
    (s : UvcSession δ) : Option (Int × UvcStreamCtrl × UvcSession δ) :=
  match searchFormatSize usb info fps cf width height (ctrl, s) with
  | (.crash, _) => none
  | (.miss, ctrl, s) => some (uvcErrorInvalidMode, ctrl, s)
  | (.found, ctrl, s) => some (uvcProbeStreamCtrl usb info ctrl s)

end Search

end ZsaSdk
