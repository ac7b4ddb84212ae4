import ZsaSdk.Uvc.DescriptorBlocks
import ZsaSdk.Uvc.FormatSearch

/-!
# From the wanted format to the stream

`uvc_stream_open_ctrl` commits the control block that was negotiated, and `uvc_stream_start` looks
up its frame and prepares the transfers: their alternate setting, the size of a packet and the
number of packets.  What happens to the transfers after that is left out here.

A camera that keeps what it is asked for (`LibusbHandle.Keeps`) answers a probe with the block that
was probed.  Then the stream that is started has the size that was asked for
(`stream_of_negotiated`).
-/

namespace ZsaSdk

variable {δ : Type}

/-! ## Opening a stream -/

/-- `UVC_ERROR_INVALID_PARAM` -/
def uvcErrorInvalidParam : Int := -2

/-- `UVC_ERROR_BUSY` -/
def uvcErrorBusy : Int := -6

/-- `UVC_ERROR_NOT_SUPPORTED` -/
def uvcErrorNotSupported : Int := -12

/-- The fields of `uvc_stream_handle_t` that are set when a stream is opened. -/
structure UvcOpenStream where
  streamIf : UvcStreamingInterface
  curCtrl : UvcStreamCtrl
  running : Bool
deriving DecidableEq, Repr

/-- The block of a stream that has just been allocated. -/
def UvcStreamCtrl.zero : UvcStreamCtrl := ⟨0, 0, 0, 0, 0, 0, 0, 0, 0, 0, 0, 0, 0, 0, 0, 0, 0⟩

/-- `uvc_stream_ctrl` -/
def uvcStreamCtrl (usb : LibusbHandle δ) (info : UvcDeviceInfo) (strmh : UvcOpenStream)
    (ctrl : UvcStreamCtrl) (s : UvcSession δ) : Int × UvcOpenStream × UvcSession δ :=
  if strmh.streamIf.bInterfaceNumber ≠ ctrl.bInterfaceNumber then (uvcErrorInvalidParam, strmh, s)
  else if strmh.running then (uvcErrorBusy, strmh, s)
  else
    match uvcQueryStreamCtrl usb info ctrl false uvcSetCur s with
    | (ret, ctrl, s) =>
        if ret ≠ uvcSuccess then (ret, strmh, s)
        else (uvcSuccess, { strmh with curCtrl := ctrl }, s)

/-- `uvc_stream_open_ctrl`, for the streams that are open.  The allocation does not fail. -/
def uvcStreamOpenCtrl (usb : LibusbHandle δ) (info : UvcDeviceInfo) (streams : List UvcOpenStream)
    (ctrl : UvcStreamCtrl) (s : UvcSession δ) : Int × Option UvcOpenStream × UvcSession δ :=
  -- _uvc_get_stream_by_interface
  if streams.any fun strmh => strmh.streamIf.bInterfaceNumber = ctrl.bInterfaceNumber then
    (uvcErrorBusy, none, s)
  else
    -- _uvc_get_stream_if
    match info.streamIfs.find? fun streamIf =>
      streamIf.bInterfaceNumber = ctrl.bInterfaceNumber with
    | none => (uvcErrorInvalidParam, none, s)
    | some streamIf =>
        match uvcClaimIf usb s streamIf.bInterfaceNumber with
        | (ret, s) =>
            if ret ≠ uvcSuccess then (ret, none, s)
            else
              match uvcStreamCtrl usb info ⟨streamIf, .zero, false⟩ ctrl s with
              | (ret, strmh, s) =>
                  if ret ≠ uvcSuccess then (ret, none, s) else (uvcSuccess, some strmh, s)

/-! ## Starting a stream -/

/-- `struct libusb_endpoint_descriptor`, with `wBytesPerInterval` of its companion if it has one. -/
structure UsbEndpoint where
  bEndpointAddress : UInt8
  wMaxPacketSize : UInt16
  wBytesPerInterval : Option UInt16
deriving DecidableEq, Repr

/-- `struct libusb_interface_descriptor` of an alternate setting. -/
structure UsbAltSetting where
  bInterfaceNumber : UInt8
  bAlternateSetting : UInt8
  endpoints : List UsbEndpoint
deriving DecidableEq, Repr

/-- The loop over the endpoints of an alternate setting: the bytes in a packet of the endpoint of
the interface, or of the first endpoint with a companion. -/
def endpointBytesPerPacket (bEndpointAddress : UInt8) : List UsbEndpoint → Nat
  | [] => 0
  | endpoint :: endpoints =>
      match endpoint.wBytesPerInterval with
      | some bytes => bytes.toNat
      | none =>
          if endpoint.bEndpointAddress = bEndpointAddress then
            (endpoint.wMaxPacketSize &&& 0x07ff).toNat *
              (((endpoint.wMaxPacketSize >>> 11) &&& 3).toNat + 1)
          else endpointBytesPerPacket bEndpointAddress endpoints

/-- The enumeration in its order, up to `UVC_FRAME_FORMAT_COUNT`. -/
def uvcFrameFormats : List UvcFrameFormat :=
  [.any, .uncompressed, .compressed, .yuyv, .uyvy, .rgb, .bgr, .mjpeg, .gray8, .gray16, .by8,
    .ba81, .sgrbg8, .sgbrg8, .srggb8, .sbggr8, .nv12]

/-- `uvc_frame_format_for_guid` -/
def frameFormatForGuid (guid : List UInt8) : UvcFrameFormat :=
  (uvcFrameFormats.find? fun format =>
    match getFormatEntry format with
    | none => false
    | some entry => entry.abstractFmt == 0 && entry.guid == guid).getD .any

/-- The packets of an isochronous stream. -/
structure UvcPackets where
  altSetting : UsbAltSetting
  bytesPerPacket : Nat
  packetsPerTransfer : Nat
deriving DecidableEq, Repr

/-- What `uvc_stream_start` has found out before it allocates the transfers. -/
structure UvcStreamSetup where
  format : UvcFormatDesc
  frame : UvcFrameDesc
  frameFormat : UvcFrameFormat
  packets : Option UvcPackets
  totalTransferSize : Nat
deriving DecidableEq, Repr

/-- The packets of an alternate setting.  `none` is a division by zero. -/
def packetsOf (altSetting : UsbAltSetting) (bytes dwMaxVideoFrameSize : Nat) : Option UvcPackets :=
  if bytes = 0 then none
  else some ⟨altSetting, bytes, min ((dwMaxVideoFrameSize + bytes - 1) / bytes) 32⟩

/-- `uvc_stream_start`, up to the transfers, for the alternate settings of the interfaces. -/
def uvcStreamStart (usb : LibusbHandle δ) (config : UInt8 → List UsbAltSetting)
    (strmh : UvcOpenStream) (s : UvcSession δ) :
    Option (Int × Option UvcStreamSetup × UvcSession δ) :=
  let ctrl := strmh.curCtrl
  if strmh.running then some (uvcErrorBusy, none, s)
  else
    match strmh.streamIf.findFrameDesc ctrl.bFormatIndex ctrl.bFrameIndex with
    | none => some (uvcErrorInvalidParam, none, s)
    | some (format, frame) =>
        let frameFormat := frameFormatForGuid format.guidFormat
        if frameFormat = .any then some (uvcErrorNotSupported, none, s)
        else
          let altSettings := config strmh.streamIf.bInterfaceNumber
          if altSettings.length > 1 then
            let bytesOf := fun (altSetting : UsbAltSetting) =>
              endpointBytesPerPacket strmh.streamIf.bEndpointAddress altSetting.endpoints
            match altSettings.find? fun altSetting =>
                ctrl.dwMaxPayloadTransferSize.toNat ≤ bytesOf altSetting with
            | none => some (uvcErrorInvalidMode, none, s)
            | some altSetting =>
                match packetsOf altSetting (bytesOf altSetting) ctrl.dwMaxVideoFrameSize.toNat with
                | none => none
                | some packets =>
                    match usb.setInterfaceAltSetting s.device altSetting.bInterfaceNumber
                        altSetting.bAlternateSetting with
                    | (ret, device) =>
                        let s := { s with device := device }
                        if ret ≠ uvcSuccess then some (ret, none, s)
                        else some (uvcSuccess, some
                          ⟨format, frame, frameFormat, some packets,
                            packets.packetsPerTransfer * packets.bytesPerPacket⟩, s)
          else some (uvcSuccess, some
            ⟨format, frame, frameFormat, none, ctrl.dwMaxPayloadTransferSize.toNat⟩, s)

/-- `uvc_start_streaming`.  A stream that does not start is closed again. -/
def uvcStartStreaming (usb : LibusbHandle δ) (info : UvcDeviceInfo)
    (config : UInt8 → List UsbAltSetting) (streams : List UvcOpenStream) (ctrl : UvcStreamCtrl)
    (s : UvcSession δ) : Option (Int × Option (UvcOpenStream × UvcStreamSetup) × UvcSession δ) :=
  match uvcStreamOpenCtrl usb info streams ctrl s with
  | (ret, none, s) => some (ret, none, s)
  | (_, some strmh, s) =>
      match uvcStreamStart usb config strmh s with
      | none => none
      | some (_, some setup, s) =>
          some (uvcSuccess, some ({ strmh with running := true }, setup), s)
      | some (ret, none, s) =>
          match uvcReleaseIf usb s strmh.streamIf.bInterfaceNumber with
          | (_, s) => some (ret, none, s)

/-! ## The control block -/

theorem length_streamCtrl (ctrl : UvcStreamCtrl) (long : Bool) :
    (ctrl.encode long).length = if long then 34 else 26 := by
  unfold UvcStreamCtrl.encode
  cases long <;> simp

/-- A block that is sent and received again. -/
theorem decode_encode (ctrl : UvcStreamCtrl) (info : UvcDeviceInfo) :
    ctrl.decode info (Bytes.memory (ctrl.encode info.long)) =
      if info.long then ctrl else { ctrl with dwClockFrequency := info.dwClockFrequency } := by
  have hold := Bytes.holds_memory (ctrl.encode info.long)
  generalize Bytes.memory (ctrl.encode info.long) = buf at hold ⊢
  unfold UvcStreamCtrl.decode
  cases hlong : info.long with
  | true =>
      simp only [hlong, UvcStreamCtrl.encode, if_true, Bytes.holds_append, Bytes.holds_cons,
        List.cons_append, List.nil_append, List.append_assoc, length_shortToSw, length_intToDw,
        Nat.zero_add, Nat.reduceAdd] at hold
      obtain ⟨hhint, hformat, hframe, hinterval, hkey, hp, hquality, hwindow, hdelay, hsize,
        hpayload, hclock, hframing, hpreferred, hmin, hmax, -⟩ := hold
      simp only [swToShort_of_holds hhint, hformat, hframe, dwToInt_of_holds hinterval,
        swToShort_of_holds hkey, swToShort_of_holds hp, swToShort_of_holds hquality,
        swToShort_of_holds hwindow, swToShort_of_holds hdelay, dwToInt_of_holds hsize,
        dwToInt_of_holds hpayload, dwToInt_of_holds hclock, hframing, hpreferred, hmin, hmax,
        if_true]
  | false =>
      simp only [hlong, UvcStreamCtrl.encode, Bool.false_eq_true, if_false, Bytes.holds_append,
        Bytes.holds_cons, List.cons_append, List.nil_append, List.append_assoc, length_shortToSw,
        length_intToDw, Nat.zero_add, Nat.reduceAdd] at hold
      obtain ⟨hhint, hformat, hframe, hinterval, hkey, hp, hquality, hwindow, hdelay, hsize,
        hpayload, -⟩ := hold
      simp only [swToShort_of_holds hhint, hformat, hframe, dwToInt_of_holds hinterval,
        swToShort_of_holds hkey, swToShort_of_holds hp, swToShort_of_holds hquality,
        swToShort_of_holds hwindow, swToShort_of_holds hdelay, dwToInt_of_holds hsize,
        dwToInt_of_holds hpayload, Bool.false_eq_true, if_false]

/-! ## A camera that keeps what it is asked for -/

/-- The camera answers with the block that was set before. -/
structure LibusbHandle.Keeps (usb : LibusbHandle δ) (info : UvcDeviceInfo) : Prop where
  answer : ∀ device bInterfaceNumber data, data.length = (if info.long then 34 else 26) →
    ∃ device', usb.controlTransfer
      (usb.controlTransfer device (probeSet info bInterfaceNumber data)).2.2
      (probeGet info uvcGetCur bInterfaceNumber) = ((data.length : Int), data, device')

/-- The frames, formats and interfaces that libuvc finds by their numbers have different ones. -/
structure UvcDeviceInfo.Distinct (info : UvcDeviceInfo) : Prop where
  interfaces : ∀ i ∈ info.streamIfs, ∀ j ∈ info.streamIfs,
    i.bInterfaceNumber = j.bInterfaceNumber → i = j
  formats : ∀ i ∈ info.streamIfs, ∀ f ∈ i.formatDescs, ∀ g ∈ i.formatDescs,
    f.bFormatIndex = g.bFormatIndex → f = g
  frames : ∀ i ∈ info.streamIfs, ∀ f ∈ i.formatDescs, ∀ d ∈ f.frameDescs, ∀ e ∈ f.frameDescs,
    d.bFrameIndex = e.bFrameIndex → d = e

variable {info : UvcDeviceInfo} {c : FrameCandidate} {interval : UInt32}

/-- A frame is found by its numbers. -/
theorem findFrameDesc_of_distinct (h : info.Distinct) (hif : c.streamIf ∈ info.streamIfs)
    (hformat : c.format ∈ c.streamIf.formatDescs) (hframe : c.frame ∈ c.format.frameDescs) :
    c.streamIf.findFrameDesc c.format.bFormatIndex c.frame.bFrameIndex =
      some (c.format, c.frame) := by
  have hfound : c.format.frameDescs.find? (fun frame => frame.bFrameIndex = c.frame.bFrameIndex) =
      some c.frame := by
    refine Search.find?_of_unique hframe (by simp) ?_
    intro frame hmem heq
    exact h.frames c.streamIf hif c.format hformat frame hmem c.frame hframe (by simpa using heq)
  refine Search.findSome?_of_unique hformat (by simp [hfound]) ?_
  intro format hmem b hb
  split at hb
  · next heq =>
      obtain rfl := h.formats c.streamIf hif format hmem c.format hformat heq
      rw [hfound] at hb
      exact (Option.some.inj hb).symm
  · cases hb

/-- An interface is found by its number. -/
theorem find_streamIf_of_distinct (h : info.Distinct) (hif : c.streamIf ∈ info.streamIfs) :
    info.streamIfs.find? (fun streamIf =>
      streamIf.bInterfaceNumber = c.streamIf.bInterfaceNumber) = some c.streamIf := by
  refine Search.find?_of_unique hif (by simp) ?_
  intro streamIf hmem heq
  exact h.interfaces streamIf hmem c.streamIf hif (by simpa using heq)

theorem names_fixUp {ctrl : UvcStreamCtrl} (h : ctrl.Names c interval) :
    (ctrl.fixUp info).Names c interval := by
  unfold UvcStreamCtrl.fixUp
  split
  · split
    · exact ⟨h.hint, h.format, h.frame, h.interval, h.interface⟩
    · exact h
  · exact h

section Keeps

variable {usb : LibusbHandle δ} {ctrl : UvcStreamCtrl} {s : UvcSession δ}

theorem device_query (probe : Bool) (req : UInt8) :
    (uvcQueryStreamCtrl usb info ctrl probe req s).2.2.device =
      (usb.controlTransfer s.device (streamCtrlTransfer info ctrl probe req)).2.2 := by
  unfold uvcQueryStreamCtrl UvcSession.transfer
  dsimp only
  split
  · rfl
  · split <;> rfl

/-- A block is received. -/
theorem ctrl_query_get {received : List UInt8} {device : δ}
    (h : usb.controlTransfer s.device (probeGet info uvcGetCur ctrl.bInterfaceNumber) =
      ((received.length : Int), received, device))
    (hlength : received.length = if info.long then 34 else 26) :
    (uvcQueryStreamCtrl usb info ctrl true uvcGetCur s).2.1 =
      (ctrl.decode info (Bytes.memory received)).fixUp info := by
  have hpos : ¬(received.length : Int) ≤ 0 := by
    rw [hlength]
    split <;> decide
  have htake : received.take (streamCtrlTransfer info ctrl true uvcGetCur).length = received :=
    List.take_of_length_le (Nat.le_of_eq hlength)
  have hget : streamCtrlTransfer info ctrl true uvcGetCur =
      probeGet info uvcGetCur ctrl.bInterfaceNumber := rfl
  have hreq : uvcGetCur ≠ uvcSetCur := by decide
  rw [hget] at htake
  simp only [uvcQueryStreamCtrl, UvcSession.transfer, hget, h, if_neg hpos, if_neg hreq, htake]

/-- The answer of such a camera to a probe names the frame that was probed. -/
theorem names_probe (hkeeps : usb.Keeps info) (h : ctrl.Names c interval) :
    (uvcProbeStreamCtrl usb info ctrl s).2.1.Names c interval := by
  obtain ⟨device, hanswer⟩ := hkeeps.answer s.device ctrl.bInterfaceNumber (ctrl.encode info.long)
    (length_streamCtrl ctrl info.long)
  have hset : (uvcQueryStreamCtrl usb info ctrl true uvcSetCur s).2.2.device =
      (usb.controlTransfer s.device
        (probeSet info ctrl.bInterfaceNumber (ctrl.encode info.long))).2.2 :=
    device_query true uvcSetCur
  rw [← hset] at hanswer
  have hctrl : (uvcProbeStreamCtrl usb info ctrl s).2.1 =
      (ctrl.decode info (Bytes.memory (ctrl.encode info.long))).fixUp info := by
    rw [← ctrl_query_get hanswer (length_streamCtrl ctrl info.long)]
    unfold uvcProbeStreamCtrl
    dsimp only
    rw [ctrl_query_set]
  rw [hctrl, decode_encode]
  apply names_fixUp
  split
  · exact h
  · exact ⟨h.hint, h.format, h.frame, h.interval, h.interface⟩

end Keeps

/-! ## The stream -/

section Open

variable {usb : LibusbHandle δ} {ctrl : UvcStreamCtrl} {s s' : UvcSession δ}

theorem stream_ctrl_succeeded {strmh strmh' : UvcOpenStream}
    (h : uvcStreamCtrl usb info strmh ctrl s = (uvcSuccess, strmh', s')) :
    strmh' = { strmh with curCtrl := ctrl } ∧ strmh.running = false ∧
      s'.sent = s.sent ++ [streamCtrlTransfer info ctrl false uvcSetCur] := by
  have hsent := sent_query usb info ctrl s false uvcSetCur
  have hctrl := ctrl_query_set usb info ctrl s false
  unfold uvcStreamCtrl at h
  split at h
  · exact absurd (Prod.mk.inj h).1 (by decide)
  · split at h
    · exact absurd (Prod.mk.inj h).1 (by decide)
    · next hrunning =>
        rcases hquery : uvcQueryStreamCtrl usb info ctrl false uvcSetCur s with ⟨ret, ctrl', t⟩
        rw [hquery] at h hsent hctrl
        dsimp only at h hsent hctrl
        split at h
        · next hret => exact absurd (Prod.mk.inj h).1 hret
        · obtain ⟨-, hstrmh, ht⟩ := by simpa only [Prod.mk.injEq] using h
          rw [← hstrmh, ← ht, hctrl]
          exact ⟨rfl, by simpa using hrunning, hsent⟩

/-- The stream that was opened is on the interface of its block, which is the block that was
committed. -/
theorem open_succeeded {streams : List UvcOpenStream} {strmh : UvcOpenStream} {ret : Int}
    (h : uvcStreamOpenCtrl usb info streams ctrl s = (ret, some strmh, s')) :
    info.streamIfs.find? (fun streamIf => streamIf.bInterfaceNumber = ctrl.bInterfaceNumber) =
      some strmh.streamIf ∧ strmh.curCtrl = ctrl ∧
      s'.sent = s.sent ++ [streamCtrlTransfer info ctrl false uvcSetCur] := by
  unfold uvcStreamOpenCtrl at h
  split at h
  · cases (Prod.mk.inj (Prod.mk.inj h).2).1
  · cases hfind : info.streamIfs.find? fun streamIf =>
        streamIf.bInterfaceNumber = ctrl.bInterfaceNumber with
    | none =>
        rw [hfind] at h
        cases (Prod.mk.inj (Prod.mk.inj h).2).1
    | some streamIf =>
        have hclaim := sent_uvcClaimIf usb s streamIf.bInterfaceNumber
        rcases hclaimed : uvcClaimIf usb s streamIf.bInterfaceNumber with ⟨ret, t⟩
        simp only [hfind, hclaimed] at h hclaim
        split at h
        · cases (Prod.mk.inj (Prod.mk.inj h).2).1
        · rcases hctrl : uvcStreamCtrl usb info ⟨streamIf, .zero, false⟩ ctrl t with
            ⟨ret', strmh', t'⟩
          rw [hctrl] at h
          dsimp only at h
          split at h
          · cases (Prod.mk.inj (Prod.mk.inj h).2).1
          · next hret =>
              obtain rfl : ret' = uvcSuccess := not_not.mp hret
              obtain ⟨hstrmh, -, hsent⟩ := stream_ctrl_succeeded hctrl
              obtain ⟨-, hsome, ht⟩ := by simpa only [Prod.mk.injEq] using h
              rw [← ht, ← Option.some.inj hsome, hstrmh, hsent, hclaim]
              exact ⟨rfl, rfl, rfl⟩

end Open

/-- The transfers take what the camera may send. -/
structure UvcStreamSetup.Fits (setup : UvcStreamSetup) (ctrl : UvcStreamCtrl) : Prop where
  /-- A bulk transfer is as large as a payload. -/
  bulk : setup.packets = none → setup.totalTransferSize = ctrl.dwMaxPayloadTransferSize.toNat
  /-- A packet is as large as a payload, and a transfer is some packets: as many as a frame needs,
  unless these are more than 32. -/
  isochronous : ∀ packets, setup.packets = some packets →
    ctrl.dwMaxPayloadTransferSize.toNat ≤ packets.bytesPerPacket ∧
      setup.totalTransferSize = packets.packetsPerTransfer * packets.bytesPerPacket ∧
      (packets.packetsPerTransfer = 32 ∨
        packets.packetsPerTransfer < 32 ∧
          ctrl.dwMaxVideoFrameSize.toNat ≤ setup.totalTransferSize ∧
          setup.totalTransferSize < ctrl.dwMaxVideoFrameSize.toNat + packets.bytesPerPacket)

theorem packetsOf_eq_some {altSetting : UsbAltSetting} {bytes dwMaxVideoFrameSize : Nat}
    {packets : UvcPackets} (h : packetsOf altSetting bytes dwMaxVideoFrameSize = some packets) :
    packets.bytesPerPacket = bytes ∧
      (packets.packetsPerTransfer = 32 ∨
        packets.packetsPerTransfer < 32 ∧
          dwMaxVideoFrameSize ≤ packets.packetsPerTransfer * bytes ∧
          packets.packetsPerTransfer * bytes < dwMaxVideoFrameSize + bytes) := by
  unfold packetsOf at h
  split at h
  · cases h
  · next hbytes =>
      obtain rfl := Option.some.inj h
      refine ⟨rfl, ?_⟩
      have hpos : 0 < bytes := Nat.pos_of_ne_zero hbytes
      have hle := Nat.div_mul_le_self (dwMaxVideoFrameSize + bytes - 1) bytes
      have hlt := Nat.lt_mul_div_succ (dwMaxVideoFrameSize + bytes - 1) hpos
      rw [Nat.mul_succ, Nat.mul_comm] at hlt
      dsimp only
      rcases Nat.lt_or_ge ((dwMaxVideoFrameSize + bytes - 1) / bytes) 32 with hfew | hmany
      · rw [Nat.min_eq_left (Nat.le_of_lt hfew)]
        exact .inr ⟨hfew, by omega, by omega⟩
      · exact .inl (Nat.min_eq_right hmany)

theorem start_succeeded {usb : LibusbHandle δ} {config : UInt8 → List UsbAltSetting}
    {strmh : UvcOpenStream} {s s' : UvcSession δ} {ret : Int} {setup : UvcStreamSetup}
    (h : uvcStreamStart usb config strmh s = some (ret, some setup, s')) :
    strmh.streamIf.findFrameDesc strmh.curCtrl.bFormatIndex strmh.curCtrl.bFrameIndex =
      some (setup.format, setup.frame) ∧ setup.Fits strmh.curCtrl ∧ s'.sent = s.sent := by
  unfold uvcStreamStart at h
  dsimp only at h
  split at h
  · cases h
  · cases hfind : strmh.streamIf.findFrameDesc strmh.curCtrl.bFormatIndex
        strmh.curCtrl.bFrameIndex with
    | none =>
        simp only [hfind] at h
        cases h
    | some found =>
        simp only [hfind] at h
        split at h
        · cases h
        · split at h
          · cases halt : (config strmh.streamIf.bInterfaceNumber).find? fun altSetting =>
                strmh.curCtrl.dwMaxPayloadTransferSize.toNat ≤
                  endpointBytesPerPacket strmh.streamIf.bEndpointAddress altSetting.endpoints with
            | none =>
                simp only [halt] at h
                cases h
            | some altSetting =>
                have hpayload : strmh.curCtrl.dwMaxPayloadTransferSize.toNat ≤
                    endpointBytesPerPacket strmh.streamIf.bEndpointAddress
                      altSetting.endpoints := by
                  simpa using List.find?_some halt
                simp only [halt] at h
                cases hpackets : packetsOf altSetting
                    (endpointBytesPerPacket strmh.streamIf.bEndpointAddress altSetting.endpoints)
                    strmh.curCtrl.dwMaxVideoFrameSize.toNat with
                | none =>
                    simp only [hpackets] at h
                    cases h
                | some packets =>
                    simp only [hpackets] at h
                    split at h
                    · cases h
                    · obtain ⟨hbytes, hcount⟩ := packetsOf_eq_some hpackets
                      obtain ⟨-, hsetup, hs⟩ := by
                        simpa only [Option.some.injEq, Prod.mk.injEq] using h
                      rw [← hbytes] at hpayload hcount
                      rw [← hsetup, ← hs]
                      refine ⟨rfl, ⟨?_, ?_⟩, rfl⟩
                      · intro hnone
                        cases hnone
                      · intro packets' hpackets'
                        obtain rfl := Option.some.inj hpackets'
                        exact ⟨hpayload, rfl, hcount⟩
          · obtain ⟨-, hsetup, hs⟩ := by simpa only [Option.some.injEq, Prod.mk.injEq] using h
            rw [← hsetup, ← hs]
            refine ⟨rfl, ⟨fun _ => rfl, ?_⟩, rfl⟩
            intro packets hpackets
            cases hpackets

theorem stream_started {usb : LibusbHandle δ} {config : UInt8 → List UsbAltSetting}
    {streams : List UvcOpenStream} {ctrl : UvcStreamCtrl} {s s' : UvcSession δ} {ret : Int}
    {strmh : UvcOpenStream} {setup : UvcStreamSetup}
    (h : uvcStartStreaming usb info config streams ctrl s = some (ret, some (strmh, setup), s')) :
    ∃ opened t ret' ret'', uvcStreamOpenCtrl usb info streams ctrl s = (ret', some opened, t) ∧
      uvcStreamStart usb config opened t = some (ret'', some setup, s') ∧
      strmh = { opened with running := true } := by
  unfold uvcStartStreaming at h
  split at h
  · cases h
  · next ret' opened t hopen =>
      split at h
      · cases h
      · next ret'' setup' t' hstart =>
          obtain ⟨-, ⟨hstrmh, hsetup⟩, hs⟩ := by
            simpa only [Option.some.injEq, Prod.mk.injEq] using h
          rw [← hstrmh, ← hsetup, ← hs]
          exact ⟨opened, t, ret', ret'', hopen, hstart, rfl⟩
      · cases h

/-- If the camera keeps what it is asked for, the block that was negotiated is committed, the stream
that is started has the wanted size, kind and frame rate, and its transfers take what the camera
has announced. -/
theorem stream_of_negotiated {usb : LibusbHandle δ} (hkeeps : usb.Keeps info)
    (hdistinct : info.Distinct) {fps : Int32} {cf : UvcFrameFormat} {width height : Int}
    {ctrl ctrl' : UvcStreamCtrl} {s s₁ s₂ : UvcSession δ}
    (hnegotiated : uvcGetStreamCtrlFormatSize usb info fps ctrl cf width height s =
      some (uvcSuccess, ctrl', s₁))
    {config : UInt8 → List UsbAltSetting} {streams : List UvcOpenStream} {ret : Int}
    {strmh : UvcOpenStream} {setup : UvcStreamSetup}
    (hstarted : uvcStartStreaming usb info config streams ctrl' s₁ =
      some (ret, some (strmh, setup), s₂)) :
    s₂.sent = s₁.sent ++ [streamCtrlTransfer info ctrl' false uvcSetCur] ∧
      (setup.frame.wWidth.toNat = width ∧ setup.frame.wHeight.toNat = height) ∧
      frameFormatMatchesGuid cf setup.format.guidFormat = true ∧
      setup.frame.intervalFor fps = some (some strmh.curCtrl.dwFrameInterval) ∧
      setup.Fits strmh.curCtrl := by
  have hsearch := format_size_negotiated usb info fps ctrl cf width height s
  generalize hcs : candidates info cf width height = cs at hsearch
  generalize hresult : uvcGetStreamCtrlFormatSize usb info fps ctrl cf width height s = result
    at hsearch hnegotiated
  cases hsearch with
  | invalidMode _ _ =>
      exact absurd (Prod.mk.inj (Option.some.inj hnegotiated)).1 (by decide)
  | divided _ _ => cases hnegotiated
  | @probed before c behind interval answer _ t asked _ hinterval hnames _ hanswer =>
      have hmem : c ∈ candidates info cf width height := by
        rw [hcs]
        exact List.mem_append_right before List.mem_cons_self
      obtain ⟨hif, hformat, hguid, hframe, hsize⟩ := mem_candidates.mp hmem
      have hchosen : ctrl'.Names c interval := by
        have hkept := names_probe hkeeps hnames (s := t)
        rw [hanswer] at hkept
        obtain ⟨-, rfl, -⟩ := by simpa only [Option.some.injEq, Prod.mk.injEq] using hnegotiated
        exact hkept
      obtain ⟨opened, _, _, _, hopen, hstart, hstrmh⟩ := stream_started hstarted
      obtain ⟨hstreamIf, hctrl, hsent⟩ := open_succeeded hopen
      obtain ⟨hfound, hfits, hstarted⟩ := start_succeeded hstart
      rw [hchosen.interface, find_streamIf_of_distinct hdistinct hif] at hstreamIf
      rw [← Option.some.inj hstreamIf, hctrl, hchosen.format, hchosen.frame,
        findFrameDesc_of_distinct hdistinct hif hformat hframe] at hfound
      obtain ⟨hsetupFormat, hsetupFrame⟩ := Prod.mk.inj (Option.some.inj hfound)
      have hcur : strmh.curCtrl = opened.curCtrl := by rw [hstrmh]
      rw [← hsetupFormat, ← hsetupFrame, hcur, hctrl, hchosen.interval]
      rw [hctrl] at hfits
      exact ⟨hstarted.trans hsent, hsize, hguid, hinterval, hfits⟩

/-- A camera that remembers the last block that was set. -/
def keepingCamera : LibusbHandle (List UInt8) where
  controlTransfer block t :=
    if t.request = uvcSetCur then ((t.data.length : Int), [], t.data)
    else ((block.length : Int), block, block)
  detachKernelDriver block _ := (libusbErrorNotFound, block)
  claimInterface block _ := (0, block)
  setInterfaceAltSetting block _ _ := (0, block)
  releaseInterface block _ := (0, block)
  attachKernelDriver block _ := (libusbErrorNotFound, block)

/-- The camera with one format of one frame size. -/
def mjpegInfo : UvcDeviceInfo := ⟨0x0110, 0, [mjpegInterface]⟩

/-- Two alternate settings, with 1024 bytes in a packet of the second one. -/
def mjpegConfig (_ : UInt8) : List UsbAltSetting :=
  [⟨1, 0, []⟩, ⟨1, 1, [⟨0x82, 1024, none⟩]⟩]

/-- The block that is probed, if the payload of the caller is 1024 bytes. -/
def mjpegProbed : UvcStreamCtrl :=
  { UvcStreamCtrl.zero with
    bmHint := 1
    bFormatIndex := 1
    bFrameIndex := 1
    dwFrameInterval := 333333
    dwMaxPayloadTransferSize := 1024
    bInterfaceNumber := 1 }

/-- The block that is committed, with the size of a frame from its descriptor. -/
def mjpegCommitted : UvcStreamCtrl := { mjpegProbed with dwMaxVideoFrameSize := 16588800 }

/-- The camera after the negotiation. -/
def mjpegSession : UvcSession (List UInt8) :=
  ⟨mjpegProbed.encode true, 2, [probeGet mjpegInfo uvcGetMax 1,
    probeSet mjpegInfo 1 (mjpegProbed.encode true), probeGet mjpegInfo uvcGetCur 1]⟩

theorem keepingCamera_keeps : keepingCamera.Keeps mjpegInfo :=
  ⟨fun _ _ data _ => ⟨data, rfl⟩⟩

theorem mjpegInfo_distinct : mjpegInfo.Distinct := by
  constructor <;> decide

theorem stream_of_negotiated_mjpeg :
    ∃ setup : UvcStreamSetup, (setup.frame.wWidth.toNat = (3840 : Int) ∧
      setup.frame.wHeight.toNat = (2160 : Int)) ∧ setup.totalTransferSize = 32768 ∧
      setup.Fits mjpegCommitted := by
  have hnegotiated : uvcGetStreamCtrlFormatSize keepingCamera mjpegInfo 30
      { UvcStreamCtrl.zero with dwMaxPayloadTransferSize := 1024 } .mjpeg 3840 2160 ⟨[], 0, []⟩ =
      some (uvcSuccess, mjpegCommitted, mjpegSession) := by decide +kernel
  have hstarted : uvcStartStreaming keepingCamera mjpegInfo mjpegConfig [] mjpegCommitted
      mjpegSession = some (uvcSuccess,
        some (⟨mjpegInterface, mjpegCommitted, true⟩, ⟨mjpegFormat, mjpegFrame, .mjpeg,
          some ⟨⟨1, 1, [⟨0x82, 1024, none⟩]⟩, 1024, 32⟩, 32768⟩),
        ⟨mjpegCommitted.encode true, 2, mjpegSession.sent ++
          [streamCtrlTransfer mjpegInfo mjpegCommitted false uvcSetCur]⟩) := by decide +kernel
  obtain ⟨-, hsize, -, -, hfits⟩ :=
    stream_of_negotiated keepingCamera_keeps mjpegInfo_distinct hnegotiated hstarted
  exact ⟨_, hsize, rfl, hfits⟩

end ZsaSdk
