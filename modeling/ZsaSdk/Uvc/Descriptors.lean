import ZsaSdk.Lib.Blocks
import ZsaSdk.Uvc.Payload

/-!
# Descriptors of a video stream

The part of libuvc's `device.c` that reads what a camera says about its streaming interface.  The
descriptors of the interface are blocks of bytes; `uvc_parse_vs` looks at one of them and
`uvc_scan_streaming` goes through all of them.  A block describes the endpoint, an image format, or
a frame size of the format before it; other blocks are skipped.

The lists of formats and of frames are doubly linked in the source, where `head->prev` is the last
element.  A frame is appended to the last format, so a frame before the first format reads through
a null pointer, which is the outcome `crash` here.

`vsReach` is how far `uvc_parse_vs` reads from the start of a block on.  The size of the block is
not looked at.
-/

namespace ZsaSdk

/-! ## Numbers of two and four bytes -/

/-- `SW_TO_SHORT`.  The width and the height of a frame are computed in the same way. -/
def swToShort (memory : Nat → UInt8) (offset : Nat) : UInt16 :=
  UInt16.ofNat (Bytes.number memory offset 2)

/-- `SHORT_TO_SW` -/
def shortToSw (x : UInt16) : List UInt8 := Bytes.ofNumber 2 x.toNat

/-- `INT_TO_DW` -/
def intToDw (x : UInt32) : List UInt8 := Bytes.ofNumber 4 x.toNat

section Numbers

variable {memory : Nat → UInt8} {o : Nat}

@[simp] theorem length_shortToSw (x : UInt16) : (shortToSw x).length = 2 :=
  Bytes.length_ofNumber 2 _

@[simp] theorem length_intToDw (x : UInt32) : (intToDw x).length = 4 :=
  Bytes.length_ofNumber 4 _

theorem swToShort_of_holds {x : UInt16} (h : Bytes.Holds memory o (shortToSw x)) :
    swToShort memory o = x := by
  have hlt : x.toNat < 256 ^ 2 := x.toNat_lt
  rw [swToShort, Bytes.number_of_holds_ofNumber h, Nat.mod_eq_of_lt hlt, UInt16.ofNat_toNat]

theorem dwToInt_of_holds {x : UInt32} (h : Bytes.Holds memory o (intToDw x)) :
    dwToInt memory o = x := by
  have hlt : x.toNat < 256 ^ 4 := x.toNat_lt
  rw [dwToInt, Bytes.number_of_holds_ofNumber h, Nat.mod_eq_of_lt hlt, UInt32.ofNat_toNat]

end Numbers

/-! ## `enum uvc_vs_desc_subtype` -/

/-- `UVC_VS_INPUT_HEADER` -/
def uvcVsInputHeader : UInt8 := 0x01

/-- `UVC_VS_FORMAT_UNCOMPRESSED` -/
def uvcVsFormatUncompressed : UInt8 := 0x04

/-- `UVC_VS_FRAME_UNCOMPRESSED` -/
def uvcVsFrameUncompressed : UInt8 := 0x05

/-- `UVC_VS_FORMAT_MJPEG` -/
def uvcVsFormatMjpeg : UInt8 := 0x06

/-- `UVC_VS_FRAME_MJPEG` -/
def uvcVsFrameMjpeg : UInt8 := 0x07

/-- `UVC_VS_FORMAT_FRAME_BASED` -/
def uvcVsFormatFrameBased : UInt8 := 0x10

/-- `UVC_VS_FRAME_FRAME_BASED` -/
def uvcVsFrameFrameBased : UInt8 := 0x11

/-! ## The interface -/

/-- `uvc_frame_desc_t`.  `intervals` is zero-terminated, and `NULL` is `none`. -/
structure UvcFrameDesc where
  bDescriptorSubtype : UInt8
  bFrameIndex : UInt8
  bmCapabilities : UInt8
  wWidth : UInt16
  wHeight : UInt16
  dwMinBitRate : UInt32
  dwMaxBitRate : UInt32
  dwMaxVideoFrameBufferSize : UInt32 := 0
  dwDefaultFrameInterval : UInt32
  dwMinFrameInterval : UInt32 := 0
  dwMaxFrameInterval : UInt32 := 0
  dwFrameIntervalStep : UInt32 := 0
  bFrameIntervalType : UInt8
  dwBytesPerLine : UInt32 := 0
  intervals : Option (List UInt32) := none
deriving DecidableEq, Repr

/-- `uvc_format_desc_t`.  `bBitsPerPixel` and `bmFlags` are one byte in the source. -/
structure UvcFormatDesc where
  bDescriptorSubtype : UInt8
  bFormatIndex : UInt8
  bNumFrameDescriptors : UInt8 := 0
  guidFormat : List UInt8
  bBitsPerPixel : UInt8
  bDefaultFrameIndex : UInt8
  bAspectRatioX : UInt8
  bAspectRatioY : UInt8
  bmInterlaceFlags : UInt8
  bCopyProtect : UInt8
  bVariableSize : UInt8 := 0
  frameDescs : List UvcFrameDesc := []
deriving DecidableEq, Repr

/-- `uvc_streaming_interface_t` -/
structure UvcStreamingInterface where
  bInterfaceNumber : UInt8
  formatDescs : List UvcFormatDesc := []
  bEndpointAddress : UInt8 := 0
  bTerminalLink : UInt8 := 0
deriving DecidableEq, Repr

/-- `DL_APPEND(stream_if->format_descs, format)` -/
def UvcStreamingInterface.appendFormat (streamIf : UvcStreamingInterface)
    (format : UvcFormatDesc) : UvcStreamingInterface :=
  { streamIf with formatDescs := streamIf.formatDescs ++ [format] }

/-- `format = stream_if->format_descs->prev`, then `DL_APPEND(format->frame_descs, frame)`. -/
def UvcStreamingInterface.appendFrame (streamIf : UvcStreamingInterface) (frame : UvcFrameDesc) :
    Option UvcStreamingInterface :=
  match streamIf.formatDescs.getLast? with
  | none => none
  | some format =>
      let format := { format with frameDescs := format.frameDescs ++ [frame] }
      some { streamIf with formatDescs := streamIf.formatDescs.dropLast ++ [format] }

/-! ## One block -/

section Parse

variable (memory : Nat → UInt8) (block : Nat)

/-- `uvc_parse_vs_input_header` -/
def uvcParseVsInputHeader (streamIf : UvcStreamingInterface) : UvcStreamingInterface :=
  { streamIf with
    bEndpointAddress := memory (block + 6) &&& 0x8f, bTerminalLink := memory (block + 8) }

/-- `uvc_parse_vs_format_uncompressed` -/
def uvcParseVsFormatUncompressed : UvcFormatDesc :=
  { bDescriptorSubtype := memory (block + 2)
    bFormatIndex := memory (block + 3)
    guidFormat := Bytes.slice memory (block + 5) 16
    bBitsPerPixel := memory (block + 21)
    bDefaultFrameIndex := memory (block + 22)
    bAspectRatioX := memory (block + 23)
    bAspectRatioY := memory (block + 24)
    bmInterlaceFlags := memory (block + 25)
    bCopyProtect := memory (block + 26) }

/-- `uvc_parse_vs_frame_format` -/
def uvcParseVsFrameFormat : UvcFormatDesc :=
  { bDescriptorSubtype := memory (block + 2)
    bFormatIndex := memory (block + 3)
    bNumFrameDescriptors := memory (block + 4)
    guidFormat := Bytes.slice memory (block + 5) 16
    bBitsPerPixel := memory (block + 21)
    bDefaultFrameIndex := memory (block + 22)
    bAspectRatioX := memory (block + 23)
    bAspectRatioY := memory (block + 24)
    bmInterlaceFlags := memory (block + 25)
    bCopyProtect := memory (block + 26)
    bVariableSize := memory (block + 27) }

/-- `"MJPG"`, in the sixteen bytes of `guidFormat`. -/
def mjpgFourcc : List UInt8 := [0x4d, 0x4a, 0x50, 0x47] ++ List.replicate 12 0

/-- `uvc_parse_vs_format_mjpeg`.  The flags are overwritten by the bits per pixel. -/
def uvcParseVsFormatMjpeg : UvcFormatDesc :=
  { bDescriptorSubtype := memory (block + 2)
    bFormatIndex := memory (block + 3)
    guidFormat := mjpgFourcc
    bBitsPerPixel := 0
    bDefaultFrameIndex := memory (block + 6)
    bAspectRatioX := memory (block + 7)
    bAspectRatioY := memory (block + 8)
    bmInterlaceFlags := memory (block + 9)
    bCopyProtect := memory (block + 10) }

/-- The loop `frame->intervals[i] = DW_TO_INT(p); p += 4`. -/
def readIntervals : Nat → Nat → List UInt32
  | _, 0 => []
  | p, n + 1 => dwToInt memory p :: readIntervals (p + 4) n

/-- The end of a frame: a range of intervals if there are none listed, and a list otherwise. -/
def UvcFrameDesc.withIntervals (frame : UvcFrameDesc) : UvcFrameDesc :=
  if frame.bFrameIntervalType = 0 then
    { frame with
      dwMinFrameInterval := dwToInt memory (block + 26)
      dwMaxFrameInterval := dwToInt memory (block + 30)
      dwFrameIntervalStep := dwToInt memory (block + 34) }
  else
    { frame with
      intervals := some (readIntervals memory (block + 26) frame.bFrameIntervalType.toNat ++ [0]) }

/-- `uvc_parse_vs_frame_frame` -/
def uvcParseVsFrameFrame : UvcFrameDesc :=
  UvcFrameDesc.withIntervals memory block
    { bDescriptorSubtype := memory (block + 2)
      bFrameIndex := memory (block + 3)
      bmCapabilities := memory (block + 4)
      wWidth := swToShort memory (block + 5)
      wHeight := swToShort memory (block + 7)
      dwMinBitRate := dwToInt memory (block + 9)
      dwMaxBitRate := dwToInt memory (block + 13)
      dwDefaultFrameInterval := dwToInt memory (block + 17)
      bFrameIntervalType := memory (block + 21)
      dwBytesPerLine := dwToInt memory (block + 22) }

/-- `uvc_parse_vs_frame_uncompressed` -/
def uvcParseVsFrameUncompressed : UvcFrameDesc :=
  UvcFrameDesc.withIntervals memory block
    { bDescriptorSubtype := memory (block + 2)
      bFrameIndex := memory (block + 3)
      bmCapabilities := memory (block + 4)
      wWidth := swToShort memory (block + 5)
      wHeight := swToShort memory (block + 7)
      dwMinBitRate := dwToInt memory (block + 9)
      dwMaxBitRate := dwToInt memory (block + 13)
      dwMaxVideoFrameBufferSize := dwToInt memory (block + 17)
      dwDefaultFrameInterval := dwToInt memory (block + 21)
      bFrameIntervalType := memory (block + 25) }

/-- What `uvc_parse_vs` looks for in a block. -/
inductive VsBlock where
  | inputHeader
  | formatUncompressed
  | formatMjpeg
  | frameUncompressed
  | formatFrameBased
  | frameFrameBased
  /-- The subtypes that are skipped. -/
  | other
deriving DecidableEq, Repr

/-- The cases of `switch (descriptor_subtype)`. -/
def vsBlock (subtype : UInt8) : VsBlock :=
  if subtype = uvcVsInputHeader then .inputHeader
  else if subtype = uvcVsFormatUncompressed then .formatUncompressed
  else if subtype = uvcVsFormatMjpeg then .formatMjpeg
  else if subtype = uvcVsFrameUncompressed || subtype = uvcVsFrameMjpeg then .frameUncompressed
  else if subtype = uvcVsFormatFrameBased then .formatFrameBased
  else if subtype = uvcVsFrameFrameBased then .frameFrameBased
  else .other

/-- A frame that goes to the last format. -/
def frameOutcome (streamIf : UvcStreamingInterface) (frame : UvcFrameDesc) :
    Blocks.Outcome UvcStreamingInterface :=
  match streamIf.appendFrame frame with
  | none => .crash
  | some streamIf => .next streamIf

/-- `uvc_parse_vs`, which always succeeds. -/
def uvcParseVs (streamIf : UvcStreamingInterface) : Blocks.Outcome UvcStreamingInterface :=
  match vsBlock (memory (block + 2)) with
  | .inputHeader => .next (uvcParseVsInputHeader memory block streamIf)
  | .formatUncompressed =>
      .next (streamIf.appendFormat (uvcParseVsFormatUncompressed memory block))
  | .formatMjpeg => .next (streamIf.appendFormat (uvcParseVsFormatMjpeg memory block))
  | .frameUncompressed => frameOutcome streamIf (uvcParseVsFrameUncompressed memory block)
  | .formatFrameBased => .next (streamIf.appendFormat (uvcParseVsFrameFormat memory block))
  | .frameFrameBased => frameOutcome streamIf (uvcParseVsFrameFrame memory block)
  | .other => .next streamIf

/-- The end of a frame block of which `intervalType` says how many intervals it lists. -/
def frameReach (intervalType : UInt8) : Nat :=
  if intervalType = 0 then 38 else 26 + 4 * intervalType.toNat

/-- How far a block is read. -/
def vsReach : Nat :=
  match vsBlock (memory (block + 2)) with
  | .inputHeader => 9
  | .formatUncompressed => 27
  | .formatMjpeg => 11
  | .frameUncompressed => frameReach (memory (block + 25))
  | .formatFrameBased => 28
  | .frameFrameBased => frameReach (memory (block + 21))
  | .other => 3

end Parse

/-! ## All blocks -/

theorem frameReach_pos (intervalType : UInt8) : 0 < frameReach intervalType := by
  unfold frameReach
  split <;> omega

theorem vsReach_pos (memory : Nat → UInt8) (block : Nat) : 0 < vsReach memory block := by
  unfold vsReach
  cases vsBlock (memory (block + 2)) <;> first | exact frameReach_pos _ | exact Nat.succ_pos _

/-- The parser of `uvc_scan_streaming`. -/
def vsParser : Blocks.Parser UvcStreamingInterface where
  parse := uvcParseVs
  reach memory block _ := vsReach memory block
  reach_pos memory block _ := vsReach_pos memory block

/-- `uvc_scan_streaming`, for at most `n` blocks. -/
def uvcScanStreaming (memory : Nat → UInt8) (extraLength : UInt64) (bInterfaceNumber : UInt8)
    (n : Nat) : Blocks.Scan UvcStreamingInterface :=
  Blocks.scan vsParser memory extraLength { bInterfaceNumber := bInterfaceNumber } n

/-! ## What the scan needs -/

/-- The block is a format. -/
def VsBlock.IsFormat : VsBlock → Bool
  | .formatUncompressed | .formatMjpeg | .formatFrameBased => true
  | _ => false

/-- The block is a frame. -/
def VsBlock.IsFrame : VsBlock → Bool
  | .frameUncompressed | .frameFrameBased => true
  | _ => false

/-- The `left` bytes from an offset on are blocks with at most two bytes behind them.  No block is
empty, each one fits, its fields are in the memory, and a frame comes after a format. -/
inductive VsDescriptors (memory : Nat → UInt8) : (seen : Bool) → Nat → Nat → Prop where
  | rest {seen block left} (hleft : left < 3) : VsDescriptors memory seen block left
  | block {seen block left} (hleft : 3 ≤ left) (hsize : 0 < (memory block).toNat)
      (hfits : (memory block).toNat ≤ left) (hfields : vsReach memory block ≤ left)
      (hframe : (vsBlock (memory (block + 2))).IsFrame = true → seen = true)
      (htail : VsDescriptors memory (seen || (vsBlock (memory (block + 2))).IsFormat)
        (block + (memory block).toNat) (left - (memory block).toNat)) :
      VsDescriptors memory seen block left

/-- There is a format for the next frame. -/
def UvcStreamingInterface.hasFormat (streamIf : UvcStreamingInterface) : Bool :=
  !streamIf.formatDescs.isEmpty

theorem hasFormat_appendFormat (streamIf : UvcStreamingInterface) (format : UvcFormatDesc) :
    (streamIf.appendFormat format).hasFormat = true := by
  simp [UvcStreamingInterface.hasFormat, UvcStreamingInterface.appendFormat]

theorem appendFrame_eq_none {streamIf : UvcStreamingInterface} {frame : UvcFrameDesc} :
    streamIf.appendFrame frame = none ↔ streamIf.hasFormat = false := by
  unfold UvcStreamingInterface.appendFrame UvcStreamingInterface.hasFormat
  cases hlast : streamIf.formatDescs.getLast? with
  | none => simp [List.getLast?_eq_none_iff.mp hlast]
  | some format =>
      have hne : streamIf.formatDescs ≠ [] := by
        intro hnil
        rw [hnil] at hlast
        exact absurd hlast (by simp)
      simp [hne]

theorem hasFormat_appendFrame {streamIf streamIf' : UvcStreamingInterface} {frame : UvcFrameDesc}
    (h : streamIf.appendFrame frame = some streamIf') : streamIf'.hasFormat = true := by
  unfold UvcStreamingInterface.appendFrame at h
  cases hlast : streamIf.formatDescs.getLast? with
  | none => simp [hlast] at h
  | some format =>
      simp only [hlast, Option.some.injEq] at h
      rw [← h]
      simp [UvcStreamingInterface.hasFormat]

theorem frameOutcome_cases (streamIf : UvcStreamingInterface) (frame : UvcFrameDesc) :
    (frameOutcome streamIf frame = .crash ∧ streamIf.hasFormat = false) ∨
    ∃ streamIf', frameOutcome streamIf frame = .next streamIf' ∧ streamIf.hasFormat = true ∧
      streamIf'.hasFormat = true := by
  unfold frameOutcome
  cases happend : streamIf.appendFrame frame with
  | none => exact .inl ⟨rfl, appendFrame_eq_none.mp happend⟩
  | some streamIf' =>
      refine .inr ⟨streamIf', rfl, ?_, hasFormat_appendFrame happend⟩
      rw [← Bool.not_eq_false, ← @appendFrame_eq_none streamIf frame, happend]
      exact Option.some_ne_none streamIf'

/-- One block: only a frame without a format fails, and after a format there is one. -/
theorem uvcParseVs_cases (memory : Nat → UInt8) (block : Nat) (streamIf : UvcStreamingInterface) :
    (uvcParseVs memory block streamIf = .crash ∧
      (vsBlock (memory (block + 2))).IsFrame = true ∧ streamIf.hasFormat = false) ∨
    ∃ streamIf', uvcParseVs memory block streamIf = .next streamIf' ∧
      ((vsBlock (memory (block + 2))).IsFrame = true → streamIf.hasFormat = true) ∧
      streamIf'.hasFormat = (streamIf.hasFormat || (vsBlock (memory (block + 2))).IsFormat) := by
  unfold uvcParseVs
  cases vsBlock (memory (block + 2)) with
  | inputHeader => exact .inr ⟨_, rfl, Bool.noConfusion, (Bool.or_false _).symm⟩
  | other => exact .inr ⟨_, rfl, Bool.noConfusion, (Bool.or_false _).symm⟩
  | formatUncompressed | formatMjpeg | formatFrameBased =>
      refine .inr ⟨_, rfl, Bool.noConfusion, ?_⟩
      rw [hasFormat_appendFormat]
      exact (Bool.or_true _).symm
  | frameUncompressed | frameFrameBased =>
      rcases frameOutcome_cases streamIf _ with ⟨hcrash, hnone⟩ | ⟨streamIf', hnext, hsome, hsome'⟩
      · exact .inl ⟨hcrash, rfl, hnone⟩
      · exact .inr ⟨streamIf', hnext, fun _ => hsome, by rw [hsome', hsome]; rfl⟩

theorem uvcParseVs_ne_stop (memory : Nat → UInt8) (block : Nat)
    (streamIf streamIf' : UvcStreamingInterface) :
    uvcParseVs memory block streamIf ≠ .stop streamIf' := by
  intro hstop
  rcases uvcParseVs_cases memory block streamIf with ⟨h, _⟩ | ⟨_, h, _⟩
  · cases h.symm.trans hstop
  · cases h.symm.trans hstop

/-- An empty block is parsed for ever. -/
theorem size_pos_of_chain {memory : Nat → UInt8} {block left : Nat}
    {streamIf streamIf' : UvcStreamingInterface}
    (h : Blocks.Chain vsParser memory block left streamIf streamIf') (hleft : 3 ≤ left) :
    0 < (memory block).toNat := by
  induction h with
  | rest hrest => exact absurd hleft (Nat.not_le.mpr hrest)
  | stop _ _ hparse => exact absurd hparse (uvcParseVs_ne_stop _ _ _ _)
  | @next o _ _ _ _ _ _ _ _ _ ih =>
      rcases Nat.eq_zero_or_pos (memory o).toNat with hzero | hpos
      · rw [hzero, Nat.add_zero, Nat.sub_zero] at ih
        exact ih hleft
      · exact hpos

theorem descriptors_of_chain {memory : Nat → UInt8} {block left : Nat}
    {streamIf streamIf' : UvcStreamingInterface}
    (h : Blocks.Chain vsParser memory block left streamIf streamIf') :
    VsDescriptors memory streamIf.hasFormat block left := by
  induction h with
  | rest hrest => exact .rest hrest
  | stop _ _ hparse => exact absurd hparse (uvcParseVs_ne_stop _ _ _ _)
  | @next o _ s s' _ hleft hreach hparse hsize htail ih =>
      have hpos := size_pos_of_chain (.next hleft hreach hparse hsize htail) hleft
      rcases uvcParseVs_cases memory o s with ⟨hcrash, _⟩ | ⟨t, hnext, hframe, hseen⟩
      · cases hparse.symm.trans hcrash
      · obtain rfl : s' = t := Blocks.Outcome.next.inj (hparse.symm.trans hnext)
        rw [hseen] at ih
        exact .block hleft hpos hsize hreach hframe ih

theorem chain_of_descriptors {memory : Nat → UInt8} {seen : Bool} {block left : Nat}
    (h : VsDescriptors memory seen block left) :
    ∀ streamIf : UvcStreamingInterface, streamIf.hasFormat = seen →
      ∃ streamIf', Blocks.Chain vsParser memory block left streamIf streamIf' := by
  induction h with
  | rest hrest => exact fun streamIf _ => ⟨streamIf, .rest hrest⟩
  | @block seen block left hleft hsize hfits hfields hframe htail ih =>
      intro streamIf hseen
      rcases uvcParseVs_cases memory block streamIf with
        ⟨_, hisFrame, hnone⟩ | ⟨streamIf', hnext, _, hseen'⟩
      · exact absurd ((hframe hisFrame).symm.trans (hseen.symm.trans hnone)) Bool.noConfusion
      · rw [hseen] at hseen'
        obtain ⟨streamIf'', hchain⟩ := ih streamIf' hseen'
        exact ⟨streamIf'', .next hleft hfields hnext hfits hchain⟩

/-- The scan of a streaming interface comes to an end, without a null pointer and without a read
behind the descriptors, exactly if the descriptors are well formed. -/
theorem scan_streaming_safe_iff (memory : Nat → UInt8) (extraLength : UInt64)
    (bInterfaceNumber : UInt8) :
    (∃ n streamIf, (uvcScanStreaming memory extraLength bInterfaceNumber n).EndsIn
      extraLength.toNat streamIf) ↔ VsDescriptors memory false 0 extraLength.toNat := by
  constructor
  · rintro ⟨n, streamIf, h⟩
    exact descriptors_of_chain (Blocks.ends_iff_chain.mp ⟨n, h⟩)
  · intro h
    obtain ⟨streamIf, hchain⟩ := chain_of_descriptors h
      { bInterfaceNumber := bInterfaceNumber } rfl
    obtain ⟨n, hn⟩ := Blocks.ends_iff_chain.mpr hchain
    exact ⟨n, streamIf, hn⟩

end ZsaSdk
