import ZsaSdk.Uvc.Descriptors

/-!
# Reading back a streaming interface

How a camera describes a streaming interface in blocks: `FormatBlock` and `FrameBlock` are the
layouts of the blocks, with arbitrary bytes where libuvc does not look.  The type of a block, which
is `CS_INTERFACE` in the descriptor of a camera, is one of these.
-/

namespace ZsaSdk

/-- A block of a class-specific interface: its size, its type and its subtype. -/
def vsBlockBytes (type subtype : UInt8) (fields : List UInt8) : List UInt8 :=
  UInt8.ofNat (3 + fields.length) :: type :: subtype :: fields

/-- The end of a frame block. -/
inductive IntervalBytes (frame : UvcFrameDesc) : List UInt8 → Prop where
  /-- A range of intervals. -/
  | range (htype : frame.bFrameIntervalType = 0) (hnone : frame.intervals = none) :
      IntervalBytes frame (intToDw frame.dwMinFrameInterval ++
        intToDw frame.dwMaxFrameInterval ++ intToDw frame.dwFrameIntervalStep)
  /-- The intervals one by one. -/
  | listed (intervals : List UInt32) (hlength : intervals.length = frame.bFrameIntervalType.toNat)
      (hne : frame.bFrameIntervalType ≠ 0) (hsome : frame.intervals = some (intervals ++ [0]))
      (hmin : frame.dwMinFrameInterval = 0) (hmax : frame.dwMaxFrameInterval = 0)
      (hstep : frame.dwFrameIntervalStep = 0) :
      IntervalBytes frame (intervals.flatMap intToDw)

/-- The block describes the frame. -/
inductive FrameBlock (frame : UvcFrameDesc) : List UInt8 → Prop where
  | uncompressed {type : UInt8} {intervals : List UInt8} (rest : List UInt8)
      (hsubtype : frame.bDescriptorSubtype = uvcVsFrameUncompressed ∨
        frame.bDescriptorSubtype = uvcVsFrameMjpeg)
      (hline : frame.dwBytesPerLine = 0) (hintervals : IntervalBytes frame intervals) :
      FrameBlock frame (vsBlockBytes type frame.bDescriptorSubtype
        ([frame.bFrameIndex, frame.bmCapabilities] ++ shortToSw frame.wWidth ++
          shortToSw frame.wHeight ++ intToDw frame.dwMinBitRate ++
          intToDw frame.dwMaxBitRate ++ intToDw frame.dwMaxVideoFrameBufferSize ++
          intToDw frame.dwDefaultFrameInterval ++ [frame.bFrameIntervalType] ++ intervals ++
          rest))
  | frameBased {type : UInt8} {intervals : List UInt8} (rest : List UInt8)
      (hsubtype : frame.bDescriptorSubtype = uvcVsFrameFrameBased)
      (hsize : frame.dwMaxVideoFrameBufferSize = 0) (hintervals : IntervalBytes frame intervals) :
      FrameBlock frame (vsBlockBytes type frame.bDescriptorSubtype
        ([frame.bFrameIndex, frame.bmCapabilities] ++ shortToSw frame.wWidth ++
          shortToSw frame.wHeight ++ intToDw frame.dwMinBitRate ++
          intToDw frame.dwMaxBitRate ++ intToDw frame.dwDefaultFrameInterval ++
          [frame.bFrameIntervalType] ++ intToDw frame.dwBytesPerLine ++ intervals ++ rest))

/-- The block describes the format, apart from its frames. -/
inductive FormatBlock (format : UvcFormatDesc) : List UInt8 → Prop where
  | uncompressed {type : UInt8} (numFrames : UInt8) (rest : List UInt8)
      (hsubtype : format.bDescriptorSubtype = uvcVsFormatUncompressed)
      (hguid : format.guidFormat.length = 16) (hnum : format.bNumFrameDescriptors = 0)
      (hvariable : format.bVariableSize = 0) :
      FormatBlock format (vsBlockBytes type uvcVsFormatUncompressed
        ([format.bFormatIndex, numFrames] ++ format.guidFormat ++
          [format.bBitsPerPixel, format.bDefaultFrameIndex, format.bAspectRatioX,
            format.bAspectRatioY, format.bmInterlaceFlags, format.bCopyProtect] ++ rest))
  | mjpeg {type : UInt8} (numFrames flags : UInt8) (rest : List UInt8)
      (hsubtype : format.bDescriptorSubtype = uvcVsFormatMjpeg)
      (hguid : format.guidFormat = mjpgFourcc) (hbits : format.bBitsPerPixel = 0)
      (hnum : format.bNumFrameDescriptors = 0) (hvariable : format.bVariableSize = 0) :
      FormatBlock format (vsBlockBytes type uvcVsFormatMjpeg
        ([format.bFormatIndex, numFrames, flags, format.bDefaultFrameIndex, format.bAspectRatioX,
            format.bAspectRatioY, format.bmInterlaceFlags, format.bCopyProtect] ++ rest))
  | frameBased {type : UInt8} (rest : List UInt8)
      (hsubtype : format.bDescriptorSubtype = uvcVsFormatFrameBased)
      (hguid : format.guidFormat.length = 16) :
      FormatBlock format (vsBlockBytes type uvcVsFormatFrameBased
        ([format.bFormatIndex, format.bNumFrameDescriptors] ++ format.guidFormat ++
          [format.bBitsPerPixel, format.bDefaultFrameIndex, format.bAspectRatioX,
            format.bAspectRatioY, format.bmInterlaceFlags, format.bCopyProtect,
            format.bVariableSize] ++ rest))

/-- The block describes the endpoint. -/
inductive HeaderBlock (streamIf : UvcStreamingInterface) : List UInt8 → Prop where
  | header {type : UInt8} (numFormats total total' endpoint info : UInt8) (rest : List UInt8)
      (hendpoint : streamIf.bEndpointAddress = endpoint &&& 0x8f) :
      HeaderBlock streamIf (vsBlockBytes type uvcVsInputHeader
        ([numFormats, total, total', endpoint, info, streamIf.bTerminalLink] ++ rest))

/-- A format, followed by its frames. -/
structure FormatBlocks (format : UvcFormatDesc) (blocks : List (List UInt8)) : Prop where
  split : ∃ block frames, blocks = block :: frames ∧ FormatBlock format block ∧
    List.Forall₂ FrameBlock format.frameDescs frames

/-- libuvc looks at the block. -/
def supportedBlock (block : List UInt8) : Bool := vsBlock (Bytes.memory block 2) != .other

/-- The blocks describe the interface: a header and the formats, perhaps with blocks between them
that libuvc skips. -/
structure InterfaceBlocks (streamIf : UvcStreamingInterface) (blocks : List (List UInt8)) :
    Prop where
  /-- The size of a block is one byte, and a block has a subtype. -/
  sizes : ∀ block ∈ blocks, 3 ≤ block.length ∧ (Bytes.memory block 0).toNat = block.length
  supported : ∃ header formats, blocks.filter supportedBlock = header :: formats.flatten ∧
    HeaderBlock streamIf header ∧ List.Forall₂ FormatBlocks streamIf.formatDescs formats

/-! ## One block -/

section Blocks

variable {memory : Nat → UInt8} {o : Nat}

theorem readIntervals_of_holds {intervals : List UInt32}
    (h : Bytes.Holds memory o (intervals.flatMap intToDw)) :
    readIntervals memory o intervals.length = intervals := by
  induction intervals generalizing o with
  | nil => rfl
  | cons x xs ih =>
      rw [List.flatMap_cons, Bytes.holds_append, length_intToDw] at h
      rw [List.length_cons, readIntervals, dwToInt_of_holds h.1, ih h.2]

theorem length_flatMap_intToDw (xs : List UInt32) :
    (xs.flatMap intToDw).length = 4 * xs.length := by
  induction xs with
  | nil => rfl
  | cons x xs ih =>
      rw [List.flatMap_cons, List.length_append, ih, length_intToDw, List.length_cons]
      omega

theorem subtype_of_holds {type subtype : UInt8} {fields : List UInt8}
    (h : Bytes.Holds memory o (vsBlockBytes type subtype fields)) :
    memory (o + 2) = subtype ∧ Bytes.Holds memory (o + 3) fields := by
  simp only [vsBlockBytes, Bytes.holds_cons] at h
  exact h.2.2

/-- The format without its frames. -/
def UvcFormatDesc.bare (format : UvcFormatDesc) : UvcFormatDesc := { format with frameDescs := [] }

theorem format_of_holds {format : UvcFormatDesc} {b : List UInt8} (h : FormatBlock format b)
    (hold : Bytes.Holds memory o b) (streamIf : UvcStreamingInterface) :
    uvcParseVs memory o streamIf = .next (streamIf.appendFormat format.bare) ∧
      vsReach memory o ≤ b.length := by
  cases h with
  | uncompressed numFrames rest hsubtype hguid hnum hvariable =>
      obtain ⟨hsub, hfields⟩ := subtype_of_holds hold
      have hblock : vsBlock uvcVsFormatUncompressed = .formatUncompressed := rfl
      simp only [Bytes.holds_append, Bytes.holds_cons, List.cons_append, List.nil_append,
        List.append_assoc, hguid, Nat.add_assoc, Nat.reduceAdd] at hfields
      obtain ⟨hindex, -, hguid', hbits, hdefault, hx, hy, hinterlace, hcopy, -⟩ := hfields
      have hslice := hguid'.slice
      rw [hguid] at hslice
      constructor
      · simp only [uvcParseVs, hsub, hblock, uvcParseVsFormatUncompressed, UvcFormatDesc.bare,
          hindex, hslice, hbits, hdefault, hx, hy, hinterlace, hcopy, hsubtype, hnum, hvariable]
      · simp only [vsReach, hsub, hblock, vsBlockBytes, List.length_append, List.length_cons,
          List.length_nil, hguid]
        omega
  | mjpeg numFrames flags rest hsubtype hguid hbits hnum hvariable =>
      obtain ⟨hsub, hfields⟩ := subtype_of_holds hold
      have hblock : vsBlock uvcVsFormatMjpeg = .formatMjpeg := rfl
      simp only [Bytes.holds_cons, List.cons_append, List.nil_append, Nat.add_assoc,
        Nat.reduceAdd] at hfields
      obtain ⟨hindex, -, -, hdefault, hx, hy, hinterlace, hcopy, -⟩ := hfields
      constructor
      · simp only [uvcParseVs, hsub, hblock, uvcParseVsFormatMjpeg, UvcFormatDesc.bare, hindex,
          hdefault, hx, hy, hinterlace, hcopy, hsubtype, hguid, hbits, hnum, hvariable]
      · simp only [vsReach, hsub, hblock, vsBlockBytes, List.length_append, List.length_cons,
          List.length_nil]
        omega
  | frameBased rest hsubtype hguid =>
      obtain ⟨hsub, hfields⟩ := subtype_of_holds hold
      have hblock : vsBlock uvcVsFormatFrameBased = .formatFrameBased := rfl
      simp only [Bytes.holds_append, Bytes.holds_cons, List.cons_append, List.nil_append,
        List.append_assoc, hguid, Nat.add_assoc, Nat.reduceAdd] at hfields
      obtain ⟨hindex, hnum, hguid', hbits, hdefault, hx, hy, hinterlace, hcopy, hvariable, -⟩ :=
        hfields
      have hslice := hguid'.slice
      rw [hguid] at hslice
      constructor
      · simp only [uvcParseVs, hsub, hblock, uvcParseVsFrameFormat, UvcFormatDesc.bare, hindex,
          hslice, hbits, hdefault, hx, hy, hinterlace, hcopy, hsubtype, hnum, hvariable]
      · simp only [vsReach, hsub, hblock, vsBlockBytes, List.length_append, List.length_cons,
          List.length_nil, hguid]
        omega

/-- The intervals of a frame are read from the end of its block. -/
theorem withIntervals_of_holds {frame : UvcFrameDesc} {intervals : List UInt8}
    (h : IntervalBytes frame intervals) (hold : Bytes.Holds memory (o + 26) intervals) :
    UvcFrameDesc.withIntervals memory o
      { frame with
        dwMinFrameInterval := 0, dwMaxFrameInterval := 0, dwFrameIntervalStep := 0,
        intervals := none } = frame ∧
      frameReach frame.bFrameIntervalType = 26 + intervals.length := by
  cases h with
  | range htype hnone =>
      simp only [Bytes.holds_append, List.append_assoc, length_intToDw, Nat.add_assoc,
        Nat.reduceAdd] at hold
      obtain ⟨hmin, hmax, hstep⟩ := hold
      constructor
      · rw [UvcFrameDesc.withIntervals, if_pos htype, dwToInt_of_holds hmin,
          dwToInt_of_holds hmax, dwToInt_of_holds hstep, ← hnone]
      · rw [frameReach, if_pos htype]
        simp
  | listed intervals hlength hne hsome hmin hmax hstep =>
      constructor
      · rw [UvcFrameDesc.withIntervals, if_neg hne, ← hlength, readIntervals_of_holds hold]
        cases frame
        simp only at hsome hmin hmax hstep
        subst hsome hmin hmax hstep
        rfl
      · rw [frameReach, if_neg hne]
        rw [length_flatMap_intToDw, hlength]

theorem frame_of_holds {frame : UvcFrameDesc} {b : List UInt8} (h : FrameBlock frame b)
    (hold : Bytes.Holds memory o b) (streamIf : UvcStreamingInterface) :
    uvcParseVs memory o streamIf = frameOutcome streamIf frame ∧ vsReach memory o ≤ b.length := by
  cases h with
  | @uncompressed _ intervals rest hsubtype hline hintervals =>
      obtain ⟨hsub, hfields⟩ := subtype_of_holds hold
      have hblock : vsBlock frame.bDescriptorSubtype = .frameUncompressed := by
        rcases hsubtype with h | h <;> rw [h] <;> rfl
      simp only [Bytes.holds_append, Bytes.holds_cons, List.cons_append, List.nil_append,
        List.append_assoc, length_shortToSw, length_intToDw, Nat.add_assoc, Nat.reduceAdd]
        at hfields
      obtain ⟨hindex, hcaps, hwidth, hheight, hmin, hmax, hbuffer, hdefault, htype, hrest, -⟩ :=
        hfields
      obtain ⟨hframe, hreach⟩ := withIntervals_of_holds hintervals hrest
      constructor
      · simp only [uvcParseVs, hsub, hblock, uvcParseVsFrameUncompressed, hindex, hcaps,
          swToShort_of_holds hwidth, swToShort_of_holds hheight, dwToInt_of_holds hmin,
          dwToInt_of_holds hmax, dwToInt_of_holds hbuffer, dwToInt_of_holds hdefault, htype]
        rw [hline] at hframe
        rw [hframe]
      · simp only [vsReach, hsub, hblock, htype, hreach, vsBlockBytes, List.length_append,
          List.length_cons, List.length_nil, length_shortToSw, length_intToDw]
        omega
  | @frameBased _ intervals rest hsubtype hsize hintervals =>
      obtain ⟨hsub, hfields⟩ := subtype_of_holds hold
      have hblock : vsBlock frame.bDescriptorSubtype = .frameFrameBased := by rw [hsubtype]; rfl
      simp only [Bytes.holds_append, Bytes.holds_cons, List.cons_append, List.nil_append,
        List.append_assoc, length_shortToSw, length_intToDw, Nat.add_assoc, Nat.reduceAdd]
        at hfields
      obtain ⟨hindex, hcaps, hwidth, hheight, hmin, hmax, hdefault, htype, hline, hrest, -⟩ :=
        hfields
      obtain ⟨hframe, hreach⟩ := withIntervals_of_holds hintervals hrest
      constructor
      · simp only [uvcParseVs, hsub, hblock, uvcParseVsFrameFrame, hindex, hcaps,
          swToShort_of_holds hwidth, swToShort_of_holds hheight, dwToInt_of_holds hmin,
          dwToInt_of_holds hmax, dwToInt_of_holds hline, dwToInt_of_holds hdefault, htype]
        rw [hsize] at hframe
        rw [hframe]
      · simp only [vsReach, hsub, hblock, htype, hreach, vsBlockBytes, List.length_append,
          List.length_cons, List.length_nil, length_shortToSw, length_intToDw]
        omega

theorem header_of_holds {streamIf : UvcStreamingInterface} {b : List UInt8}
    (h : HeaderBlock streamIf b) (hold : Bytes.Holds memory o b) (before : UvcStreamingInterface) :
    uvcParseVs memory o before = .next { before with
      bEndpointAddress := streamIf.bEndpointAddress, bTerminalLink := streamIf.bTerminalLink } ∧
      vsReach memory o ≤ b.length := by
  cases h with
  | header numFormats total total' endpoint info rest hendpoint =>
      obtain ⟨hsub, hfields⟩ := subtype_of_holds hold
      have hblock : vsBlock uvcVsInputHeader = .inputHeader := rfl
      simp only [Bytes.holds_cons, List.cons_append, List.nil_append, Nat.add_assoc,
        Nat.reduceAdd] at hfields
      obtain ⟨-, -, -, hep, -, hlink, -⟩ := hfields
      constructor
      · simp only [uvcParseVs, hsub, hblock, uvcParseVsInputHeader, hep, hlink, hendpoint]
      · simp only [vsReach, hsub, hblock, vsBlockBytes, List.length_append, List.length_cons,
          List.length_nil]
        omega

/-- A block that libuvc does not look at changes nothing. -/
theorem other_of_holds {b : List UInt8} (h : supportedBlock b = false) (hthree : 3 ≤ b.length)
    (hold : Bytes.Holds memory o b) (streamIf : UvcStreamingInterface) :
    uvcParseVs memory o streamIf = .next streamIf ∧ vsReach memory o ≤ b.length := by
  have hblock : vsBlock (memory (o + 2)) = .other := by
    rw [hold 2 hthree]
    simpa [supportedBlock] using h
  constructor
  · simp only [uvcParseVs, hblock]
  · simp only [vsReach, hblock]
    exact hthree

end Blocks

/-! ## The whole interface -/

/-- A format and its frames, block by block. -/
theorem takes_frames {frames : List UvcFrameDesc} {blocks : List (List UInt8)}
    (h : List.Forall₂ FrameBlock frames blocks)
    (hsizes : ∀ b ∈ blocks, 3 ≤ b.length ∧ (Bytes.memory b 0).toNat = b.length)
    (streamIf : UvcStreamingInterface) (formats : List UvcFormatDesc) (format : UvcFormatDesc) :
    Blocks.TakesAll vsParser blocks
      { streamIf with formatDescs := formats ++ [format] }
      { streamIf with formatDescs :=
          formats ++ [{ format with frameDescs := format.frameDescs ++ frames }] } := by
  induction h generalizing format with
  | nil =>
      rw [List.append_nil]
      exact .nil
  | @cons frame b frames blocks hblock _ ih =>
      have htail := ih (fun c hc => hsizes c (List.mem_cons_of_mem b hc))
        { format with frameDescs := format.frameDescs ++ [frame] }
      rw [List.append_assoc, List.singleton_append] at htail
      obtain ⟨hthree, hsize⟩ := hsizes b List.mem_cons_self
      refine .cons ⟨hsize, hthree, ?_, ?_⟩ htail
      · intro m o hold
        rw [show vsParser.parse m o = uvcParseVs m o from rfl, (frame_of_holds hblock hold _).1]
        simp [frameOutcome, UvcStreamingInterface.appendFrame]
      · intro m o hold
        exact (frame_of_holds hblock hold streamIf).2

theorem takes_formats {formats : List UvcFormatDesc} {blocks : List (List (List UInt8))}
    (h : List.Forall₂ FormatBlocks formats blocks)
    (hsizes : ∀ b ∈ blocks.flatten, 3 ≤ b.length ∧ (Bytes.memory b 0).toNat = b.length)
    (streamIf : UvcStreamingInterface) :
    Blocks.TakesAll vsParser blocks.flatten streamIf
      { streamIf with formatDescs := streamIf.formatDescs ++ formats } := by
  induction h generalizing streamIf with
  | nil =>
      rw [List.append_nil]
      exact .nil
  | @cons format bs formats blocks hblocks _ ih =>
      obtain ⟨block, frames, rfl, hformat, hframes⟩ := hblocks.split
      rw [List.flatten_cons] at hsizes ⊢
      have hhead : block ∈ block :: frames ++ blocks.flatten := List.mem_cons_self
      obtain ⟨hthree, hsize⟩ := hsizes block hhead
      have htakes : Blocks.Takes vsParser block streamIf (streamIf.appendFormat format.bare) :=
        ⟨hsize, hthree, fun m o hold => (format_of_holds hformat hold streamIf).1,
          fun m o hold => (format_of_holds hformat hold streamIf).2⟩
      have hrest := takes_frames hframes
        (fun b hb => hsizes b (List.mem_append_left _ (List.mem_cons_of_mem block hb)))
        streamIf streamIf.formatDescs format.bare
      have htail := ih (fun b hb => hsizes b (List.mem_append_right _ hb))
        { streamIf with formatDescs := streamIf.formatDescs ++ [format] }
      rw [List.append_assoc, List.singleton_append] at htail
      exact (Blocks.TakesAll.cons htakes hrest).append htail

/-- A streaming interface that is described in blocks is read back: the scan of the blocks ends,
reads nothing behind them, and leaves the interface. -/
theorem scan_streaming_round_trip {streamIf : UvcStreamingInterface} {blocks : List (List UInt8)}
    (h : InterfaceBlocks streamIf blocks) (rest : List UInt8) (hrest : rest.length < 3)
    (memory : Nat → UInt8) (hold : Bytes.Holds memory 0 (blocks.flatten ++ rest))
    (extraLength : UInt64) (hlength : extraLength.toNat = (blocks.flatten ++ rest).length) :
    ∃ n, (uvcScanStreaming memory extraLength streamIf.bInterfaceNumber n).EndsIn
      extraLength.toNat streamIf := by
  obtain ⟨header, formats, hfilter, hheader, hformats⟩ := h.supported
  have hsizes : ∀ b ∈ header :: formats.flatten,
      3 ≤ b.length ∧ (Bytes.memory b 0).toNat = b.length := by
    intro b hb
    rw [← hfilter] at hb
    exact h.sizes b (List.mem_filter.mp hb).1
  obtain ⟨hthree, hsize⟩ := hsizes header List.mem_cons_self
  have hfirst : Blocks.Takes vsParser header { bInterfaceNumber := streamIf.bInterfaceNumber }
      { streamIf with formatDescs := [] } :=
    ⟨hsize, hthree, fun m o hold => (header_of_holds hheader hold _).1,
      fun m o hold => (header_of_holds hheader hold
        { bInterfaceNumber := streamIf.bInterfaceNumber }).2⟩
  have hrun := takes_formats hformats (fun b hb => hsizes b (List.mem_cons_of_mem header hb))
    { streamIf with formatDescs := [] }
  have hall : Blocks.TakesAll vsParser blocks { bInterfaceNumber := streamIf.bInterfaceNumber }
      streamIf := by
    refine .of_filter supportedBlock ?_ (by rw [hfilter]; exact .cons hfirst hrun)
    intro b hb hother s
    obtain ⟨hthree, hsize⟩ := h.sizes b hb
    exact ⟨hsize, hthree, fun m o hold => (other_of_holds hother hthree hold s).1,
      fun m o hold => (other_of_holds hother hthree hold s).2⟩
  have hchain := hall.chain hrest hold
  rw [← hlength] at hchain
  exact Blocks.ends_iff_chain.mpr hchain

/-- A frame size with one interval. -/
def mjpegFrame : UvcFrameDesc :=
  { bDescriptorSubtype := uvcVsFrameMjpeg
    bFrameIndex := 1
    bmCapabilities := 0
    wWidth := 3840
    wHeight := 2160
    dwMinBitRate := 1
    dwMaxBitRate := 2
    dwMaxVideoFrameBufferSize := 16588800
    dwDefaultFrameInterval := 333333
    bFrameIntervalType := 1
    intervals := some [333333, 0] }

/-- A format with one frame size. -/
def mjpegFormat : UvcFormatDesc :=
  { bDescriptorSubtype := uvcVsFormatMjpeg
    bFormatIndex := 1
    guidFormat := mjpgFourcc
    bBitsPerPixel := 0
    bDefaultFrameIndex := 1
    bAspectRatioX := 0
    bAspectRatioY := 0
    bmInterlaceFlags := 0
    bCopyProtect := 0
    frameDescs := [mjpegFrame] }

/-- The interface of a camera with one format. -/
def mjpegInterface : UvcStreamingInterface :=
  { bInterfaceNumber := 1
    bEndpointAddress := 0x82
    bTerminalLink := 4
    formatDescs := [mjpegFormat] }

/-- The block of the endpoint. -/
def mjpegHeaderBlock : List UInt8 :=
  vsBlockBytes 0x24 uvcVsInputHeader ([1, 60, 0, 0x82, 0, 4] ++ [])

/-- The block of the format. -/
def mjpegFormatBlock : List UInt8 :=
  vsBlockBytes 0x24 uvcVsFormatMjpeg ([1, 1, 1, 1, 0, 0, 0, 0] ++ [])

/-- The block of the frame size. -/
def mjpegFrameBlock : List UInt8 :=
  vsBlockBytes 0x24 mjpegFrame.bDescriptorSubtype
    ([mjpegFrame.bFrameIndex, mjpegFrame.bmCapabilities] ++ shortToSw mjpegFrame.wWidth ++
      shortToSw mjpegFrame.wHeight ++ intToDw mjpegFrame.dwMinBitRate ++
      intToDw mjpegFrame.dwMaxBitRate ++ intToDw mjpegFrame.dwMaxVideoFrameBufferSize ++
      intToDw mjpegFrame.dwDefaultFrameInterval ++ [mjpegFrame.bFrameIntervalType] ++
      [333333].flatMap intToDw ++ [])

/-- Its blocks, with a color format between the header and the image format. -/
def mjpegBlocks : List (List UInt8) :=
  [mjpegHeaderBlock, vsBlockBytes 0x24 0x0d [1, 1, 4], mjpegFormatBlock, mjpegFrameBlock]

theorem mjpegInterface_blocks : InterfaceBlocks mjpegInterface mjpegBlocks := by
  have hframe : FrameBlock mjpegFrame mjpegFrameBlock :=
    .uncompressed [] (.inr rfl) rfl (.listed [333333] rfl (by decide) rfl rfl rfl rfl)
  refine ⟨by decide, mjpegHeaderBlock, [[mjpegFormatBlock, mjpegFrameBlock]], by decide,
    .header 1 60 0 0x82 0 [] rfl, .cons ⟨mjpegFormatBlock, [mjpegFrameBlock], rfl, ?_, ?_⟩ .nil⟩
  · exact .mjpeg 1 1 [] rfl rfl rfl rfl rfl
  · exact .cons hframe .nil

theorem scan_streaming_round_trip_mjpeg :
    ∃ n, (uvcScanStreaming (Bytes.memory (mjpegBlocks.flatten ++ [])) 56 1 n).EndsIn 56
      mjpegInterface :=
  scan_streaming_round_trip mjpegInterface_blocks [] (by decide) _
    (Bytes.holds_memory _) 56 (by decide)

end ZsaSdk
