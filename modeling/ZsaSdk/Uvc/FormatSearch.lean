import ZsaSdk.Uvc.Negotiation

/-!
# What the camera is asked

The loops of `uvc_get_stream_ctrl_format_size` go through the frames of the wanted size in the
formats of the wanted kind, in the order of the descriptors (`candidates`).  The first of them that
has an interval for the frame rate is probed.  Whatever the camera answers on the way, the probe
names exactly this frame and this interval; only the other fields of the control block are taken
from the answers.

`Negotiated` lists the ways in which the search can end, with all transfers that the camera has
seen by then.
-/

namespace ZsaSdk

variable {δ : Type}

/-- A frame with the format and the interface it belongs to. -/
structure FrameCandidate where
  streamIf : UvcStreamingInterface
  format : UvcFormatDesc
  frame : UvcFrameDesc

/-- The frames of a size in the formats of a kind. -/
def candidates (info : UvcDeviceInfo) (cf : UvcFrameFormat) (width height : Int) :
    List FrameCandidate :=
  info.streamIfs.flatMap fun streamIf =>
    (streamIf.formatDescs.filter fun format => frameFormatMatchesGuid cf format.guidFormat).flatMap
      fun format => (format.frameDescs.filter fun frame => frame.hasSize width height).map
        (FrameCandidate.mk streamIf format)

theorem mem_candidates {info : UvcDeviceInfo} {cf : UvcFrameFormat} {width height : Int}
    {c : FrameCandidate} :
    c ∈ candidates info cf width height ↔
      c.streamIf ∈ info.streamIfs ∧ c.format ∈ c.streamIf.formatDescs ∧
        frameFormatMatchesGuid cf c.format.guidFormat = true ∧ c.frame ∈ c.format.frameDescs ∧
        c.frame.wWidth.toNat = width ∧ c.frame.wHeight.toNat = height := by
  obtain ⟨streamIf, format, frame⟩ := c
  simp only [candidates, UvcFrameDesc.hasSize, List.mem_flatMap, List.mem_filter, List.mem_map,
    FrameCandidate.mk.injEq]
  constructor
  · rintro ⟨streamIf, hif, format, ⟨hformat, hguid⟩, frame, ⟨hframe, hsize⟩, rfl, rfl, rfl⟩
    simp only [Bool.not_or, Bool.and_eq_true, Bool.not_eq_true', decide_eq_false_iff_not,
      ne_eq, not_not] at hsize
    exact ⟨hif, hformat, hguid, hframe, hsize⟩
  · rintro ⟨hif, hformat, hguid, hframe, hwidth, hheight⟩
    exact ⟨streamIf, hif, format, ⟨hformat, hguid⟩, frame, ⟨hframe, by simp [hwidth, hheight]⟩, rfl,
      rfl, rfl⟩

/-- The loops inside each other are one search. -/
theorem searchFormatSize_eq (usb : LibusbHandle δ) (info : UvcDeviceInfo) (fps : Int32)
    (cf : UvcFrameFormat) (width height : Int) (st : UvcStreamCtrl × UvcSession δ) :
    searchFormatSize usb info fps cf width height st =
      Search.search (fun c => tryFrame usb info fps c.streamIf c.format c.frame)
        (candidates info cf width height) st := by
  have hframes : ∀ (streamIf : UvcStreamingInterface) (format : UvcFormatDesc) st,
      Search.search (fun c => tryFrame usb info fps c.streamIf c.format c.frame)
        ((format.frameDescs.filter fun frame => frame.hasSize width height).map
          (FrameCandidate.mk streamIf format)) st =
      Search.search (fun frame st =>
        if frame.hasSize width height then tryFrame usb info fps streamIf format frame st
        else (.miss, st)) format.frameDescs st := by
    intro streamIf format st
    rw [Search.search_map, Search.search_filter]
  unfold searchFormatSize candidates
  rw [Search.search_flatMap]
  congr 1
  funext streamIf st
  rw [Search.search_flatMap, Search.search_filter]
  simp only [hframes]

/-! ## The transfers -/

/-- A `GET` transfer of the probe control. -/
def probeGet (info : UvcDeviceInfo) (req : UInt8) (bInterfaceNumber : UInt8) : ControlTransfer where
  requestType := 0xa1
  request := req
  value := 0x0100
  index := bInterfaceNumber.toUInt16
  data := []
  length := if info.long then 34 else 26

/-- A `SET` transfer of the probe control. -/
def probeSet (info : UvcDeviceInfo) (bInterfaceNumber : UInt8) (data : List UInt8) :
    ControlTransfer where
  requestType := 0x21
  request := uvcSetCur
  value := 0x0100
  index := bInterfaceNumber.toUInt16
  data := data
  length := if info.long then 34 else 26

section Transfers

variable (usb : LibusbHandle δ) (info : UvcDeviceInfo) (ctrl : UvcStreamCtrl) (s : UvcSession δ)

@[simp] theorem sent_uvcClaimIf (idx : UInt8) : (uvcClaimIf usb s idx).2.sent = s.sent := by
  unfold uvcClaimIf
  split
  · rfl
  · dsimp only
    split
    · split <;> rfl
    · rfl

@[simp] theorem bInterfaceNumber_decode (buf : Nat → UInt8) :
    (ctrl.decode info buf).bInterfaceNumber = ctrl.bInterfaceNumber := by
  unfold UvcStreamCtrl.decode
  dsimp only
  split <;> rfl

@[simp] theorem bInterfaceNumber_fixUp :
    (ctrl.fixUp info).bInterfaceNumber = ctrl.bInterfaceNumber := by
  unfold UvcStreamCtrl.fixUp
  split
  · split <;> rfl
  · rfl

@[simp] theorem bInterfaceNumber_query (probe : Bool) (req : UInt8) :
    (uvcQueryStreamCtrl usb info ctrl probe req s).2.1.bInterfaceNumber =
      ctrl.bInterfaceNumber := by
  unfold uvcQueryStreamCtrl
  dsimp only
  split
  · rfl
  · split
    · rfl
    · simp

/-- A query is one transfer. -/
@[simp] theorem sent_query (probe : Bool) (req : UInt8) :
    (uvcQueryStreamCtrl usb info ctrl probe req s).2.2.sent =
      s.sent ++ [streamCtrlTransfer info ctrl probe req] := by
  unfold uvcQueryStreamCtrl UvcSession.transfer
  dsimp only
  split
  · rfl
  · split <;> rfl

/-- What is set is not changed. -/
@[simp] theorem ctrl_query_set (probe : Bool) :
    (uvcQueryStreamCtrl usb info ctrl probe uvcSetCur s).2.1 = ctrl := by
  unfold uvcQueryStreamCtrl
  dsimp only
  split <;> rfl

/-- A probe is a `SET` of the block, and a `GET`. -/
theorem sent_probe : (uvcProbeStreamCtrl usb info ctrl s).2.2.sent =
    s.sent ++ [probeSet info ctrl.bInterfaceNumber (ctrl.encode info.long),
      probeGet info uvcGetCur ctrl.bInterfaceNumber] := by
  unfold uvcProbeStreamCtrl
  dsimp only
  rw [sent_query, sent_query, ctrl_query_set, List.append_assoc]
  rfl

theorem ret_probe : (uvcProbeStreamCtrl usb info ctrl s).1 = uvcSuccess := rfl

end Transfers

/-! ## The search -/

/-- What becomes of a candidate. -/
def FrameCandidate.verdict (fps : Int32) (c : FrameCandidate) : Search.Verdict :=
  match c.frame.intervalFor fps with
  | none => .crash
  | some none => .miss
  | some (some _) => .found

section Try

variable (usb : LibusbHandle δ) (info : UvcDeviceInfo) (fps : Int32)

theorem tryFrame_decided : Search.Decided
    (fun (c : FrameCandidate) => tryFrame usb info fps c.streamIf c.format c.frame)
    (FrameCandidate.verdict fps)
    (fun c st => (tryFrame usb info fps c.streamIf c.format c.frame st).2) where
  eq c st := by
    refine Prod.ext ?_ rfl
    unfold tryFrame FrameCandidate.verdict
    dsimp only
    cases c.frame.intervalFor fps with
    | none => rfl
    | some found =>
        cases found with
        | none => rfl
        | some interval => rfl

/-- A candidate is asked for its largest values. -/
theorem sent_tryFrame (c : FrameCandidate) (st : UvcStreamCtrl × UvcSession δ) :
    (tryFrame usb info fps c.streamIf c.format c.frame st).2.2.sent =
      st.2.sent ++ [probeGet info uvcGetMax c.streamIf.bInterfaceNumber] := by
  unfold tryFrame
  dsimp only
  split <;>
    · rw [sent_query, sent_uvcClaimIf]
      rfl

theorem sent_foldl_tryFrame (cs : List FrameCandidate) (st : UvcStreamCtrl × UvcSession δ) :
    (cs.foldl (fun st c => (tryFrame usb info fps c.streamIf c.format c.frame st).2) st).2.sent =
      st.2.sent ++ cs.map fun c => probeGet info uvcGetMax c.streamIf.bInterfaceNumber := by
  induction cs generalizing st with
  | nil => exact (List.append_nil _).symm
  | cons c cs ih =>
      rw [List.foldl_cons, ih, sent_tryFrame, List.append_assoc]
      rfl

/-- The control block names the frame. -/
structure UvcStreamCtrl.Names (ctrl : UvcStreamCtrl) (c : FrameCandidate) (interval : UInt32) :
    Prop where
  hint : ctrl.bmHint = 1
  format : ctrl.bFormatIndex = c.format.bFormatIndex
  frame : ctrl.bFrameIndex = c.frame.bFrameIndex
  interval : ctrl.dwFrameInterval = interval
  interface : ctrl.bInterfaceNumber = c.streamIf.bInterfaceNumber

theorem tryFrame_names {c : FrameCandidate} {interval : UInt32}
    (h : c.frame.intervalFor fps = some (some interval)) (st : UvcStreamCtrl × UvcSession δ) :
    (tryFrame usb info fps c.streamIf c.format c.frame st).2.1.Names c interval := by
  unfold tryFrame
  dsimp only
  rw [h]
  exact ⟨rfl, rfl, rfl, rfl, bInterfaceNumber_query ..⟩

end Try

/-- How the search can end, for the candidates there are: the result, and what the camera has seen
before and after it. -/
inductive Negotiated (usb : LibusbHandle δ) (info : UvcDeviceInfo) (fps : Int32)
    (sent : List ControlTransfer) : List FrameCandidate →
      Option (Int × UvcStreamCtrl × UvcSession δ) → Prop where
  /-- No candidate has an interval for the frame rate. -/
  | invalidMode {cs ctrl s} (hmiss : ∀ c ∈ cs, c.frame.intervalFor fps = some none)
      (hsent : s.sent = sent ++ cs.map fun c =>
        probeGet info uvcGetMax c.streamIf.bInterfaceNumber) :
      Negotiated usb info fps sent cs (some (uvcErrorInvalidMode, ctrl, s))
  /-- The first candidate that is not missed divides by zero. -/
  | divided {before c behind} (hmiss : ∀ b ∈ before, b.frame.intervalFor fps = some none)
      (hzero : c.frame.intervalFor fps = none) :
      Negotiated usb info fps sent (before ++ c :: behind) none
  /-- The first candidate that is not missed is probed, and the result is what the camera makes of
  it. -/
  | probed {before c behind interval ctrl s t} {asked : UvcStreamCtrl}
      (hmiss : ∀ b ∈ before, b.frame.intervalFor fps = some none)
      (hinterval : c.frame.intervalFor fps = some (some interval)) (hnames : asked.Names c interval)
      (hsent : s.sent = sent ++
        (before.map fun c => probeGet info uvcGetMax c.streamIf.bInterfaceNumber) ++
        [probeGet info uvcGetMax c.streamIf.bInterfaceNumber,
          probeSet info c.streamIf.bInterfaceNumber (asked.encode info.long),
          probeGet info uvcGetCur c.streamIf.bInterfaceNumber])
      (hanswer : uvcProbeStreamCtrl usb info asked t = (uvcSuccess, ctrl, s)) :
      Negotiated usb info fps sent (before ++ c :: behind) (some (uvcSuccess, ctrl, s))

theorem intervalFor_of_miss {c : FrameCandidate} {fps : Int32}
    (h : c.verdict fps = .miss) : c.frame.intervalFor fps = some none := by
  unfold FrameCandidate.verdict at h
  split at h
  · cases h
  · assumption
  · cases h

/-- Whatever the camera answers, the first frame of the wanted size and kind with the wanted frame
rate is the one that is probed, and there is none if the mode is refused. -/
theorem format_size_negotiated (usb : LibusbHandle δ) (info : UvcDeviceInfo) (fps : Int32)
    (ctrl : UvcStreamCtrl) (cf : UvcFrameFormat) (width height : Int) (s : UvcSession δ) :
    Negotiated usb info fps s.sent (candidates info cf width height)
      (uvcGetStreamCtrlFormatSize usb info fps ctrl cf width height s) := by
  have hdecided := tryFrame_decided usb info fps
  unfold uvcGetStreamCtrlFormatSize
  rw [searchFormatSize_eq]
  rcases Search.all_miss_or_first (FrameCandidate.verdict fps) (candidates info cf width height)
    with hall | ⟨before, c, behind, heq, hbefore, hc⟩
  · rw [Search.search_all_miss hdecided hall]
    refine .invalidMode (fun c hc => intervalFor_of_miss (hall c hc)) ?_
    exact sent_foldl_tryFrame usb info fps _ (ctrl, s)
  · rw [heq, Search.search_first hdecided hbefore hc]
    have hmiss : ∀ b ∈ before, b.frame.intervalFor fps = some none :=
      fun b hb => intervalFor_of_miss (hbefore b hb)
    cases hinterval : c.frame.intervalFor fps with
    | none =>
        have hverdict : c.verdict fps = .crash := by simp only [FrameCandidate.verdict, hinterval]
        rw [hverdict]
        exact .divided hmiss hinterval
    | some found =>
        cases found with
        | none =>
            exact absurd (by simp only [FrameCandidate.verdict, hinterval]) hc
        | some interval =>
            have hverdict : c.verdict fps = .found := by
              simp only [FrameCandidate.verdict, hinterval]
            rw [hverdict]
            have hnames := tryFrame_names usb info fps hinterval (before.foldl
              (fun st c => (tryFrame usb info fps c.streamIf c.format c.frame st).2) (ctrl, s))
            have hsent := sent_tryFrame usb info fps c (before.foldl
              (fun st c => (tryFrame usb info fps c.streamIf c.format c.frame st).2) (ctrl, s))
            rw [sent_foldl_tryFrame] at hsent
            generalize (tryFrame usb info fps c.streamIf c.format c.frame (before.foldl
              (fun st c => (tryFrame usb info fps c.streamIf c.format c.frame st).2)
              (ctrl, s))).2 = st at hnames hsent ⊢
            have hprobe := sent_probe usb info st.1 st.2
            rw [hsent, hnames.interface, List.append_assoc] at hprobe
            have hret := ret_probe usb info st.1 st.2
            change Negotiated usb info fps s.sent (before ++ c :: behind)
              (some (uvcProbeStreamCtrl usb info st.1 st.2))
            rcases hresult : uvcProbeStreamCtrl usb info st.1 st.2 with ⟨ret, ctrl', t⟩
            rw [hresult] at hret hprobe
            obtain rfl : ret = uvcSuccess := hret
            exact .probed hmiss hinterval hnames hprobe hresult

end ZsaSdk
