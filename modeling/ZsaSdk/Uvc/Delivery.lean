import ZsaSdk.Lib.Steps
import ZsaSdk.Uvc.Assembly

/-!
# Frames for the callback

The thread that libuvc starts for the callback of a stream.  `_uvc_user_caller` waits until the
number of the held frame is another one than that of the frame it has taken last, copies the held
frame with `_uvc_populate_frame`, and calls the callback.  While it does, more frames may be made
available; only the last of them is still there when it looks again.

The frame that the callback gets is always the same object.  Its data are copied for every frame,
its metadata only if there are some, so what a frame without metadata shows is what was there
before (`populateAll_metadata_iff`).

A payload can make two frames available: the one before, which its header ends, and its own.  The
lock is free in between, so the thread of libusb takes two steps for a payload, one for its header
and one for its image.

`dataRoom` and `metadataRoom` are the sizes of the blocks behind `frame->data` and
`frame->metadata`.  The time, the size and the format of the frame come in with `UvcFrame`.
-/

namespace ZsaSdk

/-- `uvc_frame_t`, as the user thread fills it -/
structure UserFrame where
  data : List UInt8
  metadata : List UInt8
  sequence : UInt32
  dataRoom : Nat
  metadataRoom : Nat
deriving DecidableEq, Repr

namespace UserFrame

/-- The frame of a new stream. -/
def empty : UserFrame := ⟨[], [], 0, 0, 0⟩

/-- `_uvc_populate_frame`.  A block is enlarged if the frame before was smaller. -/
def populate (frame : UserFrame) (hold : HeldFrame) : UserFrame :=
  let frame := { frame with
    sequence := hold.seq
    dataRoom :=
      if frame.data.length < hold.data.length then hold.data.length else frame.dataRoom
    data := hold.data }
  if hold.metadata.length > 0 then
    { frame with
      metadataRoom :=
        if frame.metadata.length < hold.metadata.length then hold.metadata.length
        else frame.metadataRoom
      metadata := hold.metadata }
  else frame

/-- The frames that the callback gets, for the held frames that are taken. -/
def populateAll (frame : UserFrame) : List HeldFrame → List UserFrame
  | [] => []
  | hold :: holds => frame.populate hold :: (frame.populate hold).populateAll holds

/-- The copies fit into their blocks. -/
def Fits (frame : UserFrame) : Prop :=
  frame.data.length ≤ frame.dataRoom ∧ frame.metadata.length ≤ frame.metadataRoom

variable {frame : UserFrame}

theorem populate_fits (h : frame.Fits) (hold : HeldFrame) : (frame.populate hold).Fits := by
  obtain ⟨hdata, hmetadata⟩ := h
  simp only [populate, Fits]
  split
  · constructor
    · simp only
      split <;> omega
    · simp only
      split <;> omega
  · constructor
    · simp only
      split <;> omega
    · exact hmetadata

@[simp] theorem data_populate (frame : UserFrame) (hold : HeldFrame) :
    (frame.populate hold).data = hold.data := by
  simp only [populate]
  split <;> rfl

@[simp] theorem sequence_populate (frame : UserFrame) (hold : HeldFrame) :
    (frame.populate hold).sequence = hold.seq := by
  simp only [populate]
  split <;> rfl

theorem metadata_populate (frame : UserFrame) (hold : HeldFrame) :
    (frame.populate hold).metadata =
      if hold.metadata = [] then frame.metadata else hold.metadata := by
  cases hm : hold.metadata with
  | nil => simp [populate, hm]
  | cons b l => simp [populate, hm]

theorem populateAll_append (holds holds' : List HeldFrame) : ∀ frame : UserFrame,
    frame.populateAll (holds ++ holds') =
      frame.populateAll holds ++ (holds.foldl populate frame).populateAll holds' := by
  induction holds with
  | nil => exact fun _ => rfl
  | cons hold holds ih =>
      intro frame
      rw [List.cons_append, populateAll, ih, populateAll]
      rfl

/-- Data and number are those of the frame that was taken. -/
theorem populateAll_data (holds : List HeldFrame) : ∀ frame : UserFrame,
    (frame.populateAll holds).map (fun f => (f.sequence, f.data)) =
      holds.map fun hold => (hold.seq, hold.data) := by
  induction holds with
  | nil => exact fun _ => rfl
  | cons hold holds ih =>
      intro frame
      rw [populateAll, List.map_cons, List.map_cons, ih, data_populate, sequence_populate]

/-- The metadata are those of the frames that were taken exactly if no frame without metadata
comes while there are some of an earlier frame. -/
theorem populateAll_metadata_iff (holds : List HeldFrame) : ∀ frame : UserFrame,
    ((frame.populateAll holds).map (·.metadata) = holds.map (·.metadata) ↔
      (frame.metadata ≠ [] → ∀ hold ∈ holds, hold.metadata ≠ []) ∧
        holds.Pairwise fun hold hold' => hold.metadata ≠ [] → hold'.metadata ≠ []) := by
  induction holds with
  | nil =>
      intro frame
      simp [populateAll]
  | cons hold holds ih =>
      intro frame
      rw [populateAll, List.map_cons, List.map_cons, List.cons.injEq, ih, metadata_populate,
        List.pairwise_cons, List.forall_mem_cons]
      by_cases hm : hold.metadata = []
      · rw [if_pos hm]
        constructor
        · rintro ⟨hframe, -, hpairwise⟩
          have hempty : frame.metadata = [] := hframe.trans hm
          exact ⟨fun hne => absurd hempty hne, fun _ _ hne => absurd hm hne, hpairwise⟩
        · rintro ⟨hframe, -, hpairwise⟩
          have hempty : frame.metadata = [] := by_contra fun hne => (hframe hne).1 hm
          exact ⟨hempty.trans hm.symm, fun hne => absurd hempty hne, hpairwise⟩
      · rw [if_neg hm]
        constructor
        · rintro ⟨-, hrest, hpairwise⟩
          exact ⟨fun _ => ⟨hm, hrest hm⟩, fun g hg _ => hrest hm g hg, hpairwise⟩
        · rintro ⟨-, hrest, hpairwise⟩
          exact ⟨rfl, fun _ g hg => hrest g hg hm, hpairwise⟩

end UserFrame

/-! ## The two parts of a payload -/

namespace StreamAssembly

/-- `_uvc_process_payload` up to the copy of the image, with the image and the flags of the header,
if it goes on. -/
def beginPayload (s : StreamAssembly) (payload : UvcPayload) :
    StreamAssembly × Option (List UInt8 × UInt8) :=
  if payload.length = 0 then (s, none)
  else if s.withoutHeader payload then
    (s, some (Bytes.slice payload.memory 0 payload.length, 0))
  else
    let headerLen := (payload.memory 0).toNat
    if headerLen > payload.length then (s, none)
    else
      let dataLen := if s.isIsight then 0 else payload.length - headerLen
      let data := Bytes.slice payload.memory headerLen dataLen
      if headerLen < 2 then (s, some (data, 0))
      else
        let headerInfo := payload.memory 1
        if isError headerInfo then (s, none)
        else (s.readHeader payload.memory headerLen headerInfo, some (data, headerInfo))

/-- The rest of `_uvc_process_payload`. -/
def finishPayload (s : StreamAssembly) : Option (List UInt8 × UInt8) → StreamAssembly
  | none => s
  | some (data, headerInfo) => s.readData data headerInfo

/-- The two parts make the whole. -/
theorem finishPayload_beginPayload (s : StreamAssembly) (payload : UvcPayload) :
    (s.beginPayload payload).1.finishPayload (s.beginPayload payload).2 =
      s.processPayload payload := by
  simp only [beginPayload, processPayload]
  split
  · rfl
  · split
    · rfl
    · split
      · rfl
      · split
        · rfl
        · split
          · rfl
          · rfl

end StreamAssembly

/-! ## The two threads -/

/-- A stream with the thread of its callback. -/
structure StreamDelivery where
  assembly : StreamAssembly
  /-- The image of the payload that is being processed, with the flags of its header. -/
  rest : Option (List UInt8 × UInt8)
  running : Bool
  /-- `last_seq` -/
  lastSeq : UInt32
  frame : UserFrame
  /-- The frames that the callback was called with. -/
  delivered : List UserFrame

namespace StreamDelivery

/-- A step of one of the threads. -/
inductive Label where
  /-- The thread of libusb begins with a payload, and reads its header. -/
  | header (p : UvcPayload)
  /-- It copies the image of that payload. -/
  | image
  /-- The user thread finds another frame than before and calls the callback with it. -/
  | deliver
  /-- `uvc_stream_stop` clears `running`. -/
  | stop

/-- The payloads of a run.  The last one may still be under way. -/
def payloads (labels : List Label) : List UvcPayload :=
  labels.filterMap fun label =>
    match label with
    | .header p => some p
    | _ => none

/-- The stream of the colour camera after it was started. -/
def start : StreamDelivery :=
  ⟨.start colorCameraVid colorCameraPid, none, true, 0, .empty, []⟩

/-- The frame in `holdbuf` and `meta_holdbuf`: the one that was made available last. -/
def hold (s : StreamDelivery) : HeldFrame :=
  s.assembly.published.getLast?.getD ⟨[], [], 0, 0, 0⟩

/-- One step, if it is possible. -/
def step (s : StreamDelivery) : Label → Option StreamDelivery
  | .header p =>
      if s.rest = none then
        let r := s.assembly.beginPayload p
        some { s with assembly := r.1, rest := r.2 }
      else none
  | .image =>
      s.rest.map fun r => { s with assembly := s.assembly.readData r.1 r.2, rest := none }
  | .deliver =>
      if s.running && s.lastSeq != s.hold.seq then
        some { s with
          lastSeq := s.hold.seq
          frame := s.frame.populate s.hold
          delivered := s.delivered ++ [s.frame.populate s.hold] }
      else none
  | .stop => some { s with running := false }

variable {s s' : StreamDelivery}

/-! ## What is made available -/

/-- A payload adds to the frames that have been made available. -/
theorem exists_readData (a : StreamAssembly) (data : List UInt8) (headerInfo : UInt8) :
    ∃ l, (a.readData data headerInfo).published = a.published ++ l := by
  simp only [StreamAssembly.readData]
  split
  · split
    · exact ⟨[(a.appendData data).current], rfl⟩
    · exact ⟨[], (List.append_nil _).symm⟩
  · exact ⟨[], (List.append_nil _).symm⟩

theorem exists_readHeader (a : StreamAssembly) (memory : Nat → UInt8) (headerLen : Nat)
    (headerInfo : UInt8) :
    ∃ l, (a.readHeader memory headerLen headerInfo).published = a.published ++ l := by
  have hbegin : ∃ l, (a.beginFrame (headerInfo &&& 1)).published = a.published ++ l := by
    simp only [StreamAssembly.beginFrame]
    split
    · exact ⟨[a.current], rfl⟩
    · exact ⟨[], (List.append_nil _).symm⟩
  simp only [StreamAssembly.readHeader]
  split
  · exact hbegin
  · exact hbegin

theorem exists_beginPayload (a : StreamAssembly) (p : UvcPayload) :
    ∃ l, (a.beginPayload p).1.published = a.published ++ l := by
  have hnone : ∃ l, a.published = a.published ++ l := ⟨[], (List.append_nil _).symm⟩
  simp only [StreamAssembly.beginPayload]
  split
  · exact hnone
  · split
    · exact hnone
    · split
      · exact hnone
      · split
        · exact hnone
        · split
          · exact hnone
          · exact exists_readHeader ..

/-! ## What the callback gets -/

/-- The callback has got some of the frames that were made available, in order, and the last of
them only if its number is remembered. -/
structure Delivers (s : StreamDelivery) (taken : List HeldFrame) : Prop where
  sublist : taken.Sublist s.assembly.published
  delivered : s.delivered = UserFrame.empty.populateAll taken
  frame : s.frame = taken.foldl UserFrame.populate .empty
  latest : taken.Sublist s.assembly.published.dropLast ∨ s.lastSeq = s.hold.seq
  fits : s.frame.Fits ∧ ∀ f ∈ s.delivered, f.Fits

theorem start_delivers : start.Delivers [] where
  sublist := List.nil_sublist _
  delivered := rfl
  frame := rfl
  latest := .inl (List.nil_sublist _)
  fits := ⟨⟨Nat.le_refl 0, Nat.le_refl 0⟩, List.forall_mem_nil _⟩

/-- A frame more that has been made available. -/
theorem Delivers.published {taken l : List HeldFrame} {a : StreamAssembly} (h : s.Delivers taken)
    (ha : a.published = s.assembly.published ++ l) (rest : Option (List UInt8 × UInt8)) :
    StreamDelivery.Delivers { s with assembly := a, rest } taken := by
  have hsublist : taken.Sublist a.published := by
    rw [ha]
    exact h.sublist.trans (List.sublist_append_left _ _)
  refine ⟨hsublist, h.delivered, h.frame, ?_, h.fits⟩
  cases l with
  | nil =>
      have hsame : a.published = s.assembly.published := ha.trans (List.append_nil _)
      simp only [hold, hsame]
      exact h.latest
  | cons x l =>
      refine .inl ?_
      have hprefix : s.assembly.published.Sublist a.published.dropLast := by
        rw [ha, List.dropLast_append_of_ne_nil (List.cons_ne_nil x l)]
        exact List.sublist_append_left _ _
      exact h.sublist.trans hprefix

/-- The frame that the user thread takes has not been taken before. -/
theorem Delivers.deliver {taken : List HeldFrame} (h : s.Delivers taken)
    (hseq : s.lastSeq ≠ s.hold.seq) (hpublished : s.assembly.published ≠ []) :
    StreamDelivery.Delivers { s with
      lastSeq := s.hold.seq
      frame := s.frame.populate s.hold
      delivered := s.delivered ++ [s.frame.populate s.hold] } (taken ++ [s.hold]) := by
  have hhold : s.hold = s.assembly.published.getLast hpublished := by
    rw [hold, List.getLast?_eq_some_getLast hpublished, Option.getD_some]
  have hsublist : (taken ++ [s.hold]).Sublist s.assembly.published := by
    rw [hhold]
    conv => rhs; rw [← List.dropLast_append_getLast hpublished]
    exact (h.latest.resolve_right hseq).append (List.Sublist.refl _)
  have hfits : (s.frame.populate s.hold).Fits := UserFrame.populate_fits h.fits.1 _
  refine ⟨hsublist, ?_, ?_, .inr rfl, hfits, ?_⟩
  · rw [UserFrame.populateAll_append, ← h.delivered, ← h.frame]
    rfl
  · rw [List.foldl_append, ← h.frame]
    rfl
  · intro f hf
    obtain hold | hnew := List.mem_append.mp hf
    · exact h.fits.2 f hold
    · rw [List.mem_singleton.mp hnew]
      exact hfits

/-- Before anything has been made available, the held frame has the number 0. -/
theorem hold_of_published_nil (h : s.assembly.published = []) : s.hold = ⟨[], [], 0, 0, 0⟩ := by
  rw [hold, h]
  rfl

/-- What holds between two steps. -/
def Ok (s : StreamDelivery) : Prop :=
  (s.assembly.published = [] → s.lastSeq = 0) ∧ ∃ taken, s.Delivers taken

theorem step_ok (h : s.Ok) {label : Label} (hstep : s.step label = some s') : s'.Ok := by
  obtain ⟨hlast, taken, hdelivers⟩ := h
  cases label with
  | header p =>
      simp only [step, Option.ite_none_right_eq_some, Option.some.injEq] at hstep
      obtain ⟨-, rfl⟩ := hstep
      obtain ⟨l, hl⟩ := exists_beginPayload s.assembly p
      exact ⟨fun hnil => hlast (List.append_eq_nil_iff.mp (hl.symm.trans hnil)).1, taken,
        hdelivers.published hl _⟩
  | image =>
      obtain ⟨r, -, rfl⟩ := Option.map_eq_some_iff.mp hstep
      obtain ⟨l, hl⟩ := exists_readData s.assembly r.1 r.2
      exact ⟨fun hnil => hlast (List.append_eq_nil_iff.mp (hl.symm.trans hnil)).1, taken,
        hdelivers.published hl _⟩
  | deliver =>
      simp only [step, Option.ite_none_right_eq_some, Option.some.injEq, Bool.and_eq_true,
        bne_iff_ne] at hstep
      obtain ⟨⟨-, hseq⟩, rfl⟩ := hstep
      have hpublished : s.assembly.published ≠ [] := by
        intro hnil
        rw [hlast hnil, hold_of_published_nil hnil] at hseq
        exact hseq rfl
      exact ⟨fun hnil => absurd hnil hpublished, _, hdelivers.deliver hseq hpublished⟩
  | stop =>
      obtain rfl := Option.some.inj hstep
      exact ⟨hlast, taken, hdelivers.sublist, hdelivers.delivered, hdelivers.frame,
        hdelivers.latest, hdelivers.fits⟩

/-- The frames are put together from the payloads, whatever the user thread does. -/
theorem assembly_run (labels : List Label) : ∀ {s s' : StreamDelivery},
    Steps.run step s labels = some s' →
    s'.assembly.finishPayload s'.rest =
      (s.assembly.finishPayload s.rest).processPayloads (payloads labels) := by
  induction labels with
  | nil =>
      intro s s' h
      cases h
      rfl
  | cons label labels ih =>
      intro s s' h
      obtain ⟨v, hv, hrun⟩ := Steps.run_cons h
      rw [ih hrun]
      cases label with
      | header p =>
          simp only [step, Option.ite_none_right_eq_some, Option.some.injEq] at hv
          obtain ⟨hrest, rfl⟩ := hv
          rw [hrest, StreamAssembly.finishPayload_beginPayload]
          rfl
      | image =>
          obtain ⟨r, hr, rfl⟩ := Option.map_eq_some_iff.mp hv
          rw [hr]
          rfl
      | deliver =>
          simp only [step, Option.ite_none_right_eq_some, Option.some.injEq] at hv
          obtain ⟨-, rfl⟩ := hv
          rfl
      | stop =>
          obtain rfl := Option.some.inj hv
          rfl

/-- What has been made available is a beginning of what the payloads give. -/
theorem exists_published {labels : List Label} (h : Steps.run step start labels = some s) :
    ∃ l, ((StreamAssembly.start colorCameraVid colorCameraPid).processPayloads
      (payloads labels)).published = s.assembly.published ++ l := by
  rw [← show s.assembly.finishPayload s.rest = (StreamAssembly.start colorCameraVid
    colorCameraPid).processPayloads (payloads labels) from assembly_run labels h]
  cases s.rest with
  | none => exact ⟨[], (List.append_nil _).symm⟩
  | some r => exact exists_readData s.assembly r.1 r.2

/-! ## Main result -/

/-- From the camera to the callback.  A camera sends frames, each with another frame ID than the
one before.  Then the callback is called with frames that were sent, each with its own data and
number, in the order in which they were sent and none of them twice, and no copy is larger than its
block.  The metadata are those of the same frames exactly if none that is taken without metadata
comes after one that has some. -/
theorem delivered_frames_were_sent {fs : List SentFrame} {labels : List Label}
    (h : Steps.run step start labels = some s)
    (halternate : fs.IsChain fun f g => f.fid ≠ g.fid)
    (hcarry : List.Forall₂ UvcPacket.CarriedBy (fs.flatMap (·.packets))
      ((payloads labels).filter fun payload => ¬ StreamAssembly.Ignored payload)) :
    ∃ taken : List HeldFrame, taken.Sublist (SentFrame.numbered 1 fs) ∧
      s.delivered.map (fun f => (f.sequence, f.data)) =
        taken.map (fun hold => (hold.seq, hold.data)) ∧
      (∀ f ∈ s.delivered, f.Fits) ∧
      (s.delivered.map (·.metadata) = taken.map (·.metadata) ↔
        taken.Pairwise fun hold hold' => hold.metadata ≠ [] → hold'.metadata ≠ []) := by
  have hok : s.Ok := Steps.run_invariant Ok (fun _ => True)
    (fun _ _ _ hok _ hstep => step_ok hok hstep) labels (fun _ _ => trivial)
    ⟨fun _ => rfl, [], start_delivers⟩ h
  obtain ⟨-, taken, hdelivers⟩ := hok
  obtain ⟨hframes, -⟩ := frames_put_together halternate hcarry
  obtain ⟨l, hpublished⟩ := exists_published h
  rw [hpublished, List.append_assoc] at hframes
  refine ⟨taken, ?_, ?_, hdelivers.fits.2, ?_⟩
  · rw [← hframes]
    exact hdelivers.sublist.trans (List.sublist_append_left _ _)
  · rw [hdelivers.delivered]
    exact UserFrame.populateAll_data taken .empty
  · rw [hdelivers.delivered, UserFrame.populateAll_metadata_iff]
    simp [UserFrame.empty]

/-- The payloads of two frames.  The last one ends the first frame with its header and completes the
second one with its image, and the user thread runs in between. -/
def twoFramesLabels : List Label :=
  (twoFrames.dropLast.flatMap fun p =>
      if StreamAssembly.Ignored p then [.header p] else [.header p, .image]) ++
    (twoFrames.getLast?.toList.flatMap fun p => [.header p, .deliver, .image]) ++ [.deliver, .stop]

/-- The callback gets both frames. -/
theorem delivered_frames_were_sent_twoFrames :
    ∃ s, Steps.run step start twoFramesLabels = some s ∧
      s.delivered.map (fun f => (f.sequence, f.data)) = [(1, [1, 2, 3]), (2, [4])] ∧
      ∃ taken : List HeldFrame,
        taken.Sublist (SentFrame.numbered 1 [clockedFrame, singleFrame]) ∧
        s.delivered.map (fun f => (f.sequence, f.data)) =
          taken.map (fun hold => (hold.seq, hold.data)) ∧
        (∀ f ∈ s.delivered, f.Fits) ∧
        (s.delivered.map (·.metadata) = taken.map (·.metadata) ↔
          taken.Pairwise fun hold hold' => hold.metadata ≠ [] → hold'.metadata ≠ []) :=
  ⟨_, rfl, by decide,
    @delivered_frames_were_sent _ _ twoFramesLabels rfl (by decide) twoFrames_carry⟩

end StreamDelivery

end ZsaSdk
