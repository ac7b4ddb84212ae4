import ZsaSdk.Lib.DelayLine
import ZsaSdk.Capturesync.References
import ZsaSdk.Capturesync.Stopped

/-!
# Sessions with the colour camera alone

`zsa.c` registers one callback, `color_capture_ready`, so the colour camera is the only one whose
captures reach the synchroniser, whatever the configuration says about depth.

If one sensor is off, or synchronisation is disabled, a capture is published when it arrives.
Otherwise it goes to the slot and the internal queue of its stream, where it waits for a depth
capture that does not come, until so many newer ones have arrived that the queue is full; then it
is published alone, or thrown away if only synchronised images are wanted.  So for the client the
synchroniser is a line that holds captures back (`ColorChannel`, `Session.Shows`).
-/

namespace ZsaSdk

open World

/-! ## The channel -/

/-- A session as the client sees it.  A failed capture closes it. -/
structure ColorChannel where
  line : DelayLine CaptureHandle
  isOpen : Bool

namespace ColorChannel

/-- Captures are published when they arrive. -/
def unsynchronized (disableSync : Bool) (config : DeviceConfiguration) : Bool :=
  disableSync || config.colorResolution == .off || config.depthMode == .off

/-- As many captures as the slot and the internal queue of a stream take. -/
def delayOf (disableSync : Bool) (config : DeviceConfiguration) : Nat :=
  if unsynchronized disableSync config then 0 else queueDefaultSize.toNat + 1

/-- A capture that finds no partner is published in the end. -/
def forwardsOf (disableSync : Bool) (config : DeviceConfiguration) : Bool :=
  unsynchronized disableSync config || !config.synchronizedImagesOnly

/-- As many captures as `sync_queue` takes. -/
def roomOf : Nat := (queueDefaultSize / 2).toNat

theorem roomOf_pos : 0 < roomOf := by decide

/-- A session that begins. -/
def begin (disableSync : Bool) (config : DeviceConfiguration) : ColorChannel :=
  ⟨.empty (delayOf disableSync config) (forwardsOf disableSync config) roomOf roomOf_pos, true⟩

/-- A capture arrives. -/
def push (ch : ColorChannel) (c : CaptureHandle) : ColorChannel :=
  if ch.isOpen then { ch with line := ch.line.push c } else ch

/-- The camera reports a failure. -/
def close (ch : ColorChannel) : ColorChannel := { ch with isOpen := false }

/-- What a client that does not wait is told. -/
def answer (ch : ColorChannel) : WaitResult × Option CaptureHandle :=
  if ch.isOpen then
    match ch.line.ready.items with
    | [] => (.timeout, none)
    | c :: _ => (.succeeded, some c)
  else (.failed, none)

/-- A client has been told. -/
def take (ch : ColorChannel) : ColorChannel :=
  if ch.isOpen then { ch with line := ch.line.take } else ch

variable {ch : ColorChannel}

theorem push_of_open (h : ch.isOpen = true) (c : CaptureHandle) :
    ch.push c = { ch with line := ch.line.push c } := if_pos h

theorem push_of_closed (h : ch.isOpen = false) (c : CaptureHandle) : ch.push c = ch :=
  if_neg (Bool.eq_false_iff.mp h)

theorem take_of_open (h : ch.isOpen = true) : ch.take = { ch with line := ch.line.take } := if_pos h

theorem take_of_closed (h : ch.isOpen = false) : ch.take = ch := if_neg (Bool.eq_false_iff.mp h)

theorem answer_of_closed (h : ch.isOpen = false) : ch.answer = (.failed, none) :=
  if_neg (Bool.eq_false_iff.mp h)

end ColorChannel

/-! ## Sessions -/

namespace Session

/-- Captures are published when they arrive. -/
def bypass (s : Session) : Bool := !s.params.syncCaptures || s.params.disableSync

/-- The session is that of the channel.  What the stream holds when the channel is closed is not
seen any more. -/
structure Shows (s : Session) (ch : ColorChannel) : Prop where
  running : s.params.running = true
  depth : (s.stream false).captures = []
  capacity : (s.stream true).capacity = queueDefaultSize.toNat
  bounded : (s.stream true).captures.length ≤ queueDefaultSize.toNat + 1
  streamOpen : (s.stream true).isOpen = ch.isOpen
  queueOpen : s.syncQueue.enabled = ch.isOpen
  ready : ch.isOpen = true → s.syncQueue.fifo = ch.line.ready
  direct : s.bypass = true →
    ch.line.delay = 0 ∧ ch.line.forwards = true ∧ ch.line.held = []
  synchronized : s.bypass = false → ch.line.delay = queueDefaultSize.toNat + 1 ∧
    ch.line.forwards = !s.params.synchronizedImagesOnly ∧
    (ch.isOpen = true → ch.line.held = (s.stream true).captures)

variable {s : Session} {ch : ColorChannel}

/-- A push to the queue of the client. -/
theorem publish_open (h : s.syncQueue.enabled = true) (p : Published) :
    (s.publish p).syncQueue = ⟨s.syncQueue.fifo.push p.capture, true⟩ := by
  simp only [publish, FifoQueue.pushWDropped, h]

theorem publish_closed (h : s.syncQueue.enabled = false) (p : Published) :
    (s.publish p).syncQueue = s.syncQueue := by
  simp only [publish, FifoQueue.pushWDropped, h]

/-- Without depth captures there is nothing to synchronise. -/
theorem loop_of_no_depth (h : (s.stream false).captures = []) : s.loop = s := by
  have hguard : s.guard = false := by simp [guard, h]
  exact Loop.run_false hguard _

/-- A stream that is shown by the channel takes a capture. -/
theorem accept_eq (h : s.params.running = true) (c : CaptureHandle) :
    s.accept c true =
      if s.bypass then s.publish (.alone true c) else (s.store c true).loop := by
  have hbypass : (decide (s.params.syncCaptures = false) || decide (s.params.disableSync = true)) =
      s.bypass := by
    unfold bypass
    cases s.params.syncCaptures <;> cases s.params.disableSync <;> rfl
  have hrunning : ¬s.params.running = false := by
    rw [h]
    decide
  have hcolor : ¬(decide (true = false) && s.params.waitingForCleanDepthTs) = true := by simp
  rw [accept, if_neg hrunning, hbypass, if_neg hcolor]

/-- What changes when the queue of the client changes. -/
theorem Shows.publish (h : s.Shows ch) (hbypass : s.bypass = true) (p : Published) :
    (s.publish p).Shows (ch.push p.capture) := by
  obtain ⟨hdelay, hforwards, hheld⟩ := h.direct hbypass
  cases ho : ch.isOpen with
  | false =>
      have hqueue : s.syncQueue.enabled = false := h.queueOpen.trans ho
      rw [ColorChannel.push_of_closed ho]
      refine ⟨h.running, h.depth, h.capacity, h.bounded, h.streamOpen, ?_, ?_, h.direct,
        h.synchronized⟩
      · rw [publish_closed hqueue]
        exact h.queueOpen
      · intro hopen
        rw [ho] at hopen
        cases hopen
  | true =>
      have hqueue : s.syncQueue.enabled = true := h.queueOpen.trans ho
      have hroom : ¬ch.line.held.length < ch.line.delay := by
        rw [hdelay]
        exact Nat.not_lt_zero _
      have hpush : ch.push p.capture =
          ⟨{ ch.line with ready := ch.line.ready.push p.capture }, true⟩ := by
        rw [ColorChannel.push_of_open ho, DelayLine.push_nil hroom hheld,
          DelayLine.emit_of_forwards hforwards, ho]
      rw [hpush]
      refine ⟨h.running, h.depth, h.capacity, h.bounded, h.streamOpen.trans ho, ?_, ?_,
        fun _ => ⟨hdelay, hforwards, hheld⟩, ?_⟩
      · rw [publish_open hqueue]
      · intro _
        rw [publish_open hqueue, ← h.ready ho]
      · intro hsync
        exact absurd (hbypass.symm.trans hsync) Bool.true_eq_false.mp

/-- The captures of the stream change. -/
theorem Shows.setCaptures (h : s.Shows ch) (hbypass : s.bypass = false) {l : List CaptureHandle}
    (held : List CaptureHandle) (hl : l.length ≤ queueDefaultSize.toNat + 1)
    (hheld : ch.isOpen = true → held = l) :
    (s.setCaptures true l).Shows { ch with line := { ch.line with held := held } } := by
  have hfalse : (s.setCaptures true l).stream false = s.stream false :=
    stream_setCaptures_of_ne s (by decide) l
  have htrue : (s.setCaptures true l).stream true = { s.stream true with captures := l } := by
    simp [Session.setCaptures]
  obtain ⟨hdelay, hforwards, -⟩ := h.synchronized hbypass
  refine ⟨h.running, ?_, ?_, ?_, ?_, h.queueOpen, h.ready, ?_, fun _ => ⟨hdelay, hforwards, ?_⟩⟩
  · rw [hfalse]
    exact h.depth
  · rw [htrue]
    exact h.capacity
  · rw [htrue]
    exact hl
  · rw [htrue]
    exact h.streamOpen
  · intro hdirect
    exact absurd (hbypass.symm.trans hdirect) (by decide)
  · intro ho
    rw [htrue]
    exact hheld ho

/-- The capture at the head of a full stream leaves it. -/
theorem Shows.publishAlone (h : s.Shows ch) (hbypass : s.bypass = false) (ho : ch.isOpen = true)
    (d : CaptureHandle) : (s.publishAlone true d).Shows { ch with line := ch.line.emit d } := by
  obtain ⟨hdelay, hforwards, hheld⟩ := h.synchronized hbypass
  cases honly : s.params.synchronizedImagesOnly with
  | true =>
      have hline : ch.line.emit d = ch.line := by
        refine DelayLine.emit_of_not_forwards ?_ d
        rw [hforwards, honly]
        rfl
      have hsame : s.publishAlone true d = s := if_pos honly
      rw [hline, hsame]
      exact h
  | false =>
      have hline : ch.line.emit d = { ch.line with ready := ch.line.ready.push d } := by
        refine DelayLine.emit_of_forwards ?_ d
        rw [hforwards, honly]
        rfl
      have hpublish : s.publishAlone true d = s.publish (.alone true d) := by
        rw [Session.publishAlone, honly]
        rfl
      have hqueue : s.syncQueue.enabled = true := h.queueOpen.trans ho
      rw [hline, hpublish]
      refine ⟨h.running, h.depth, h.capacity, h.bounded, h.streamOpen, ?_, ?_, ?_,
        fun _ => ⟨hdelay, hforwards, hheld⟩⟩
      · rw [publish_open hqueue]
        exact ho.symm
      · intro _
        rw [publish_open hqueue, ← h.ready ho]
        rfl
      · intro hdirect
        exact absurd (hbypass.symm.trans hdirect) (by decide)

/-- A capture goes to the slot or to the internal queue. -/
theorem Shows.store (h : s.Shows ch) (hbypass : s.bypass = false) (c : CaptureHandle) :
    (s.store c true).Shows (ch.push c) := by
  obtain ⟨hdelay, -, hheld⟩ := h.synchronized hbypass
  have hbounded := h.bounded
  cases ho : ch.isOpen with
  | false =>
      rw [ColorChannel.push_of_closed ho, Session.store]
      split
      · refine h.setCaptures hbypass ch.line.held ?_ ?_
        · rw [List.length_singleton]
          omega
        · intro hopen
          rw [ho] at hopen
          cases hopen
      · rw [if_pos (h.streamOpen.trans ho)]
        exact h
  | true =>
      have hopen : ¬(s.stream true).isOpen = false := by
        rw [h.streamOpen, ho]
        decide
      rw [ColorChannel.push_of_open ho]
      rw [← hheld ho] at hbounded
      cases hcaptures : (s.stream true).captures with
      | nil =>
          have hempty : ch.line.held = [] := (hheld ho).trans hcaptures
          have hroom : ch.line.held.length < ch.line.delay := by
            rw [hempty, hdelay]
            exact Nat.succ_pos _
          rw [DelayLine.push_of_room hroom, hempty, Session.store, hcaptures]
          refine h.setCaptures hbypass _ ?_ fun _ => rfl
          rw [List.length_singleton]
          omega
      | cons d ds =>
          have hline : ch.line.held = d :: ds := (hheld ho).trans hcaptures
          rw [hline, List.length_cons] at hbounded
          rw [Session.store, hcaptures]
          simp only
          rw [if_neg hopen, h.capacity]
          split
          · next hfull =>
            have hroom : ¬ch.line.held.length < ch.line.delay := by
              rw [hline, List.length_cons, hdelay, hfull]
              omega
            rw [DelayLine.push_cons hroom hline]
            refine (h.publishAlone hbypass ho d).setCaptures ?_ _ ?_ fun _ => rfl
            · rw [← hbypass]
              simp only [Session.publishAlone]
              split <;> rfl
            · rw [List.length_append, List.length_singleton]
              omega
          · next hfull =>
            have hroom : ch.line.held.length < ch.line.delay := by
              rw [hline, List.length_cons, hdelay]
              omega
            rw [DelayLine.push_of_room hroom, hline]
            refine h.setCaptures hbypass _ ?_ fun _ => rfl
            rw [List.length_append, List.length_cons, List.length_singleton]
            omega

/-- A capture of the colour camera arrives. -/
theorem Shows.add (h : s.Shows ch) {c : CaptureHandle} (htyped : s.heap.typedImage true c ≠ none) :
    (s.add .succeeded (some c) true).Shows (ch.push c) := by
  have hadd : s.add .succeeded (some c) true = s.accept c true := if_neg htyped
  rw [hadd, accept_eq h.running]
  cases hbypass : s.bypass with
  | true => exact h.publish hbypass (.alone true c)
  | false =>
      have hstored := h.store hbypass c
      rw [if_neg (by decide), loop_of_no_depth hstored.depth]
      exact hstored

/-- The camera reports a failure. -/
theorem Shows.fail (h : s.Shows ch) : s.fail.Shows ch.close where
  running := h.running
  depth := by
    have hdepth : (s.fail.stream false).captures = (s.stream false).captures.take 1 := rfl
    rw [hdepth, h.depth]
    rfl
  capacity := h.capacity
  bounded := (List.length_take_le' 1 _).trans h.bounded
  streamOpen := rfl
  queueOpen := rfl
  ready ho := by cases ho
  direct := h.direct
  synchronized hbypass := by
    obtain ⟨hdelay, hforwards, -⟩ := h.synchronized hbypass
    exact ⟨hdelay, hforwards, fun ho => by cases ho⟩

/-- The client is told what the channel answers. -/
theorem Shows.get (h : s.Shows ch) : s.get.1.Shows ch.take ∧ s.get.2 = ch.answer := by
  cases ho : ch.isOpen with
  | false =>
      have hqueue : s.syncQueue.enabled = false := h.queueOpen.trans ho
      have hpop : s.syncQueue.pop = ⟨s.syncQueue, .failed, none, []⟩ := by
        simp only [FifoQueue.pop, hqueue]
      rw [ColorChannel.take_of_closed ho, ColorChannel.answer_of_closed ho]
      simp only [Session.get, hpop]
      exact ⟨h, trivial⟩
  | true =>
      have hqueue : s.syncQueue.enabled = true := h.queueOpen.trans ho
      have hready := h.ready ho
      have hkeep : ∀ fifo : BoundedFifo CaptureHandle, fifo = ch.line.ready.pop →
          Session.Shows { s with syncQueue := ⟨fifo, true⟩ } ch.take := by
        intro fifo hfifo
        rw [ColorChannel.take_of_open ho]
        exact ⟨h.running, h.depth, h.capacity, h.bounded, h.streamOpen, ho.symm, fun _ => hfifo,
          h.direct, h.synchronized⟩
      simp only [Session.get, ColorChannel.answer, ho, FifoQueue.pop, hqueue, hready]
      cases hitems : ch.line.ready.items with
      | nil =>
          refine ⟨?_, rfl⟩
          have hline : ch.line.take = ch.line := DelayLine.take_nil hitems
          have hsame : s.syncQueue = ⟨ch.line.ready, true⟩ := FifoQueue.ext hready hqueue
          simp only
          rw [hsame]
          exact hkeep _ (congrArg DelayLine.ready hline).symm
      | cons c cs => exact ⟨hkeep _ rfl, rfl⟩

end Session

/-! ## The synchroniser -/

/-- The session of a synchroniser that is stopped begins with an empty line. -/
theorem World.Stopped.shows_start {w : World FifoQueue} (h : Stopped w)
    (hcaps : w.caps = defaultCaps)
    {config : DeviceConfiguration} (hfps : 0 < convertFpsToUint config.cameraFps) :
    (capturesyncStart w config).1.session.Shows
      (ColorChannel.begin w.sync.disableSync config) := by
  simp only [caps, defaultCaps, Prod.mk.injEq] at hcaps
  obtain ⟨hcolor, -, hcap⟩ := hcaps
  have hempty : ∀ k, (w.frame k).capture.toList ++ (w.frame k).queue.fifo.items = [] := by
    intro k
    rw [(h.slot k).1, List.length_eq_zero_iff.mp (h.queue k).2]
    rfl
  simp only [capturesyncStart, hfps, if_true]
  have hbypass : ∀ s : Session, s.params.syncCaptures =
      (!(config.colorResolution == .off || config.depthMode == .off)) →
      s.params.disableSync = w.sync.disableSync →
      s.bypass = ColorChannel.unsynchronized w.sync.disableSync config := by
    intro s hsync hdisable
    rw [Session.bypass, hsync, hdisable, Bool.not_not, ColorChannel.unsynchronized, Bool.or_comm,
      Bool.or_assoc]
  refine ⟨rfl, hempty false, hcolor, ?_, rfl, rfl, fun _ => ?_, ?_, ?_⟩
  · exact (congrArg List.length (hempty true)).trans_le (Nat.zero_le _)
  · exact BoundedFifo.ext hcap (List.length_eq_zero_iff.mp h.syncQueue.2)
  · intro hdirect
    have hunsync := (hbypass _ rfl rfl).symm.trans hdirect
    refine ⟨?_, ?_, rfl⟩
    · exact if_pos hunsync
    · show ColorChannel.forwardsOf _ _ = true
      rw [ColorChannel.forwardsOf, hunsync]
      rfl
  · intro hsync
    have hunsync := (hbypass _ rfl rfl).symm.trans hsync
    refine ⟨?_, ?_, fun _ => (hempty true).symm⟩
    · show ColorChannel.delayOf _ _ = _
      rw [ColorChannel.delayOf, hunsync]
      rfl
    · show ColorChannel.forwardsOf _ _ = _
      rw [ColorChannel.forwardsOf, hunsync]
      rfl

/-- A synchroniser that is fed by the colour camera alone, between two calls: it is stopped, or its
session is that of a channel. -/
structure World.Follows (w : World FifoQueue) (disableSync : Bool) (ch : Option ColorChannel) :
    Prop where
  inv : RepInv w
  quiet : Quiet w
  disableSync : w.sync.disableSync = disableSync
  stopped : ch = none → Stopped w
  shows : ∀ channel, ch = some channel → w.session.Shows channel

section Follows

variable {w : World FifoQueue} {disableSync : Bool} {ch : Option ColorChannel}

/-- A capture of the colour camera. -/
theorem World.Follows.add (h : w.Follows disableSync ch) {c : CaptureHandle}
    (htyped : w.heap.typedImage true c ≠ none) :
    (capturesyncAddCapture w .succeeded (some c) true).Follows disableSync
      (ch.map fun channel => channel.push c) := by
  obtain ⟨hsession, hquiet⟩ := session_addCapture h.inv h.quiet .succeeded (some c) true
  refine ⟨capturesyncAddCapture_inv h.inv _ _ _, hquiet, ?_, ?_, ?_⟩
  · exact (congrArg Params.disableSync
      (settings_capturesyncAddCapture w .succeeded (some c) true)).trans h.disableSync
  · intro hnone
    exact capturesyncAddCapture_stopped (h.stopped (Option.map_eq_none_iff.mp hnone)) _ _ _
  · intro channel hchannel
    obtain ⟨channel', hch, rfl⟩ := Option.map_eq_some_iff.mp hchannel
    rw [hsession]
    exact (h.shows channel' hch).add htyped

/-- A failure of the colour camera. -/
theorem World.Follows.fail (h : w.Follows disableSync ch) (c : Option CaptureHandle) :
    (capturesyncAddCapture w .failed c true).Follows disableSync (ch.map ColorChannel.close) := by
  obtain ⟨hsession, hquiet⟩ := session_addCapture h.inv h.quiet .failed c true
  refine ⟨capturesyncAddCapture_inv h.inv _ _ _, hquiet, ?_, ?_, ?_⟩
  · exact (congrArg Params.disableSync (settings_capturesyncAddCapture w .failed c true)).trans
      h.disableSync
  · intro hnone
    exact capturesyncAddCapture_stopped (h.stopped (Option.map_eq_none_iff.mp hnone)) _ _ _
  · intro channel hchannel
    obtain ⟨channel', hch, rfl⟩ := Option.map_eq_some_iff.mp hchannel
    rw [hsession]
    exact (h.shows channel' hch).fail

/-- A client asks for a capture. -/
theorem World.Follows.get (h : w.Follows disableSync ch) :
    (capturesyncGetCapture w).1.Follows disableSync (ch.map ColorChannel.take) ∧
      (capturesyncGetCapture w).2 = (ch.map ColorChannel.answer).getD (.failed, none) := by
  obtain ⟨hsession, hresult, hquiet⟩ := session_getCapture h.quiet
  refine ⟨⟨capturesyncGetCapture_inv h.inv, hquiet, ?_, ?_, ?_⟩, ?_⟩
  · exact (congrArg Params.disableSync (settings_capturesyncGetCapture w)).trans h.disableSync
  · intro hnone
    exact capturesyncGetCapture_stopped (h.stopped (Option.map_eq_none_iff.mp hnone))
  · intro channel hchannel
    obtain ⟨channel', hch, rfl⟩ := Option.map_eq_some_iff.mp hchannel
    rw [hsession]
    exact (h.shows channel' hch).get.1
  · cases hch : ch with
    | none =>
        have hdisabled : w.sync.syncQueue.enabled = false := (h.stopped hch).syncQueue.1
        rw [capturesyncGetCapture_result, FifoQueue.pop, hdisabled]
        rfl
    | some channel =>
        rw [hresult]
        exact (h.shows channel hch).get.2

/-- The synchroniser is stopped. -/
theorem World.Follows.stop (h : w.Follows disableSync ch) :
    (capturesyncStop w).Follows disableSync none where
  inv := capturesyncStop_inv h.inv
  quiet := h.quiet.stop
  disableSync :=
    (congrArg Params.disableSync (settings_capturesyncStop w)).trans h.disableSync
  stopped _ := capturesyncStop_stopped w
  shows _ hchannel := by cases hchannel

/-- The synchroniser is started. -/
theorem World.Follows.start (h : w.Follows disableSync none) (config : DeviceConfiguration) :
    (capturesyncStart w config).1.Follows disableSync
      (if (capturesyncStart w config).2 = .succeeded then some (.begin disableSync config)
        else none) := by
  have hinv := capturesyncStart_inv h.inv h.quiet.notifiers config
  by_cases hfps : 0 < convertFpsToUint config.cameraFps
  · have hshows := (h.stopped rfl).shows_start h.inv.core.caps hfps
    rw [h.disableSync] at hshows
    have hresult : (capturesyncStart w config).2 = .succeeded := by
      simp only [capturesyncStart, hfps, if_true]
    rw [if_pos hresult]
    refine ⟨hinv, ?_, ?_, ?_, ?_⟩
    · simp only [capturesyncStart, hfps, if_true]
      exact ⟨h.quiet.schedule, h.quiet.notifiers⟩
    · simp only [capturesyncStart, hfps, if_true]
      exact h.disableSync
    · intro hnone
      cases hnone
    · intro channel hchannel
      obtain rfl := Option.some.inj hchannel
      exact hshows
  · have hresult : ¬(capturesyncStart w config).2 = .succeeded := by
      simp [capturesyncStart, hfps]
    rw [if_neg hresult]
    have hstopped : Stopped (capturesyncStart w config).1 := by
      simp only [capturesyncStart, hfps, if_false]
      exact (h.stopped rfl).congr rfl (frame_congr rfl rfl) rfl
    refine ⟨hinv, ?_, ?_, fun _ => hstopped, fun _ hchannel => by cases hchannel⟩
    · simp only [capturesyncStart, hfps, if_false]
      exact ⟨h.quiet.schedule, h.quiet.notifiers⟩
    · simp only [capturesyncStart, hfps, if_false]
      exact h.disableSync

/-- The synchroniser is created. -/
theorem World.follows_create {heap : Heap}
    (h : capturesyncCreate FifoQueue heap disableSync = some w) :
    w.Follows disableSync none := by
  refine ⟨capturesyncCreate_inv h, ?_, ?_, fun _ => capturesyncCreate_stopped h,
    fun _ hchannel => by cases hchannel⟩
  · simp only [capturesyncCreate, Option.bind_eq_bind, Option.pure_def, Option.bind_eq_some_iff,
      Option.some.injEq] at h
    obtain ⟨q, -, p, -, r, -, rfl⟩ := h
    exact ⟨rfl, rfl⟩
  · simp only [capturesyncCreate, Option.bind_eq_bind, Option.pure_def, Option.bind_eq_some_iff,
      Option.some.injEq] at h
    obtain ⟨q, -, p, -, r, -, rfl⟩ := h
    rfl

end Follows

end ZsaSdk
