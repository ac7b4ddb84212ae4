import Mathlib.Data.List.Infix
import ZsaSdk.Capturesync.ColorOnly
import ZsaSdk.Device.Start
import ZsaSdk.Lib.Steps

/-!
# From the camera to the client of a device

A device with the threads that meet in it: the one that starts and stops the cameras, the one on
which the colour camera calls `color_capture_ready`, and clients that ask for captures.

*Control.*  `zsa_device_start_cameras` starts the synchroniser and then the camera, and
`zsa_device_stop_cameras` stops them in the same order, so that the other threads run in between.
Both are called by one thread.  A start that fails goes on with a stop.

*Camera.*  The camera calls back while the reader streams.  The reader stops with the lock of the
callback, so that a call is over before `color_stop` goes on.  A capture that it brings has a colour
image.  What it does with a failure, three calls of `queue_stop` without the lock of the
synchroniser, is one step.

*Clients.*  They call `capturesync_get_capture`, with a timeout of 0.  The function of `zsa.c` that
passes the call on is commented out.

*Record.*  `events` is what has been seen of the device, in the order in which it happened.  In it
every session is that of a `ColorChannel` (`clientStep`), and that says what a client can rely on
(`captures_of_session`).
-/

namespace ZsaSdk

open World

/-- Where the thread is that starts and stops the cameras. -/
inductive ControlPhase where
  | idle
  /-- In `zsa_device_start_cameras`, after `capturesync_start`. -/
  | starting (config : CameraConfiguration) (o : StartOutcome)
  /-- In `zsa_device_start_cameras`, before its call of `zsa_device_stop_cameras`. -/
  | failing
  /-- In `zsa_device_stop_cameras`, after `capturesync_stop`. -/
  | stopping

/-- What is seen of a device. -/
inductive DeviceEvent where
  /-- `capturesync_start` has succeeded. -/
  | started (config : DeviceConfiguration)
  /-- The camera has brought a capture. -/
  | frame (c : CaptureHandle)
  /-- The camera has reported a failure. -/
  | failed
  /-- A client has been told. -/
  | got (wresult : WaitResult) (capture : Option CaptureHandle)
  /-- `capturesync_stop` has returned. -/
  | stopped
deriving DecidableEq, Repr

/-- An open device and its threads. -/
structure DeviceSystem where
  tickHandle : Bool
  colormcu : Bool
  capturesync : World QueueContext
  color : ColorContext
  colorStarted : Bool
  control : ControlPhase
  events : List DeviceEvent

namespace DeviceSystem

/-- A device that has just been opened. -/
def opened (w : World QueueContext) (color : ColorContext) : DeviceSystem :=
  ⟨true, true, w, color, false, .idle, []⟩

/-- The context of the device. -/
def context (s : DeviceSystem) : ZsaContext QueueContext :=
  ⟨s.tickHandle, s.colormcu, some s.capturesync, some s.color, s.colorStarted⟩

/-- A step of one of the threads. -/
inductive Label where
  /-- `zsa_device_start_cameras`, up to the call of `color_start`. -/
  | start (config : CameraConfiguration) (o : StartOutcome)
  /-- `color_start`, and the end of `zsa_device_start_cameras` if it succeeds. -/
  | startColor
  /-- `capturesync_stop` in `zsa_device_stop_cameras`. -/
  | stop
  /-- `color_stop`, and the end of `zsa_device_stop_cameras`. -/
  | stopColor
  /-- `color_capture_ready` with a capture. -/
  | frame (c : CaptureHandle)
  /-- `color_capture_ready` with a failed result. -/
  | frameFailed
  /-- `capturesync_get_capture` -/
  | getCapture

/-- `zsa_device_start_cameras`, up to the call of `color_start`. -/
def start (s : DeviceSystem) (config : CameraConfiguration) (o : StartOutcome) : DeviceSystem :=
  if s.colorStarted = true then { s with control := .failing }
  else if validateConfiguration config = .failed then { s with control := .failing }
  else if s.colormcu = false || colormcuSetMultiDeviceMode config o.usbCmdWrite = .failed then
    { s with control := .failing }
  else
    match capturesyncStart s.capturesync config.toDeviceConfiguration with
    | (w, .failed) => { s with capturesync := w, control := .failing }
    | (w, .succeeded) =>
        { s with
          capturesync := w
          control := .starting config o
          events := s.events ++ [.started config.toDeviceConfiguration] }

/-- The rest of it. -/
def startColor (s : DeviceSystem) (config : CameraConfiguration) (o : StartOutcome) :
    DeviceSystem :=
  if config.colorResolution = .off then { s with colorStarted := true, control := .idle }
  else
    match s.color.colorStart config o.color with
    | (color, .failed) => { s with color := color, control := .failing }
    | (color, .succeeded) => { s with color := color, colorStarted := true, control := .idle }

/-- `capturesync_stop` in `zsa_device_stop_cameras`. -/
def stop (s : DeviceSystem) : DeviceSystem :=
  { s with
    capturesync := capturesyncStop s.capturesync
    control := .stopping
    events := s.events ++ [.stopped] }

/-- One step, if it is possible. -/
def step (s : DeviceSystem) : Label → Option DeviceSystem
  | .start config o =>
      match s.control with
      | .idle => some (s.start config o)
      | _ => none
  | .startColor =>
      match s.control with
      | .starting config o => some (s.startColor config o)
      | _ => none
  | .stop =>
      match s.control with
      | .idle | .failing => some s.stop
      | _ => none
  | .stopColor =>
      match s.control with
      | .stopping =>
          some { s with color := s.color.colorStop, colorStarted := false, control := .idle }
      | _ => none
  | .frame c =>
      if s.color.cameraReader.streaming && (s.capturesync.heap.typedImage true c).isSome then
        some { s with
          capturesync := capturesyncAddCapture s.capturesync .succeeded (some c) true
          events := s.events ++ [.frame c] }
      else none
  | .frameFailed =>
      if s.color.cameraReader.streaming then
        some { s with
          capturesync := capturesyncAddCapture s.capturesync .failed none true
          events := s.events ++ [.failed] }
      else none
  | .getCapture =>
      some { s with
        capturesync := (capturesyncGetCapture s.capturesync).1
        events := s.events ++ [.got (capturesyncGetCapture s.capturesync).2.1
          (capturesyncGetCapture s.capturesync).2.2] }

variable {s s' : DeviceSystem}

/-! ## The steps are those of `zsa.c` -/

/-- Without other threads, the two steps of a stop are `zsa_device_stop_cameras`. -/
theorem stop_steps (h : s.control = .idle ∨ s.control = .failing) :
    ∃ s', Steps.run step s [.stop, .stopColor] = some s' ∧ s'.control = .idle ∧
      s'.context = s.context.zsaDeviceStopCameras := by
  refine ⟨{ s.stop with color := s.color.colorStop, colorStarted := false, control := .idle },
    ?_, rfl, rfl⟩
  obtain h | h := h
  · simp only [Steps.run, step, h]
    rfl
  · simp only [Steps.run, step, h]
    rfl

/-- A start that finds the cameras stopped and reaches the microcontroller. -/
theorem startCameras_eq {d : ZsaContext QueueContext} {config : CameraConfiguration}
    {o : StartOutcome} {w : World QueueContext} {color : ColorContext}
    (hw : d.capturesync = some w) (hcolor : d.color = some color)
    (hstarted : ¬d.colorStarted = true)
    (hmcu : ¬(d.colormcu = false || colormcuSetMultiDeviceMode config o.usbCmdWrite = .failed) =
      true) :
    d.startCameras config o =
      match capturesyncStart w config.toDeviceConfiguration with
      | (w, .failed) => ({ d with capturesync := some w }, .failed)
      | (w, .succeeded) =>
          if config.colorResolution = .off then
            ({ d with capturesync := some w, colorStarted := true }, .succeeded)
          else
            match color.colorStart config o.color with
            | (color, .failed) => ({ d with capturesync := some w, color := some color }, .failed)
            | (color, .succeeded) =>
                ({ d with capturesync := some w, color := some color, colorStarted := true },
                  .succeeded) := by
  have hvalid : ¬validateConfiguration config = .failed := by
    intro hfailed
    cases hfailed
  rw [ZsaContext.startCameras, if_neg hstarted, if_neg hvalid, if_neg hmcu, hw]
  simp only [hcolor]
  generalize capturesyncStart w config.toDeviceConfiguration = started
  generalize color.colorStart config o.color = colorStarted
  obtain ⟨w', result⟩ := started
  obtain ⟨color', colorResult⟩ := colorStarted
  cases result with
  | failed => rfl
  | succeeded =>
      cases colorResult with
      | failed => rfl
      | succeeded => rfl

/-- Without other threads, the steps of a start are `zsa_device_start_cameras`. -/
theorem start_steps (h : s.control = .idle) (config : CameraConfiguration) (o : StartOutcome) :
    ∃ labels s', Steps.run step s labels = some s' ∧ s'.control = .idle ∧
      s'.context = (s.context.zsaDeviceStartCameras (some config) o).1 := by
  have hstart : Steps.run step s [.start config o] = some (s.start config o) := by
    simp only [Steps.run, step, h]
    rfl
  have hfailing : ∀ labels v, Steps.run step s labels = some v → v.control = .failing →
      s.context.startCameras config o = (v.context, .failed) →
      ∃ labels s', Steps.run step s labels = some s' ∧ s'.control = .idle ∧
        s'.context = (s.context.zsaDeviceStartCameras (some config) o).1 := by
    intro labels v hrun hv hcontext
    obtain ⟨s', hstop, hcontrol, hcontext'⟩ := stop_steps (.inr hv)
    refine ⟨labels ++ [.stop, .stopColor], s', ?_, hcontrol, ?_⟩
    · rw [Steps.run_append, hrun]
      exact hstop
    · rw [hcontext', ZsaContext.zsaDeviceStartCameras, hcontext]
  have hvalid : ¬validateConfiguration config = .failed := by
    intro hfailed
    cases hfailed
  by_cases hstarted : s.colorStarted = true
  · refine hfailing _ _ hstart ?_ ?_
    · rw [start, if_pos hstarted]
    · rw [start, if_pos hstarted]
      exact if_pos hstarted
  by_cases hmcu : (s.colormcu = false ||
      colormcuSetMultiDeviceMode config o.usbCmdWrite = .failed) = true
  · refine hfailing _ _ hstart ?_ ?_
    · rw [start, if_neg hstarted, if_neg hvalid, if_pos hmcu]
    · rw [start, if_neg hstarted, if_neg hvalid, if_pos hmcu]
      exact (if_neg hstarted).trans ((if_neg hvalid).trans (if_pos hmcu))
  have hcameras := startCameras_eq (d := s.context) rfl rfl hstarted hmcu
  cases hsync : capturesyncStart s.capturesync config.toDeviceConfiguration with
  | mk w result =>
      rw [start, if_neg hstarted, if_neg hvalid, if_neg hmcu, hsync] at hstart
      rw [hsync] at hcameras
      cases result with
      | failed => exact hfailing _ _ hstart rfl hcameras
      | succeeded =>
          simp only at hstart hcameras
          have hnext : ∀ v : DeviceSystem, v.control = .starting config o →
              Steps.run step s [.start config o] = some v →
              Steps.run step s ([.start config o] ++ [.startColor]) =
                some (v.startColor config o) := by
            intro v hv hrun
            rw [Steps.run_append, hrun]
            simp only [Option.bind_some, Steps.run, step, hv]
          have hrun := hnext _ rfl hstart
          by_cases hoff : config.colorResolution = .off
          · rw [startColor, if_pos hoff] at hrun
            rw [if_pos hoff] at hcameras
            refine ⟨_, _, hrun, rfl, ?_⟩
            rw [ZsaContext.zsaDeviceStartCameras, hcameras]
            rfl
          · rw [startColor, if_neg hoff] at hrun
            rw [if_neg hoff] at hcameras
            simp only at hrun
            cases hcolor : s.color.colorStart config o.color with
            | mk color result =>
                rw [hcolor] at hrun hcameras
                cases result with
                | failed => exact hfailing _ _ hrun rfl hcameras
                | succeeded =>
                    refine ⟨_, _, hrun, rfl, ?_⟩
                    rw [ZsaContext.zsaDeviceStartCameras, hcameras]
                    rfl

/-! ## What is seen of a device -/

/-- The session that is open after an event, if the event may happen.  What a client is told is
what the channel answers. -/
def clientStep (disableSync : Bool) :
    Option ColorChannel → DeviceEvent → Option (Option ColorChannel)
  | none, .started config => some (some (.begin disableSync config))
  | some _, .started _ => none
  | ch, .frame c => some (ch.map fun channel => channel.push c)
  | ch, .failed => some (ch.map ColorChannel.close)
  | ch, .got wresult capture =>
      if (wresult, capture) = (ch.map ColorChannel.answer).getD (.failed, none) then
        some (ch.map ColorChannel.take)
      else none
  | _, .stopped => some none

/-- What holds between two steps, when the session of the channel is open. -/
structure Ok (disableSync : Bool) (s : DeviceSystem) (ch : Option ColorChannel) : Prop where
  events : Steps.run (clientStep disableSync) none s.events = some ch
  follows : s.capturesync.toFifo.Follows disableSync ch
  idle : s.control = .idle → s.colorStarted = false → ch = none
  stopping : s.control = .stopping → ch = none

variable {disableSync : Bool} {ch : Option ColorChannel}

theorem run_snoc {es : List DeviceEvent} {e : DeviceEvent} {ch' : Option ColorChannel}
    (h : Steps.run (clientStep disableSync) none es = some ch)
    (hstep : clientStep disableSync ch e = some ch') :
    Steps.run (clientStep disableSync) none (es ++ [e]) = some ch' := by
  rw [Steps.run_append, h]
  simp only [Option.bind_some, Steps.run, hstep]

theorem Ok.start (h : Ok disableSync s ch) (hcontrol : s.control = .idle)
    (config : CameraConfiguration) (o : StartOutcome) :
    ∃ ch', Ok disableSync (s.start config o) ch' := by
  have hfailing : Ok disableSync { s with control := .failing } ch :=
    ⟨h.events, h.follows, (fun hidle => by cases hidle), (fun hstopping => by cases hstopping)⟩
  simp only [DeviceSystem.start]
  split
  · exact ⟨ch, hfailing⟩
  next hstarted =>
  split
  · exact ⟨ch, hfailing⟩
  split
  · exact ⟨ch, hfailing⟩
  have hnone : ch = none := h.idle hcontrol (Bool.eq_false_iff.mpr hstarted)
  subst hnone
  have hfollows := h.follows.start config.toDeviceConfiguration
  have hfifo : capturesyncStart s.capturesync.toFifo config.toDeviceConfiguration =
      ((capturesyncStart s.capturesync config.toDeviceConfiguration).1.toFifo,
        (capturesyncStart s.capturesync config.toDeviceConfiguration).2) :=
    capturesyncStart_map ringHom s.capturesync config.toDeviceConfiguration
  rw [hfifo] at hfollows
  cases hsync : capturesyncStart s.capturesync config.toDeviceConfiguration with
  | mk w result =>
      rw [hsync] at hfollows
      cases result with
      | failed =>
          exact ⟨none, h.events, hfollows, (fun hidle => by cases hidle), fun _ => rfl⟩
      | succeeded =>
          exact ⟨_, run_snoc h.events rfl, hfollows, (fun hidle => by cases hidle),
            (fun hstopping => by cases hstopping)⟩

theorem Ok.startColor (h : Ok disableSync s ch) (config : CameraConfiguration)
    (o : StartOutcome) : Ok disableSync (s.startColor config o) ch := by
  have hstarted : ∀ color, Ok disableSync
      { s with color := color, colorStarted := true, control := .idle } ch := by
    intro color
    refine ⟨h.events, h.follows, ?_, ?_⟩
    · intro _ hfalse
      cases hfalse
    · intro hstopping
      cases hstopping
  simp only [DeviceSystem.startColor]
  split
  · exact hstarted s.color
  split
  · refine ⟨h.events, h.follows, ?_, ?_⟩
    · intro hidle
      cases hidle
    · intro hstopping
      cases hstopping
  · next color _ => exact hstarted color

theorem Ok.stop (h : Ok disableSync s ch) : Ok disableSync s.stop none where
  events := run_snoc h.events (by cases ch <;> rfl)
  follows := by
    have hfollows := h.follows.stop
    have hfifo : capturesyncStop s.capturesync.toFifo = (capturesyncStop s.capturesync).toFifo :=
      capturesyncStop_map ringHom s.capturesync
    rw [hfifo] at hfollows
    exact hfollows
  idle _ _ := rfl
  stopping _ := rfl

/-- A call of the camera or of a client. -/
theorem Ok.call (h : Ok disableSync s ch) {w : World QueueContext} {e : DeviceEvent}
    {f : ColorChannel → ColorChannel} (hfollows : w.toFifo.Follows disableSync (ch.map f))
    (he : clientStep disableSync ch e = some (ch.map f)) :
    Ok disableSync { s with capturesync := w, events := s.events ++ [e] } (ch.map f) where
  events := run_snoc h.events he
  follows := hfollows
  idle hidle hstarted := by
    rw [h.idle hidle hstarted]
    rfl
  stopping hstopping := by
    rw [h.stopping hstopping]
    rfl

/-- A client of the ring is told what a client of the list is told. -/
theorem getCapture_toFifo (w : World QueueContext) : capturesyncGetCapture w.toFifo =
    ((capturesyncGetCapture w).1.toFifo, (capturesyncGetCapture w).2) :=
  capturesyncGetCapture_map ringHom w

theorem Ok.step (h : Ok disableSync s ch) {label : Label} (hstep : step s label = some s') :
    ∃ ch', Ok disableSync s' ch' := by
  have hadd : ∀ r c, capturesyncAddCapture s.capturesync.toFifo r c true =
      (capturesyncAddCapture s.capturesync r c true).toFifo := fun r c =>
    capturesyncAddCapture_map ringHom s.capturesync r c true
  cases label with
  | start config o =>
      simp only [DeviceSystem.step] at hstep
      split at hstep
      · next hcontrol =>
        obtain rfl := Option.some.inj hstep
        exact h.start hcontrol config o
      · cases hstep
  | startColor =>
      simp only [DeviceSystem.step] at hstep
      split at hstep
      · next config o _ =>
        obtain rfl := Option.some.inj hstep
        exact ⟨ch, h.startColor config o⟩
      · cases hstep
  | stop =>
      simp only [DeviceSystem.step] at hstep
      split at hstep
      · obtain rfl := Option.some.inj hstep
        exact ⟨none, h.stop⟩
      · obtain rfl := Option.some.inj hstep
        exact ⟨none, h.stop⟩
      · cases hstep
  | stopColor =>
      simp only [DeviceSystem.step] at hstep
      split at hstep
      · next hcontrol =>
        obtain rfl := Option.some.inj hstep
        have hnone := h.stopping hcontrol
        exact ⟨ch, h.events, h.follows, fun _ _ => hnone, fun _ => hnone⟩
      · cases hstep
  | frame c =>
      simp only [DeviceSystem.step, Option.ite_none_right_eq_some, Option.some.injEq,
        Bool.and_eq_true, Option.isSome_iff_ne_none] at hstep
      obtain ⟨⟨-, htyped⟩, rfl⟩ := hstep
      have hfollows := h.follows.add htyped
      rw [hadd] at hfollows
      exact ⟨_, h.call hfollows (by cases ch <;> rfl)⟩
  | frameFailed =>
      simp only [DeviceSystem.step, Option.ite_none_right_eq_some, Option.some.injEq] at hstep
      obtain ⟨-, rfl⟩ := hstep
      have hfollows := h.follows.fail none
      rw [hadd] at hfollows
      exact ⟨_, h.call hfollows (by cases ch <;> rfl)⟩
  | getCapture =>
      obtain rfl := Option.some.inj hstep
      obtain ⟨hfollows, hanswer⟩ := h.follows.get
      rw [getCapture_toFifo] at hfollows hanswer
      refine ⟨_, h.call hfollows ?_⟩
      cases ch <;> exact if_pos hanswer

theorem opened_ok {w : World QueueContext} {heap : Heap}
    (h : capturesyncCreate QueueContext heap disableSync = some w) (color : ColorContext) :
    Ok disableSync (opened w color) none where
  events := rfl
  follows := by
    have hfifo : capturesyncCreate FifoQueue heap disableSync = some w.toFifo := by
      rw [capturesyncCreate_map ringHom, h]
      rfl
    exact World.follows_create hfifo
  idle _ _ := rfl
  stopping _ := rfl

/-- Opening a device creates its synchroniser. -/
theorem capturesyncCreate_of_createParts {containerId : Option Guid} {o : OpenOutcome}
    {w : World QueueContext} {color : ColorContext}
    (h : ZsaContext.createParts containerId o = ((opened w color).context, .succeeded)) :
    capturesyncCreate QueueContext o.heap o.disableSync = some w := by
  simp only [ZsaContext.createParts] at h
  split at h
  · cases h
  split at h
  · cases h
  split at h
  · cases h
  · next w' hw =>
    split at h
    · cases h
    · split at hw
      · have hsync := congrArg (fun opened => opened.1.capturesync) h
        rw [hw]
        exact hsync
      · cases hw

/-- What holds in every state of a device that has been opened. -/
theorem run_ok {containerId : Option Guid} {o : OpenOutcome} {w : World QueueContext}
    {color : ColorContext} {labels : List Label}
    (hopen : ZsaContext.createParts containerId o = ((opened w color).context, .succeeded))
    (hrun : Steps.run DeviceSystem.step (opened w color) labels = some s) :
    ∃ ch, Ok o.disableSync s ch :=
  Steps.run_invariant (fun s => ∃ ch, Ok o.disableSync s ch) (fun _ => True)
    (fun _ _ _ hok _ hstep => hok.elim fun _ h => h.step hstep) labels (fun _ _ => trivial)
    ⟨none, opened_ok (capturesyncCreate_of_createParts hopen) color⟩ hrun

/-- Whatever the threads do, a client is told what the channel answers: in every session, the
captures of the camera go through a line that holds so many back and keeps so many, and outside of a
session every call fails. -/
theorem client_sees_channel {containerId : Option Guid} {o : OpenOutcome} {w : World QueueContext}
    {color : ColorContext} {labels : List Label}
    (hopen : ZsaContext.createParts containerId o = ((opened w color).context, .succeeded))
    (hrun : Steps.run DeviceSystem.step (opened w color) labels = some s) :
    ∃ ch, Steps.run (clientStep o.disableSync) none s.events = some ch ∧
      (capturesyncGetCapture s.capturesync).2 =
        (ch.map ColorChannel.answer).getD (.failed, none) := by
  obtain ⟨ch, hok⟩ := run_ok hopen hrun
  have hanswer := hok.follows.get.2
  rw [getCapture_toFifo] at hanswer
  exact ⟨ch, hok.events, hanswer⟩

/-- A device that streams a capture and is stopped. -/
def captureLabels : List Label :=
  [.start colorConfiguration ⟨.succeeded, ⟨some 5, ⟨true, true⟩⟩⟩, .startColor, .frame ⟨1⟩,
    .getCapture, .getCapture, .stop, .stopColor, .getCapture]

/-- What is seen of it. -/
def captureEvents : List DeviceEvent :=
  [.started colorConfiguration.toDeviceConfiguration, .frame ⟨1⟩, .got .succeeded (some ⟨1⟩),
    .got .timeout none, .stopped, .got .failed none]

theorem exists_captureRun : ∃ w color s,
    ZsaContext.createParts (some Guid.zero) (.ok pairedHeap) =
      ((opened w color).context, .succeeded) ∧
    Steps.run DeviceSystem.step (opened w color) captureLabels = some s ∧
    s.events = captureEvents := ⟨_, _, _, rfl, rfl, rfl⟩

theorem client_sees_channel_one_capture : ∃ w color s ch,
    ZsaContext.createParts (some Guid.zero) (.ok pairedHeap) =
      ((opened w color).context, .succeeded) ∧
    Steps.run DeviceSystem.step (opened w color) captureLabels = some s ∧
    s.events = captureEvents ∧
    Steps.run (clientStep false) none s.events = some ch ∧
      (capturesyncGetCapture s.capturesync).2 =
        (ch.map ColorChannel.answer).getD (.failed, none) := by
  obtain ⟨w, color, s, hopen, hrun, hevents⟩ := exists_captureRun
  obtain ⟨ch, hclient, hanswer⟩ := client_sees_channel hopen hrun
  exact ⟨w, color, s, ch, hopen, hrun, hevents, hclient, hanswer⟩

/-! ## Sessions -/

/-- The captures that the camera brings before it reports a failure. -/
def framesOf : List DeviceEvent → List CaptureHandle
  | [] => []
  | .frame c :: es => c :: framesOf es
  | .failed :: _ => []
  | _ :: es => framesOf es

/-- The captures that have left a line which holds `delay` of them back. -/
def leftOf (delay : Nat) (es : List DeviceEvent) : List CaptureHandle :=
  (framesOf es).take ((framesOf es).length - delay)

/-- The capture that a client gets. -/
def capturedBy : DeviceEvent → Option CaptureHandle
  | .got .succeeded capture => capture
  | _ => none

/-- The captures that clients get. -/
def gotOf (es : List DeviceEvent) : List CaptureHandle := es.filterMap capturedBy

/-- The session goes on. -/
def isWithin : DeviceEvent → Bool
  | .started _ | .stopped => false
  | _ => true

section Session

variable {channel : ColorChannel} {es : List DeviceEvent}

/-- A channel that is closed brings nothing more. -/
theorem gotOf_closed (hclosed : channel.isOpen = false) (hwithin : es.all isWithin = true)
    (hrun : Steps.run (clientStep disableSync) (some channel) es = some ch) : gotOf es = [] := by
  induction es generalizing channel with
  | nil => rfl
  | cons e es ih =>
      obtain ⟨ch', hstep, hrest⟩ := Steps.run_cons hrun
      rw [List.all_cons, Bool.and_eq_true] at hwithin
      cases e with
      | started config => cases hwithin.1
      | stopped => cases hwithin.1
      | frame c =>
          obtain rfl := Option.some.inj hstep
          rw [Option.map_some, ColorChannel.push_of_closed hclosed] at hrest
          exact ih hclosed hwithin.2 hrest
      | failed =>
          obtain rfl := Option.some.inj hstep
          exact ih rfl hwithin.2 hrest
      | got wresult capture =>
          simp only [clientStep, Option.map_some, Option.getD_some, Option.ite_none_right_eq_some,
            Option.some.injEq] at hstep
          obtain ⟨hanswer, rfl⟩ := hstep
          rw [ColorChannel.answer_of_closed hclosed] at hanswer
          obtain ⟨rfl, rfl⟩ := Prod.mk.inj hanswer
          rw [ColorChannel.take_of_closed hclosed] at hrest
          exact ih hclosed hwithin.2 hrest

/-- What the events of a session make of an account: the line at their end, and what is gone then.
Nothing is lost if what has left the line always fits into what clients have got and the room there
is for what waits. -/
structure Carried (channel : ColorChannel) (pushed gone taken : List CaptureHandle)
    (es : List DeviceEvent) (line : DelayLine CaptureHandle) (gone' : List CaptureHandle) :
    Prop where
  account : DelayLine.Account line (pushed ++ framesOf es) gone' (taken ++ gotOf es)
  delay : line.delay = channel.line.delay
  forwards : line.forwards = channel.line.forwards
  capacity : line.ready.capacity = channel.line.ready.capacity
  kept : channel.line.forwards = true → gone = taken →
    (∀ pre, pre <+: es → (pushed ++ framesOf pre).length - channel.line.delay ≤
      (taken ++ gotOf pre).length + channel.line.ready.capacity) →
    gone' = taken ++ gotOf es

variable {pushed gone taken : List CaptureHandle} {e : DeviceEvent}
  {line : DelayLine CaptureHandle} {gone' : List CaptureHandle}

/-- Nothing comes and nothing is got. -/
theorem carried_nothing (h : DelayLine.Account channel.line pushed gone taken)
    (hframes : framesOf es = []) (hgot : gotOf es = []) :
    Carried channel pushed gone taken es channel.line gone := by
  refine ⟨?_, rfl, rfl, rfl, ?_⟩
  · rw [hframes, hgot, List.append_nil, List.append_nil]
    exact h
  · intro _ hgone _
    rw [hgot, List.append_nil]
    exact hgone

/-- One more event at the beginning, which brings `fs` and hands out `gs`. -/
theorem Carried.cons {channel' : ColorChannel} {gone₁ fs gs : List CaptureHandle}
    (h : Carried channel' (pushed ++ fs) gone₁ (taken ++ gs) es line gone')
    (hframes : ∀ l, framesOf (e :: l) = fs ++ framesOf l)
    (hgot : ∀ l, gotOf (e :: l) = gs ++ gotOf l)
    (hdelay : channel'.line.delay = channel.line.delay)
    (hforwards : channel'.line.forwards = channel.line.forwards)
    (hcapacity : channel'.line.ready.capacity = channel.line.ready.capacity)
    (hkept : channel.line.forwards = true → gone = taken →
      (pushed ++ fs).length - channel.line.delay ≤
        (taken ++ gs).length + channel.line.ready.capacity → gone₁ = taken ++ gs) :
    Carried channel pushed gone taken (e :: es) line gone' := by
  have hpushed : ∀ l, pushed ++ framesOf (e :: l) = pushed ++ fs ++ framesOf l := by
    intro l
    rw [hframes, List.append_assoc]
  have htaken : ∀ l, taken ++ gotOf (e :: l) = taken ++ gs ++ gotOf l := by
    intro l
    rw [hgot, List.append_assoc]
  refine ⟨?_, h.delay.trans hdelay, h.forwards.trans hforwards, h.capacity.trans hcapacity, ?_⟩
  · rw [hpushed, htaken]
    exact h.account
  · intro hf hgone hroom
    have hprefix : ∀ pre, pre <+: es → (pushed ++ fs ++ framesOf pre).length - channel.line.delay ≤
        (taken ++ gs ++ gotOf pre).length + channel.line.ready.capacity := by
      intro pre hpre
      have hlonger := hroom (e :: pre) (List.cons_prefix_cons.mpr ⟨rfl, hpre⟩)
      rw [hpushed, htaken] at hlonger
      exact hlonger
    have hone := hprefix [] List.nil_prefix
    rw [framesOf, gotOf, List.filterMap_nil, List.append_nil, List.append_nil] at hone
    rw [htaken]
    refine h.kept (hforwards.trans hf) (hkept hf hgone hone) ?_
    rw [hdelay, hcapacity]
    exact hprefix

/-- A capture comes. -/
theorem carried_frame (hopen : channel.isOpen = true)
    (h : DelayLine.Account channel.line pushed gone taken) (c : CaptureHandle) :
    ∃ gone₁, DelayLine.Account (channel.push c).line (pushed ++ [c]) gone₁ taken ∧
      ∀ line gone', Carried (channel.push c) (pushed ++ [c]) gone₁ taken es line gone' →
        Carried channel pushed gone taken (.frame c :: es) line gone' := by
  have hline : (channel.push c).line = channel.line.push c := by
    rw [ColorChannel.push_of_open hopen]
  obtain ⟨more, hmore, hkept⟩ := h.push c
  rw [← hline] at hmore
  refine ⟨gone ++ more, hmore, ?_⟩
  intro line gone' hcarried
  rw [← List.append_nil taken] at hcarried
  refine hcarried.cons (fun _ => rfl) (fun _ => rfl) ?_ ?_ ?_ ?_
  · rw [hline, DelayLine.delay_push]
  · rw [hline, DelayLine.forwards_push]
  · rw [hline, DelayLine.capacity_push]
  · intro hf hgone hroom
    rw [List.length_append, List.length_singleton, List.append_nil] at hroom
    obtain rfl := hkept hf (h.not_full_of_room hgone hroom)
    rw [List.append_nil, List.append_nil]
    exact hgone

/-- A client is told what the channel answers, which may be that there is nothing. -/
theorem carried_got (hopen : channel.isOpen = true)
    (h : DelayLine.Account channel.line pushed gone taken) {wresult : WaitResult}
    {capture : Option CaptureHandle} (hanswer : (wresult, capture) = channel.answer) :
    ∃ gs, DelayLine.Account channel.take.line pushed (gone ++ gs) (taken ++ gs) ∧
      ∀ line gone', Carried channel.take pushed (gone ++ gs) (taken ++ gs) es line gone' →
        Carried channel pushed gone taken (.got wresult capture :: es) line gone' := by
  have hline : channel.take.line = channel.line.take := by
    rw [ColorChannel.take_of_open hopen]
  have hnext : ∀ gs, (∀ l, gotOf (.got wresult capture :: l) = gs ++ gotOf l) →
      ∀ line gone', Carried channel.take pushed (gone ++ gs) (taken ++ gs) es line gone' →
        Carried channel pushed gone taken (.got wresult capture :: es) line gone' := by
    intro gs hgot line gone' hcarried
    rw [← List.append_nil pushed] at hcarried
    refine hcarried.cons (fun _ => rfl) hgot ?_ ?_ ?_ ?_
    · rw [hline, DelayLine.delay_take]
    · rw [hline, DelayLine.forwards_take]
    · rw [hline, DelayLine.capacity_take]
    · exact fun _ hgone _ => congrArg (· ++ gs) hgone
  rw [ColorChannel.answer, if_pos hopen] at hanswer
  cases hready : channel.line.ready.items with
  | nil =>
      rw [hready] at hanswer
      obtain ⟨rfl, rfl⟩ := Prod.mk.inj hanswer
      refine ⟨[], ?_, hnext [] fun _ => rfl⟩
      rw [List.append_nil, List.append_nil, hline, DelayLine.take_nil hready]
      exact h
  | cons c rest =>
      rw [hready] at hanswer
      obtain ⟨rfl, rfl⟩ := Prod.mk.inj hanswer
      refine ⟨[c], ?_, hnext [c] fun _ => rfl⟩
      rw [hline]
      exact h.take hready

/-- In a session the line of the channel has an account of what came and of what clients got. -/
theorem carried_session (hopen : channel.isOpen = true) (hwithin : es.all isWithin = true)
    (h : DelayLine.Account channel.line pushed gone taken)
    (hrun : Steps.run (clientStep disableSync) (some channel) es = some ch) :
    ∃ line gone', Carried channel pushed gone taken es line gone' := by
  induction es generalizing channel pushed gone taken with
  | nil => exact ⟨channel.line, gone, carried_nothing h rfl rfl⟩
  | cons e es ih =>
      obtain ⟨ch', hstep, hrest⟩ := Steps.run_cons hrun
      rw [List.all_cons, Bool.and_eq_true] at hwithin
      cases e with
      | started config => cases hwithin.1
      | stopped => cases hwithin.1
      | frame c =>
          obtain rfl := Option.some.inj hstep
          obtain ⟨gone₁, haccount, hcons⟩ := carried_frame hopen h c
          have hopen' : (channel.push c).isOpen = true := by
            rw [ColorChannel.push_of_open hopen]
            exact hopen
          obtain ⟨line, gone', hcarried⟩ := ih hopen' hwithin.2 haccount hrest
          exact ⟨line, gone', hcons line gone' hcarried⟩
      | failed =>
          -- What waits is lost to the clients, and nothing more comes.
          obtain rfl := Option.some.inj hstep
          have hclosed : channel.close.isOpen = false := rfl
          have hgot : gotOf (.failed :: es) = [] := gotOf_closed hclosed hwithin.2 hrest
          exact ⟨channel.line, gone, carried_nothing h rfl hgot⟩
      | got wresult capture =>
          simp only [clientStep, Option.map_some, Option.getD_some, Option.ite_none_right_eq_some,
            Option.some.injEq] at hstep
          obtain ⟨hanswer, rfl⟩ := hstep
          obtain ⟨gs, haccount, hcons⟩ := carried_got hopen h hanswer
          have hopen' : channel.take.isOpen = true := by
            rw [ColorChannel.take_of_open hopen]
            exact hopen
          obtain ⟨line, gone', hcarried⟩ := ih hopen' hwithin.2 haccount hrest
          exact ⟨line, gone', hcons line gone' hcarried⟩

theorem length_leftOf (delay : Nat) (es : List DeviceEvent) :
    (leftOf delay es).length = (framesOf es).length - delay := by
  rw [leftOf, List.length_take]
  exact Nat.min_eq_left (Nat.sub_le _ _)

end Session

/-- In every session, at each moment of it, the clients together have got captures of the camera in
their order and none of them twice, and none of the newest ones, which are held back.  If only
synchronised images are wanted, and both sensors are on, they get none.  Otherwise, as long as the
clients keep up, what they have not got of the rest are the last few, which wait for them, or have
waited when a failure closed the session. -/
theorem captures_of_session {containerId : Option Guid} {o : OpenOutcome} {w : World QueueContext}
    {color : ColorContext} {labels : List Label} {config : DeviceConfiguration}
    {before session after : List DeviceEvent}
    (hopen : ZsaContext.createParts containerId o = ((opened w color).context, .succeeded))
    (hrun : Steps.run DeviceSystem.step (opened w color) labels = some s)
    (hevents : s.events = before ++ .started config :: (session ++ after))
    (hwithin : session.all isWithin = true) :
    (gotOf session).Sublist (leftOf (ColorChannel.delayOf o.disableSync config) session) ∧
    (ColorChannel.forwardsOf o.disableSync config = false → gotOf session = []) ∧
    (ColorChannel.forwardsOf o.disableSync config = true →
      (∀ pre, pre <+: session →
        (leftOf (ColorChannel.delayOf o.disableSync config) pre).length ≤
          (gotOf pre).length + ColorChannel.roomOf) →
      ∃ waiting, waiting.length ≤ ColorChannel.roomOf ∧
        leftOf (ColorChannel.delayOf o.disableSync config) session = gotOf session ++ waiting) := by
  obtain ⟨ch, hok⟩ := run_ok hopen hrun
  have hclient := hok.events
  rw [hevents, Steps.run_append] at hclient
  obtain ⟨ch₀, -, hrest⟩ := Option.bind_eq_some_iff.mp hclient
  obtain ⟨ch₁, hstarted, hrest⟩ := Steps.run_cons hrest
  rw [Steps.run_append] at hrest
  obtain ⟨ch₂, hsession, -⟩ := Option.bind_eq_some_iff.mp hrest
  cases ch₀ with
  | some channel => cases hstarted
  | none =>
      obtain rfl := Option.some.inj hstarted
      have hempty : DelayLine.Account (ColorChannel.begin o.disableSync config).line [] [] [] :=
        DelayLine.account_empty _ _ _ ColorChannel.roomOf_pos
      obtain ⟨line, gone, h⟩ := carried_session rfl hwithin hempty hsession
      have haccount := h.account
      rw [List.nil_append, List.nil_append] at haccount
      have hdelay : line.delay = ColorChannel.delayOf o.disableSync config := h.delay
      have hforwards : line.forwards = ColorChannel.forwardsOf o.disableSync config := h.forwards
      have hcapacity : line.ready.capacity = ColorChannel.roomOf := h.capacity
      have hleft := haccount.take_eq
      rw [hdelay] at hleft
      refine ⟨?_, ?_, ?_⟩
      · have hsublist := haccount.taken_sublist_take
        rw [hdelay] at hsublist
        exact hsublist
      · intro hf
        exact (haccount.thrown (hforwards.trans hf)).2
      · intro hf hroom
        refine ⟨line.ready.items, ?_, ?_⟩
        · rw [← hcapacity]
          exact line.ready.length_le
        · have hgone : gone = gotOf session := by
            refine h.kept hf rfl ?_
            intro pre hpre
            have hfits := hroom pre hpre
            rw [length_leftOf] at hfits
            exact hfits
          rw [leftOf, hleft, hgone]

/-- The session of the one capture. -/
def captureSession : List DeviceEvent :=
  [.frame ⟨1⟩, .got .succeeded (some ⟨1⟩), .got .timeout none]

theorem captures_of_session_one_capture :
    (gotOf captureSession).Sublist (leftOf 0 captureSession) ∧
    ∃ waiting, waiting.length ≤ ColorChannel.roomOf ∧
      leftOf 0 captureSession = gotOf captureSession ++ waiting := by
  obtain ⟨w, color, s, hopen, hrun, hevents⟩ := exists_captureRun
  have hsession : s.events = [] ++ .started colorConfiguration.toDeviceConfiguration ::
      (captureSession ++ [.stopped, .got .failed none]) := hevents
  have hwithin : captureSession.all isWithin = true := by decide
  obtain ⟨hsublist, -, hkept⟩ := captures_of_session hopen hrun hsession hwithin
  have hroom : ∀ pre ∈ captureSession.inits,
      (leftOf 0 pre).length ≤ (gotOf pre).length + ColorChannel.roomOf := by decide
  exact ⟨hsublist, hkept rfl fun pre hpre => hroom pre ((List.mem_inits _ _).mpr hpre)⟩

end DeviceSystem

end ZsaSdk
