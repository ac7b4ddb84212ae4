import ZsaSdk.Capturesync.Stopped
import ZsaSdk.Device.Model

/-!
# Starting the cameras of an open device

`zsa_device_start_cameras` undoes whatever it has done with `zsa_device_stop_cameras`.  On a
device that is stopped this gives back the state before the call.  But the first thing that can
fail is the test that the cameras are not already started, and then the same clean-up tears
down the session that is running.
-/

namespace ZsaSdk

/-! ## The state of a device -/

/-- The internal queue and the slot of a stream. -/
structure StreamState where
  enabled : Bool
  queued : List CaptureHandle
  capture : Option CaptureHandle
  image : Option ImageHandle
  ts : UInt64
deriving DecidableEq, Repr

/-- Whether the synchroniser runs, its queues and its slots. -/
structure SyncState where
  running : Bool
  enabled : Bool
  queued : List CaptureHandle
  color : StreamState
  depthIr : StreamState
deriving DecidableEq, Repr

/-- Whether the cameras are started, the synchroniser, and whether the reader streams. -/
structure DeviceState where
  colorStarted : Bool
  capturesync : Option SyncState
  streaming : Option Bool
deriving DecidableEq, Repr

def FrameInfo.state (f : FrameInfo QueueContext) : StreamState :=
  ⟨f.queue.enabled, f.queue.contents, f.capture, f.image, f.ts⟩

def World.state (w : World QueueContext) : SyncState where
  running := w.sync.running
  enabled := w.sync.syncQueue.enabled
  queued := w.sync.syncQueue.contents
  color := w.sync.color.state
  depthIr := w.sync.depthIr.state

def ZsaContext.state (d : ZsaContext QueueContext) : DeviceState where
  colorStarted := d.colorStarted
  capturesync := d.capturesync.map World.state
  streaming := d.color.map (·.cameraReader.streaming)

/-- Two stopped synchronisers differ in the timestamps of their empty slots at most. -/
theorem World.Stopped.state_eq {w w' : World QueueContext} (h : Stopped w) (h' : Stopped w')
    (hts : ∀ k, (w'.frame k).ts = (w.frame k).ts) : w'.state = w.state := by
  have hframe : ∀ k, (w'.frame k).state = (w.frame k).state := by
    intro k
    have hq := (h.queue k).1.symm
    have hn := List.length_eq_zero_iff.mp (h.queue k).2
    have hn' := List.length_eq_zero_iff.mp (h'.queue k).2
    simp only [FrameInfo.state, StreamState.mk.injEq]
    exact ⟨(h'.queue k).1.trans hq, hn'.trans hn.symm, (h'.slot k).1.trans (h.slot k).1.symm,
      (h'.slot k).2.trans (h.slot k).2.symm, hts k⟩
  have hs := List.length_eq_zero_iff.mp h.syncQueue.2
  have hs' := List.length_eq_zero_iff.mp h'.syncQueue.2
  simp only [World.state, SyncState.mk.injEq]
  exact ⟨h'.running.trans h.running.symm, h'.syncQueue.1.trans h.syncQueue.1.symm,
    hs'.trans hs.symm, hframe true, hframe false⟩

/-! ## Reachable states -/

/-- The states of an open device.  Between the calls that start and stop the cameras, the
clients of the synchroniser deliver and fetch captures. -/
inductive Opened : ZsaContext QueueContext → Prop where
  | opened {containerId : Option Guid} {o : OpenOutcome} {d : ZsaContext QueueContext} :
      ZsaContext.createParts containerId o = (d, .succeeded) → Opened d
  | start {d : ZsaContext QueueContext} (config : Option CameraConfiguration) (o : StartOutcome) :
      Opened d → Opened (d.zsaDeviceStartCameras config o).1
  | stop {d : ZsaContext QueueContext} : Opened d → Opened d.zsaDeviceStopCameras
  | client {d : ZsaContext QueueContext} {w w' : World QueueContext} :
      Opened d → d.capturesync = some w → ClientStep w w' →
        Opened { d with capturesync := some w' }

/-- All parts are there, and if the cameras are not started nothing runs. -/
structure Settled (d : ZsaContext QueueContext) (w : World QueueContext) (c : ColorContext) :
    Prop where
  capturesync : d.capturesync = some w
  color : d.color = some c
  stopped : d.colorStarted = false → w.Stopped ∧ c.cameraReader.streaming = false

theorem streaming_colorStop (color : ColorContext) :
    color.colorStop.cameraReader.streaming = false := by
  cases hs : color.cameraReader.streaming with
  | false => simp [ColorContext.colorStop, UvcCameraReader.stop, hs]
  | true => simp [ColorContext.colorStop, UvcCameraReader.stop, hs]

namespace ZsaContext

variable {d : ZsaContext QueueContext} {w : World QueueContext} {color : ColorContext}

/-- `zsa_device_stop_cameras` of a device with all its parts. -/
theorem zsaDeviceStopCameras_eq (hw : d.capturesync = some w) (hc : d.color = some color) :
    d.zsaDeviceStopCameras =
      { d with
        capturesync := some (capturesyncStop w)
        color := some color.colorStop
        colorStarted := false } := by
  simp only [zsaDeviceStopCameras, hw, hc]

theorem zsaDeviceStopCameras_settled (hw : d.capturesync = some w) (hc : d.color = some color) :
    Settled d.zsaDeviceStopCameras (capturesyncStop w) color.colorStop := by
  rw [zsaDeviceStopCameras_eq hw hc]
  exact ⟨rfl, rfl, fun _ => ⟨capturesyncStop_stopped_ring w, streaming_colorStop color⟩⟩

end ZsaContext

/-- The slots of the two synchronisers are the same. -/
def World.SameSlots (w w' : World QueueContext) : Prop :=
  ∀ k, (w'.frame k).capture = (w.frame k).capture ∧ (w'.frame k).image = (w.frame k).image ∧
    (w'.frame k).ts = (w.frame k).ts

theorem World.SameSlots.refl (w : World QueueContext) : w.SameSlots w := fun _ => ⟨rfl, rfl, rfl⟩

/-- The start of the synchroniser leaves its slots alone. -/
theorem capturesyncStart_sameSlots (w : World QueueContext) (config : DeviceConfiguration) :
    w.SameSlots (capturesyncStart w config).1 := by
  intro k
  simp only [capturesyncStart]
  split
  · cases k <;> exact ⟨rfl, rfl, rfl⟩
  · cases k <;> exact ⟨rfl, rfl, rfl⟩

namespace ZsaContext

variable {d : ZsaContext QueueContext} {w : World QueueContext} {color : ColorContext}

/-- What a start leaves before the clean-up: the parts that were touched, with the slots as they
were, and `color_started` set if it succeeded. -/
theorem startCameras_cases (hw : d.capturesync = some w) (hc : d.color = some color)
    (config : CameraConfiguration) (o : StartOutcome) :
    ∃ w' color', w.SameSlots w' ∧
      (d.startCameras config o =
          ({ d with capturesync := some w', color := some color' }, .failed) ∨
        d.startCameras config o =
          ({ d with capturesync := some w', color := some color', colorStarted := true },
            .succeeded)) := by
  obtain ⟨tickHandle, colormcu, capturesync, color₀, colorStarted⟩ := d
  obtain rfl : capturesync = some w := hw
  obtain rfl : color₀ = some color := hc
  simp only [startCameras]
  split
  · exact ⟨w, color, .refl w, Or.inl rfl⟩
  split
  · exact ⟨w, color, .refl w, Or.inl rfl⟩
  split
  · exact ⟨w, color, .refl w, Or.inl rfl⟩
  have hslots := capturesyncStart_sameSlots w config.toDeviceConfiguration
  cases hstart : capturesyncStart w config.toDeviceConfiguration with
  | mk w' result =>
      rw [hstart] at hslots
      cases result with
      | failed => exact ⟨w', color, hslots, Or.inl rfl⟩
      | succeeded =>
          simp only
          split
          · exact ⟨w', color, hslots, Or.inr rfl⟩
          · cases hcolor : color.colorStart config o.color with
            | mk color' result =>
                cases result with
                | failed => exact ⟨w', color', hslots, Or.inl rfl⟩
                | succeeded => exact ⟨w', color', hslots, Or.inr rfl⟩

/-- `zsa_device_start_cameras` of a device with all its parts. -/
theorem zsaDeviceStartCameras_cases (hw : d.capturesync = some w) (hc : d.color = some color)
    (config : CameraConfiguration) (o : StartOutcome) :
    ∃ w' color', w.SameSlots w' ∧
      (d.zsaDeviceStartCameras (some config) o =
          ({ d with
            capturesync := some (capturesyncStop w')
            color := some color'.colorStop
            colorStarted := false }, .failed) ∨
        d.zsaDeviceStartCameras (some config) o =
          ({ d with capturesync := some w', color := some color', colorStarted := true },
            .succeeded)) := by
  obtain ⟨w', color', hslots, hstart⟩ := startCameras_cases hw hc config o
  refine ⟨w', color', hslots, ?_⟩
  rcases hstart with he | he
  · refine Or.inl ?_
    simp only [zsaDeviceStartCameras, he]
    rw [zsaDeviceStopCameras_eq rfl rfl]
  · refine Or.inr ?_
    simp only [zsaDeviceStartCameras, he]

end ZsaContext

/-- A device is settled in every state it reaches. -/
theorem Opened.settled {d : ZsaContext QueueContext} (h : Opened d) :
    ∃ w color, Settled d w color := by
  induction h with
  | @opened containerId o d hd =>
      simp only [ZsaContext.createParts] at hd
      split at hd
      · cases hd
      split at hd
      · cases hd
      split at hd
      · cases hd
      · next w hw =>
        split at hd
        · cases hd
        · next color hcolor =>
          obtain rfl := (Prod.mk.inj hd).1
          refine ⟨w, color, rfl, rfl, fun _ => ⟨?_, (ColorContext.colorCreate_spec hcolor).2.1⟩⟩
          split at hw
          · exact capturesyncCreate_stopped_ring hw
          · cases hw
  | @start d config o _ ih =>
      obtain ⟨w, color, hset⟩ := ih
      cases config with
      | none => exact ⟨w, color, hset⟩
      | some config =>
          obtain ⟨w', color', -, he | he⟩ :=
            ZsaContext.zsaDeviceStartCameras_cases hset.capturesync hset.color config o
          · rw [he]
            exact ⟨_, _, rfl, rfl,
              fun _ => ⟨capturesyncStop_stopped_ring w', streaming_colorStop color'⟩⟩
          · rw [he]
            exact ⟨w', color', rfl, rfl, fun hfalse => by cases hfalse⟩
  | stop _ ih =>
      obtain ⟨w, color, hset⟩ := ih
      exact ⟨_, _, ZsaContext.zsaDeviceStopCameras_settled hset.capturesync hset.color⟩
  | @client d w w' _ hw hstep ih =>
      obtain ⟨v, color, hset⟩ := ih
      obtain rfl : w = v := Option.some.inj (hw.symm.trans hset.capturesync)
      exact ⟨w', color, rfl, hset.color,
        fun hfalse => ⟨hstep.stopped (hset.stopped hfalse).1, (hset.stopped hfalse).2⟩⟩

/-- For every state of an open device, every configuration and every failure: a start that
returns `ZSA_RESULT_FAILED` leaves the device as it was if and only if the configuration is null
or the cameras were not started. -/
theorem failed_start_undisturbed_iff {d : ZsaContext QueueContext} (hd : Opened d)
    (config : Option CameraConfiguration) (o : StartOutcome)
    (hfail : (d.zsaDeviceStartCameras config o).2 = .failed) :
    (d.zsaDeviceStartCameras config o).1.state = d.state ↔
      config = none ∨ d.colorStarted = false := by
  obtain ⟨w, color, hset⟩ := hd.settled
  cases config with
  | none => exact iff_of_true rfl (Or.inl rfl)
  | some config =>
      obtain ⟨w', color', hslots, he | he⟩ :=
        ZsaContext.zsaDeviceStartCameras_cases hset.capturesync hset.color config o
      · rw [he]
        constructor
        · intro hsame
          exact Or.inr (congrArg DeviceState.colorStarted hsame).symm
        · intro hstopped
          have hfalse : d.colorStarted = false := hstopped.resolve_left (Option.some_ne_none _)
          obtain ⟨hs, hstream⟩ := hset.stopped hfalse
          -- The slots were empty, so the clean-up does not touch them.
          have hempty : ∀ k, (w'.frame k).capture = none ∧ (w'.frame k).image = none := fun k =>
            ⟨(hslots k).1.trans (hs.slot k).1, (hslots k).2.1.trans (hs.slot k).2⟩
          have hsync : (capturesyncStop w').state = w.state :=
            hs.state_eq (capturesyncStop_stopped_ring w')
              fun k => (ts_capturesyncStop_ring hempty k).trans (hslots k).2.2
          simp only [ZsaContext.state, hset.capturesync, hset.color, Option.map_some, hsync, hfalse,
            hstream, streaming_colorStop]
      · rw [he] at hfail
        cases hfail

/-- The colour camera alone, at 30 frames a second. -/
def colorConfiguration : CameraConfiguration :=
  ⟨⟨.r720p, .off, .framesPerSecond30, false, 0⟩, .colorMjpg, .standalone, 0, false⟩

/-- A device that has just been opened cannot start its stream. -/
theorem failed_start_undisturbed_no_stream : ∃ d : ZsaContext QueueContext,
    Opened d ∧ d.colorStarted = false ∧
      (d.zsaDeviceStartCameras (some colorConfiguration)
        ⟨.succeeded, ⟨some 5, ⟨true, false⟩⟩⟩).2 = .failed ∧
      (d.zsaDeviceStartCameras (some colorConfiguration)
        ⟨.succeeded, ⟨some 5, ⟨true, false⟩⟩⟩).1.state = d.state := by
  obtain ⟨d, hd⟩ : ∃ d : ZsaContext QueueContext,
      ZsaContext.createParts (some Guid.zero) (.ok pairedHeap) = (d, .succeeded) := ⟨_, rfl⟩
  have hfalse : d.colorStarted = false := by
    rw [← (Prod.mk.inj hd).1]
    rfl
  have hfail : (d.zsaDeviceStartCameras (some colorConfiguration)
      ⟨.succeeded, ⟨some 5, ⟨true, false⟩⟩⟩).2 = .failed := by
    rw [← (Prod.mk.inj hd).1]
    rfl
  exact ⟨d, .opened hd, hfalse, hfail,
    (failed_start_undisturbed_iff (.opened hd) _ _ hfail).mpr (Or.inr hfalse)⟩

/-- The camera streams and a capture waits to be read.  A second start fails, and with it the
session ends and the capture is gone. -/
theorem second_start_ends_session : ∃ d : ZsaContext QueueContext, Opened d ∧
    (d.zsaDeviceStartCameras (some colorConfiguration)
      ⟨.succeeded, ⟨some 9, ⟨true, true⟩⟩⟩).2 = .failed ∧
    d.colorStarted = true ∧ d.state.streaming = some true ∧
    d.state.capturesync.map (fun s => (s.running, s.enabled, s.queued)) =
      some (true, true, [⟨1⟩]) ∧
    (d.zsaDeviceStartCameras (some colorConfiguration)
      ⟨.succeeded, ⟨some 9, ⟨true, true⟩⟩⟩).1.colorStarted = false ∧
    (d.zsaDeviceStartCameras (some colorConfiguration)
      ⟨.succeeded, ⟨some 9, ⟨true, true⟩⟩⟩).1.state.streaming = some false ∧
    (d.zsaDeviceStartCameras (some colorConfiguration)
      ⟨.succeeded, ⟨some 9, ⟨true, true⟩⟩⟩).1.state.capturesync.map
        (fun s => (s.running, s.enabled, s.queued)) = some (false, false, []) := by
  obtain ⟨d, hd⟩ : ∃ d : ZsaContext QueueContext,
      ZsaContext.createParts (some Guid.zero) (.ok pairedHeap) = (d, .succeeded) := ⟨_, rfl⟩
  obtain rfl := (Prod.mk.inj hd).1
  have hreach := ((Opened.opened hd).start (some colorConfiguration)
    ⟨.succeeded, ⟨some 5, ⟨true, true⟩⟩⟩).client rfl (.addCapture .succeeded (some ⟨1⟩) true)
  exact ⟨_, hreach, rfl, rfl, rfl, rfl, rfl, rfl, rfl⟩

end ZsaSdk
