import ZsaSdk.Capturesync.Representation
import ZsaSdk.Capturesync.Settings

/-!
# Failures of the internal queues

The loop of `capturesync_add_capture` ends with a test of `wresult` that is to stop the
synchroniser when a queue has failed.  Control never gets there: every iteration leaves by a
`continue`, and the condition of the loop ends it before the next one.  So
`capturesync_add_capture` leaves `running` as it found it (`running_capturesyncAddCapture`),
and after a failed pop the synchroniser goes on accepting captures.
-/

namespace ZsaSdk

variable {Q : Type} [QueueApi Q]

/-! ## The outcome of the pops -/

namespace World

/-- The value of `wresult` when the loop ends.  A failure is kept by the drops that follow,
and ends the loop. -/
def loopWresult (w : World Q) : WaitResult :=
  (Loop.run loopGuard loopBody w.loopFuel (w, .succeeded)).2

/-- The value of `wresult` at the end of the critical section. -/
def lockedWresult (w : World Q) (captureRaw : CaptureHandle) (tsRawCapture : UInt64)
    (colorCapture : Bool) : WaitResult :=
  if w.sync.running = false then .succeeded
  else if w.sync.syncCaptures = false || w.sync.disableSync = true then .succeeded
  else if colorCapture = false && w.sync.waitingForCleanDepthTs then
    if tsRawCapture / w.sync.fpsPeriod > 10 then .succeeded
    else
      let w := { w with sync := { w.sync with waitingForCleanDepthTs := false } }
      (w.storeCapture captureRaw colorCapture).loopWresult
  else (w.storeCapture captureRaw colorCapture).loopWresult

end World

/-- The value of `wresult` when `capturesync_add_capture` returns. -/
def addCaptureWresult (w : World Q) (captureResult : Result)
    (captureRaw : Option CaptureHandle) (colorCapture : Bool) : WaitResult :=
  if captureResult = .failed then .succeeded
  else
    match captureRaw with
    | none => .succeeded
    | some c =>
        match w.heap.typedImage colorCapture c with
        | none => .succeeded
        | some image =>
            let w := w.postImageRefs [.acquire image, .release image]
            w.lockedWresult c (w.heap.devTimestampUsec image) colorCapture

/-! ## The flag -/

/-- `capturesync_add_capture` does not write the flag. -/
theorem running_capturesyncAddCapture (w : World Q) (r : Result) (c : Option CaptureHandle)
    (k : Bool) : (capturesyncAddCapture w r c k).sync.running = w.sync.running :=
  congrArg World.Params.running (settings_capturesyncAddCapture w r c k)

theorem World.lockedWresult_of_not_running {w : World Q} (hr : w.sync.running = false)
    {c : CaptureHandle} {ts : UInt64} {k : Bool} : w.lockedWresult c ts k = .succeeded := by
  rw [World.lockedWresult, if_pos hr]

/-- A pop fails in a running synchroniser only. -/
theorem running_of_addCaptureWresult {w : World Q} {r : Result} {c : Option CaptureHandle}
    {k : Bool} (hfail : addCaptureWresult w r c k = .failed) : w.sync.running = true := by
  cases hr : w.sync.running with
  | true => rfl
  | false =>
      simp only [addCaptureWresult] at hfail
      split at hfail
      · cases hfail
      split at hfail
      · cases hfail
      split at hfail
      · cases hfail
      · rename_i image _
        have hr' : (w.postImageRefs [.acquire image, .release image]).sync.running = false := hr
        rw [World.lockedWresult_of_not_running hr'] at hfail
        cases hfail

/-- Whenever a pop of an internal queue fails, the synchroniser is still running when the call
returns. -/
theorem failed_pop_keeps_running (w : World QueueContext) (r : Result) (c : Option CaptureHandle)
    (k : Bool) (hfail : addCaptureWresult w r c k = .failed) :
    (capturesyncAddCapture w r c k).sync.running = true := by
  rw [running_capturesyncAddCapture]
  exact running_of_addCaptureWresult hfail

/-- A colour capture waits in its slot, a failed result stops the queues, and a depth capture
arrives that matches. -/
theorem failed_pop_keeps_running_stopped_queues :
    ∃ w : World QueueContext, Reachable w ∧
      addCaptureWresult w .succeeded (some ⟨2⟩) false = .failed ∧
      (capturesyncAddCapture w .succeeded (some ⟨2⟩) false).sync.running = true := by
  obtain ⟨w, hw⟩ : ∃ w, capturesyncCreate QueueContext pairedHeap false = some w := ⟨_, rfl⟩
  have hn : w.notifiers = [] := by
    rw [← Option.some.inj hw]
    rfl
  have hreach := (((Reachable.create hw).start pairedConfiguration hn).addCapture .succeeded
    (some ⟨1⟩) true).addCapture .failed none true
  have hfail : addCaptureWresult (capturesyncAddCapture (capturesyncAddCapture
      (capturesyncStart w pairedConfiguration).1 .succeeded (some ⟨1⟩) true) .failed none true)
      .succeeded (some ⟨2⟩) false = .failed := by
    rw [← Option.some.inj hw]
    rfl
  exact ⟨_, hreach, hfail, failed_pop_keeps_running _ _ _ _ hfail⟩

/-- After the failed pop the next colour capture is accepted: it is in the slot when its call
returns. -/
theorem capture_accepted_after_failed_pop :
    ∃ w : World QueueContext, Reachable w ∧
      addCaptureWresult w .succeeded (some ⟨2⟩) false = .failed ∧
      (capturesyncAddCapture w .succeeded (some ⟨2⟩) false).sync.running = true ∧
      (capturesyncAddCapture (capturesyncAddCapture w .succeeded (some ⟨2⟩) false) .succeeded
        (some ⟨3⟩) true).sync.color.capture = some ⟨3⟩ := by
  obtain ⟨w, hw⟩ : ∃ w, capturesyncCreate QueueContext pairedHeap false = some w := ⟨_, rfl⟩
  have hn : w.notifiers = [] := by
    rw [← Option.some.inj hw]
    rfl
  have hreach := (((Reachable.create hw).start pairedConfiguration hn).addCapture .succeeded
    (some ⟨1⟩) true).addCapture .failed none true
  refine ⟨_, hreach, ?_, ?_, ?_⟩
  · rw [← Option.some.inj hw]
    rfl
  · rw [← Option.some.inj hw]
    rfl
  · rw [← Option.some.inj hw]
    rfl

end ZsaSdk
