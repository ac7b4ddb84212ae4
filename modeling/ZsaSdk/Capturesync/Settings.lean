import ZsaSdk.Capturesync.Steps

/-!
# The settings of a session

`capturesync_start` writes the settings of a session and `capturesync_stop` clears the
running flag.  Nothing in between writes any of them: not the drops and the merges, and not
the threads that report failures.  The flag of the start-up filter is the only parameter that
a capture can change, so it is left out here.
-/

namespace ZsaSdk

namespace World

variable {Q : Type} [QueueApi Q]

/-- The session parameters, less the flag of the start-up filter. -/
def settings {Q : Type} (w : World Q) : Params := { w.params with waitingForCleanDepthTs := false }

theorem settings_congr {Q : Type} {w w' : World Q} (h : w'.params = w.params) :
    w'.settings = w.settings := congrArg (fun p => { p with waitingForCleanDepthTs := false }) h

@[simp] theorem settings_setFrame {Q : Type} (w : World Q) (k : Bool) (f : FrameInfo Q) :
    (w.setFrame k f).settings = w.settings := settings_congr (params_setFrame w k f)

/-! ## Other threads -/

theorem settings_notifierMove (w : World Q) (m : NotifierMove) :
    (w.notifierMove m).settings = w.settings := by
  cases m with
  | enter => rfl
  | advance i =>
      simp only [notifierMove]
      split
      · rfl
      · rfl
      · exact settings_setFrame _ false _
      · exact settings_setFrame _ true _

theorem settings_foldl_notifierMove (moves : List NotifierMove) : ∀ w : World Q,
    (moves.foldl notifierMove w).settings = w.settings := by
  induction moves with
  | nil => exact fun _ => rfl
  | cons m moves ih => exact fun w => (ih _).trans (settings_notifierMove w m)

@[simp] theorem settings_preempt (w : World Q) : w.preempt.settings = w.settings := by
  simp only [preempt]
  split
  · rfl
  · exact settings_foldl_notifierMove _ _

/-! ## Slots and queues -/

@[simp] theorem settings_pushSyncQueue (w : World Q) (p : Published) :
    (w.pushSyncQueue p).settings = w.settings := settings_preempt w

@[simp] theorem settings_publishSlot (w : World Q) (k : Bool) :
    (w.publishSlot k).settings = w.settings := by
  simp only [publishSlot]
  split
  · rfl
  · split
    · rfl
    · exact settings_pushSyncQueue w _

@[simp] theorem settings_releaseSlot {Q : Type} (w : World Q) (k : Bool) :
    (w.releaseSlot k).settings = w.settings := settings_setFrame _ k _

@[simp] theorem settings_readTypedImage {Q : Type} (w : World Q) (k : Bool) (c : CaptureHandle) :
    (w.readTypedImage k c).settings = w.settings := settings_setFrame _ k _

@[simp] theorem settings_popSlot (w : World Q) (k : Bool) :
    (w.popSlot k).1.settings = w.settings := by
  simp only [popSlot]
  split
  · split
    · rw [settings_readTypedImage, settings_setFrame]
      exact settings_preempt w
    · rw [settings_readTypedImage, settings_setFrame]
      exact settings_preempt w
  · rw [settings_setFrame]
    exact settings_preempt w
  · rw [settings_setFrame]
    exact settings_preempt w

theorem settings_dropSample (w : World Q) (wresult : WaitResult) (k b : Bool) :
    (w.dropSample wresult k b).1.settings = w.settings := by
  have hdropped : ((if b then w.publishSlot k else w).releaseSlot k).settings = w.settings := by
    rw [settings_releaseSlot]
    split
    · exact settings_publishSlot w k
    · rfl
  simp only [dropSample]
  generalize (if b then w.publishSlot k else w).releaseSlot k = v at hdropped ⊢
  split
  · split
    · rw [settings_setFrame, settings_releaseSlot, settings_popSlot]
      exact hdropped
    · rw [settings_popSlot]
      exact hdropped
  · split
    · rw [settings_setFrame, settings_releaseSlot]
      exact hdropped
    · exact hdropped

theorem settings_replaceSample (w : World Q) (c : CaptureHandle) (k : Bool) :
    (w.replaceSample c k).settings = w.settings := by
  simp only [replaceSample]
  split
  · rw [settings_readTypedImage]
    exact settings_publishSlot w k
  · rw [settings_setFrame]
    exact settings_publishSlot w k

theorem settings_storeCapture (w : World Q) (c : CaptureHandle) (k : Bool) :
    (w.storeCapture c k).settings = w.settings := by
  simp only [storeCapture]
  split
  · exact settings_readTypedImage w k c
  · split
    · rw [settings_setFrame]
      exact settings_preempt w
    · rw [settings_replaceSample, settings_setFrame]
      exact settings_preempt w

theorem settings_shutFrameQueue {Q : Type} (w : World Q) (k : Bool) (shut : Q → DisableReturn Q) :
    (w.shutFrameQueue k shut).settings = w.settings := settings_setFrame _ k _

theorem settings_clearSlot {Q : Type} (w : World Q) (k : Bool) :
    (w.clearSlot k).settings = w.settings := by
  simp only [clearSlot]
  split
  · split
    · rfl
    · exact settings_setFrame _ k _
  · split
    · exact settings_setFrame _ k _
    · rw [settings_setFrame]
      exact settings_setFrame _ k _

/-! ## The loop -/

/-- One iteration.  The condition of the loop has just seen both captures, so the branch that
clears the running flag is not taken. -/
theorem settings_loopBody {s : World Q × WaitResult} (hg : loopGuard s = true) :
    (loopBody s).1.settings = s.1.settings := by
  obtain ⟨w, wresult⟩ := s
  simp only [loopGuard, Bool.and_eq_true, Option.isSome_iff_exists] at hg
  obtain ⟨⟨-, depth, hd⟩, color, hc⟩ := hg
  simp only [loopBody]
  split
  · exact settings_dropSample w wresult false true
  · exact settings_dropSample w wresult true true
  · rw [hc, hd]
    dsimp only
    rw [settings_dropSample, settings_dropSample, settings_pushSyncQueue]
    rfl

theorem settings_syncLoop (w : World Q) : w.syncLoop.settings = w.settings :=
  Loop.run_invariant (fun s : World Q × WaitResult => s.1.settings = w.settings)
    (fun _ hg hs => (settings_loopBody hg).trans hs) w.loopFuel (w, .succeeded) rfl

theorem settings_addLocked (w : World Q) (c : CaptureHandle) (ts : UInt64) (k : Bool) :
    (w.addLocked c ts k).settings = w.settings := by
  simp only [addLocked]
  split
  · rfl
  split
  · exact settings_pushSyncQueue w _
  split
  · split
    · rfl
    · rw [settings_syncLoop, settings_storeCapture]
      rfl
  · rw [settings_syncLoop, settings_storeCapture]

end World

variable {Q : Type} [QueueApi Q]

/-- `capturesync_add_capture` writes no setting. -/
theorem settings_capturesyncAddCapture (w : World Q) (r : Result) (c : Option CaptureHandle)
    (k : Bool) : (capturesyncAddCapture w r c k).settings = w.settings := by
  simp only [capturesyncAddCapture]
  split
  · rw [World.stopQueues, World.settings_shutFrameQueue, World.settings_shutFrameQueue]
    rfl
  split
  · rfl
  split
  · rfl
  · exact World.settings_addLocked _ _ _ k

/-- `capturesync_stop` clears the running flag. -/
theorem settings_capturesyncStop (w : World Q) :
    (capturesyncStop w).settings = { w.settings with running := false } := by
  have hclear : (capturesyncStop w).settings =
      ({ w with sync := { w.sync with running := false } } : World Q).settings := by
    simp only [capturesyncStop, World.settings_clearSlot]
    show (World.preempt _).settings = _
    rw [World.settings_preempt, World.settings_shutFrameQueue, World.settings_preempt,
      World.settings_shutFrameQueue, World.settings_preempt]
  exact hclear

theorem settings_capturesyncGetCapture (w : World Q) :
    (capturesyncGetCapture w).1.settings = w.settings := by
  simp only [capturesyncGetCapture]
  split
  · rfl
  · rfl

end ZsaSdk
