import Mathlib.Algebra.Order.Group.Int
import Mathlib.Algebra.Order.Group.Abs
import Mathlib.Algebra.Order.Ring.Int
import ZsaSdk.Capturesync.Representation
import ZsaSdk.Capturesync.Settings

/-!
# The synchronisation window

One iteration of the loop of `capturesync_add_capture` compares the two slots.  The window is
computed with macros that saturate at zero, on unsigned 64-bit timestamps, signed 64-bit casts
of them and a signed 32-bit delay.  As long as the timestamps are below `2 ^ 62` none of the
conversions loses anything, and the outcome is the one of a comparison over the integers
(`syncWindow_exact`).

The margin of a quarter of a period is taken off before the delay is applied and stops at
zero.  So two heads that are aligned within the margin can still miss each other at the start
of a session, when the timestamps are small (`aligned_heads_merged_iff`).
-/

namespace ZsaSdk

/-! ## Arithmetic of the macros -/

theorem toInt_toInt64_of_lt {a : UInt64} (h : a.toNat < 2 ^ 62) :
    a.toInt64.toInt = a.toNat := by
  rw [← Int64.toInt_toBitVec]
  simp only [UInt64.toBitVec_toInt64, BitVec.toInt_eq_toNat_cond, UInt64.toNat_toBitVec]
  omega

theorem toNat_toUInt64_of_nonneg {a : Int64} (h : 0 ≤ a.toInt) :
    (a.toUInt64.toNat : Int) = a.toInt := by
  have hle : 0 ≤ a := Int64.le_iff_toInt_le.mpr h
  rw [Int64.toNat_toUInt64_of_le hle]
  exact Int.toNat_of_nonneg h

theorem toNat_tsSubtract (ts val : UInt64) :
    (tsSubtract ts val).toNat = ts.toNat - val.toNat := by
  rw [tsSubtract]
  split
  · next h =>
    rw [UInt64.le_iff_toNat_le] at h
    rw [UInt64.toNat_zero]
    omega
  · next h =>
    rw [UInt64.not_le, UInt64.lt_iff_toNat_lt] at h
    exact UInt64.toNat_sub_of_le _ _ (UInt64.le_of_lt (UInt64.lt_iff_toNat_lt.mpr h))

/-- A delay that is not negative is added. -/
theorem toNat_tsAdd {b : UInt64} {delay : Int32} (hb : b.toNat < 2 ^ 62) (hd : 0 ≤ delay.toInt) :
    ((tsAdd b.toInt64 delay.toInt64).toUInt64.toNat : Int) = b.toNat + delay.toInt := by
  have hlt := delay.toInt_lt
  have hsum : (b.toInt64 + delay.toInt64).toInt = b.toNat + delay.toInt := by
    rw [Int64.toInt_add, toInt_toInt64_of_lt hb, Int32.toInt_toInt64]
    exact Int.bmod_eq_of_le (by omega) (by omega)
  rw [tsAdd]
  split
  · next h =>
    rw [Int64.le_iff_toInt_le, hsum, Int64.toInt_zero] at h
    rw [toNat_toUInt64_of_nonneg (by rw [Int64.toInt_zero]), Int64.toInt_zero]
    omega
  · rw [toNat_toUInt64_of_nonneg (by rw [hsum]; omega), hsum]

/-- A negative delay is subtracted. -/
theorem toNat_tsSubtractSigned {b : UInt64} {delay : Int32} (hb : b.toNat < 2 ^ 62)
    (hd : delay.toInt < 0) :
    ((tsSubtractSigned b.toInt64 delay.toInt64).toUInt64.toNat : Int) =
      b.toNat - delay.toInt := by
  have hle := delay.le_toInt
  have hdiff : (b.toInt64 - delay.toInt64).toInt = b.toNat - delay.toInt := by
    rw [Int64.toInt_sub, toInt_toInt64_of_lt hb, Int32.toInt_toInt64]
    exact Int.bmod_eq_of_le (by omega) (by omega)
  rw [tsSubtractSigned]
  split
  · next h =>
    rw [Int64.le_iff_toInt_le, toInt_toInt64_of_lt hb, Int32.toInt_toInt64] at h
    omega
  · rw [toNat_toUInt64_of_nonneg (by rw [hdiff]; omega), hdiff]

/-! ## The comparison over the integers -/

/-- What an iteration is to do with two heads taken at `c` and `d`.  The stream that is
expected first sets the window, which starts a quarter of a period before its timestamp, or at
zero, and lasts for a period. -/
def ExactWindow (delay period c d : Int) (decision : WindowDecision) : Prop :=
  if 0 ≤ delay then
    let x := d - c - delay
    let m := min c (period / 4)
    (decision = .dropDepth ↔ x < -m) ∧ (decision = .dropColor ↔ period - m < x) ∧
      (decision = .merge ↔ -m ≤ x ∧ x ≤ period - m)
  else
    let x := c - d + delay
    let m := min d (period / 4)
    (decision = .dropColor ↔ x < -m) ∧ (decision = .dropDepth ↔ period - m < x) ∧
      (decision = .merge ↔ -m ≤ x ∧ x ≤ period - m)

/-- The end of the window does not wrap around. -/
theorem toNat_endSyncWindow {b period : UInt64} (hb : b.toNat < 2 ^ 63)
    (hp : period.toNat ≤ 1000000) : (b + period).toNat = b.toNat + period.toNat := by
  rw [UInt64.toNat_add]
  exact Nat.mod_eq_of_lt (by omega)

theorem syncWindow_exact {delay : Int32} {period c d : UInt64} (hp : period.toNat ≤ 1000000)
    (hc : c.toNat < 2 ^ 62) (hd : d.toNat < 2 ^ 62) :
    ExactWindow delay.toInt period.toNat c.toNat d.toNat
      (syncWindow delay period (period / 4) c d) := by
  have hquarter : (period / 4).toNat = period.toNat / 4 := UInt64.toNat_div period 4
  have hlt := delay.toInt_lt
  have hge := delay.le_toInt
  rw [ExactWindow, syncWindow]
  by_cases hdelay : 0 ≤ delay.toInt
  · have hneg : ¬ delay < 0 := by
      rw [Int32.lt_iff_toInt_lt, Int32.toInt_zero]
      omega
    have hbegin := toNat_tsSubtract c (period / 4)
    have hwindow := toNat_tsAdd (b := tsSubtract c (period / 4)) (by omega) hdelay
    rw [if_pos hdelay, if_neg hneg]
    dsimp only
    generalize (tsAdd (tsSubtract c (period / 4)).toInt64 delay.toInt64).toUInt64 = b at hwindow ⊢
    have hend := toNat_endSyncWindow (b := b) (by omega) hp
    simp only [gt_iff_lt, UInt64.lt_iff_toNat_lt, hend]
    split
    · simp only [reduceCtorEq, false_iff, true_iff]
      omega
    · split
      · simp only [reduceCtorEq, false_iff, true_iff]
        omega
      · simp only [reduceCtorEq, false_iff, true_iff]
        omega
  · have hneg : delay < 0 := by
      rw [Int32.lt_iff_toInt_lt, Int32.toInt_zero]
      omega
    have hbegin := toNat_tsSubtract d (period / 4)
    have hwindow := toNat_tsSubtractSigned (b := tsSubtract d (period / 4)) (by omega)
      (Int.not_le.mp hdelay)
    rw [if_neg hdelay, if_pos hneg]
    dsimp only
    generalize (tsSubtractSigned (tsSubtract d (period / 4)).toInt64 delay.toInt64).toUInt64 = b
      at hwindow ⊢
    have hend := toNat_endSyncWindow (b := b) (by omega) hp
    simp only [gt_iff_lt, UInt64.lt_iff_toNat_lt, hend]
    split
    · simp only [reduceCtorEq, false_iff, true_iff]
      omega
    · split
      · simp only [reduceCtorEq, false_iff, true_iff]
        omega
      · simp only [reduceCtorEq, false_iff, true_iff]
        omega

/-- Two heads that are merged deviate from the delay by a period at most. -/
theorem ExactWindow.merge_near {delay period c d : Int} (hp : 0 ≤ period) (hc : 0 ≤ c)
    (hd : 0 ≤ d) (h : ExactWindow delay period c d .merge) : |d - c - delay| ≤ period := by
  rw [abs_le]
  rw [ExactWindow] at h
  split at h
  · have hx := h.2.2.mp rfl
    omega
  · have hx := h.2.2.mp rfl
    omega

/-- Of two heads within the margin of the delay, the one that is expected later must not be
older than the delay. -/
theorem ExactWindow.merge_iff {delay period c d : Int} {decision : WindowDecision}
    (hp : 0 ≤ period) (hnear : |d - c - delay| ≤ period / 4)
    (h : ExactWindow delay period c d decision) :
    decision = .merge ↔ (0 ≤ delay → delay ≤ d) ∧ (delay < 0 → -delay ≤ c) := by
  rw [abs_le] at hnear
  rw [ExactWindow] at h
  split at h
  · rw [h.2.2]
    omega
  · rw [h.2.2]
    omega

/-! ## The iterations of the loop -/

namespace World

variable {Q : Type} [QueueApi Q]

/-- What the next iteration does with the two slots. -/
def decision {Q : Type} (w : World Q) : WindowDecision :=
  syncWindow w.sync.depthDelayOffColorUsec w.sync.fpsPeriod w.sync.fps1QuarterPeriod
    w.sync.color.ts w.sync.depthIr.ts

/-- Drop the depth head, drop the colour head, or merge both. -/
def iteration (s : World Q × WaitResult) : WindowDecision → World Q × WaitResult
  | .dropDepth => s.1.dropSample s.2 false true
  | .dropColor => s.1.dropSample s.2 true true
  | .merge =>
      match s.1.sync.color.capture, s.1.sync.depthIr.capture with
      | some color, some depth =>
          let w := (s.1.mergeCaptures depth color).pushSyncQueue
            (.merged depth color (s.1.heap.typedImage true color))
          let (w, wresult) := w.dropSample s.2 true false
          w.dropSample wresult false false
      | _, _ => s

theorem loopBody_eq {s : World Q × WaitResult} (hg : loopGuard s = true) :
    loopBody s = iteration s s.1.decision := by
  obtain ⟨w, wresult⟩ := s
  simp only [loopGuard, Bool.and_eq_true, Option.isSome_iff_exists] at hg
  obtain ⟨⟨-, depth, hd⟩, color, hc⟩ := hg
  simp only [loopBody, decision]
  cases syncWindow w.sync.depthDelayOffColorUsec w.sync.fpsPeriod w.sync.fps1QuarterPeriod
      w.sync.color.ts w.sync.depthIr.ts with
  | dropDepth => rfl
  | dropColor => rfl
  | merge => simp only [iteration, hc, hd]

/-- The state in which the critical section of `capturesync_add_capture` gets to the loop, if
it does. -/
def lockedEntry (w : World Q) (captureRaw : CaptureHandle) (tsRawCapture : UInt64)
    (colorCapture : Bool) : Option (World Q) :=
  if w.sync.running = false then none
  else if w.sync.syncCaptures = false || w.sync.disableSync = true then none
  else if colorCapture = false && w.sync.waitingForCleanDepthTs then
    if tsRawCapture / w.sync.fpsPeriod > 10 then none
    else
      let w := { w with sync := { w.sync with waitingForCleanDepthTs := false } }
      some (w.storeCapture captureRaw colorCapture)
  else some (w.storeCapture captureRaw colorCapture)

/-- The state in which `capturesync_add_capture` gets to the loop, if it does. -/
def loopEntry (w : World Q) (captureResult : Result) (captureRaw : Option CaptureHandle)
    (colorCapture : Bool) : Option (World Q) :=
  if captureResult = .failed then none
  else
    match captureRaw with
    | none => none
    | some c =>
        match w.heap.typedImage colorCapture c with
        | none => none
        | some image =>
            let w := w.postImageRefs [.acquire image, .release image]
            w.lockedEntry c (w.heap.devTimestampUsec image) colorCapture

theorem addLocked_of_lockedEntry {w v : World Q} {c : CaptureHandle} {ts : UInt64} {k : Bool}
    (h : w.lockedEntry c ts k = some v) : w.addLocked c ts k = v.syncLoop := by
  simp only [lockedEntry] at h
  simp only [addLocked]
  split at h
  · cases h
  next hr =>
  rw [if_neg hr]
  split at h
  · cases h
  next hs =>
  rw [if_neg hs]
  split at h
  · next hw =>
    rw [if_pos hw]
    split at h
    · cases h
    next hts =>
    rw [if_neg hts, ← Option.some.inj h]
  · next hw => rw [if_neg hw, ← Option.some.inj h]

/-- From there on the call is the loop. -/
theorem capturesyncAddCapture_of_loopEntry {w v : World Q} {r : Result}
    {c : Option CaptureHandle} {k : Bool} (h : w.loopEntry r c k = some v) :
    capturesyncAddCapture w r c k = v.syncLoop := by
  simp only [loopEntry] at h
  simp only [capturesyncAddCapture]
  split at h
  · cases h
  next hr =>
  rw [if_neg hr]
  cases c with
  | none => cases h
  | some c =>
      simp only at h ⊢
      cases hi : w.heap.typedImage k c with
      | none =>
          rw [hi] at h
          cases h
      | some image =>
          rw [hi] at h
          exact addLocked_of_lockedEntry h

theorem lockedEntry_settings {w v : World Q} {c : CaptureHandle} {ts : UInt64} {k : Bool}
    (h : w.lockedEntry c ts k = some v) :
    w.sync.syncCaptures = true ∧ v.settings = w.settings := by
  simp only [lockedEntry] at h
  split at h
  · cases h
  split at h
  · cases h
  next hs =>
  rw [Bool.or_eq_true, decide_eq_true_eq, not_or, Bool.not_eq_false] at hs
  refine ⟨hs.1, ?_⟩
  split at h
  · split at h
    · cases h
    rw [← Option.some.inj h, settings_storeCapture]
    rfl
  · rw [← Option.some.inj h, settings_storeCapture]

/-- A call that gets to the loop synchronises, with the settings of the session. -/
theorem loopEntry_settings {w v : World Q} {r : Result} {c : Option CaptureHandle} {k : Bool}
    (h : w.loopEntry r c k = some v) : w.sync.syncCaptures = true ∧ v.settings = w.settings := by
  simp only [loopEntry] at h
  split at h
  · cases h
  cases c with
  | none => cases h
  | some c =>
      simp only at h
      cases hi : w.heap.typedImage k c with
      | none =>
          rw [hi] at h
          cases h
      | some image =>
          rw [hi] at h
          obtain ⟨hs, hv⟩ := lockedEntry_settings (w := w.postImageRefs _) h
          exact ⟨hs, hv⟩

end World

open World

/-- The states in which the condition of the loop of `capturesync_add_capture` is tested, in
any interleaving. -/
inductive InLoop {Q : Type} [QueueApi Q] : World Q × WaitResult → Prop where
  | enter {w v : World Q} {r : Result} {c : Option CaptureHandle} {k : Bool} :
      Reachable w → w.loopEntry r c k = some v → InLoop (v, .succeeded)
  | next {s : World Q × WaitResult} : InLoop s → loopGuard s = true → InLoop (loopBody s)

/-- A synchronising session has a period of a second at most, and its quarter. -/
def Paced (p : Params) : Prop :=
  p.syncCaptures = true → p.fps1QuarterPeriod = p.fpsPeriod / 4 ∧ p.fpsPeriod.toNat ≤ 1000000

variable {Q : Type} [QueueApi Q]

theorem toNat_period_le (fps : Fps) :
    ((1 * 1000000) / convertFpsToUint fps).toUInt64.toNat ≤ 1000000 := by
  cases fps with
  | framesPerSecond5 => decide
  | framesPerSecond15 => decide
  | framesPerSecond30 => decide
  | unknown value =>
      rw [convertFpsToUint]
      decide

theorem paced_start {w : World Q} (h : Paced w.settings) (config : DeviceConfiguration) :
    Paced (capturesyncStart w config).1.settings := by
  simp only [capturesyncStart]
  split
  · exact fun _ => ⟨rfl, toNat_period_le config.cameraFps⟩
  · exact h

theorem Reachable.paced {w : World Q} (h : Reachable w) : Paced w.settings := by
  induction h with
  | create hc =>
      simp only [capturesyncCreate, Option.bind_eq_bind, Option.bind_eq_some_iff] at hc
      obtain ⟨depthQueue, -, colorQueue, -, syncQueue, -, hw⟩ := hc
      rw [← Option.some.inj hw]
      intro hs
      cases hs
  | start config _ _ ih => exact paced_start ih config
  | addCapture r c k _ ih =>
      rw [settings_capturesyncAddCapture]
      exact ih
  | getCapture _ ih =>
      rw [settings_capturesyncGetCapture]
      exact ih
  | stop _ ih =>
      rw [settings_capturesyncStop]
      exact ih
  | notifier m _ ih =>
      rw [settings_notifierMove]
      exact ih
  | schedule moves _ ih => exact ih

/-- The settings at the head of the loop. -/
theorem InLoop.paced {s : World Q × WaitResult} (h : InLoop s) :
    s.1.sync.fps1QuarterPeriod = s.1.sync.fpsPeriod / 4 ∧ s.1.sync.fpsPeriod.toNat ≤ 1000000 := by
  have hsettings : s.1.settings.syncCaptures = true ∧ Paced s.1.settings := by
    induction h with
    | enter hw hv =>
        obtain ⟨hs, heq⟩ := loopEntry_settings hv
        rw [heq]
        exact ⟨hs, hw.paced⟩
    | next _ hg ih =>
        rw [settings_loopBody hg]
        exact ih
  exact hsettings.2 hsettings.1

theorem InLoop.exactWindow {s : World Q × WaitResult} (h : InLoop s)
    (hc : s.1.sync.color.ts.toNat < 2 ^ 62) (hd : s.1.sync.depthIr.ts.toNat < 2 ^ 62) :
    ExactWindow s.1.sync.depthDelayOffColorUsec.toInt s.1.sync.fpsPeriod.toNat
      s.1.sync.color.ts.toNat s.1.sync.depthIr.ts.toNat s.1.decision := by
  obtain ⟨hquarter, hperiod⟩ := h.paced
  rw [decision, hquarter]
  exact syncWindow_exact hperiod hc hd

/-- Every iteration does what the comparison of the two timestamps over the integers says, and
a pair that is merged deviates from the programmed delay by at most one period. -/
theorem window_test_exact {s : World QueueContext × WaitResult} (h : InLoop s)
    (hg : loopGuard s = true) (hc : s.1.sync.color.ts.toNat < 2 ^ 62)
    (hd : s.1.sync.depthIr.ts.toNat < 2 ^ 62) :
    loopBody s = iteration s s.1.decision ∧
    ExactWindow s.1.sync.depthDelayOffColorUsec.toInt s.1.sync.fpsPeriod.toNat
      s.1.sync.color.ts.toNat s.1.sync.depthIr.ts.toNat s.1.decision ∧
    (s.1.decision = .merge →
      |(s.1.sync.depthIr.ts.toNat : Int) - s.1.sync.color.ts.toNat -
        s.1.sync.depthDelayOffColorUsec.toInt| ≤ s.1.sync.fpsPeriod.toNat) := by
  have hexact := h.exactWindow hc hd
  refine ⟨loopBody_eq hg, hexact, ?_⟩
  intro hmerge
  rw [hmerge] at hexact
  exact hexact.merge_near (Int.natCast_nonneg _) (Int.natCast_nonneg _) (Int.natCast_nonneg _)

/-- The first colour capture of a session, taken at 0, waits in its slot when the first depth
capture arrives, taken at 1000. -/
def firstFrames (delay : Int32) : Option (World QueueContext × WaitResult) :=
  (capturesyncCreate QueueContext pairedHeap false).bind fun w =>
    let w := (capturesyncStart w { pairedConfiguration with depthDelayOffColorUsec := delay }).1
    let w := capturesyncAddCapture w .succeeded (some ⟨0⟩) true
    (w.loopEntry .succeeded (some ⟨1⟩) false).map fun w => (w, .succeeded)

/-- The condition of the loop, and what the window is computed from. -/
def windowFields {Q : Type} (s : World Q × WaitResult) :
    Bool × Int32 × UInt64 × UInt64 × UInt64 × UInt64 :=
  (loopGuard s, s.1.sync.depthDelayOffColorUsec, s.1.sync.fpsPeriod, s.1.sync.fps1QuarterPeriod,
    s.1.sync.color.ts, s.1.sync.depthIr.ts)

theorem firstFrames_inLoop (delay : Int32)
    (h : (firstFrames delay).map windowFields = some (true, delay, 33333, 8333, 0, 1000)) :
    ∃ s : World QueueContext × WaitResult, InLoop s ∧ loopGuard s = true ∧
      s.1.sync.depthDelayOffColorUsec = delay ∧ s.1.sync.fpsPeriod = 33333 ∧
      s.1.sync.fps1QuarterPeriod = 8333 ∧ s.1.sync.color.ts = 0 ∧ s.1.sync.depthIr.ts = 1000 := by
  obtain ⟨s, hs, hfields⟩ := Option.map_eq_some_iff.mp h
  obtain ⟨w, hw, hentry⟩ := Option.bind_eq_some_iff.mp hs
  obtain ⟨v, hv, rfl⟩ := Option.map_eq_some_iff.mp hentry
  have hn : w.notifiers = [] := by
    rw [← Option.some.inj hw]
    rfl
  have hreach := ((Reachable.create hw).start
    { pairedConfiguration with depthDelayOffColorUsec := delay } hn).addCapture .succeeded
    (some ⟨0⟩) true
  simp only [windowFields, Prod.mk.injEq] at hfields
  exact ⟨_, InLoop.enter hreach hv, hfields⟩

theorem window_test_exact_first_frames : ∃ s : World QueueContext × WaitResult,
    s.1.sync.depthDelayOffColorUsec = -2147483648 ∧ s.1.sync.depthIr.ts = 1000 ∧
    ExactWindow (-2147483648) 33333 0 1000 s.1.decision ∧ s.1.decision = .dropColor := by
  obtain ⟨s, hs, hg, hdelay, hperiod, hquarter, hc, hd⟩ := firstFrames_inLoop (-2147483648) rfl
  have hexact := (window_test_exact hs hg (by rw [hc]; decide) (by rw [hd]; decide)).2.1
  refine ⟨s, hdelay, hd, ?_, ?_⟩
  · rw [hdelay, hperiod, hc, hd] at hexact
    exact hexact
  · rw [decision, hdelay, hperiod, hquarter, hc, hd]
    decide

/-- Two heads that are aligned within a quarter of a period are merged precisely if the one
that is expected later is not older than the delay. -/
theorem aligned_heads_merged_iff {s : World QueueContext × WaitResult} (h : InLoop s)
    (hg : loopGuard s = true) (hc : s.1.sync.color.ts.toNat < 2 ^ 62)
    (hd : s.1.sync.depthIr.ts.toNat < 2 ^ 62)
    (hnear : |(s.1.sync.depthIr.ts.toNat : Int) - s.1.sync.color.ts.toNat -
      s.1.sync.depthDelayOffColorUsec.toInt| ≤ s.1.sync.fpsPeriod.toNat / 4) :
    (loopBody s = iteration s s.1.decision ∧ s.1.decision = .merge) ↔
      (0 ≤ s.1.sync.depthDelayOffColorUsec.toInt →
        s.1.sync.depthDelayOffColorUsec.toInt ≤ s.1.sync.depthIr.ts.toNat) ∧
      (s.1.sync.depthDelayOffColorUsec.toInt < 0 →
        -s.1.sync.depthDelayOffColorUsec.toInt ≤ s.1.sync.color.ts.toNat) := by
  rw [and_iff_right (loopBody_eq hg)]
  exact (h.exactWindow hc hd).merge_iff (Int.natCast_nonneg _) hnear

theorem aligned_heads_merged_no_delay : ∃ s : World QueueContext × WaitResult,
    s.1.sync.color.ts = 0 ∧ s.1.sync.depthIr.ts = 1000 ∧ s.1.decision = .merge := by
  obtain ⟨s, hs, hg, hdelay, hperiod, hquarter, hc, hd⟩ := firstFrames_inLoop 0 rfl
  have hiff := aligned_heads_merged_iff hs hg (by rw [hc]; decide) (by rw [hd]; decide)
    (by rw [hdelay, hperiod, hc, hd]; decide)
  rw [hdelay, hc, hd] at hiff
  exact ⟨s, hc, hd, (hiff.mpr (by decide)).2⟩

/-- The delay is 1500.  The depth capture is 500 microseconds early, well within the margin of
8333, and is dropped. -/
theorem early_depth_dropped_at_start : ∃ s : World QueueContext × WaitResult,
    InLoop s ∧ loopGuard s = true ∧ s.1.sync.color.ts = 0 ∧ s.1.sync.depthIr.ts = 1000 ∧
    s.1.sync.depthDelayOffColorUsec = 1500 ∧ s.1.sync.fpsPeriod = 33333 ∧
    |(s.1.sync.depthIr.ts.toNat : Int) - s.1.sync.color.ts.toNat -
      s.1.sync.depthDelayOffColorUsec.toInt| ≤ s.1.sync.fpsPeriod.toNat / 4 ∧
    s.1.decision = .dropDepth := by
  obtain ⟨s, hs, hg, hdelay, hperiod, hquarter, hc, hd⟩ := firstFrames_inLoop 1500 rfl
  refine ⟨s, hs, hg, hc, hd, hdelay, hperiod, ?_, ?_⟩
  · rw [hdelay, hperiod, hc, hd]
    decide
  · rw [decision, hdelay, hperiod, hquarter, hc, hd]
    decide

end ZsaSdk
