import Mathlib.Algebra.Order.Group.Unbundled.Int
import ZsaSdk.Device.Sessions

/-!
# The delays that are sent to the device

`zsa_device_start_cameras` sends two delays to the microcontroller, in ticks of 90 kHz.
`ZSA_USEC_TO_90K_HZ_TICK` multiplies by 9 in the type of the delay before it divides by 100, so
the product can wrap around, and `validate_configuration`, which comes before it, looks at no
field of the configuration.

A tick is 100 / 9 microseconds: `p` ticks and `u` microseconds are less than a tick apart if
`|100 * p - 9 * u| < 100`.
-/

namespace ZsaSdk

/-! ## The conversion -/

/-- The quotient of the exact product, rounded toward zero, lies within a tick of the delay. -/
theorem tdiv_hundred_bounds (a : Int) :
    -100 < 100 * a.tdiv 100 - a ∧ 100 * a.tdiv 100 - a < 100 := by
  have hdiv := Int.mul_tdiv_add_tmod a 100
  have hlt := Int.tmod_lt_of_pos a (show (0 : Int) < 100 by decide)
  have hgt := Int.lt_tmod_of_pos a (show (0 : Int) < 100 by decide)
  omega

/-- Values that are 200 apart have different quotients. -/
theorem tdiv_hundred_ne {a b : Int} (h : a + 200 ≤ b ∨ b + 200 ≤ a) :
    a.tdiv 100 ≠ b.tdiv 100 := by
  have ha := tdiv_hundred_bounds a
  have hb := tdiv_hundred_bounds b
  omega

theorem toNat_usec_to_tick (x : UInt32) : (x * 9 / 100).toNat = x.toNat * 9 % 2 ^ 32 / 100 := by
  rw [UInt32.toNat_div, UInt32.toNat_mul]
  rfl

theorem toInt_usec_to_tick (x : Int32) :
    (x * 9 / 100).toInt = ((x.toInt * 9).bmod (2 ^ 32)).tdiv 100 := by
  rw [Int32.toInt_div_of_ne_right _ _ (by decide), Int32.toInt_mul]
  rfl

/-- The unsigned conversion is exact if and only if the product fits. -/
theorem usec_to_tick_exact_iff (x : UInt32) :
    (x * 9 / 100).toNat = x.toNat * 9 / 100 ↔ x.toNat * 9 < 2 ^ 32 := by
  rw [toNat_usec_to_tick]
  omega

/-- The signed conversion is exact if and only if the product fits. -/
theorem signed_usec_to_tick_exact_iff (x : Int32) :
    (x * 9 / 100).toInt = (x.toInt * 9).tdiv 100 ↔
      -2 ^ 31 ≤ x.toInt * 9 ∧ x.toInt * 9 < 2 ^ 31 := by
  rw [toInt_usec_to_tick]
  have hdiv : 4294967296 * (x.toInt * 9).bdiv (2 ^ 32) + (x.toInt * 9).bmod (2 ^ 32) =
      x.toInt * 9 := Int.bdiv_add_bmod _ _
  have hle : -2147483648 ≤ (x.toInt * 9).bmod (2 ^ 32) := Int.le_bmod (by decide)
  have hlt : (x.toInt * 9).bmod (2 ^ 32) < 2147483648 := Int.bmod_lt (by decide)
  generalize (x.toInt * 9).bmod (2 ^ 32) = r at hdiv hle hlt ⊢
  generalize (x.toInt * 9).bdiv (2 ^ 32) = q at hdiv
  constructor
  · intro h
    by_contra hno
    -- The product is off by a multiple of 2 ^ 32, which the division cannot hide.
    exact tdiv_hundred_ne (by omega) h
  · intro h
    have hq : q = 0 := by omega
    have hr : r = x.toInt * 9 := by omega
    rw [hr]

/-! ## What is sent -/

variable {Q : Type} [QueueApi Q]

/-- The record that `zsa_device_start_cameras` sends to the microcontroller, if it comes to
that. -/
def ZsaContext.sentSysCfg (d : ZsaContext Q) (config : CameraConfiguration) :
    Option SynchronizationConfig :=
  if d.colorStarted = true then none
  else if validateConfiguration config = .failed then none
  else if d.colormcu = false then none
  else synchronizationConfig config

/-- If nothing is sent, the cameras are not started. -/
theorem ZsaContext.startCameras_of_not_sent {d : ZsaContext Q} {config : CameraConfiguration}
    (h : d.sentSysCfg config = none) (o : StartOutcome) :
    d.startCameras config o = (d, .failed) := by
  simp only [sentSysCfg] at h
  simp only [startCameras]
  split
  · rfl
  · next hstarted =>
    rw [if_neg hstarted] at h
    split
    · rfl
    · next hvalid =>
      rw [if_neg hvalid] at h
      have hrefused : (d.colormcu = false ||
          colormcuSetMultiDeviceMode config o.usbCmdWrite = .failed) = true := by
        cases hmcu : d.colormcu with
        | false => rfl
        | true =>
            rw [hmcu] at h
            simp only [Bool.true_eq_false, if_false] at h
            simp only [colormcuSetMultiDeviceMode, h, Bool.or_eq_true, decide_eq_true_eq, or_true]
      rw [if_pos hrefused]

/-- The delays of the record are those of the configuration in whole ticks, rounded toward
zero, and the synchroniser works with the same delay up to a tick. -/
structure DelaysExact (d : ZsaContext Q) (config : CameraConfiguration) (o : StartOutcome)
    (sent : SynchronizationConfig) : Prop where
  subordinate : sent.subordinateDelayOffMasterPts.toNat =
    config.subordinateDelayOffMasterUsec.toNat * 9 / 100
  depth : sent.depthDelayOffColorPts.toInt = (config.depthDelayOffColorUsec.toInt * 9).tdiv 100
  synchroniser : o.usbCmdWrite = .succeeded → 0 < convertFpsToUint config.cameraFps →
    ∀ w, (d.startCameras config o).1.capturesync = some w →
      |100 * sent.depthDelayOffColorPts.toInt - 9 * w.sync.depthDelayOffColorUsec.toInt| < 100

/-- The synchroniser takes the delay of the configuration as it is. -/
theorem startCameras_delay {d : ZsaContext Q} {config : CameraConfiguration} {o : StartOutcome}
    {sent : SynchronizationConfig} (h : d.sentSysCfg config = some sent)
    (hwrite : o.usbCmdWrite = .succeeded) (hfps : 0 < convertFpsToUint config.cameraFps)
    {w : World Q} (hw : (d.startCameras config o).1.capturesync = some w) :
    w.sync.depthDelayOffColorUsec = config.depthDelayOffColorUsec := by
  simp only [ZsaContext.sentSysCfg, Option.ite_none_left_eq_some] at h
  obtain ⟨hstarted, hvalid, hmcu, hsent⟩ := h
  have hmode : (d.colormcu = false ||
      colormcuSetMultiDeviceMode config o.usbCmdWrite = .failed) = false := by
    simp [colormcuSetMultiDeviceMode, hsent, hwrite, hmcu]
  simp only [ZsaContext.startCameras, if_neg hstarted, if_neg hvalid, hmode, Bool.false_eq_true,
    if_false] at hw
  cases hc : d.capturesync with
  | none =>
      simp only [hc] at hw
      cases hw
  | some w₀ =>
      have hstart : capturesyncStart w₀ config.toDeviceConfiguration =
          ((capturesyncStart w₀ config.toDeviceConfiguration).1, .succeeded) := by
        simp only [capturesyncStart, if_pos hfps]
      have hdelay :
          (capturesyncStart w₀ config.toDeviceConfiguration).1.sync.depthDelayOffColorUsec =
            config.depthDelayOffColorUsec := by
        simp only [capturesyncStart, if_pos hfps]
      simp only [hc] at hw
      rw [hstart] at hw
      -- Whatever becomes of the colour camera, the synchroniser has been started.
      have hsync : w = (capturesyncStart w₀ config.toDeviceConfiguration).1 := by
        simp only [] at hw
        split at hw
        · exact (Option.some.inj hw).symm
        · split at hw
          · exact (Option.some.inj hw).symm
          · split at hw
            · exact (Option.some.inj hw).symm
            · exact (Option.some.inj hw).symm
      rw [hsync, hdelay]

/-- The delays that are sent are exact if and only if neither product wraps around. -/
theorem delays_exact_iff (d : ZsaContext Q) (config : CameraConfiguration) (o : StartOutcome)
    {sent : SynchronizationConfig} (h : d.sentSysCfg config = some sent) :
    DelaysExact d config o sent ↔
      config.subordinateDelayOffMasterUsec.toNat * 9 < 2 ^ 32 ∧
      -2 ^ 31 ≤ config.depthDelayOffColorUsec.toInt * 9 ∧
      config.depthDelayOffColorUsec.toInt * 9 < 2 ^ 31 := by
  obtain ⟨mode, -, rfl⟩ : ∃ mode, externalSyncMode config.wiredSyncMode = some mode ∧
      { mode
        subordinateDelayOffMasterPts := config.subordinateDelayOffMasterUsec * 9 / 100
        depthDelayOffColorPts := config.depthDelayOffColorUsec * 9 / 100
        enablePrivacyLed := if config.disableStreamingIndicator then 0 else 1 } = sent := by
    simp only [ZsaContext.sentSysCfg, Option.ite_none_left_eq_some] at h
    exact Option.map_eq_some_iff.mp h.2.2.2
  constructor
  · intro hexact
    exact ⟨(usec_to_tick_exact_iff _).mp hexact.subordinate,
      (signed_usec_to_tick_exact_iff _).mp hexact.depth⟩
  · rintro ⟨hsubordinate, hdepth⟩
    have hticks := (signed_usec_to_tick_exact_iff _).mpr hdepth
    refine ⟨(usec_to_tick_exact_iff _).mpr hsubordinate, hticks, ?_⟩
    intro hwrite hfps w hw
    have hbounds := tdiv_hundred_bounds (config.depthDelayOffColorUsec.toInt * 9)
    rw [startCameras_delay h hwrite hfps hw, hticks, abs_lt]
    omega

/-- A subordinate with the delays given. -/
def delayConfiguration (subordinate : UInt32) (depth : Int32) : CameraConfiguration :=
  ⟨⟨.r720p, .nfovUnbinned, .framesPerSecond30, false, depth⟩, .colorMjpg, .subordinate, subordinate,
    false⟩

/-- A device that has just been opened. -/
def openedDevice : ZsaContext QueueContext :=
  (ZsaContext.createParts (some Guid.zero) (.ok emptyHeap)).1

/-- Delays of 160 and of -33333 microseconds are sent as 14 and -2999 ticks. -/
theorem delays_exact_one_period :
    openedDevice.sentSysCfg (delayConfiguration 160 (-33333)) = some ⟨2, 14, -2999, 1⟩ ∧
    DelaysExact openedDevice (delayConfiguration 160 (-33333))
      ⟨.succeeded, ⟨some 5, ⟨true, true⟩⟩⟩ ⟨2, 14, -2999, 1⟩ := by
  have hsent : openedDevice.sentSysCfg (delayConfiguration 160 (-33333)) =
      some ⟨2, 14, -2999, 1⟩ := rfl
  exact ⟨hsent, (delays_exact_iff _ _ _ hsent).mpr (by decide)⟩

/-- A delay of 500 seconds is sent as 2050327 ticks, which is less than 23 seconds. -/
theorem long_delay_wraps :
    ∃ sent, openedDevice.sentSysCfg (delayConfiguration 500000000 0) = some sent ∧
      sent.subordinateDelayOffMasterPts = 2050327 ∧
      ¬ DelaysExact openedDevice (delayConfiguration 500000000 0)
        ⟨.succeeded, ⟨some 5, ⟨true, true⟩⟩⟩ sent := by
  refine ⟨_, rfl, rfl, ?_⟩
  intro h
  have hticks := h.subordinate
  revert hticks
  decide

end ZsaSdk
