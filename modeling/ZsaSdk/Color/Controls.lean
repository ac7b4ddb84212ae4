import ZsaSdk.Color.Capabilities
import ZsaSdk.Lib.Conversions

/-!
# Setting and reading controls

A control in manual mode is a register of the camera.  `SetCameraControl` converts the value to
the type of the register without a check, and `GetCameraControl` converts the register back.
What is read back after a call that succeeds is `readBack`, which is the value if and only if
the register can hold it.

The powerline frequency is also kept in the reader, as `m_using_60hz_power`.  The reader
compares the value with 2, the camera gets its low byte, and so the two can disagree.
-/

namespace ZsaSdk

/-! ## Registers -/

/-- The values that the register of a manual control can hold, from the first up to the second,
for the controls whose value is passed on as it is. -/
def registerRange : ColorControlCommand → Option (Int × Int)
  | .brightness => some (-2 ^ 15, 2 ^ 15)
  | .contrast | .saturation | .sharpness | .whitebalance | .backlightCompensation | .gain =>
      some (0, 2 ^ 16)
  | .powerlineFrequency => some (0, 2 ^ 8)
  | .exposureTimeAbsolute | .autoExposurePriority | .unknown _ => none

/-- The value fits the register. -/
def FitsRegister (command : ColorControlCommand) (value : Int32) : Prop :=
  ∀ lo hi, registerRange command = some (lo, hi) → lo ≤ value.toInt ∧ value.toInt < hi

/-- The value as it comes back from the register. -/
def readBack (command : ColorControlCommand) (value : Int32) : Int32 :=
  match command with
  | .brightness => value.toInt16.toInt32
  | .powerlineFrequency => value.toInt8.toUInt8.toUInt32.toInt32
  | _ => value.toInt16.toUInt16.toUInt32.toInt32

/-- The requests that set a control to manual mode. -/
def setRequests : ColorControlCommand → List UvcRequest
  | .exposureTimeAbsolute => [.setCur .aeMode, .setCur .exposureAbs]
  | .brightness => [.setCur .brightness]
  | .contrast => [.setCur .contrast]
  | .saturation => [.setCur .saturation]
  | .sharpness => [.setCur .sharpness]
  | .whitebalance => [.setCur .whiteBalanceTemperatureAuto, .setCur .whiteBalanceTemperature]
  | .backlightCompensation => [.setCur .backlightCompensation]
  | .gain => [.setCur .gain]
  | .powerlineFrequency => [.setCur .powerLineFrequency]
  | .autoExposurePriority | .unknown _ => []

/-- The reader takes the value: it is initialised, the camera answers every request, and the
value is not one that switches the powerline frequency control off. -/
def setAccepted (answers : UvcRequest → Bool) (r : UvcCameraReader)
    (command : ColorControlCommand) (value : Int32) : Bool :=
  r.initialized && (setRequests command).all answers &&
    !(command == .powerlineFrequency && value == 0)

/-- The value comes back unchanged precisely if it fits. -/
theorem readBack_eq_iff {command : ColorControlCommand}
    (hrange : (registerRange command).isSome = true) (value : Int32) :
    readBack command value = value ↔ FitsRegister command value := by
  have hfits : ∀ {lo hi : Int}, registerRange command = some (lo, hi) →
      ((lo ≤ value.toInt ∧ value.toInt < hi) ↔ FitsRegister command value) := by
    intro lo hi h
    refine ⟨fun hv lo' hi' h' => ?_, fun hv => hv lo hi h⟩
    obtain ⟨rfl, rfl⟩ := Prod.mk.inj (Option.some.inj (h.symm.trans h'))
    exact hv
  cases command with
  | brightness => exact (Conversions.through_int16 value).trans (hfits rfl)
  | powerlineFrequency => exact (Conversions.through_uint8 value).trans (hfits rfl)
  | contrast => exact (Conversions.through_uint16 value).trans (hfits rfl)
  | saturation => exact (Conversions.through_uint16 value).trans (hfits rfl)
  | sharpness => exact (Conversions.through_uint16 value).trans (hfits rfl)
  | whitebalance => exact (Conversions.through_uint16 value).trans (hfits rfl)
  | backlightCompensation => exact (Conversions.through_uint16 value).trans (hfits rfl)
  | gain => exact (Conversions.through_uint16 value).trans (hfits rfl)
  | exposureTimeAbsolute => cases hrange
  | autoExposurePriority => cases hrange
  | unknown n => cases hrange

/-! ## One call -/

section SetGet

variable {answers answers' : UvcRequest → Bool} {r : UvcCameraReader} {current : UvcCurrent}
  {command : ColorControlCommand} {value : Int32}

theorem setManual_manual (control : UvcControl) (current' : UvcCurrent) :
    setManual answers .manual control current current' =
      if answers (.setCur control) then (current', .succeeded) else (current, .failed) := by
  simp only [setManual, uvcSet]
  cases answers (.setCur control) with
  | true => rfl
  | false => rfl

/-- What a call in manual mode returns, and what is read after a call that is accepted. -/
def SetsRegister (answers answers' : UvcRequest → Bool) (r : UvcCameraReader)
    (current : UvcCurrent) (command : ColorControlCommand) (value : Int32) : Prop :=
  let set := setCameraControl answers r current command .manual value
  set.2.2 = (if setAccepted answers r command value then .succeeded else .failed) ∧
    (setAccepted answers r command value = true →
      getCameraControl answers' set.1 set.2.1 command = some (.manual, readBack command value))

/-- A control that is one register. -/
theorem setsRegister_manual (control : UvcControl) (current' : UvcCurrent)
    (hset : setCameraControl answers r current command .manual value =
      (r, setManual answers .manual control current current'))
    (haccepted : setAccepted answers r command value = answers (.setCur control))
    (hget : getCameraControl answers' r current' command =
      some (.manual, readBack command value)) :
    SetsRegister answers answers' r current command value := by
  rw [SetsRegister, hset, setManual_manual, haccepted]
  cases answers (.setCur control) with
  | true => exact ⟨rfl, fun _ => hget⟩
  | false => exact ⟨rfl, nofun⟩

/-- The white balance: the automatic mode is switched off first, and is read first. -/
theorem setsRegister_whitebalance (hi : r.initialized = true)
    (hreads : ∀ control, answers' (.getCur control) = true) :
    SetsRegister answers answers' r current .whitebalance value := by
  simp only [SetsRegister, setAccepted, setRequests, setCameraControl, hi, Bool.true_eq_false,
    if_false, setAuto, uvcSet]
  cases ha : answers (.setCur .whiteBalanceTemperatureAuto) with
  | false => simp [ha]
  | true =>
      cases hb : answers (.setCur .whiteBalanceTemperature) with
      | false => simp [hb]
      | true => simp [ha, hb, getCameraControl, hi, uvcGet, hreads, readBack, wbModeOf]

/-- Setting the powerline frequency. -/
theorem setCameraControl_powerline (answers : UvcRequest → Bool) (r : UvcCameraReader)
    (current : UvcCurrent) (value : Int32) :
    setCameraControl answers r current .powerlineFrequency .manual value =
      if setAccepted answers r .powerlineFrequency value then
        ({ r with using60hzPower := value == 2 },
          { current with powerLineFrequency := value.toInt8.toUInt8 }, .succeeded)
      else (r, current, .failed) := by
  by_cases hi : r.initialized = true
  · by_cases hv : value = 0
    · simp [setCameraControl, setPowerlineFrequency, setAccepted, hi, hv]
    · cases ha : answers (.setCur .powerLineFrequency) with
      | false =>
          simp [setCameraControl, setPowerlineFrequency, uvcSet, setAccepted, setRequests, ha]
      | true =>
          simp [setCameraControl, setPowerlineFrequency, uvcSet, setAccepted, setRequests, hi, hv,
            ha]
  · simp [setCameraControl, setAccepted, hi]

theorem setsRegister_powerline (hreads : ∀ control, answers' (.getCur control) = true) :
    SetsRegister answers answers' r current .powerlineFrequency value := by
  rw [SetsRegister, setCameraControl_powerline]
  cases haccepted : setAccepted answers r .powerlineFrequency value with
  | false => exact ⟨rfl, nofun⟩
  | true =>
      have hi : r.initialized = true := by
        simp only [setAccepted, Bool.and_eq_true] at haccepted
        exact haccepted.1.1
      exact ⟨rfl, fun _ => by simp [getCameraControl, hi, uvcGet, hreads, readBack]⟩

theorem setsRegister (hreads : ∀ control, answers' (.getCur control) = true)
    (hrange : (registerRange command).isSome = true) :
    SetsRegister answers answers' r current command value := by
  cases hi : r.initialized with
  | false => simp [SetsRegister, setCameraControl, setAccepted, hi]
  | true =>
      have hset : ∀ c, setAccepted answers r c value = ((setRequests c).all answers &&
          !(c == .powerlineFrequency && value == 0)) := by
        intro c
        rw [setAccepted, hi, Bool.true_and]
      cases command with
      | brightness =>
          exact setsRegister_manual .brightness { current with brightness := value.toInt16 }
            (by simp [setCameraControl, hi]) (by simp [hset, setRequests])
            (by simp [getCameraControl, hi, uvcGet, hreads, readBack])
      | contrast =>
          exact setsRegister_manual .contrast { current with contrast := value.toInt16.toUInt16 }
            (by simp [setCameraControl, hi]) (by simp [hset, setRequests])
            (by simp [getCameraControl, hi, uvcGet, hreads, readBack])
      | saturation =>
          exact setsRegister_manual .saturation
            { current with saturation := value.toInt16.toUInt16 }
            (by simp [setCameraControl, hi]) (by simp [hset, setRequests])
            (by simp [getCameraControl, hi, uvcGet, hreads, readBack])
      | sharpness =>
          exact setsRegister_manual .sharpness { current with sharpness := value.toInt16.toUInt16 }
            (by simp [setCameraControl, hi]) (by simp [hset, setRequests])
            (by simp [getCameraControl, hi, uvcGet, hreads, readBack])
      | backlightCompensation =>
          exact setsRegister_manual .backlightCompensation
            { current with backlightCompensation := value.toInt16.toUInt16 }
            (by simp [setCameraControl, hi]) (by simp [hset, setRequests])
            (by simp [getCameraControl, hi, uvcGet, hreads, readBack])
      | gain =>
          exact setsRegister_manual .gain { current with gain := value.toInt16.toUInt16 }
            (by simp [setCameraControl, hi]) (by simp [hset, setRequests])
            (by simp [getCameraControl, hi, uvcGet, hreads, readBack])
      | whitebalance => exact setsRegister_whitebalance hi hreads
      | powerlineFrequency => exact setsRegister_powerline hreads
      | exposureTimeAbsolute => cases hrange
      | autoExposurePriority => cases hrange
      | unknown n => cases hrange

end SetGet

/-- If the control can be set to the value, the value is read back, in manual mode. -/
def ColorContext.RoundTrips (color : ColorContext) (answers : UvcRequest → Bool)
    (current : UvcCurrent) (command : ColorControlCommand) (value : Int32) : Prop :=
  ∀ color' current', color.colorSetControl answers current command .manual value =
      (color', current', .succeeded) →
    ∀ answers' : UvcRequest → Bool, (∀ control, answers' (.getCur control) = true) →
      color'.colorGetControl answers' current' command = some (.manual, value)

theorem ColorContext.roundTrips_iff (color : ColorContext) (answers : UvcRequest → Bool)
    (current : UvcCurrent) {command : ColorControlCommand}
    (hrange : (registerRange command).isSome = true) (value : Int32) :
    color.RoundTrips answers current command value ↔
      setAccepted answers color.cameraReader command value = false ∨
        FitsRegister command value := by
  have hknown : command.known = true := by
    cases command with
    | unknown n => cases hrange
    | _ => rfl
  have hset : color.colorSetControl answers current command .manual value =
      ({ color with cameraReader :=
        (setCameraControl answers color.cameraReader current command .manual value).1 },
        (setCameraControl answers color.cameraReader current command .manual value).2) := by
    simp [colorSetControl, hknown]
  have hget : ∀ (c : ColorContext) answers' current', c.colorGetControl answers' current' command =
      getCameraControl answers' c.cameraReader current' command := by
    intro c answers' current'
    simp [colorGetControl, hknown]
  have hread : ∀ answers' : UvcRequest → Bool, (∀ control, answers' (.getCur control) = true) →
      SetsRegister answers answers' color.cameraReader current command value :=
    fun _ hreads => setsRegister hreads hrange
  rw [← readBack_eq_iff hrange]
  constructor
  · intro h
    cases haccepted : setAccepted answers color.cameraReader command value with
    | false => exact Or.inl rfl
    | true =>
        obtain ⟨hresult, hback⟩ := hread (fun _ => true) fun _ => rfl
        rw [haccepted, if_pos rfl] at hresult
        have heq := h _ _ (hset.trans (Prod.ext rfl (Prod.ext rfl hresult))) (fun _ => true)
          fun _ => rfl
        rw [hget, hback haccepted] at heq
        exact Or.inr (Prod.mk.inj (Option.some.inj heq)).2
  · intro h color' current' hset' answers' hreads
    obtain ⟨hresult, hback⟩ := hread answers' hreads
    rw [hset] at hset'
    obtain ⟨rfl, hrest⟩ := Prod.mk.inj hset'
    rw [hrest] at hresult hback
    cases haccepted : setAccepted answers color.cameraReader command value with
    | false =>
        rw [haccepted, if_neg Bool.false_ne_true] at hresult
        cases hresult
    | true =>
        rcases h with hrefused | hfits
        · exact absurd (hrefused.symm.trans haccepted) Bool.false_ne_true
        · rw [hget, hback haccepted, hfits]

/-! ## The powerline frequency -/

section Keeps

variable {α : Type} {answers : UvcRequest → Bool} {mode : ColorControlMode}
  {control autoControl : UvcControl} {current current' currentManual currentValue : UvcCurrent}
  (f : UvcCurrent → α)

theorem setManual_keeps (h : f current' = f current) :
    f (setManual answers mode control current current').1 = f current := by
  cases mode with
  | manual =>
      rw [setManual_manual]
      split
      · exact h
      · rfl
  | auto => rfl
  | unknown n => rfl

theorem setAuto_keeps (hmanual : f currentManual = f current) (hvalue : f currentValue = f current)
    (hauto : f current' = f current) :
    f (setAuto answers mode autoControl control current currentManual currentValue current').1 =
      f current := by
  simp only [setAuto, uvcSet]
  cases answers (.setCur autoControl) with
  | false =>
      cases mode with
      | manual | auto | unknown n => rfl
  | true =>
      cases mode with
      | manual =>
          cases answers (.setCur control) with
          | false => exact hmanual
          | true => exact hvalue
      | auto => exact hauto
      | unknown n => rfl

end Keeps

/-- Other controls have other registers. -/
theorem powerLineFrequency_setCameraControl (answers : UvcRequest → Bool) (r : UvcCameraReader)
    (current : UvcCurrent) {command : ColorControlCommand} {mode : ColorControlMode}
    (hne : ¬ (command = .powerlineFrequency ∧ mode = .manual)) (value : Int32) :
    (setCameraControl answers r current command mode value).2.1.powerLineFrequency =
      current.powerLineFrequency := by
  simp only [setCameraControl]
  split
  · rfl
  · cases command with
    | powerlineFrequency =>
        cases mode with
        | manual => exact absurd ⟨rfl, rfl⟩ hne
        | auto => rfl
        | unknown n => rfl
    | exposureTimeAbsolute => exact setAuto_keeps UvcCurrent.powerLineFrequency rfl rfl rfl
    | whitebalance => exact setAuto_keeps UvcCurrent.powerLineFrequency rfl rfl rfl
    | brightness => exact setManual_keeps UvcCurrent.powerLineFrequency rfl
    | contrast => exact setManual_keeps UvcCurrent.powerLineFrequency rfl
    | saturation => exact setManual_keeps UvcCurrent.powerLineFrequency rfl
    | sharpness => exact setManual_keeps UvcCurrent.powerLineFrequency rfl
    | backlightCompensation => exact setManual_keeps UvcCurrent.powerLineFrequency rfl
    | gain => exact setManual_keeps UvcCurrent.powerLineFrequency rfl
    | autoExposurePriority | unknown n => rfl

namespace ColorContext

variable (color : ColorContext) (answers : UvcRequest → Bool) (current : UvcCurrent)
  (command : ColorControlCommand) (mode : ColorControlMode) (value : Int32)

/-- A call that sets the powerline frequency. -/
theorem colorSetControl_powerline :
    color.colorSetControl answers current .powerlineFrequency .manual value =
      if setAccepted answers color.cameraReader .powerlineFrequency value then
        ({ color with cameraReader := { color.cameraReader with using60hzPower := value == 2 } },
          { current with powerLineFrequency := value.toInt8.toUInt8 }, .succeeded)
      else (color, current, .failed) := by
  have hset : color.colorSetControl answers current .powerlineFrequency .manual value =
      ({ color with cameraReader :=
        (setCameraControl answers color.cameraReader current .powerlineFrequency .manual value).1 },
        (setCameraControl answers color.cameraReader current .powerlineFrequency .manual
          value).2) := rfl
  rw [hset, setCameraControl_powerline]
  split <;> rfl

/-- Any other call leaves the register alone. -/
theorem powerLineFrequency_colorSetControl
    (hne : ¬ (command = .powerlineFrequency ∧ mode = .manual)) :
    (color.colorSetControl answers current command mode value).2.1.powerLineFrequency =
      current.powerLineFrequency := by
  simp only [colorSetControl]
  split
  · rfl
  · split
    · rfl
    · exact powerLineFrequency_setCameraControl answers color.cameraReader current hne value

/-- The powerline frequency can be set in manual mode only. -/
theorem colorSetControl_powerline_of_ne (hmode : mode ≠ .manual) :
    (color.colorSetControl answers current .powerlineFrequency mode value).2.2 = .failed := by
  cases mode with
  | manual => exact absurd rfl hmode
  | auto =>
      show (setCameraControl answers color.cameraReader current .powerlineFrequency .auto
        value).2.2 = .failed
      rw [setCameraControl]
      split
      · rfl
      · rfl
  | unknown n => rfl

end ColorContext

/-! ## Runs of control calls -/

/-- A run of control calls, and whether the powerline frequency has been written in it. -/
structure PowerlineRun extends ControlRun where
  written : Bool

namespace PowerlineRun

/-- A call that writes the powerline frequency register. -/
def writesPowerline (s : PowerlineRun) : ControlCall → Bool
  | .setControl .powerlineFrequency mode value answers =>
      (s.color.colorSetControl answers s.current .powerlineFrequency mode value).2.2 = .succeeded
  | _ => false

/-- One call.  The camera keeps what is written to its registers: it does not change them by
itself. -/
def step (ranges : UvcRanges) (s : PowerlineRun) (call : ControlCall) : Option PowerlineRun :=
  match call with
  | .cameraChanges _ => none
  | call =>
      (s.toControlRun.step ranges call).map fun run => ⟨run, s.written || s.writesPowerline call⟩

/-- Once the powerline frequency has been written, the flag of the reader says whether the
register holds 2. -/
def Tracked (s : PowerlineRun) : Prop :=
  s.written = true →
    (s.color.cameraReader.using60hzPower = true ↔ s.current.powerLineFrequency = 2)

/-- If the call writes the powerline frequency, it does not write 2 by conversion only. -/
def WritesExactly (s : PowerlineRun) : ControlCall → Prop
  | .setControl .powerlineFrequency .manual value answers =>
      setAccepted answers s.color.cameraReader .powerlineFrequency value = true →
        value.toInt % 2 ^ 8 = 2 → value.toInt = 2
  | _ => True

variable {ranges : UvcRanges} {s : PowerlineRun}

/-- The camera gets 2 and the reader is told so, or neither, precisely if 2 is not the result of
the conversion of another value. -/
theorem low_byte_iff (value : Int32) :
    ((value == 2) = true ↔ value.toInt8.toUInt8 = 2) ↔
      (value.toInt % 2 ^ 8 = 2 → value.toInt = 2) := by
  have hbyte := Conversions.toNat_uint8 value
  have hvalue : (value == 2) = true ↔ value.toInt = 2 := by
    rw [beq_iff_eq, ← Int32.toInt_inj]
    rfl
  have hregister : value.toInt8.toUInt8 = 2 ↔ value.toInt % 2 ^ 8 = 2 := by
    rw [← UInt8.toNat_inj, ← hbyte]
    exact Int.ofNat_inj.symm
  rw [hvalue, hregister]
  constructor
  · exact fun h => h.mpr
  · intro h
    refine ⟨fun h2 => ?_, h⟩
    rw [h2]
    rfl

/-- A call that changes neither the reader nor the register. -/
theorem Tracked.of_eq (h : s.Tracked) {s' : PowerlineRun}
    (hreader : s'.color.cameraReader = s.color.cameraReader)
    (hregister : s'.current.powerLineFrequency = s.current.powerLineFrequency)
    (hwritten : s'.written = s.written) : s'.Tracked := by
  rw [Tracked, hreader, hregister, hwritten]
  exact h

theorem Tracked.setPowerline_iff (h : s.Tracked) {value : Int32} {answers : UvcRequest → Bool}
    {s' : PowerlineRun}
    (hs' : s.step ranges (.setControl .powerlineFrequency .manual value answers) = some s') :
    s'.Tracked ↔ s.WritesExactly (.setControl .powerlineFrequency .manual value answers) := by
  have hset := s.color.colorSetControl_powerline answers s.current value
  simp only [step, ControlRun.step, writesPowerline, Option.map_some, Option.some.injEq] at hs'
  rw [hset] at hs'
  rw [WritesExactly]
  cases haccepted : setAccepted answers s.color.cameraReader .powerlineFrequency value with
  | false =>
      rw [haccepted, if_neg Bool.false_ne_true] at hs'
      refine iff_of_true (h.of_eq ?_ ?_ ?_) fun haccept => absurd haccept Bool.false_ne_true
      · rw [← hs']
      · rw [← hs']
      · rw [← hs']
        exact Bool.or_false _
  | true =>
      rw [haccepted, if_pos rfl] at hs'
      rw [← hs', ← low_byte_iff]
      refine ⟨fun ht _ => ht (Bool.or_true _), fun ht _ => ht rfl⟩

/-- One call keeps the flag in step with the register precisely under the condition. -/
theorem Tracked.step_iff (h : s.Tracked) (call : ControlCall) :
    (∀ s', s.step ranges call = some s' → s'.Tracked) ↔ s.WritesExactly call := by
  have hsome : ∀ s', s.step ranges call = some s' →
      ((∀ v, s.step ranges call = some v → v.Tracked) ↔ s'.Tracked) := by
    intro s' hs'
    refine ⟨fun hv => hv s' hs', fun hv v hv' => ?_⟩
    rw [hs'] at hv'
    exact Option.some.inj hv' ▸ hv
  cases call with
  | setControl command mode value answers =>
      obtain ⟨s', hs'⟩ : ∃ s', s.step ranges (.setControl command mode value answers) = some s' :=
        ⟨_, rfl⟩
      rw [hsome s' hs']
      by_cases hne : command = .powerlineFrequency ∧ mode = .manual
      · obtain ⟨rfl, rfl⟩ := hne
        exact h.setPowerline_iff hs'
      · have hexact : s.WritesExactly (.setControl command mode value answers) := by
          unfold WritesExactly
          split
          · next heq =>
            obtain ⟨rfl, rfl, -⟩ := ControlCall.setControl.inj heq
            exact absurd ⟨rfl, rfl⟩ hne
          · trivial
        have hwrites : s.writesPowerline (.setControl command mode value answers) = false := by
          unfold writesPowerline
          split
          · next heq =>
            obtain ⟨rfl, rfl, rfl, rfl⟩ := ControlCall.setControl.inj heq
            have hfailed := s.color.colorSetControl_powerline_of_ne answers s.current mode value
              fun hmode => hne ⟨rfl, hmode⟩
            rw [hfailed]
            rfl
          · rfl
        obtain rfl := Option.some.inj hs'
        refine iff_of_true (h.of_eq ?_ ?_ ?_) hexact
        · exact s.color.cameraReader_colorSetControl_of_ne answers s.current command mode value hne
        · exact s.color.powerLineFrequency_colorSetControl answers s.current command mode value hne
        · exact (congrArg (s.written || ·) hwrites).trans (Bool.or_false _)
  | getControl command answers =>
      rw [hsome _ rfl]
      exact iff_of_true (h.of_eq rfl rfl (Bool.or_false _)) trivial
  | getControlCapabilities command answers =>
      rw [hsome _ rfl]
      refine iff_of_true (h.of_eq ?_ rfl (Bool.or_false _)) trivial
      exact s.color.cameraReader_colorGetControlCapabilities answers ranges command
  | cameraChanges current =>
      have hnone : s.step ranges (.cameraChanges current) = none := rfl
      rw [hnone]
      exact iff_of_true (fun _ hs' => nomatch hs') trivial

end PowerlineRun

/-- A control is read back as it was set precisely if the call is refused or the register can
hold the value.  In a run of control calls the flag of the reader follows the powerline frequency
register, from the first write on, precisely if no call writes 2 by conversion of another value. -/
theorem control_round_trip_iff (color : ColorContext) (current : UvcCurrent)
    (answers : UvcRequest → Bool) {command : ColorControlCommand}
    (hcommand : command ∈ [.brightness, .contrast, .saturation, .sharpness, .whitebalance,
      .backlightCompensation, .gain, .powerlineFrequency]) (value : Int32)
    (ranges : UvcRanges) (calls : List ControlCall) :
    (color.RoundTrips answers current command value ↔
      setAccepted answers color.cameraReader command value = false ∨
        FitsRegister command value) ∧
    (Steps.Always (PowerlineRun.step ranges) PowerlineRun.Tracked ⟨⟨color, current⟩, false⟩
        calls ↔
      Steps.Along (PowerlineRun.step ranges) PowerlineRun.WritesExactly
        ⟨⟨color, current⟩, false⟩ calls) := by
  have hrange : (registerRange command).isSome = true := by
    simp only [List.mem_cons, List.not_mem_nil, or_false] at hcommand
    rcases hcommand with rfl | rfl | rfl | rfl | rfl | rfl | rfl | rfl <;> rfl
  have hunwritten : PowerlineRun.Tracked ⟨⟨color, current⟩, false⟩ :=
    fun hwritten => absurd hwritten Bool.false_ne_true
  refine ⟨color.roundTrips_iff answers current hrange value, ?_⟩
  exact Steps.always_iff_along (I := fun _ => True) (fun _ _ _ _ _ => trivial)
    (fun _ call _ h => h.step_iff call) calls trivial hunwritten

/-- A colour module with an initialised reader. -/
def openedColor : ColorContext :=
  ⟨0, fun _ => .zero, { UvcCameraReader.new with initialized := true }⟩

/-- A brightness that fits, and a run that sets the powerline frequency to 50 Hz and back. -/
theorem control_round_trip_brightness :
    openedColor.RoundTrips (fun _ => true) exampleCurrent .brightness (-64) ∧
      Steps.Always (PowerlineRun.step exampleRanges) PowerlineRun.Tracked
        ⟨⟨openedColor, exampleCurrent⟩, false⟩
        [.setControl .powerlineFrequency .manual 1 fun _ => true,
          .setControl .powerlineFrequency .manual 2 fun _ => true] := by
  have hcommand : ColorControlCommand.brightness ∈ [.brightness, .contrast, .saturation,
      .sharpness, .whitebalance, .backlightCompensation, .gain, .powerlineFrequency] :=
    List.mem_cons_self
  obtain ⟨hround, htracked⟩ := control_round_trip_iff openedColor exampleCurrent (fun _ => true)
    hcommand (-64) exampleRanges
    [.setControl .powerlineFrequency .manual 1 fun _ => true,
      .setControl .powerlineFrequency .manual 2 fun _ => true]
  refine ⟨hround.mpr (Or.inr ?_), htracked.mpr ?_⟩
  · rintro lo hi hrange
    obtain ⟨rfl, rfl⟩ := Prod.mk.inj (Option.some.inj hrange)
    decide
  · exact .cons rfl (fun _ h => absurd h (by decide)) (.cons rfl (fun _ _ => rfl) trivial)

/-- The contrast is set to 70000 and read back as 4464.  The powerline frequency is set to 258:
the camera gets 2, 60 Hz, and the reader goes on with 50 Hz. -/
theorem contrast_changed_by_register :
    (∃ color current, openedColor.colorSetControl (fun _ => true) exampleCurrent .contrast .manual
        70000 = (color, current, .succeeded) ∧
      color.colorGetControl (fun _ => true) current .contrast = some (.manual, 4464)) ∧
    ¬ openedColor.RoundTrips (fun _ => true) exampleCurrent .contrast 70000 ∧
    ∃ s, PowerlineRun.step exampleRanges ⟨⟨openedColor, exampleCurrent⟩, false⟩
        (.setControl .powerlineFrequency .manual 258 fun _ => true) = some s ∧
      s.written = true ∧ s.current.powerLineFrequency = 2 ∧
      s.color.cameraReader.using60hzPower = false ∧ ¬ s.Tracked := by
  refine ⟨⟨_, _, rfl, by decide⟩, ?_, _, rfl, rfl, rfl, rfl, ?_⟩
  · intro h
    have heq := h _ _ rfl (fun _ => true) fun _ => rfl
    exact absurd heq (by decide)
  · intro h
    exact absurd ((h rfl).mpr rfl) (by decide)

end ZsaSdk
