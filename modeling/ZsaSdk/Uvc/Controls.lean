import Mathlib.Logic.Function.Basic
import ZsaSdk.Color.Capabilities
import ZsaSdk.Uvc.Negotiation

/-!
# Controls on the wire

The functions of libuvc's `ctrl-gen.c` that the reader uses.  Each of them is a control transfer to
the camera terminal or to the processing unit, and they differ in the selector and in the type of
the value: a `UvcRegister` has both, with the bytes of a value and the field of `UvcCurrent` that
stands for the control.

The reader is modelled over registers: a request fails, or moves the register
(`uvcGet`, `uvcSet`).  Here the registers are bytes in the camera, which are found by the number of
the terminal or unit and the selector.  If the camera stores them (`StoresControls`) and the two
numbers differ, the transfers do to the bytes what the reader's model does to the registers, over
every run of calls (`calls_keep_registers`).

*Request codes.*  A getter is called with the request that it makes.  With `UVC_GET_CUR` it reads
the register, with `UVC_GET_MIN`, `UVC_GET_MAX`, `UVC_GET_RES` and `UVC_GET_DEF` those that are
fixed (`UvcRegister.register`).

*Short transfers.*  The functions return the length of a transfer that moves fewer bytes than the
value has, and the reader takes that for a success.  `StoresControls` excludes it.
-/

namespace ZsaSdk

variable {δ : Type}

/-! ## Terminals and units -/

/-- `UVC_ITT_CAMERA` -/
def uvcIttCamera : UInt16 := 0x0201

/-- `uvc_input_terminal_t`, as far as it addresses a control. -/
structure UvcInputTerminal where
  bTerminalID : UInt8
  wTerminalType : UInt16
deriving DecidableEq, Repr

/-- `uvc_processing_unit_t`, as far as it addresses a control. -/
structure UvcProcessingUnit where
  bUnitID : UInt8
deriving DecidableEq, Repr

/-- `uvc_control_interface_t`, as far as it addresses a control. -/
structure UvcControlInterface where
  bInterfaceNumber : UInt8
  inputTermDescs : List UvcInputTerminal
  processingUnitDescs : List UvcProcessingUnit
deriving DecidableEq, Repr

/-- `uvc_get_camera_terminal` -/
def UvcControlInterface.getCameraTerminal (ctrlIf : UvcControlInterface) :
    Option UvcInputTerminal :=
  ctrlIf.inputTermDescs.find? fun term => term.wTerminalType = uvcIttCamera

/-- `uvc_get_processing_units`, of which the first one is used. -/
def UvcControlInterface.getProcessingUnits (ctrlIf : UvcControlInterface) :
    Option UvcProcessingUnit :=
  ctrlIf.processingUnitDescs.head?

/-- The control is one of the camera terminal. -/
def UvcControl.OfTerminal : UvcControl → Bool
  | .aeMode | .exposureAbs => true
  | _ => false

/-- `enum uvc_ct_ctrl_selector` and `enum uvc_pu_ctrl_selector` -/
def UvcControl.selector : UvcControl → UInt8
  | .aeMode => 0x02
  | .exposureAbs => 0x04
  | .backlightCompensation => 0x01
  | .brightness => 0x02
  | .contrast => 0x03
  | .gain => 0x04
  | .powerLineFrequency => 0x05
  | .saturation => 0x07
  | .sharpness => 0x08
  | .whiteBalanceTemperature => 0x0a
  | .whiteBalanceTemperatureAuto => 0x0b

/-- The number of the terminal or unit of a control.  `none` is a null pointer. -/
def UvcControlInterface.entity (ctrlIf : UvcControlInterface) (control : UvcControl) :
    Option UInt8 :=
  if control.OfTerminal then ctrlIf.getCameraTerminal.map (·.bTerminalID)
  else ctrlIf.getProcessingUnits.map (·.bUnitID)

/-! ## Values -/

/-- The bytes of the registers. -/
def UvcCurrent.bytes (current : UvcCurrent) : UvcControl → List UInt8
  | .aeMode => [current.aeMode]
  | .exposureAbs => intToDw current.exposureAbs
  | .brightness => shortToSw current.brightness.toUInt16
  | .contrast => shortToSw current.contrast
  | .saturation => shortToSw current.saturation
  | .sharpness => shortToSw current.sharpness
  | .whiteBalanceTemperatureAuto => [current.whiteBalanceTemperatureAuto]
  | .whiteBalanceTemperature => shortToSw current.whiteBalanceTemperature
  | .backlightCompensation => shortToSw current.backlightCompensation
  | .gain => shortToSw current.gain
  | .powerLineFrequency => [current.powerLineFrequency]

/-- `UVC_GET_MIN` -/
def uvcGetMin : UInt8 := 0x82

/-- `UVC_GET_RES` -/
def uvcGetRes : UInt8 := 0x84

/-- `UVC_GET_DEF` -/
def uvcGetDef : UInt8 := 0x87

/-- The fixed register that a request reads, if the request is for one of the four. -/
def UvcRange.fixed {α : Type} (range : UvcRange α) (request : UInt8) : Option α :=
  if request = uvcGetMin then some range.min
  else if request = uvcGetMax then some range.max
  else if request = uvcGetRes then some range.res
  else if request = uvcGetDef then some range.defaultValue
  else none

/-- The same for a control of which only the default is looked at. -/
def fixedDefault {α : Type} (defaultValue : α) (request : UInt8) : Option α :=
  if request = uvcGetDef then some defaultValue else none

/-- The bytes of the fixed registers. -/
def UvcRanges.bytes (ranges : UvcRanges) (request : UInt8) : UvcControl → Option (List UInt8)
  | .aeMode => (fixedDefault ranges.aeModeDefault request).map fun x => [x]
  | .exposureAbs => (ranges.exposureAbs.fixed request).map intToDw
  | .brightness => (ranges.brightness.fixed request).map fun x => shortToSw x.toUInt16
  | .contrast => (ranges.contrast.fixed request).map shortToSw
  | .saturation => (ranges.saturation.fixed request).map shortToSw
  | .sharpness => (ranges.sharpness.fixed request).map shortToSw
  | .whiteBalanceTemperatureAuto =>
      (fixedDefault ranges.whiteBalanceTemperatureAutoDefault request).map fun x => [x]
  | .whiteBalanceTemperature => (ranges.whiteBalanceTemperature.fixed request).map shortToSw
  | .backlightCompensation => (ranges.backlightCompensation.fixed request).map shortToSw
  | .gain => (ranges.gain.fixed request).map shortToSw
  | .powerLineFrequency => (ranges.powerLineFrequency.fixed request).map fun x => [x]

/-- A control with the type of its values. -/
structure UvcRegister (α : Type) where
  control : UvcControl
  /-- `sizeof(data)` -/
  size : Nat
  encode : α → List UInt8
  decode : (Nat → UInt8) → α
  read : UvcCurrent → α
  write : α → UvcCurrent → UvcCurrent
  fixed : UvcRanges → UInt8 → Option α
  length_encode : ∀ x, (encode x).length = size
  decode_encode : ∀ x, decode (Bytes.memory (encode x)) = x
  bytes_read : ∀ current : UvcCurrent, current.bytes control = encode (read current)
  bytes_write : ∀ x (current : UvcCurrent),
    (write x current).bytes = Function.update current.bytes control (encode x)
  bytes_fixed : ∀ (ranges : UvcRanges) request,
    ranges.bytes request control = (fixed ranges request).map encode

namespace UvcRegister

/-- A control of one byte. -/
def byte (control : UvcControl) (read : UvcCurrent → UInt8)
    (write : UInt8 → UvcCurrent → UvcCurrent) (fixed : UvcRanges → UInt8 → Option UInt8)
    (bytes_read : ∀ current : UvcCurrent, current.bytes control = [read current])
    (bytes_write : ∀ x (current : UvcCurrent),
      (write x current).bytes = Function.update current.bytes control [x])
    (bytes_fixed : ∀ (ranges : UvcRanges) request,
      ranges.bytes request control = (fixed ranges request).map fun x => [x]) :
    UvcRegister UInt8 where
  control := control
  size := 1
  encode x := [x]
  decode data := data 0
  read := read
  write := write
  fixed := fixed
  length_encode _ := rfl
  decode_encode _ := rfl
  bytes_read := bytes_read
  bytes_write := bytes_write
  bytes_fixed := bytes_fixed

/-- A control of two bytes. -/
def short (control : UvcControl) (read : UvcCurrent → UInt16)
    (write : UInt16 → UvcCurrent → UvcCurrent) (fixed : UvcRanges → UInt8 → Option UInt16)
    (bytes_read : ∀ current : UvcCurrent, current.bytes control = shortToSw (read current))
    (bytes_write : ∀ x (current : UvcCurrent),
      (write x current).bytes = Function.update current.bytes control (shortToSw x))
    (bytes_fixed : ∀ (ranges : UvcRanges) request,
      ranges.bytes request control = (fixed ranges request).map shortToSw) :
    UvcRegister UInt16 where
  control := control
  size := 2
  encode := shortToSw
  decode data := swToShort data 0
  read := read
  write := write
  fixed := fixed
  length_encode := length_shortToSw
  decode_encode x := swToShort_of_holds (Bytes.holds_memory (shortToSw x))
  bytes_read := bytes_read
  bytes_write := bytes_write
  bytes_fixed := bytes_fixed

/-- `uvc_get_ae_mode`, `uvc_set_ae_mode` -/
def aeMode : UvcRegister UInt8 :=
  byte .aeMode UvcCurrent.aeMode (fun x current => { current with aeMode := x })
    (fun ranges => fixedDefault ranges.aeModeDefault) (fun _ => rfl)
    (fun _ _ => funext fun c => by cases c <;> rfl) (fun _ _ => rfl)

/-- `uvc_get_exposure_abs`, `uvc_set_exposure_abs` -/
def exposureAbs : UvcRegister UInt32 where
  control := .exposureAbs
  size := 4
  encode := intToDw
  decode data := dwToInt data 0
  read := UvcCurrent.exposureAbs
  write x current := { current with exposureAbs := x }
  fixed ranges := ranges.exposureAbs.fixed
  length_encode := length_intToDw
  decode_encode x := dwToInt_of_holds (Bytes.holds_memory (intToDw x))
  bytes_read _ := rfl
  bytes_write _ _ := funext fun c => by cases c <;> rfl
  bytes_fixed _ _ := rfl

/-- `uvc_get_brightness`, `uvc_set_brightness`: the value has a sign. -/
def brightness : UvcRegister Int16 where
  control := .brightness
  size := 2
  encode x := shortToSw x.toUInt16
  decode data := (swToShort data 0).toInt16
  read := UvcCurrent.brightness
  write x current := { current with brightness := x }
  fixed ranges := ranges.brightness.fixed
  length_encode _ := length_shortToSw _
  decode_encode x := by
    rw [swToShort_of_holds (Bytes.holds_memory (shortToSw x.toUInt16)), Int16.toInt16_toUInt16]
  bytes_read _ := rfl
  bytes_write _ _ := funext fun c => by cases c <;> rfl
  bytes_fixed _ _ := rfl

/-- `uvc_get_contrast`, `uvc_set_contrast` -/
def contrast : UvcRegister UInt16 :=
  short .contrast UvcCurrent.contrast (fun x current => { current with contrast := x })
    (fun ranges => ranges.contrast.fixed) (fun _ => rfl)
    (fun _ _ => funext fun c => by cases c <;> rfl) (fun _ _ => rfl)

/-- `uvc_get_saturation`, `uvc_set_saturation` -/
def saturation : UvcRegister UInt16 :=
  short .saturation UvcCurrent.saturation (fun x current => { current with saturation := x })
    (fun ranges => ranges.saturation.fixed) (fun _ => rfl)
    (fun _ _ => funext fun c => by cases c <;> rfl) (fun _ _ => rfl)

/-- `uvc_get_sharpness`, `uvc_set_sharpness` -/
def sharpness : UvcRegister UInt16 :=
  short .sharpness UvcCurrent.sharpness (fun x current => { current with sharpness := x })
    (fun ranges => ranges.sharpness.fixed) (fun _ => rfl)
    (fun _ _ => funext fun c => by cases c <;> rfl) (fun _ _ => rfl)

/-- `uvc_get_white_balance_temperature_auto`, `uvc_set_white_balance_temperature_auto` -/
def whiteBalanceTemperatureAuto : UvcRegister UInt8 :=
  byte .whiteBalanceTemperatureAuto UvcCurrent.whiteBalanceTemperatureAuto
    (fun x current => { current with whiteBalanceTemperatureAuto := x })
    (fun ranges => fixedDefault ranges.whiteBalanceTemperatureAutoDefault) (fun _ => rfl)
    (fun _ _ => funext fun c => by cases c <;> rfl) (fun _ _ => rfl)

/-- `uvc_get_white_balance_temperature`, `uvc_set_white_balance_temperature` -/
def whiteBalanceTemperature : UvcRegister UInt16 :=
  short .whiteBalanceTemperature UvcCurrent.whiteBalanceTemperature
    (fun x current => { current with whiteBalanceTemperature := x })
    (fun ranges => ranges.whiteBalanceTemperature.fixed)
    (fun _ => rfl) (fun _ _ => funext fun c => by cases c <;> rfl) (fun _ _ => rfl)

/-- `uvc_get_backlight_compensation`, `uvc_set_backlight_compensation` -/
def backlightCompensation : UvcRegister UInt16 :=
  short .backlightCompensation UvcCurrent.backlightCompensation
    (fun x current => { current with backlightCompensation := x })
    (fun ranges => ranges.backlightCompensation.fixed)
    (fun _ => rfl) (fun _ _ => funext fun c => by cases c <;> rfl) (fun _ _ => rfl)

/-- `uvc_get_gain`, `uvc_set_gain` -/
def gain : UvcRegister UInt16 :=
  short .gain UvcCurrent.gain (fun x current => { current with gain := x })
    (fun ranges => ranges.gain.fixed) (fun _ => rfl)
    (fun _ _ => funext fun c => by cases c <;> rfl) (fun _ _ => rfl)

/-- `uvc_get_power_line_frequency`, `uvc_set_power_line_frequency` -/
def powerLineFrequency : UvcRegister UInt8 :=
  byte .powerLineFrequency UvcCurrent.powerLineFrequency
    (fun x current => { current with powerLineFrequency := x })
    (fun ranges => ranges.powerLineFrequency.fixed)
    (fun _ => rfl) (fun _ _ => funext fun c => by cases c <;> rfl) (fun _ _ => rfl)

/-- The register that a request reads, if it is one that the reader makes. -/
def register {α : Type} (r : UvcRegister α) (ranges : UvcRanges) (current : UvcCurrent)
    (request : UInt8) : Option α :=
  if request = uvcGetCur then some (r.read current) else r.fixed ranges request

end UvcRegister

/-! ## Transfers -/

/-- The transfer of a getter. -/
def controlGet (bInterfaceNumber entity selector request : UInt8) (size : Nat) :
    ControlTransfer where
  requestType := 0xa1
  request := request
  value := selector.toUInt16 <<< 8
  index := entity.toUInt16 <<< 8 ||| bInterfaceNumber.toUInt16
  data := []
  length := size

/-- The transfer of a setter. -/
def controlSet (bInterfaceNumber entity selector : UInt8) (data : List UInt8) :
    ControlTransfer where
  requestType := 0x21
  request := uvcSetCur
  value := selector.toUInt16 <<< 8
  index := entity.toUInt16 <<< 8 ||| bInterfaceNumber.toUInt16
  data := data
  length := data.length

section Calls

variable {α : Type} (usb : LibusbHandle δ) (ctrlIf : UvcControlInterface)

/-- A getter: what it returns, and the value if all of it has been received.  `none` is a null
pointer. -/
def UvcRegister.get (r : UvcRegister α) (request : UInt8) (device : δ) :
    Option (Int × Option α × δ) :=
  (ctrlIf.entity r.control).map fun entity =>
    match usb.controlTransfer device
        (controlGet ctrlIf.bInterfaceNumber entity r.control.selector request r.size) with
    | (ret, received, device) =>
        if ret = r.size then (uvcSuccess, some (r.decode (Bytes.memory received)), device)
        else (ret, none, device)

/-- A setter. -/
def UvcRegister.set (r : UvcRegister α) (x : α) (device : δ) : Option (Int × δ) :=
  (ctrlIf.entity r.control).map fun entity =>
    match usb.controlTransfer device
        (controlSet ctrlIf.bInterfaceNumber entity r.control.selector (r.encode x)) with
    | (ret, _, device) => if ret = r.size then (uvcSuccess, device) else (ret, device)

end Calls

/-! ## The camera -/

/-- What a camera answers to a request for a control. -/
def answerOf (cur : UInt8 → UInt8 → List UInt8) (fixed : UInt8 → UInt8 → UInt8 → List UInt8)
    (request entity selector : UInt8) : List UInt8 :=
  if request = uvcGetCur then cur entity selector else fixed request entity selector

/-- A camera that stores the bytes of its controls.  A setter fails or replaces them.  A getter
leaves them as they are, and fails or receives the answer, if it asks for as many bytes. -/
structure StoresControls (usb : LibusbHandle δ) (bInterfaceNumber : UInt8)
    (cur : δ → UInt8 → UInt8 → List UInt8) (fixed : UInt8 → UInt8 → UInt8 → List UInt8) :
    Prop where
  get : ∀ device request entity selector size, ∃ ret received device',
    usb.controlTransfer device (controlGet bInterfaceNumber entity selector request size) =
      (ret, received, device') ∧ cur device' = cur device ∧
    ((answerOf (cur device) fixed request entity selector).length = size →
      ret < 0 ∨ ret = size ∧ received = answerOf (cur device) fixed request entity selector)
  set : ∀ device entity selector data, data.length = (cur device entity selector).length →
    ∃ ret received device', usb.controlTransfer device
      (controlSet bInterfaceNumber entity selector data) = (ret, received, device') ∧
      (ret < 0 ∧ cur device' = cur device ∨
        ret = data.length ∧ cur device' =
          Function.update (cur device) entity (Function.update (cur device entity) selector data))

/-- The bytes in the camera are those of the registers. -/
def HoldsRegisters (ctrlIf : UvcControlInterface) (cur : UInt8 → UInt8 → List UInt8)
    (current : UvcCurrent) : Prop :=
  ∀ control, ∃ entity, ctrlIf.entity control = some entity ∧
    cur entity control.selector = current.bytes control

/-- The bytes that do not change are those of the fixed registers. -/
def HoldsRanges (ctrlIf : UvcControlInterface) (fixed : UInt8 → UInt8 → UInt8 → List UInt8)
    (ranges : UvcRanges) : Prop :=
  ∀ control request bytes, ranges.bytes request control = some bytes →
    ∀ entity, ctrlIf.entity control = some entity →
      fixed request entity control.selector = bytes

/-- The camera terminal and the processing unit have different numbers. -/
def UvcControlInterface.Distinct (ctrlIf : UvcControlInterface) : Prop :=
  ctrlIf.getCameraTerminal.map (·.bTerminalID) ≠ ctrlIf.getProcessingUnits.map (·.bUnitID)

instance (ctrlIf : UvcControlInterface) : Decidable ctrlIf.Distinct :=
  inferInstanceAs (Decidable (_ ≠ _))

/-- Two controls are not found at the same place. -/
theorem control_ext {ctrlIf : UvcControlInterface} (h : ctrlIf.Distinct) {c c' : UvcControl}
    (hentity : ctrlIf.entity c = ctrlIf.entity c') (hselector : c.selector = c'.selector) :
    c = c' := by
  have hkind : c.OfTerminal = c'.OfTerminal := by
    unfold UvcControlInterface.entity at hentity
    cases hc : c.OfTerminal <;> cases hc' : c'.OfTerminal
    · rfl
    · rw [hc, hc'] at hentity
      exact absurd hentity.symm h
    · rw [hc, hc'] at hentity
      exact absurd hentity h
    · rfl
  revert hkind hselector
  cases c <;> cases c' <;> decide

section Run

variable {α : Type} {usb : LibusbHandle δ} {ctrlIf : UvcControlInterface}
  {cur : δ → UInt8 → UInt8 → List UInt8} {fixed : UInt8 → UInt8 → UInt8 → List UInt8} {device : δ}
  {current : UvcCurrent} {ranges : UvcRanges}

/-- A getter leaves the bytes as they are, and if there is a register that it reads, it fails or
reads it. -/
theorem get_register (hstores : StoresControls usb ctrlIf.bInterfaceNumber cur fixed)
    (hranges : HoldsRanges ctrlIf fixed ranges) (h : HoldsRegisters ctrlIf (cur device) current)
    (r : UvcRegister α) (request : UInt8) :
    ∃ ret value device', r.get usb ctrlIf request device = some (ret, value, device') ∧
      cur device' = cur device ∧
      ∀ x, r.register ranges current request = some x →
        ret < 0 ∧ value = none ∨ ret = uvcSuccess ∧ value = some x := by
  obtain ⟨entity, hentity, hbytes⟩ := h r.control
  have hanswer : ∀ x, r.register ranges current request = some x →
      answerOf (cur device) fixed request entity r.control.selector = r.encode x := by
    intro x hx
    unfold UvcRegister.register at hx
    unfold answerOf
    split at hx
    next hcur =>
      obtain rfl := Option.some.inj hx
      rw [if_pos hcur]
      exact hbytes.trans (r.bytes_read current)
    next hcur =>
      rw [if_neg hcur]
      refine hranges r.control request _ ?_ entity hentity
      rw [r.bytes_fixed, hx, Option.map_some]
  obtain ⟨ret, received, device', htransfer, hcur, hcases⟩ :=
    hstores.get device request entity r.control.selector r.size
  have hreceived : ∀ x, r.register ranges current request = some x →
      ret < 0 ∨ ret = r.size ∧ received = r.encode x := by
    intro x hx
    rw [hanswer x hx] at hcases
    exact hcases (r.length_encode x)
  simp only [UvcRegister.get, hentity, Option.map_some, htransfer]
  by_cases hsize : ret = r.size
  · rw [if_pos hsize]
    refine ⟨_, _, device', rfl, hcur, ?_⟩
    intro x hx
    obtain hfailed | ⟨-, rfl⟩ := hreceived x hx
    · omega
    · exact .inr ⟨rfl, congrArg some (r.decode_encode x)⟩
  · rw [if_neg hsize]
    refine ⟨_, _, device', rfl, hcur, ?_⟩
    intro x hx
    obtain hfailed | ⟨hret, -⟩ := hreceived x hx
    · exact .inl ⟨hfailed, rfl⟩
    · exact absurd hret hsize

/-- A setter fails, or writes the register and no other one. -/
theorem set_register (hstores : StoresControls usb ctrlIf.bInterfaceNumber cur fixed)
    (hdistinct : ctrlIf.Distinct) (h : HoldsRegisters ctrlIf (cur device) current)
    (r : UvcRegister α) (x : α) :
    ∃ ret device', r.set usb ctrlIf x device = some (ret, device') ∧
      (ret < 0 ∧ cur device' = cur device ∨
        ret = uvcSuccess ∧ HoldsRegisters ctrlIf (cur device') (r.write x current)) := by
  obtain ⟨entity, hentity, hbytes⟩ := h r.control
  have hlength : (r.encode x).length = (cur device entity r.control.selector).length := by
    rw [hbytes, r.bytes_read, r.length_encode, r.length_encode]
  obtain ⟨ret, received, device', htransfer, hcases⟩ :=
    hstores.set device entity r.control.selector (r.encode x) hlength
  rw [r.length_encode] at hcases
  simp only [UvcRegister.set, hentity, Option.map_some, htransfer]
  rcases hcases with ⟨hfailed, hcur⟩ | ⟨rfl, hcur⟩
  · have hne : ret ≠ r.size := by omega
    rw [if_neg hne]
    exact ⟨ret, device', rfl, .inl ⟨hfailed, hcur⟩⟩
  · rw [if_pos rfl]
    refine ⟨_, device', rfl, .inr ⟨rfl, ?_⟩⟩
    intro control
    obtain ⟨entity', hentity', hbytes'⟩ := h control
    refine ⟨entity', hentity', ?_⟩
    rw [hcur, r.bytes_write]
    by_cases hcontrol : control = r.control
    · subst hcontrol
      obtain rfl : entity' = entity := Option.some.inj (hentity'.symm.trans hentity)
      rw [Function.update_self, Function.update_self, Function.update_self]
    · rw [Function.update_of_ne hcontrol, ← hbytes']
      by_cases hsame : entity' = entity
      · subst hsame
        have hselector : control.selector ≠ r.control.selector := fun heq =>
          hcontrol (control_ext hdistinct (hentity'.trans hentity.symm) heq)
        rw [Function.update_self, Function.update_of_ne hselector]
      · rw [Function.update_of_ne hsame]

end Run

/-! ## Runs of calls -/

/-- A call of one of the functions. -/
inductive UvcCall : Type 1 where
  | get {α : Type} (r : UvcRegister α) (request : UInt8)
  | set {α : Type} (r : UvcRegister α) (x : α)

/-- The call on the wire: what it returns, and the camera after it. -/
def UvcCall.run (usb : LibusbHandle δ) (ctrlIf : UvcControlInterface) (device : δ) :
    UvcCall → Option (Int × δ)
  | .get r request => (r.get usb ctrlIf request device).map fun (ret, _, device) => (ret, device)
  | .set r x => r.set usb ctrlIf x device

/-- The call on the registers, if it returned `ret`. -/
def UvcCall.apply (ret : Int) (current : UvcCurrent) : UvcCall → UvcCurrent
  | .get _ _ => current
  | .set r x => (uvcSet (fun _ => 0 ≤ ret) r.control (r.write x current)).getD current

/-- The calls on the wire, one after the other. -/
def runCalls (usb : LibusbHandle δ) (ctrlIf : UvcControlInterface) :
    List UvcCall → δ → Option (List Int × δ)
  | [], device => some ([], device)
  | call :: calls, device => do
      let (ret, device) ← call.run usb ctrlIf device
      let (rets, device) ← runCalls usb ctrlIf calls device
      pure (ret :: rets, device)

/-- The calls on the registers, for what each of them returned. -/
def applyCalls : List UvcCall → List Int → UvcCurrent → UvcCurrent
  | call :: calls, ret :: rets, current => applyCalls calls rets (call.apply ret current)
  | _, _, current => current

section Runs

variable {usb : LibusbHandle δ} {ctrlIf : UvcControlInterface}
  {cur : δ → UInt8 → UInt8 → List UInt8} {fixed : UInt8 → UInt8 → UInt8 → List UInt8} {device : δ}
  {current : UvcCurrent} {ranges : UvcRanges}

theorem run_call (hstores : StoresControls usb ctrlIf.bInterfaceNumber cur fixed)
    (hdistinct : ctrlIf.Distinct) (hranges : HoldsRanges ctrlIf fixed ranges)
    (h : HoldsRegisters ctrlIf (cur device) current) (call : UvcCall) :
    ∃ ret device', call.run usb ctrlIf device = some (ret, device') ∧
      HoldsRegisters ctrlIf (cur device') (call.apply ret current) := by
  cases call with
  | get r request =>
      obtain ⟨ret, value, device', hget, hcur, -⟩ := get_register hstores hranges h r request
      refine ⟨ret, device', by rw [UvcCall.run, hget, Option.map_some], ?_⟩
      rw [UvcCall.apply, hcur]
      exact h
  | set r x =>
      obtain ⟨ret, device', hset, ⟨hfailed, hcur⟩ | ⟨rfl, hholds⟩⟩ :=
        set_register hstores hdistinct h r x
      · refine ⟨ret, device', hset, ?_⟩
        have hret : ¬0 ≤ ret := by omega
        simpa [UvcCall.apply, uvcSet, hret, hcur] using h
      · exact ⟨uvcSuccess, device', hset, hholds⟩

/-- Over every run of calls, getters with any request among them, the bytes in the camera remain
those of the registers that the model of the reader moves, and every getter then fails or reads the
register of its request. -/
theorem calls_keep_registers (hstores : StoresControls usb ctrlIf.bInterfaceNumber cur fixed)
    (hdistinct : ctrlIf.Distinct) (hranges : HoldsRanges ctrlIf fixed ranges)
    (h : HoldsRegisters ctrlIf (cur device) current) (calls : List UvcCall) :
    ∃ rets device', runCalls usb ctrlIf calls device = some (rets, device') ∧
      HoldsRegisters ctrlIf (cur device') (applyCalls calls rets current) ∧
      ∀ {α : Type} (r : UvcRegister α) request x,
        r.register ranges (applyCalls calls rets current) request = some x →
        ∃ ret value device'', r.get usb ctrlIf request device' = some (ret, value, device'') ∧
          (ret < 0 ∧ value = none ∨ ret = uvcSuccess ∧ value = some x) := by
  induction calls generalizing device current with
  | nil =>
      refine ⟨[], device, rfl, h, ?_⟩
      intro α r request x hx
      obtain ⟨ret, value, device', hget, -, hcases⟩ := get_register hstores hranges h r request
      exact ⟨ret, value, device', hget, hcases x hx⟩
  | cons call calls ih =>
      obtain ⟨ret, device', hrun, hholds⟩ := run_call hstores hdistinct hranges h call
      obtain ⟨rets, device'', hruns, hrest⟩ := ih hholds
      refine ⟨ret :: rets, device'', ?_, hrest⟩
      rw [runCalls, hrun, Option.bind_eq_bind, Option.bind_some]
      exact congrArg (Option.bind · _) hruns

end Runs

/-! A camera with terminal 1 and unit 2 that stores every value. -/

def exampleControlIf : UvcControlInterface := ⟨0, [⟨1, uvcIttCamera⟩], [⟨2⟩]⟩

/-- The control that is found at a terminal or unit. -/
def controlAt (entity selector : UInt8) : Option UvcControl :=
  [.aeMode, .exposureAbs, .brightness, .contrast, .saturation, .sharpness,
    .whiteBalanceTemperatureAuto, .whiteBalanceTemperature, .backlightCompensation, .gain,
    .powerLineFrequency].find? fun control : UvcControl =>
      exampleControlIf.entity control = some entity ∧ control.selector = selector

theorem controlAt_entity {control : UvcControl} {entity : UInt8}
    (h : exampleControlIf.entity control = some entity) :
    controlAt entity control.selector = some control := by
  cases control <;> (obtain rfl := Option.some.inj h; rfl)

/-- The bytes of registers in that camera. -/
def exampleCur (current : UvcCurrent) (entity selector : UInt8) : List UInt8 :=
  ((controlAt entity selector).map current.bytes).getD []

/-- The bytes of the fixed registers in it. -/
def exampleFixed (ranges : UvcRanges) (request entity selector : UInt8) : List UInt8 :=
  ((controlAt entity selector).bind (ranges.bytes request)).getD []

theorem exampleCur_holds (current : UvcCurrent) :
    HoldsRegisters exampleControlIf (exampleCur current) current := by
  intro control
  obtain ⟨entity, hentity⟩ : ∃ entity, exampleControlIf.entity control = some entity := by
    cases control <;> exact ⟨_, rfl⟩
  refine ⟨entity, hentity, ?_⟩
  rw [exampleCur, controlAt_entity hentity]
  rfl

theorem exampleFixed_holds (ranges : UvcRanges) :
    HoldsRanges exampleControlIf (exampleFixed ranges) ranges := by
  intro control request bytes hbytes entity hentity
  rw [exampleFixed, controlAt_entity hentity, Option.bind_some, hbytes]
  rfl

def storingCamera (ranges : UvcRanges) : LibusbHandle (UInt8 → UInt8 → List UInt8) where
  controlTransfer cur t :=
    let entity := (t.index >>> 8).toUInt8
    let selector := (t.value >>> 8).toUInt8
    if t.requestType = 0x21 then
      ((t.data.length : Int), [],
        Function.update cur entity (Function.update (cur entity) selector t.data))
    else
      let answer := answerOf cur (exampleFixed ranges) t.request entity selector
      (((answer.take t.length).length : Int), answer.take t.length, cur)
  detachKernelDriver cur _ := (libusbErrorNotFound, cur)
  claimInterface cur _ := (0, cur)
  setInterfaceAltSetting cur _ _ := (0, cur)
  releaseInterface cur _ := (0, cur)
  attachKernelDriver cur _ := (libusbErrorNotFound, cur)

theorem toUInt8_entity (entity : UInt8) :
    ((entity.toUInt16 <<< 8 ||| (0 : UInt8).toUInt16) >>> 8).toUInt8 = entity := by
  have hlt := entity.toNat_lt
  apply UInt8.toNat_inj.mp
  simp [Nat.shiftLeft_eq, Nat.shiftRight_eq_div_pow]
  omega

theorem toUInt8_selector (selector : UInt8) :
    ((selector.toUInt16 <<< 8) >>> 8).toUInt8 = selector := by
  have hlt := selector.toNat_lt
  apply UInt8.toNat_inj.mp
  simp [Nat.shiftLeft_eq, Nat.shiftRight_eq_div_pow]
  omega

theorem storingCamera_stores (ranges : UvcRanges) :
    StoresControls (storingCamera ranges) 0 id (exampleFixed ranges) where
  get cur request entity selector size := by
    have htype : (0xa1 : UInt8) ≠ 0x21 := by decide
    have htransfer : (storingCamera ranges).controlTransfer cur
        (controlGet 0 entity selector request size) =
        let answer := (answerOf cur (exampleFixed ranges) request entity selector).take size
        ((answer.length : Int), answer, cur) := by
      simp only [storingCamera, controlGet, toUInt8_entity, toUInt8_selector, if_neg htype]
    refine ⟨_, _, _, htransfer, rfl, ?_⟩
    intro hlength
    have htake := List.take_of_length_le (Nat.le_of_eq hlength)
    simp only [id] at htake hlength ⊢
    rw [htake, hlength]
    exact .inr ⟨rfl, rfl⟩
  set cur entity selector data _ := by
    refine ⟨_, [], Function.update cur entity (Function.update (cur entity) selector data), ?_,
      .inr ⟨rfl, rfl⟩⟩
    simp only [storingCamera, controlSet, toUInt8_entity, toUInt8_selector, if_true]

/-- The exposure and the gain have the same selector. -/
def exposureCalls : List UvcCall :=
  [.set .exposureAbs 333, .set .gain 7, .get .brightness uvcGetCur, .get .gain uvcGetMax]

theorem calls_keep_registers_exposure :
    ∃ rets device', runCalls (storingCamera exampleRanges) exampleControlIf exposureCalls
        (exampleCur exampleCurrent) = some (rets, device') ∧
      HoldsRegisters exampleControlIf device' (applyCalls exposureCalls rets exampleCurrent) ∧
      ∃ ret value device'', UvcRegister.gain.get (storingCamera exampleRanges) exampleControlIf
          uvcGetMax device' = some (ret, value, device'') ∧
        (ret < 0 ∧ value = none ∨ ret = uvcSuccess ∧ value = some exampleRanges.gain.max) := by
  have hdistinct : exampleControlIf.Distinct := by decide
  have h : HoldsRegisters exampleControlIf (id (exampleCur exampleCurrent)) exampleCurrent :=
    exampleCur_holds exampleCurrent
  obtain ⟨rets, device', hrun, hholds, hget⟩ := calls_keep_registers
    (storingCamera_stores exampleRanges) hdistinct (exampleFixed_holds exampleRanges) h
    exposureCalls
  exact ⟨rets, device', hrun, hholds, hget .gain uvcGetMax _ rfl⟩

end ZsaSdk
