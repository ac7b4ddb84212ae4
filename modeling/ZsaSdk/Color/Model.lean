import ZsaSdk.Types

/-!
# The colour camera

`color.cpp` and the camera reader under it, `uvc_camerareader.cpp`.  The reader talks to the
camera through libuvc: it starts and stops the stream, and reads and writes the registers of
the controls.  `color.cpp` adds a cache of what each control can do.

*Device.*  For each control the camera has a current value, and a minimum, a maximum, a step
and a default that do not change (`UvcRanges`).  Any request to it may fail; which requests it
answers is given with the call.

*Integers.*  The conversions between the widths are those of C.  `int32_t` arithmetic wraps
around, as it does on the supported compilers.

The frame callback, which needs the decoder, is in `Color.Frame`.
-/

namespace ZsaSdk

/-- `zsa_color_control_command_t` -/
inductive ColorControlCommand where
  | exposureTimeAbsolute
  | autoExposurePriority
  | brightness
  | contrast
  | saturation
  | sharpness
  | whitebalance
  | backlightCompensation
  | gain
  | powerlineFrequency
  | unknown (value : Int32)
deriving DecidableEq, Repr

/-- The command lies between `ZSA_COLOR_CONTROL_EXPOSURE_TIME_ABSOLUTE` and
`ZSA_COLOR_CONTROL_POWERLINE_FREQUENCY`. -/
def ColorControlCommand.known : ColorControlCommand → Bool
  | .unknown _ => false
  | _ => true

/-- `zsa_color_control_mode_t` -/
inductive ColorControlMode where
  | auto
  | manual
  | unknown (value : Int32)
deriving DecidableEq, Repr

/-- `color_control_cap_t` -/
structure ColorControlCap where
  minValue : Int32
  maxValue : Int32
  stepValue : Int32
  defaultValue : Int32
  defaultMode : ColorControlMode
  supportAuto : Bool
  valid : Bool
deriving DecidableEq, Repr

/-- An entry of the cache as the constructor leaves it. -/
def ColorControlCap.zero : ColorControlCap := ⟨0, 0, 0, 0, .auto, false, false⟩

/-! ## Exposure times -/

/-- `color_exposure_mapping_t` -/
structure ExposureMapping where
  exponent : Int32
  exposureUsec : Int32
  exposureMapped50HzUsec : Int32
  exposureMapped60HzUsec : Int32
deriving DecidableEq, Repr

/-- `device_exposure_mapping` -/
def deviceExposureMapping : List ExposureMapping :=
  [⟨-11, 488, 500, 500⟩,
    ⟨-10, 977, 1250, 1250⟩,
    ⟨-9, 1953, 2500, 2500⟩,
    ⟨-8, 3906, 10000, 8330⟩,
    ⟨-7, 7813, 20000, 16670⟩,
    ⟨-6, 15625, 30000, 33330⟩,
    ⟨-5, 31250, 40000, 41670⟩,
    ⟨-4, 62500, 50000, 50000⟩,
    ⟨-3, 125000, 60000, 66670⟩,
    ⟨-2, 250000, 80000, 83330⟩,
    ⟨-1, 500000, 100000, 100000⟩,
    ⟨0, 1000000, 120000, 116670⟩,
    ⟨1, 2000000, 130000, 133330⟩]

theorem deviceExposureMapping_ne_nil : deviceExposureMapping ≠ [] := List.cons_ne_nil _ _

/-- The column of the table in use. -/
def ExposureMapping.mapped (using60hzPower : Bool) (m : ExposureMapping) : Int32 :=
  if using60hzPower then m.exposureMapped60HzUsec else m.exposureMapped50HzUsec

/-- `MAX_EXPOSURE` -/
def maxExposure (using60hzPower : Bool) : Int32 :=
  (deviceExposureMapping.getLast deviceExposureMapping_ne_nil).mapped using60hzPower

/-- `CONV_100USEC_TO_USEC` -/
def conv100UsecToUsec : Int32 := 100

/-- The first exposure of the table that is not shorter, or the longest one. -/
def mappedExposure (using60hzPower : Bool) (exposureUsec : Int32) : Int32 :=
  ((deviceExposureMapping.map (·.mapped using60hzPower)).find? (exposureUsec ≤ ·)).getD
    (maxExposure using60hzPower)

/-- `UVCCameraReader::MapK4aExposureToLinux` -/
def mapK4aExposureToLinux (using60hzPower : Bool) (k4aExposureUsec : Int32) : Int32 :=
  mappedExposure using60hzPower k4aExposureUsec / conv100UsecToUsec

/-- `UVCCameraReader::MapLinuxExposureToK4a` -/
def mapLinuxExposureToK4a (using60hzPower : Bool) (linuxExposure : Int32) : Int32 :=
  mappedExposure using60hzPower (linuxExposure * conv100UsecToUsec)

/-! ## The registers of the camera -/

/-- The controls of the camera, under libuvc's names. -/
inductive UvcControl where
  | aeMode
  | exposureAbs
  | brightness
  | contrast
  | saturation
  | sharpness
  | whiteBalanceTemperatureAuto
  | whiteBalanceTemperature
  | backlightCompensation
  | gain
  | powerLineFrequency
deriving DecidableEq, Repr

/-- A request to the camera. -/
inductive UvcRequest where
  | getCur (control : UvcControl)
  | getMin (control : UvcControl)
  | getMax (control : UvcControl)
  | getRes (control : UvcControl)
  | getDef (control : UvcControl)
  | setCur (control : UvcControl)
deriving DecidableEq, Repr

/-- The registers of a control that are fixed. -/
structure UvcRange (α : Type) where
  min : α
  max : α
  res : α
  defaultValue : α
deriving DecidableEq, Repr

/-- The fixed registers the reader reads. -/
structure UvcRanges where
  aeModeDefault : UInt8
  exposureAbs : UvcRange UInt32
  brightness : UvcRange Int16
  contrast : UvcRange UInt16
  saturation : UvcRange UInt16
  sharpness : UvcRange UInt16
  whiteBalanceTemperatureAutoDefault : UInt8
  whiteBalanceTemperature : UvcRange UInt16
  backlightCompensation : UvcRange UInt16
  gain : UvcRange UInt16
  powerLineFrequency : UvcRange UInt8
deriving DecidableEq, Repr

/-- The current values of the controls. -/
structure UvcCurrent where
  aeMode : UInt8
  exposureAbs : UInt32
  brightness : Int16
  contrast : UInt16
  saturation : UInt16
  sharpness : UInt16
  whiteBalanceTemperatureAuto : UInt8
  whiteBalanceTemperature : UInt16
  backlightCompensation : UInt16
  gain : UInt16
  powerLineFrequency : UInt8
deriving DecidableEq, Repr

section Requests

variable {α : Type} (answers : UvcRequest → Bool)

/-- A libuvc getter: the register, or nothing if the request fails. -/
def uvcGet (request : UvcRequest) (register : α) : Option α :=
  if answers request then some register else none

/-- The four getters that every query of a range calls. -/
def uvcGetRange (control : UvcControl) (range : UvcRange α) : Option (UvcRange α) := do
  let min ← uvcGet answers (.getMin control) range.min
  let max ← uvcGet answers (.getMax control) range.max
  let res ← uvcGet answers (.getRes control) range.res
  let defaultValue ← uvcGet answers (.getDef control) range.defaultValue
  pure ⟨min, max, res, defaultValue⟩

/-- A libuvc setter: the registers it leaves, or nothing if the request fails. -/
def uvcSet (control : UvcControl) (current : UvcCurrent) : Option UvcCurrent :=
  if answers (.setCur control) then some current else none

end Requests

/-- The mode that `UVC_AUTO_EXPOSURE_MODE_MANUAL` (1), `_AUTO` (2), `_SHUTTER_PRIORITY` (4) and
`_APERTURE_PRIORITY` (8) stand for. -/
def aeModeOf (aeMode : UInt8) : Option ColorControlMode :=
  if aeMode = 1 || aeMode = 4 then some .manual
  else if aeMode = 2 || aeMode = 8 then some .auto
  else none

/-- The mode that the automatic white balance register stands for. -/
def wbModeOf (wbMode : UInt8) : Option ColorControlMode :=
  if wbMode = 0 then some .manual
  else if wbMode = 1 then some .auto
  else none

/-! ## The reader -/

/-- `UVCCameraReader`, less the lock and the decoder.  The formats and the size are
uninitialised before the first start. -/
structure UvcCameraReader where
  /-- `IsInitialized()` -/
  initialized : Bool
  streaming : Bool
  using60hzPower : Bool
  widthPixels : UInt32
  heightPixels : UInt32
  inputImageFormat : ImageFormat
  outputImageFormat : ImageFormat
  /-- `m_pCallback` and its context are set. -/
  callback : Bool
deriving DecidableEq, Repr

namespace UvcCameraReader

/-- A reader as its constructor leaves it. -/
def new : UvcCameraReader where
  initialized := false
  streaming := false
  using60hzPower := true
  widthPixels := 0
  heightPixels := 0
  inputImageFormat := .colorMjpg
  outputImageFormat := .colorMjpg
  callback := false

/-- What libuvc answers while a reader is initialised: `uvc_init`, `uvc_find_device` and
`uvc_open`. -/
structure InitOutcome where
  initOk : Bool
  findDeviceOk : Bool
  openOk : Bool
deriving DecidableEq, Repr

/-- `UVCCameraReader::Init` -/
def init (r : UvcCameraReader) (o : InitOutcome) : UvcCameraReader × Result :=
  if r.initialized then (r, .failed)
  else if o.initOk = false || o.findDeviceOk = false || o.openOk = false then (r, .failed)
  else ({ r with initialized := true }, .succeeded)

/-- What libuvc answers while a stream is started: `uvc_get_stream_ctrl_format_size` and
`uvc_start_streaming`. -/
structure StartOutcome where
  streamCtrlOk : Bool
  startStreamingOk : Bool
deriving DecidableEq, Repr

/-- The format the camera is asked for. -/
def inputFormat : ImageFormat → Option ImageFormat
  | .colorMjpg => some .colorMjpg
  | .colorNv12 => some .colorNv12
  | .colorYuy2 => some .colorYuy2
  | .colorBgra32 => some .colorMjpg
  | _ => none

/-- `UVCCameraReader::Start` -/
def start (r : UvcCameraReader) (width height : UInt32) (imageFormat : ImageFormat)
    (o : StartOutcome) : UvcCameraReader × Result :=
  if r.initialized = false then (r, .failed)
  else if r.streaming then (r, .failed)
  else
    match inputFormat imageFormat with
    | none => (r, .failed)
    | some input =>
        let r := { r with
          outputImageFormat := imageFormat
          inputImageFormat := input
          widthPixels := width
          heightPixels := height }
        if o.streamCtrlOk = false then (r, .failed)
        else if o.startStreamingOk = false then
          ({ r with widthPixels := 0, heightPixels := 0, callback := false }, .failed)
        else ({ r with callback := true, streaming := true }, .succeeded)

/-- `UVCCameraReader::Stop` -/
def stop (r : UvcCameraReader) : UvcCameraReader :=
  if r.streaming then { r with streaming := false, callback := false } else r

end UvcCameraReader

/-! ## Controls of the reader -/

section Controls

variable {α : Type} (answers : UvcRequest → Bool)

/-- The case of `GetCameraControlCapabilities` for a control without an automatic mode. -/
def manualCapabilities (control : UvcControl) (range : UvcRange α) (toInt32 : α → Int32)
    (capabilities : ColorControlCap) : ColorControlCap × Result :=
  match uvcGetRange answers control range with
  | none => (capabilities, .failed)
  | some range =>
      (⟨toInt32 range.min, toInt32 range.max, toInt32 range.res, toInt32 range.defaultValue,
        .manual, false, true⟩, .succeeded)

/-- The case for a control with an automatic mode.  The default mode is stored before the
range is read, so it stays behind if that fails. -/
def autoCapabilities (autoControl : UvcControl) (defaultMode : Option ColorControlMode)
    (control : UvcControl) (range : UvcRange α) (toInt32 stepToInt32 : α → Int32)
    (capabilities : ColorControlCap) : ColorControlCap × Result :=
  match (uvcGet answers (.getDef autoControl) defaultMode).join with
  | none => (capabilities, .failed)
  | some defaultMode =>
      match uvcGetRange answers control range with
      | none => ({ capabilities with defaultMode }, .failed)
      | some range =>
          (⟨toInt32 range.min, toInt32 range.max, stepToInt32 range.res,
            toInt32 range.defaultValue, defaultMode, true, true⟩, .succeeded)

/-- `UVCCameraReader::GetCameraControlCapabilities` -/
def getCameraControlCapabilities (r : UvcCameraReader) (ranges : UvcRanges)
    (command : ColorControlCommand) (capabilities : ColorControlCap) : ColorControlCap × Result :=
  match command with
  | .exposureTimeAbsolute =>
      autoCapabilities answers .aeMode (aeModeOf ranges.aeModeDefault) .exposureAbs
        ranges.exposureAbs (fun x => mapLinuxExposureToK4a r.using60hzPower x.toInt32)
        (fun x => (x * conv100UsecToUsec.toUInt32).toInt32) capabilities
  | .brightness =>
      manualCapabilities answers .brightness ranges.brightness Int16.toInt32 capabilities
  | .contrast =>
      manualCapabilities answers .contrast ranges.contrast (·.toUInt32.toInt32) capabilities
  | .saturation =>
      manualCapabilities answers .saturation ranges.saturation (·.toUInt32.toInt32) capabilities
  | .sharpness =>
      manualCapabilities answers .sharpness ranges.sharpness (·.toUInt32.toInt32) capabilities
  | .whitebalance =>
      autoCapabilities answers .whiteBalanceTemperatureAuto
        (wbModeOf ranges.whiteBalanceTemperatureAutoDefault) .whiteBalanceTemperature
        ranges.whiteBalanceTemperature (·.toUInt32.toInt32) (·.toUInt32.toInt32) capabilities
  | .backlightCompensation =>
      manualCapabilities answers .backlightCompensation ranges.backlightCompensation
        (·.toUInt32.toInt32) capabilities
  | .gain => manualCapabilities answers .gain ranges.gain (·.toUInt32.toInt32) capabilities
  | .powerlineFrequency =>
      manualCapabilities answers .powerLineFrequency ranges.powerLineFrequency
        (·.toUInt32.toInt32) capabilities
  | .autoExposurePriority => (⟨0, 0, 0, 0, .manual, false, true⟩, .succeeded)
  | .unknown _ => (capabilities, .failed)

/-- `UVCCameraReader::GetCameraControl`: the mode and the value, or nothing if it fails. -/
def getCameraControl (r : UvcCameraReader) (current : UvcCurrent)
    (command : ColorControlCommand) : Option (ColorControlMode × Int32) :=
  if r.initialized = false then none
  else
    match command with
    | .exposureTimeAbsolute => do
        let mode ← (uvcGet answers (.getCur .aeMode) (aeModeOf current.aeMode)).join
        let exposureTime ← uvcGet answers (.getCur .exposureAbs) current.exposureAbs
        pure (mode, mapLinuxExposureToK4a r.using60hzPower exposureTime.toInt32)
    | .brightness =>
        (uvcGet answers (.getCur .brightness) current.brightness).map fun x => (.manual, x.toInt32)
    | .contrast =>
        (uvcGet answers (.getCur .contrast) current.contrast).map
          fun x => (.manual, x.toUInt32.toInt32)
    | .saturation =>
        (uvcGet answers (.getCur .saturation) current.saturation).map
          fun x => (.manual, x.toUInt32.toInt32)
    | .sharpness =>
        (uvcGet answers (.getCur .sharpness) current.sharpness).map
          fun x => (.manual, x.toUInt32.toInt32)
    | .whitebalance => do
        let mode ← (uvcGet answers (.getCur .whiteBalanceTemperatureAuto)
          (wbModeOf current.whiteBalanceTemperatureAuto)).join
        let whiteBalance ← uvcGet answers (.getCur .whiteBalanceTemperature)
          current.whiteBalanceTemperature
        pure (mode, whiteBalance.toUInt32.toInt32)
    | .backlightCompensation =>
        (uvcGet answers (.getCur .backlightCompensation) current.backlightCompensation).map
          fun x => (.manual, x.toUInt32.toInt32)
    | .gain =>
        (uvcGet answers (.getCur .gain) current.gain).map fun x => (.manual, x.toUInt32.toInt32)
    | .powerlineFrequency =>
        (uvcGet answers (.getCur .powerLineFrequency) current.powerLineFrequency).map
          fun x => (.manual, x.toUInt32.toInt32)
    | .autoExposurePriority => some (.manual, 0)
    | .unknown _ => none

/-- The case of `SetCameraControl` for a control without an automatic mode; `current'` are
the registers after the setter. -/
def setManual (mode : ColorControlMode) (control : UvcControl) (current current' : UvcCurrent) :
    UvcCurrent × Result :=
  match mode with
  | .manual =>
      match uvcSet answers control current' with
      | none => (current, .failed)
      | some current => (current, .succeeded)
  | _ => (current, .failed)

/-- The case for a control with an automatic mode.  In manual mode the automatic one is
switched off first. -/
def setAuto (mode : ColorControlMode) (autoControl control : UvcControl)
    (current currentManual currentValue currentAuto : UvcCurrent) : UvcCurrent × Result :=
  match mode with
  | .manual =>
      match uvcSet answers autoControl currentManual with
      | none => (current, .failed)
      | some current =>
          match uvcSet answers control currentValue with
          | none => (current, .failed)
          | some current => (current, .succeeded)
  | .auto =>
      match uvcSet answers autoControl currentAuto with
      | none => (current, .failed)
      | some current => (current, .succeeded)
  | .unknown _ => (current, .failed)

/-- The case for the powerline frequency, which also says which column of the exposure table
is in use from now on. -/
def setPowerlineFrequency (r : UvcCameraReader) (current : UvcCurrent) (mode : ColorControlMode)
    (newValue : Int32) : UvcCameraReader × UvcCurrent × Result :=
  match mode with
  | .manual =>
      if newValue = 0 then (r, current, .failed)
      else
        match uvcSet answers .powerLineFrequency
            { current with powerLineFrequency := newValue.toInt8.toUInt8 } with
        | none => (r, current, .failed)
        | some current => ({ r with using60hzPower := newValue == 2 }, current, .succeeded)
  | _ => (r, current, .failed)

/-- `UVCCameraReader::SetCameraControl` -/
def setCameraControl (r : UvcCameraReader) (current : UvcCurrent) (command : ColorControlCommand)
    (mode : ColorControlMode) (newValue : Int32) : UvcCameraReader × UvcCurrent × Result :=
  if r.initialized = false then (r, current, .failed)
  else
    match command with
    | .exposureTimeAbsolute =>
        let exposureAbs := (mapK4aExposureToLinux r.using60hzPower newValue).toUInt32
        (r, setAuto answers mode .aeMode .exposureAbs current { current with aeMode := 1 }
          { current with aeMode := 1, exposureAbs := exposureAbs } { current with aeMode := 8 })
    | .brightness =>
        (r, setManual answers mode .brightness current
          { current with brightness := newValue.toInt16 })
    | .contrast =>
        (r, setManual answers mode .contrast current
          { current with contrast := newValue.toInt16.toUInt16 })
    | .saturation =>
        (r, setManual answers mode .saturation current
          { current with saturation := newValue.toInt16.toUInt16 })
    | .sharpness =>
        (r, setManual answers mode .sharpness current
          { current with sharpness := newValue.toInt16.toUInt16 })
    | .whitebalance =>
        let temperature := newValue.toInt16.toUInt16
        (r, setAuto answers mode .whiteBalanceTemperatureAuto .whiteBalanceTemperature current
          { current with whiteBalanceTemperatureAuto := 0 }
          { current with whiteBalanceTemperatureAuto := 0, whiteBalanceTemperature := temperature }
          { current with whiteBalanceTemperatureAuto := 1 })
    | .backlightCompensation =>
        (r, setManual answers mode .backlightCompensation current
          { current with backlightCompensation := newValue.toInt16.toUInt16 })
    | .gain =>
        (r, setManual answers mode .gain current { current with gain := newValue.toInt16.toUInt16 })
    | .powerlineFrequency => setPowerlineFrequency answers r current mode newValue
    | .autoExposurePriority => (r, current, .succeeded)
    | .unknown _ => (r, current, .failed)

end Controls

/-! ## The colour module -/

/-- `color_context_t`, less the tick counter and the callback. -/
structure ColorContext where
  sensorStartTimeTick : UInt64
  controlCap : ColorControlCommand → ColorControlCap
  cameraReader : UvcCameraReader

namespace ColorContext

/-- What happens while a colour module is created: the allocations of the context and of the
reader, and the initialisation of the reader. -/
structure CreateOutcome where
  contextOk : Bool
  readerOk : Bool
  init : UvcCameraReader.InitOutcome
deriving DecidableEq, Repr

/-- `color_create`: the context, or nothing if it fails.  A context whose reader could not be
initialised is destroyed. -/
def colorCreate (containerId : Option Guid) (o : CreateOutcome) : Option ColorContext :=
  match containerId with
  | none => none
  | some _ =>
      if o.contextOk = false || o.readerOk = false then none
      else
        match UvcCameraReader.new.init o.init with
        | (_, .failed) => none
        | (reader, .succeeded) => some ⟨0, fun _ => .zero, reader⟩

/-- `color_stop` -/
def colorStop (color : ColorContext) : ColorContext :=
  { color with sensorStartTimeTick := 0, cameraReader := color.cameraReader.stop }

/-- The size of the images of a resolution. -/
def resolutionSize : ColorResolution → Option (UInt32 × UInt32)
  | .r720p => some (1280, 720)
  | .r2160p => some (3840, 2160)
  | .r1440p => some (2560, 1440)
  | .r1080p => some (1920, 1080)
  | .r3072p => some (4096, 3072)
  | .r1536p => some (2048, 1536)
  | .off | .unknown _ => none

/-- What happens while the colour module is started: the tick counter, which may give no
time, and the start of the reader. -/
structure StartOutcome where
  currentMs : Option UInt64
  reader : UvcCameraReader.StartOutcome
deriving DecidableEq, Repr

/-- `color_start`.  An unknown resolution or frame rate is refused before anything is
touched; after any other failure the camera is stopped. -/
def colorStart (color : ColorContext) (config : CameraConfiguration) (o : StartOutcome) :
    ColorContext × Result :=
  match resolutionSize config.colorResolution, config.cameraFps with
  | none, _ => (color, .failed)
  | some _, .unknown _ => (color, .failed)
  | some (width, height), _ =>
      match o.currentMs with
      | none => (color.colorStop, .failed)
      | some tick =>
          let color := { color with sensorStartTimeTick := tick }
          match color.cameraReader.start width height config.colorFormat o.reader with
          | (reader, .failed) =>
              (({ color with cameraReader := reader } : ColorContext).colorStop, .failed)
          | (reader, .succeeded) => ({ color with cameraReader := reader }, .succeeded)

/-! ### Controls -/

section Controls

variable (answers : UvcRequest → Bool) (ranges : UvcRanges)

/-- `color_get_control_capabilities`.  The outputs are the fields of the entry that is
returned. -/
def colorGetControlCapabilities (color : ColorContext) (command : ColorControlCommand) :
    ColorContext × Option ColorControlCap :=
  if command.known = false then (color, none)
  else
    let entry := color.controlCap command
    let (entry, result) :=
      if entry.valid = false then
        getCameraControlCapabilities answers color.cameraReader ranges command entry
      else (entry, .succeeded)
    let color := { color with
      controlCap := fun c => if c = command then entry else color.controlCap c }
    match result with
    | .failed => (color, none)
    | .succeeded => (color, some entry)

/-- `color_get_control` -/
def colorGetControl (color : ColorContext) (current : UvcCurrent) (command : ColorControlCommand) :
    Option (ColorControlMode × Int32) :=
  if command.known = false then none
  else getCameraControl answers color.cameraReader current command

/-- `color_set_control` -/
def colorSetControl (color : ColorContext) (current : UvcCurrent) (command : ColorControlCommand)
    (mode : ColorControlMode) (value : Int32) : ColorContext × UvcCurrent × Result :=
  if command.known = false then (color, current, .failed)
  else if mode ≠ .auto ∧ mode ≠ .manual then (color, current, .failed)
  else
    let r := setCameraControl answers color.cameraReader current command mode value
    ({ color with cameraReader := r.1 }, r.2)

end Controls

end ColorContext

/-! ## What creation leaves -/

theorem UvcCameraReader.init_succeeded {r reader : UvcCameraReader} {o : InitOutcome}
    (h : r.init o = (reader, .succeeded)) : reader = { r with initialized := true } := by
  simp only [UvcCameraReader.init] at h
  split at h
  · cases h
  · split at h
    · cases h
    · exact (Prod.mk.inj h).1.symm

/-- A colour module that has just been created has an initialised reader and an empty cache. -/
theorem ColorContext.colorCreate_spec {containerId : Option Guid} {o : CreateOutcome}
    {color : ColorContext} (h : colorCreate containerId o = some color) :
    color.cameraReader.initialized = true ∧ color.cameraReader.streaming = false ∧
      ∀ command, (color.controlCap command).valid = false := by
  cases containerId with
  | none => cases h
  | some guid =>
      simp only [colorCreate] at h
      split at h
      · cases h
      · split at h
        · cases h
        · next reader hinit =>
          obtain rfl := UvcCameraReader.init_succeeded hinit
          obtain rfl := Option.some.inj h
          exact ⟨rfl, rfl, fun _ => rfl⟩

end ZsaSdk
