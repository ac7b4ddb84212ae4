import ZsaSdk.Allocator.Model
import ZsaSdk.Capturesync.Model
import ZsaSdk.Color.Model
import ZsaSdk.Lib.Table

/-!
# Devices

`zsa.c`: a device is a tick counter, the microcontroller of the colour camera, a capture
synchroniser and a colour camera, created one after the other when the device is opened and
destroyed together when it is closed.  Starting the cameras starts the synchroniser and then
the colour camera; stopping them stops both.

*Handles.*  A handle is an index into the table of the devices of the process.  A closed device
leaves a hole.  The parts of a device belong to it, so what closing does to them before it
frees them cannot be seen afterwards.

*Container.*  `zsa_device_open` passes a null container id to the parts it creates.  Here it is
a parameter.

*Failures.*  Which of the creations, of the commands to the microcontroller and of the calls of
libuvc succeed is given with the call.  `capturesync_create` is taken to get its context: it
writes to it before it tests the pointer.
-/

namespace ZsaSdk

/-! ## The microcontroller -/

/-- `synchronization_config_t` -/
structure SynchronizationConfig where
  mode : UInt32
  subordinateDelayOffMasterPts : UInt32
  depthDelayOffColorPts : Int32
  enablePrivacyLed : UInt8
deriving DecidableEq, Repr

/-- `external_sync_mode_t` of a configuration. -/
def externalSyncMode : WiredSyncMode → Option UInt32
  | .standalone => some 0
  | .master => some 1
  | .subordinate => some 2
  | .unknown _ => none

/-- The record that `colormcu_set_multi_device_mode` sends with `DEV_CMD_SET_SYS_CFG`, if the
configuration names a mode.  `ZSA_USEC_TO_90K_HZ_TICK` computes in the type of its argument. -/
def synchronizationConfig (config : CameraConfiguration) : Option SynchronizationConfig :=
  (externalSyncMode config.wiredSyncMode).map fun mode =>
    { mode
      subordinateDelayOffMasterPts := config.subordinateDelayOffMasterUsec * 9 / 100
      depthDelayOffColorPts := config.depthDelayOffColorUsec * 9 / 100
      enablePrivacyLed := if config.disableStreamingIndicator then 0 else 1 }

/-- `colormcu_set_multi_device_mode`; `usbCmdWrite` is what sending the record returns. -/
def colormcuSetMultiDeviceMode (config : CameraConfiguration) (usbCmdWrite : Result) : Result :=
  match synchronizationConfig config with
  | none => .failed
  | some _ => usbCmdWrite

/-! ## Starting and stopping the cameras -/

/-- `zsa_context_t`.  The tick counter and the microcontroller are created or null. -/
structure ZsaContext (Q : Type) where
  tickHandle : Bool
  colormcu : Bool
  capturesync : Option (World Q)
  color : Option ColorContext
  colorStarted : Bool

/-- What happens while the cameras are started. -/
structure StartOutcome where
  usbCmdWrite : Result
  color : ColorContext.StartOutcome
deriving DecidableEq, Repr

/-- `validate_configuration` of a configuration that is not null. -/
def validateConfiguration (_config : CameraConfiguration) : Result := .succeeded

namespace ZsaContext

variable {Q : Type} [QueueApi Q]

/-- A context as `calloc` returns it. -/
def zero : ZsaContext Q := ⟨false, false, none, none, false⟩

/-- `zsa_device_stop_cameras` -/
def zsaDeviceStopCameras (d : ZsaContext Q) : ZsaContext Q :=
  let d := match d.capturesync with
    | none => d
    | some w => { d with capturesync := some (capturesyncStop w) }
  match d.color with
  | none => d
  | some color => { d with color := some color.colorStop, colorStarted := false }

/-- `zsa_device_start_cameras` up to its last test of `result`. -/
def startCameras (d : ZsaContext Q) (config : CameraConfiguration) (o : StartOutcome) :
    ZsaContext Q × Result :=
  if d.colorStarted = true then (d, .failed)
  else if validateConfiguration config = .failed then (d, .failed)
  else if d.colormcu = false || colormcuSetMultiDeviceMode config o.usbCmdWrite = .failed then
    (d, .failed)
  else
    match d.capturesync with
    | none => (d, .failed)
    | some w =>
        match capturesyncStart w config.toDeviceConfiguration with
        | (w, .failed) => ({ d with capturesync := some w }, .failed)
        | (w, .succeeded) =>
            let d := { d with capturesync := some w }
            if config.colorResolution = .off then ({ d with colorStarted := true }, .succeeded)
            else
              match d.color with
              | none => (d, .failed)
              | some color =>
                  match color.colorStart config o.color with
                  | (color, .failed) => ({ d with color := some color }, .failed)
                  | (color, .succeeded) =>
                      ({ d with color := some color, colorStarted := true }, .succeeded)

/-- `zsa_device_start_cameras`.  Any failure after the test for a null configuration ends in
`zsa_device_stop_cameras`. -/
def zsaDeviceStartCameras (d : ZsaContext Q) (config : Option CameraConfiguration)
    (o : StartOutcome) : ZsaContext Q × Result :=
  match config with
  | none => (d, .failed)
  | some config =>
      match d.startCameras config o with
      | (d, .failed) => (d.zsaDeviceStopCameras, .failed)
      | (d, .succeeded) => (d, .succeeded)

end ZsaContext

/-! ## Opening and closing devices -/

/-- What happens while a device is opened.  `heap` is what the captures and images that will
reach the synchroniser hold, and `disableSync` what the environment variable says. -/
structure OpenOutcome where
  contextOk : Bool
  tickOk : Bool
  colormcuOk : Bool
  capturesyncOk : Bool
  heap : Heap
  disableSync : Bool
  color : ColorContext.CreateOutcome

/-- Every creation goes through. -/
def OpenOutcome.ok (heap : Heap) : OpenOutcome :=
  ⟨true, true, true, true, heap, false, ⟨true, true, ⟨true, true, true⟩⟩⟩

/-- A non-null `zsa_device_t`. -/
structure DeviceHandle where
  id : Nat
deriving DecidableEq, Repr

/-- The devices of a process, and the allocator. -/
structure Sdk (Q : Type) where
  devices : List (Option (ZsaContext Q))
  allocator : Allocator

variable {Q : Type} [QueueApi Q]

/-- The part of `zsa_device_open` that creates the parts of a device. -/
def ZsaContext.createParts (containerId : Option Guid) (o : OpenOutcome) :
    ZsaContext Q × Result :=
  let d : ZsaContext Q := .zero
  if o.tickOk = false then (d, .failed)
  else
    let d := { d with tickHandle := true }
    if o.colormcuOk = false then (d, .failed)
    else
      let d := { d with colormcu := true }
      match if o.capturesyncOk then capturesyncCreate Q o.heap o.disableSync else none with
      | none => (d, .failed)
      | some w =>
          let d := { d with capturesync := some w }
          match ColorContext.colorCreate containerId o.color with
          | none => (d, .failed)
          | some color => ({ d with color := some color }, .succeeded)

namespace Sdk

/-- The device behind a handle, if it has not been closed. -/
def device (s : Sdk Q) (h : DeviceHandle) : Option (ZsaContext Q) := Table.lookup s.devices h.id

/-- `zsa_device_close`.  A null handle is refused. -/
def zsaDeviceClose (s : Sdk Q) (handle : Option DeviceHandle) : Sdk Q :=
  match handle with
  | none => s
  | some h =>
      match s.device h with
      | none => s
      | some _ =>
          { devices := s.devices.set h.id none
            allocator := s.allocator.allocatorDeinitialize }

/-- `zsa_device_open`: the handle, or nothing if it fails.  The index is not used. -/
def zsaDeviceOpen (s : Sdk Q) (containerId : Option Guid) (_index : UInt32) (o : OpenOutcome) :
    Sdk Q × Option DeviceHandle :=
  let s := { s with allocator := s.allocator.allocatorInitialize }
  if o.contextOk = false then (s.zsaDeviceClose none, none)
  else
    let handle : DeviceHandle := ⟨s.devices.length⟩
    match ZsaContext.createParts containerId o with
    | (d, .failed) =>
        let s := { s with devices := s.devices ++ [some d] }
        (s.zsaDeviceClose (some handle), none)
    | (d, .succeeded) => ({ s with devices := s.devices ++ [some d] }, some handle)

end Sdk

end ZsaSdk
