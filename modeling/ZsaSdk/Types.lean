import Mathlib.Logic.Basic

/-!
# Result codes, handles and the device configuration

The parts of `zsatypes.h` the synchroniser, its queues and the device use.

A handle is the identity of an object, never its address: an address that is
used again after its object was freed is a new handle here.  A null handle is
`none` of `Option`.
-/

namespace ZsaSdk

/-- `zsa_result_t` -/
inductive Result where
  | succeeded
  | failed
deriving DecidableEq, Repr

/-- `zsa_wait_result_t` -/
inductive WaitResult where
  | succeeded
  | failed
  | timeout
deriving DecidableEq, Repr

/-- A non-null `zsa_capture_t`. -/
structure CaptureHandle where
  /-- The identity of the object. -/
  id : Nat
deriving DecidableEq, Repr, Inhabited

/-- A non-null `zsa_image_t`. -/
structure ImageHandle where
  /-- The identity of the object. -/
  id : Nat
deriving DecidableEq, Repr, Inhabited

/-- `guid_t` -/
structure Guid where
  id : Vector UInt8 16
deriving DecidableEq, Repr

def Guid.zero : Guid := ⟨Vector.replicate 16 0⟩

/-! ## The device configuration -/

/-- `zsa_fps_t`.  The field is a C enumeration, so a caller can store a value that
names no rate. -/
inductive Fps where
  | framesPerSecond5
  | framesPerSecond15
  | framesPerSecond30
  | unknown (value : Int32)
deriving DecidableEq, Repr

/-- `zsa_color_resolution_t` -/
inductive ColorResolution where
  | off
  | r720p
  | r1080p
  | r1440p
  | r1536p
  | r2160p
  | r3072p
  | unknown (value : Int32)
deriving DecidableEq, Repr

/-- `zsa_depth_mode_t` -/
inductive DepthMode where
  | off
  | nfov2x2Binned
  | nfovUnbinned
  | wfov2x2Binned
  | wfovUnbinned
  | passiveIr
deriving DecidableEq, Repr

/-- The fields of `zsa_device_configuration_t` the synchroniser reads. -/
structure DeviceConfiguration where
  colorResolution : ColorResolution
  depthMode : DepthMode
  cameraFps : Fps
  synchronizedImagesOnly : Bool
  depthDelayOffColorUsec : Int32
deriving DecidableEq, Repr

/-- `zsa_image_format_t` -/
inductive ImageFormat where
  | colorMjpg
  | colorNv12
  | colorYuy2
  | colorBgra32
  | depth16
  | ir16
  | custom8
  | custom16
  | custom
  | unknown (value : Int32)
deriving DecidableEq, Repr

/-- `zsa_wired_sync_mode_t` -/
inductive WiredSyncMode where
  | standalone
  | master
  | subordinate
  | unknown (value : Int32)
deriving DecidableEq, Repr

/-- `zsa_device_configuration_t`, with the fields the colour camera and its microcontroller
read. -/
structure CameraConfiguration extends DeviceConfiguration where
  colorFormat : ImageFormat
  wiredSyncMode : WiredSyncMode
  subordinateDelayOffMasterUsec : UInt32
  disableStreamingIndicator : Bool
deriving DecidableEq, Repr

/-- `zsa_convert_fps_to_uint`.  A value that names no rate fails an assertion in a
debug build and gives 0 otherwise. -/
def convertFpsToUint : Fps → UInt32
  | .framesPerSecond5 => 5
  | .framesPerSecond15 => 15
  | .framesPerSecond30 => 30
  | .unknown _ => 0

end ZsaSdk
