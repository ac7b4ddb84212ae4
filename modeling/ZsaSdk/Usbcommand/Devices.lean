import ZsaSdk.Lib.Ledger
import ZsaSdk.Types
import ZsaSdk.Usbcommand.Model

/-!
# Finding a device

The part of `usbcommand.c` that looks for devices: `find_libusb_device`, which opens one of
the attached devices, `usb_cmd_create` around it, and `usb_cmd_get_device_count`.

*libusb.*  `Libusb` says how the calls of the library end.  An entry of the device list is what
the library answers about one attached device.  A result of libusb is an integer, negative for
an error.

*Resources.*  What is taken from the library and given back to it is recorded in a ledger, in
the order of the calls.  `libusb_close(NULL)` and `libusb_free_device_list(NULL)` do nothing.  A
failed `libusb_open` leaves the handle null.

*Handles.*  A handle is named by the position of its device in the device list.

Logging, and the counts that only choose a log message, are left out.
-/

namespace ZsaSdk

open Ledger (RefOp releaseOf acquireOf)

/-! ## What libusb answers -/

/-- `ZSA_MSFT_VID` -/
def zsaMsftVid : UInt16 := 0x045E

/-- `ZSA_RGB_PID` -/
def zsaRgbPid : UInt16 := 0x097D

/-- `ZSA_DEPTH_PID` -/
def zsaDepthPid : UInt16 := 0x097C

/-- `LIBUSB_BT_CONTAINER_ID` -/
def libusbBtContainerId : UInt8 := 4

/-- `ZSA_RESULT_FROM_LIBUSB` -/
def Result.ofLibusb (err : Int) : Result := if err < 0 then .failed else .succeeded

theorem Result.ofLibusb_ne_failed {err : Int} (h : 0 ≤ err) : ofLibusb err ≠ .failed := by
  rw [ofLibusb, if_neg (by omega)]
  exact nofun

/-- The fields of a `libusb_device_descriptor` that are read. -/
structure DeviceDescriptor where
  idVendor : UInt16
  idProduct : UInt16
  iSerialNumber : UInt8
deriving DecidableEq, Repr

/-- A device capability of a `libusb_bos_descriptor`, with the id that
`libusb_get_container_id_descriptor` reads from it. -/
structure DeviceCapability where
  bDevCapabilityType : UInt8
  containerId : Option Guid
deriving DecidableEq, Repr

/-- An entry of the device list. -/
structure UsbDevice where
  descriptor : Option DeviceDescriptor
  libusbOpen : Int
  /-- The capabilities of the descriptor that `libusb_get_bos_descriptor` reads. -/
  bos : Option (List DeviceCapability)
  /-- `libusb_get_string_descriptor_ascii` -/
  stringDescriptor : UInt8 → Option (List UInt8)
  /-- `libusb_get_configuration` -/
  configuration : Option Int
  setConfiguration : Int
  kernelDriverActive : Int
  detachKernelDriver : Int
  claimInterface : Int

/-- What `libusb_get_device_list` returns: an error, which is negative, or a list. -/
inductive DeviceList where
  | error (code : Nat)
  | devices (l : List UsbDevice)

/-- The value that `libusb_get_device_list` returns. -/
def DeviceList.count : DeviceList → Int
  | .error code => Int.negSucc code
  | .devices l => l.length

/-- The list behind `dev_list`. -/
def DeviceList.entries : DeviceList → List UsbDevice
  | .error _ => []
  | .devices l => l

/-- How the calls of libusb end that concern no single device. -/
structure Libusb where
  init : Int
  setOption : Int
  list : DeviceList

/-- What is taken and given back. -/
inductive UsbResource where
  /-- The memory of a `colormcu_t`. -/
  | colormcu
  /-- The memory of a `usbcmd_t`. -/
  | usbcmd
  | lock
  /-- A `libusb_context`. -/
  | context
  | deviceList
  | handle (device : Nat)
deriving DecidableEq, Repr

/-- The list that `libusb_get_device_list` leaves behind `dev_list`. -/
def DeviceList.resource : DeviceList → Option UsbResource
  | .error _ => none
  | .devices _ => some .deviceList

/-! ## Selecting a device -/

/-- The part of `usbcmd_context_t` that creating it fills in. -/
structure UsbcmdDevice where
  pid : UInt16
  interface : UInt8
  lock : Bool
  libusbContext : Bool
  /-- The device whose handle is in `libusb`. -/
  libusb : Option Nat
  containerId : Guid
  serialNumber : List UInt8
deriving DecidableEq, Repr

/-- A context as `calloc` returns it. -/
def UsbcmdDevice.zero : UsbcmdDevice := ⟨0, 0, false, false, none, Guid.zero, []⟩

/-- The container id that the capabilities of a device hold: that of the first capability with
the type of one. -/
def UsbDevice.containerId (d : UsbDevice) : Option Guid :=
  match d.bos with
  | none => none
  | some caps =>
      match caps.find? (fun cap => cap.bDevCapabilityType == libusbBtContainerId) with
      | none => none
      | some cap => cap.containerId

/-- `populate_container_id`, with the handle of the device `d`. -/
def UsbcmdDevice.populateContainerId (u : UsbcmdDevice) (d : UsbDevice) :
    UsbcmdDevice × Result :=
  match d.containerId with
  | none => (u, .failed)
  | some id => ({ u with containerId := id }, .succeeded)

/-- The loop of `find_libusb_device`. -/
structure Search where
  usbcmd : UsbcmdDevice
  /-- What has been written to `desc`. -/
  desc : Option DeviceDescriptor
  devList : Option UsbResource
  loop : Nat
  listIndex : UInt8
  found : Bool
  log : List (RefOp UsbResource)

namespace Search

/-- `libusb_close(usbcmd->libusb); usbcmd->libusb = NULL;` -/
def close (s : Search) : Search :=
  { s with
    usbcmd := { s.usbcmd with libusb := none }
    log := s.log ++ releaseOf (s.usbcmd.libusb.map UsbResource.handle) }

/-- The container id is looked up and compared, and the handle is closed if it is not the one
that is wanted. -/
def identify (s : Search) (containerId : Option Guid) (d : UsbDevice) : Search :=
  match s.usbcmd.populateContainerId d with
  | (u, .failed) => { s with usbcmd := u }.close
  | (u, .succeeded) =>
      let s := { s with usbcmd := u }
      if containerId = none ∨ containerId = some u.containerId then { s with found := true }
      else s.close

/-- The device is opened.  A failure ends the iteration. -/
def tryOpen (s : Search) (containerId : Option Guid) (d : UsbDevice) : Search :=
  let s := { s with usbcmd := { s.usbcmd with libusb := none } }
  if d.libusbOpen < 0 then s
  else
    let s : Search := { s with
      usbcmd := { s.usbcmd with libusb := some s.loop }
      log := s.log ++ [.acquire (.handle s.loop)] }
    s.identify containerId d

/-- The body of the loop.  A descriptor that cannot be read skips every test but the last. -/
def examine (s : Search) (deviceIndex : UInt32) (containerId : Option Guid) (d : UsbDevice) :
    Search :=
  match d.descriptor with
  | none => { s with usbcmd := { s.usbcmd with libusb := none } }.close
  | some desc =>
      let s := { s with desc := some desc }
      if desc.idVendor ≠ zsaMsftVid ∨ desc.idProduct ≠ s.usbcmd.pid then s
      else
        let index := s.listIndex
        let s := { s with listIndex := s.listIndex + 1 }
        if deviceIndex ≠ index.toUInt32 ∧ containerId = none then s
        else s.tryOpen containerId d

/-- `loop++` -/
def next (s : Search) : Search := { s with loop := s.loop + 1 }

/-- `for (int loop = 0; loop < count && found == false; loop++)` -/
def run (deviceIndex : UInt32) (containerId : Option Guid) : List UsbDevice → Search → Search
  | [], s => s
  | d :: l, s =>
      if s.found then s
      else run deviceIndex containerId l (s.examine deviceIndex containerId d).next

/-- The state before the first call of libusb. -/
def start (u : UsbcmdDevice) : Search := ⟨u, none, none, 0, 0, false, []⟩

/-- `libusb_init` has succeeded. -/
def withContext (s : Search) : Search :=
  { s with
    usbcmd := { s.usbcmd with libusbContext := true }
    log := s.log ++ [.acquire .context] }

/-- `libusb_get_device_list` has returned. -/
def withList (s : Search) (l : DeviceList) : Search :=
  { s with devList := l.resource, log := s.log ++ acquireOf l.resource }

/-- What `find_libusb_device` does while `result` is a success. -/
def select (s : Search) (lib : Libusb) (deviceIndex : UInt32) (containerId : Option Guid) :
    Search :=
  if Result.ofLibusb lib.init = .failed then s
  else if Result.ofLibusb lib.setOption = .failed then s.withContext
  else if lib.list.count < int32Max ∧ lib.list.count ≠ 0 then
    (s.withContext.withList lib.list).run deviceIndex containerId lib.list.entries
  else s.withContext.withList lib.list

/-- The handle is closed unless the device was found, and the list is freed. -/
def finish (s : Search) : Search :=
  let s := if s.found then s else s.close
  { s with log := s.log ++ releaseOf s.devList }

end Search

/-- `find_libusb_device`: the result, and in `usbcmd` and `desc` what it leaves behind. -/
def findLibusbDevice (lib : Libusb) (deviceIndex : UInt32) (containerId : Option Guid)
    (u : UsbcmdDevice) : Search × Result :=
  let s := ((Search.start u).select lib deviceIndex containerId).finish
  (s, if s.found then .succeeded else .failed)

/-! ## Creating and destroying the command interface -/

/-- `usb_command_device_type_t` -/
inductive UsbCommandDeviceType where
  | depthProcessor
  | colorImuProcessor
  /-- `USB_DEVICE_TYPE_COUNT` and what is above it. -/
  | unknown
deriving DecidableEq, Repr

/-- `USB_CMD_DEPTH_INTERFACE` -/
def usbCmdDepthInterface : UInt8 := 0

/-- `USB_CMD_IMU_INTERFACE` -/
def usbCmdImuInterface : UInt8 := 2

/-- `USB_CMD_DEFAULT_CONFIG` -/
def usbCmdDefaultConfig : Int := 1

/-- What happens while the command interface of the microcontroller is created. -/
structure UsbHost where
  colormcuOk : Bool
  usbcmdOk : Bool
  lockOk : Bool
  lib : Libusb

namespace UsbcmdDevice

/-- The ids of a type of device. -/
def configure (u : UsbcmdDevice) : UsbCommandDeviceType → UsbcmdDevice
  | .depthProcessor => { u with pid := zsaDepthPid, interface := usbCmdDepthInterface }
  | _ => { u with pid := zsaRgbPid, interface := usbCmdImuInterface }

/-- `populate_serialnumber` -/
def populateSerialnumber (u : UsbcmdDevice) (desc : DeviceDescriptor) (d : UsbDevice) :
    UsbcmdDevice × Result :=
  if desc.iSerialNumber = 0 then (u, .failed)
  else
    match d.stringDescriptor desc.iSerialNumber with
    | none => (u, .failed)
    | some serialNumber => ({ u with serialNumber }, .succeeded)

/-- The configuration is set, a kernel driver is detached and the interface is claimed. -/
def claim (d : UsbDevice) : Result :=
  match d.configuration with
  | none => .failed
  | some activeConfig =>
      if activeConfig ≠ usbCmdDefaultConfig ∧ Result.ofLibusb d.setConfiguration = .failed then
        .failed
      else if d.kernelDriverActive = 1 ∧ Result.ofLibusb d.detachKernelDriver = .failed then
        .failed
      else Result.ofLibusb d.claimInterface

/-- What `usb_cmd_create` does with the device that was opened. -/
def setUp (u : UsbcmdDevice) (desc : DeviceDescriptor) (d : UsbDevice) : UsbcmdDevice × Result :=
  match u.populateSerialnumber desc d with
  | (u, .failed) => (u, .failed)
  | (u, .succeeded) => (u, claim d)

/-- What `usb_cmd_destroy` gives back. -/
def usbCmdDestroy (u : UsbcmdDevice) : List (RefOp UsbResource) :=
  releaseOf (u.libusb.map UsbResource.handle) ++
    releaseOf (if u.libusbContext then some .context else none) ++
    releaseOf (if u.lock then some .lock else none) ++ [.release .usbcmd]

end UsbcmdDevice

/-- The device whose handle is in `libusb`. -/
def Libusb.opened (lib : Libusb) (u : UsbcmdDevice) : Option UsbDevice :=
  match u.libusb with
  | none => none
  | some i => lib.list.entries[i]?

/-- The part of `usb_cmd_create` after the allocation, up to the test for failure. -/
def usbCmdSelect (host : UsbHost) (type : UsbCommandDeviceType) (deviceIndex : UInt32)
    (containerId : Option Guid) : UsbcmdDevice × Result × List (RefOp UsbResource) :=
  if host.lockOk = false then (.zero, .failed, [])
  else
    let u := { UsbcmdDevice.zero with lock := true }.configure type
    match findLibusbDevice host.lib deviceIndex containerId u with
    | (s, .failed) => (s.usbcmd, .failed, [.acquire .lock] ++ s.log)
    | (s, .succeeded) =>
        match s.desc, host.lib.opened s.usbcmd with
        | some desc, some d =>
            let (u, result) := s.usbcmd.setUp desc d
            (u, result, [.acquire .lock] ++ s.log)
        | _, _ => (s.usbcmd, .failed, [.acquire .lock] ++ s.log)

/-- `usb_cmd_create`: the context, or nothing if it fails, and what it has taken. -/
def usbCmdCreate (host : UsbHost) (type : UsbCommandDeviceType) (deviceIndex : UInt32)
    (containerId : Option Guid) : Option UsbcmdDevice × List (RefOp UsbResource) :=
  if type = .unknown then (none, [])
  else if host.usbcmdOk = false then (none, [])
  else
    match usbCmdSelect host type deviceIndex containerId with
    | (u, .failed, log) => (none, [.acquire .usbcmd] ++ log ++ u.usbCmdDestroy)
    | (u, .succeeded, log) => (some u, [.acquire .usbcmd] ++ log)

end ZsaSdk
