import ZsaSdk.Device.Sessions
import ZsaSdk.Usbcommand.Creation

/-!
# Opening a device by its index

`zsa_device_open` together with the creation of the microcontroller in `color_mcu.c` and the
search for its USB device.

The index that `zsa_device_open` is called with reaches none of the parts.  `colormcu_create` is
called with a null container id and asks for the device with the number `NULL_INDEX`, and
`color_create` refuses a null container id.  `colormcu_create_by_index`, which would use the
index, is not called.
-/

namespace ZsaSdk

open Ledger (RefOp Owns)

/-! ## The microcontroller -/

/-- `NULL_INDEX` -/
def nullIndex : UInt32 := 0xFF

/-- The body of `colormcu_create` and of `colormcu_create_by_index`: the command interface, or
nothing if it fails, and what has been taken. -/
def colormcuCreateWith (host : UsbHost) (deviceIndex : UInt32) (containerId : Option Guid) :
    Option UsbcmdDevice × List (RefOp UsbResource) :=
  if host.colormcuOk = false then (none, [])
  else
    match usbCmdCreate host .colorImuProcessor deviceIndex containerId with
    | (none, log) => (none, [.acquire .colormcu] ++ log ++ [.release .colormcu])
    | (some u, log) => (some u, [.acquire .colormcu] ++ log)

/-- `colormcu_create` -/
def colormcuCreate (host : UsbHost) (containerId : Option Guid) :
    Option UsbcmdDevice × List (RefOp UsbResource) :=
  colormcuCreateWith host nullIndex containerId

/-- `colormcu_create_by_index` -/
def colormcuCreateByIndex (host : UsbHost) (deviceIndex : UInt32) :
    Option UsbcmdDevice × List (RefOp UsbResource) :=
  colormcuCreateWith host deviceIndex none

/-- What `colormcu_destroy` gives back, of a handle that may be null. -/
def colormcuDestroy : Option UsbcmdDevice → List (RefOp UsbResource)
  | none => []
  | some u => u.usbCmdDestroy ++ [.release .colormcu]

/-! ## Opening a device -/

/-- What `zsa_device_open` leaves behind. -/
structure OpenReturn (Q : Type) where
  sdk : Sdk Q
  handle : Option DeviceHandle
  /-- The microcontroller of the device. -/
  colormcu : Option UsbcmdDevice
  /-- The container id and the serial number that the colour camera was created with. -/
  camera : Option (Option Guid × List UInt8)
  log : List (RefOp UsbResource)

variable {Q : Type} [QueueApi Q]

/-- `zsa_device_open`, with the search for the microcontroller.  `serialNumber` is what is in the
array of that name, which is not initialised. -/
def Sdk.zsaDeviceOpenOn (s : Sdk Q) (index : UInt32) (host : UsbHost) (serialNumber : List UInt8)
    (o : OpenOutcome) : OpenReturn Q :=
  let containerId : Option Guid := none
  let (colormcu, log) :=
    if o.contextOk = true ∧ o.tickOk = true then colormcuCreate host containerId else (none, [])
  match s.zsaDeviceOpen containerId index { o with colormcuOk := colormcu.isSome } with
  | (s, none) => ⟨s, none, none, none, log ++ colormcuDestroy colormcu⟩
  | (s, some handle) => ⟨s, some handle, colormcu, some (containerId, serialNumber), log⟩

/-! ## Ledgers -/

/-- What a microcontroller that was created holds. -/
def colormcuHeld : Option UsbcmdDevice → Multiset UsbResource
  | none => 0
  | some u => u.resources + {.colormcu}

theorem owns_colormcuCreateWith (host : UsbHost) (deviceIndex : UInt32)
    (containerId : Option Guid) :
    Owns (colormcuCreateWith host deviceIndex containerId).2
      (colormcuHeld (colormcuCreateWith host deviceIndex containerId).1) := by
  have hcolormcu : Owns [RefOp.acquire UsbResource.colormcu] {.colormcu} := Owns.nil.acquire
  have hcreate := hcolormcu.append_owns
    (owns_usbCmdCreate host .colorImuProcessor deviceIndex containerId)
  simp only [colormcuCreateWith]
  split
  · exact Owns.nil
  · generalize usbCmdCreate host .colorImuProcessor deviceIndex containerId = r at hcreate ⊢
    obtain ⟨u, log⟩ := r
    cases u with
    | none =>
        simp only [Multiset.zero_add] at hcreate
        exact hcreate.release
    | some u => exact hcreate

theorem owns_colormcuDestroy {ops : List (RefOp UsbResource)} {u : Option UsbcmdDevice}
    (h : Owns ops (colormcuHeld u)) : Owns (ops ++ colormcuDestroy u) 0 := by
  cases u with
  | none => simpa [colormcuDestroy, colormcuHeld] using h
  | some u =>
      have hdestroy : Owns (ops ++ u.usbCmdDestroy ++ [.release .colormcu]) 0 :=
        (UsbcmdDevice.owns_usbCmdDestroy h).release
      rw [List.append_assoc] at hdestroy
      exact hdestroy

/-- With its number given, the colour processor with that number is opened. -/
theorem colormcuCreateByIndex_of_available {host : UsbHost} {index : UInt32} {d : UsbDevice}
    {i : Nat} (hcolormcu : host.colormcuOk = true) (husbcmd : host.usbcmdOk = true)
    (hlock : host.lockOk = true) (h : host.lib.Available index d i)
    (hwanted : (wantedFrom zsaRgbPid 0 host.lib.list.entries).length ≤ 255) :
    ∃ u, (colormcuCreateByIndex host index).1 = some u ∧ u.IsOf d i := by
  obtain ⟨u, hu, hof⟩ := usbCmdCreate_of_available husbcmd hlock h hwanted
  refine ⟨u, ?_, hof⟩
  simp only [colormcuCreateByIndex, colormcuCreateWith, hcolormcu, Bool.true_eq_false, if_false]
  generalize usbCmdCreate host .colorImuProcessor index none = r at hu ⊢
  obtain ⟨v, log⟩ := r
  cases hu
  rfl

/-! ## The device with the index -/

/-- The allocations, the tick counter, the synchroniser and the camera do not fail. -/
structure OpenOutcome.Succeeds (o : OpenOutcome) (host : UsbHost) : Prop where
  contextOk : o.contextOk = true
  tickOk : o.tickOk = true
  capturesyncOk : o.capturesyncOk = true
  color : o.color = ⟨true, true, ⟨true, true, true⟩⟩
  colormcuOk : host.colormcuOk = true
  usbcmdOk : host.usbcmdOk = true
  lockOk : host.lockOk = true

namespace OpenReturn

/-- The device is opened: the microcontroller is that of the USB device `d`, and the camera has
been created with its container id and its serial number. -/
structure OpensDevice (r : OpenReturn Q) (d : UsbDevice) (i : Nat) : Prop where
  handle : r.handle.isSome = true
  colormcu : ∃ u, r.colormcu = some u ∧ u.IsOf d i
  camera : ∃ id serialNumber, r.camera = some (id, serialNumber) ∧ id = d.containerId ∧
    some serialNumber = d.serialNumber

/-- The call fails, and nothing is left of it. -/
structure FailsCleanly (r : OpenReturn Q) (s : Sdk Q) : Prop where
  handle : r.handle = none
  devices : ∀ h, r.sdk.device h = s.device h
  allocator : r.sdk.allocator = s.allocator
  released : Owns r.log 0

/-- The device with the index is opened if it is available, and else the call fails. -/
def OpensIndex (r : OpenReturn Q) (s : Sdk Q) (lib : Libusb) (index : UInt32) : Prop :=
  (∀ d i, lib.Available index d i → r.OpensDevice d i) ∧
  ((∀ d i, ¬ lib.Available index d i) → r.FailsCleanly s)

end OpenReturn

/-- Without a container id the parts of a device are never complete. -/
theorem createParts_none (o : OpenOutcome) :
    (ZsaContext.createParts none o : ZsaContext Q × Result).2 = .failed := by
  simp only [ZsaContext.createParts, ColorContext.colorCreate]
  split
  · rfl
  · split
    · rfl
    · split
      · rfl
      · rfl

/-- Without a container id a device that gets its context is closed again. -/
theorem Sdk.zsaDeviceOpen_none (s : Sdk Q) (index : UInt32) {o : OpenOutcome}
    (h : o.contextOk = true) :
    s.zsaDeviceOpen none index o =
      (⟨s.devices ++ [none], s.allocator.allocatorInitialize.allocatorDeinitialize⟩, none) := by
  rcases s.zsaDeviceOpen_cases none index o with ⟨hc, -⟩ | ⟨-, he⟩ | ⟨d, -, he⟩
  · rw [h] at hc
    cases hc
  · exact he
  · have hfailed : (ZsaContext.createParts none o : ZsaContext Q × Result).2 = .failed :=
      createParts_none o
    simp only [Sdk.zsaDeviceOpen, h, Bool.true_eq_false, if_false] at he
    generalize (ZsaContext.createParts none o : ZsaContext Q × Result) = parts at he hfailed
    obtain ⟨d', result⟩ := parts
    obtain rfl : result = .failed := hfailed
    cases congrArg Prod.snd he

/-- Whatever is attached, `zsa_device_open` fails, and gives back what it has taken. -/
theorem Sdk.zsaDeviceOpenOn_failsCleanly (s : Sdk Q) (index : UInt32) (host : UsbHost)
    (serialNumber : List UInt8) {o : OpenOutcome} (h : o.contextOk = true) :
    (s.zsaDeviceOpenOn index host serialNumber o).FailsCleanly s := by
  have howns : ∀ b : Bool, Owns
      ((if b then colormcuCreate host none else (none, [])).2 ++
        colormcuDestroy (if b then colormcuCreate host none else (none, [])).1) 0 := by
    intro b
    cases b with
    | false => exact Owns.nil
    | true => exact owns_colormcuDestroy (owns_colormcuCreateWith host nullIndex none)
  have hopen := s.zsaDeviceOpen_none index (o := { o with colormcuOk :=
    (if o.contextOk = true ∧ o.tickOk = true then colormcuCreate host none else
      (none, [])).1.isSome }) h
  simp only [zsaDeviceOpenOn, hopen]
  refine ⟨rfl, fun h => Table.lookup_append_none _ _, ?_, ?_⟩
  · simp [Allocator.allocatorInitialize, Allocator.allocatorDeinitialize]
  · have := howns (decide (o.contextOk = true ∧ o.tickOk = true))
    simpa only [decide_eq_true_eq] using this

/-- `zsa_device_open` does what its index asks for exactly if there is no device to open. -/
theorem device_open_by_index_iff (s : Sdk Q) (index : UInt32) (host : UsbHost)
    (serialNumber : List UInt8) (o : OpenOutcome) (ho : o.Succeeds host) :
    (s.zsaDeviceOpenOn index host serialNumber o).OpensIndex s host.lib index ↔
      ∀ d i, ¬ host.lib.Available index d i := by
  have hfails := s.zsaDeviceOpenOn_failsCleanly index host serialNumber ho.contextOk
  constructor
  · intro h d i hd
    have hopens := (h.1 d i hd).handle
    rw [hfails.handle] at hopens
    cases hopens
  · intro h
    exact ⟨fun d i hd => absurd hd (h d i), fun _ => hfails⟩

/-- One colour processor is attached, and every call goes through. -/
def oneCamera : UsbHost :=
  ⟨true, true, true, ⟨0, 0, .devices [sampleDevice zsaRgbPid Guid.zero]⟩⟩

theorem oneCamera_succeeds : (OpenOutcome.ok emptyHeap).Succeeds oneCamera :=
  ⟨rfl, rfl, rfl, rfl, rfl, rfl, rfl⟩

/-- There is no second camera, and asking for it fails as it should. -/
theorem device_open_second_of_one :
    (OpenOutcome.ok emptyHeap).Succeeds oneCamera ∧
    ((SdkRun.initial : SdkRun QueueContext).sdk.zsaDeviceOpenOn 1 oneCamera []
      (.ok emptyHeap)).OpensIndex SdkRun.initial.sdk oneCamera.lib 1 := by
  refine ⟨oneCamera_succeeds,
    (device_open_by_index_iff _ 1 oneCamera [] _ oneCamera_succeeds).mpr ?_⟩
  intro d i h
  have hentry := h.entry
  cases hentry

/-- The first camera is there, and opening it fails. -/
theorem attached_camera_not_opened :
    ¬ ((SdkRun.initial : SdkRun QueueContext).sdk.zsaDeviceOpenOn 0 oneCamera []
      (.ok emptyHeap)).OpensIndex SdkRun.initial.sdk oneCamera.lib 0 := by
  intro h
  have havailable : oneCamera.lib.Available 0 (sampleDevice zsaRgbPid Guid.zero) 0 :=
    ⟨by decide, by decide, ⟨rfl, by decide⟩, rfl, by decide, rfl, rfl, rfl⟩
  have hopens := (h.1 _ _ havailable).handle
  rw [(SdkRun.initial.sdk.zsaDeviceOpenOn_failsCleanly 0 oneCamera [] rfl).handle] at hopens
  cases hopens

end ZsaSdk
