import ZsaSdk.Usbcommand.Selection

/-!
# The command interface of a device

`usb_cmd_create` takes memory, a lock, a context of libusb and a handle, and any of the steps
can fail.  Whatever fails, what has been taken is what the fields of the context say
(`UsbcmdDevice.resources`), and that is what `usb_cmd_destroy` gives back.
-/

namespace ZsaSdk

open Ledger (RefOp releaseOf acquireOf held Owns)

/-! ## What the search leaves of the context -/

namespace Search

variable (deviceIndex : UInt32) (containerId : Option Guid)

/-- The search changes the handle and the container id and no other field of the context. -/
def Selects (u u' : UsbcmdDevice) : Prop :=
  ∃ libusb id, u' = { u with libusb := libusb, containerId := id }

theorem Selects.refl (u : UsbcmdDevice) : Selects u u := ⟨_, _, rfl⟩

theorem Selects.trans {u u' u'' : UsbcmdDevice} (h : Selects u u') (h' : Selects u' u'') :
    Selects u u'' := by
  obtain ⟨_, _, rfl⟩ := h
  obtain ⟨_, _, rfl⟩ := h'
  exact ⟨_, _, rfl⟩

theorem selects_identify (s : Search) (d : UsbDevice) :
    Selects s.usbcmd (s.identify containerId d).usbcmd := by
  simp only [identify, UsbcmdDevice.populateContainerId]
  cases d.containerId with
  | none => exact ⟨_, _, rfl⟩
  | some id =>
      simp only []
      split
      · exact ⟨_, _, rfl⟩
      · exact ⟨_, _, rfl⟩

theorem selects_tryOpen (s : Search) (d : UsbDevice) :
    Selects s.usbcmd (s.tryOpen containerId d).usbcmd := by
  simp only [tryOpen]
  split
  · exact ⟨_, _, rfl⟩
  · exact Selects.trans ⟨_, _, rfl⟩ (selects_identify containerId _ d)

theorem selects_examine (s : Search) (d : UsbDevice) :
    Selects s.usbcmd (s.examine deviceIndex containerId d).usbcmd := by
  simp only [examine]
  cases d.descriptor with
  | none => exact ⟨_, _, rfl⟩
  | some desc =>
      simp only []
      split
      · exact .refl _
      · split
        · exact .refl _
        · exact selects_tryOpen containerId _ d

theorem selects_run (l : List UsbDevice) : ∀ s : Search,
    Selects s.usbcmd (s.run deviceIndex containerId l).usbcmd := by
  induction l with
  | nil => exact fun s => .refl _
  | cons d l ih =>
      intro s
      simp only [run]
      split
      · exact .refl _
      · exact (selects_examine deviceIndex containerId s d).trans (ih _)

theorem selects_finish (s : Search) : Selects s.usbcmd s.finish.usbcmd := by
  simp only [finish]
  split
  · exact .refl _
  · exact ⟨_, _, rfl⟩

end Search

/-! ## Resources of the context -/

namespace UsbcmdDevice

/-- What `libusb_init` and `libusb_open` have given to the context. -/
def libusbHeld (u : UsbcmdDevice) : Multiset UsbResource :=
  held (u.libusb.map UsbResource.handle) +
    held (if u.libusbContext then some UsbResource.context else none)

/-- What a context has to give back. -/
def resources (u : UsbcmdDevice) : Multiset UsbResource :=
  u.libusbHeld + (held (if u.lock then some UsbResource.lock else none) + {.usbcmd})

/-- `usb_cmd_destroy` gives back what the context has. -/
theorem owns_usbCmdDestroy {ops : List (RefOp UsbResource)} {m : Multiset UsbResource}
    {u : UsbcmdDevice} (h : Owns ops (u.resources + m)) : Owns (ops ++ u.usbCmdDestroy) m := by
  simp only [resources, libusbHeld, Multiset.add_assoc] at h
  have hrest := Owns.release (h.releaseOf.releaseOf.releaseOf)
  simpa only [usbCmdDestroy, List.append_assoc] using hrest

end UsbcmdDevice

section Create

variable {lib : Libusb} {u : UsbcmdDevice}

/-- A search in a list, which is empty here if it was refused. -/
theorem owns_run (list : DeviceList) (deviceIndex : UInt32) (containerId : Option Guid)
    (hu : u.libusb = none) (l : List UsbDevice) :
    let s := ((Search.start u).withContext.withList list).run deviceIndex containerId l
    Owns s.finish.log s.finish.usbcmd.libusbHeld := by
  intro s
  obtain ⟨-, hlibusb, -, -, hs, -, -, hlog⟩ := (Search.run_spec deviceIndex containerId l
    (s := (Search.start u).withContext.withList list) rfl hu).left
  obtain ⟨_, _, hselects⟩ := (Search.selects_run deviceIndex containerId l
    ((Search.start u).withContext.withList list)).trans (Search.selects_finish _)
  have hcontext : s.finish.usbcmd.libusbContext = true := by rw [hselects]; rfl
  rw [hlog, UsbcmdDevice.libusbHeld, hlibusb, hcontext, if_pos rfl]
  refine (owns_searchLog list hs _).congr ?_
  rw [Ledger.held_some, Multiset.add_comm, Multiset.singleton_add]

/-- However the search ends, it holds what the fields of the context say. -/
theorem owns_findLibusbDevice (lib : Libusb) (deviceIndex : UInt32) (containerId : Option Guid)
    (hu : u.libusb = none) (hcontext : u.libusbContext = false) :
    Owns (findLibusbDevice lib deviceIndex containerId u).1.log
      (findLibusbDevice lib deviceIndex containerId u).1.usbcmd.libusbHeld := by
  simp only [findLibusbDevice, Search.select]
  split
  · -- `libusb_init` fails.
    simp only [Search.finish, Search.start, Search.close, UsbcmdDevice.libusbHeld, hu, hcontext]
    exact Owns.nil
  · split
    · simp only [Search.finish, Search.start, Search.close, UsbcmdDevice.libusbHeld, hu,
        Search.withContext]
      exact Owns.nil.acquire
    · split
      · exact owns_run lib.list deviceIndex containerId hu lib.list.entries
      · exact owns_run lib.list deviceIndex containerId hu []

theorem lock_findLibusbDevice (lib : Libusb) (deviceIndex : UInt32) (containerId : Option Guid)
    (u : UsbcmdDevice) :
    (findLibusbDevice lib deviceIndex containerId u).1.usbcmd.lock = u.lock := by
  have hselect : ((Search.start u).select lib deviceIndex containerId).usbcmd.lock = u.lock := by
    simp only [Search.select]
    split
    · rfl
    · split
      · rfl
      · split
        · obtain ⟨_, _, h⟩ := Search.selects_run deviceIndex containerId lib.list.entries
            ((Search.start u).withContext.withList lib.list)
          rw [h]
          rfl
        · rfl
  obtain ⟨_, _, h⟩ := Search.selects_finish ((Search.start u).select lib deviceIndex containerId)
  simp only [findLibusbDevice]
  rw [h]
  exact hselect

/-- Setting the device up takes nothing. -/
theorem resources_setUp (u : UsbcmdDevice) (desc : DeviceDescriptor) (d : UsbDevice) :
    (u.setUp desc d).1.resources = u.resources := by
  simp only [UsbcmdDevice.setUp, UsbcmdDevice.populateSerialnumber]
  split
  · next h =>
    split at h
    · cases h; rfl
    · split at h
      · cases h; rfl
      · cases h
  · next h =>
    split at h
    · cases h
    · split at h
      · cases h
      · cases h; rfl

/-- At the test for failure, the context holds what its fields say. -/
theorem owns_usbCmdSelect (host : UsbHost) (type : UsbCommandDeviceType) (deviceIndex : UInt32)
    (containerId : Option Guid) :
    Owns ([.acquire .usbcmd] ++ (usbCmdSelect host type deviceIndex containerId).2.2)
      (usbCmdSelect host type deviceIndex containerId).1.resources := by
  have husbcmd : Owns [RefOp.acquire UsbResource.usbcmd] {.usbcmd} := Owns.nil.acquire
  simp only [usbCmdSelect]
  split
  · refine husbcmd.congr ?_
    simp [UsbcmdDevice.resources, UsbcmdDevice.libusbHeld, UsbcmdDevice.zero]
  · have hlock : Owns ([RefOp.acquire UsbResource.usbcmd] ++ [.acquire .lock])
        (.lock ::ₘ {.usbcmd}) := husbcmd.acquire
    have hu : ∀ type, ({ UsbcmdDevice.zero with lock := true }.configure type).libusb = none ∧
        ({ UsbcmdDevice.zero with lock := true }.configure type).libusbContext = false ∧
        ({ UsbcmdDevice.zero with lock := true }.configure type).lock = true := by
      intro type
      cases type with
      | depthProcessor => exact ⟨rfl, rfl, rfl⟩
      | colorImuProcessor => exact ⟨rfl, rfl, rfl⟩
      | unknown => exact ⟨rfl, rfl, rfl⟩
    obtain ⟨hlibusb, hcontext, hlocked⟩ := hu type
    have hfind := owns_findLibusbDevice host.lib deviceIndex containerId hlibusb hcontext
    have hkept := lock_findLibusbDevice host.lib deviceIndex containerId
      ({ UsbcmdDevice.zero with lock := true }.configure type)
    generalize findLibusbDevice host.lib deviceIndex containerId
      ({ UsbcmdDevice.zero with lock := true }.configure type) = r at hfind hkept ⊢
    have hall : Owns ([.acquire .usbcmd] ++ ([.acquire .lock] ++ r.1.log))
        r.1.usbcmd.resources := by
      rw [UsbcmdDevice.resources, hkept, hlocked, if_pos rfl, ← List.append_assoc]
      exact hlock.append_owns hfind
    obtain ⟨s, result⟩ := r
    cases result with
    | failed => exact hall
    | succeeded =>
        simp only []
        split
        · simp only [resources_setUp]
          exact hall
        · exact hall

/-- `usb_cmd_create` holds nothing if it fails, and else what its context says. -/
theorem owns_usbCmdCreate (host : UsbHost) (type : UsbCommandDeviceType) (deviceIndex : UInt32)
    (containerId : Option Guid) :
    Owns (usbCmdCreate host type deviceIndex containerId).2
      (match (usbCmdCreate host type deviceIndex containerId).1 with
      | none => 0
      | some u => u.resources) := by
  have hselect := owns_usbCmdSelect host type deviceIndex containerId
  simp only [usbCmdCreate]
  split
  · exact Owns.nil
  · split
    · exact Owns.nil
    · generalize usbCmdSelect host type deviceIndex containerId = r at hselect ⊢
      obtain ⟨u, result, log⟩ := r
      cases result with
      | failed => exact UsbcmdDevice.owns_usbCmdDestroy (by rw [Multiset.add_zero]; exact hselect)
      | succeeded => exact hselect

end Create

/-! ## A device that is available -/

/-- The serial number that the descriptors of a device lead to. -/
def UsbDevice.serialNumber (d : UsbDevice) : Option (List UInt8) :=
  match d.descriptor with
  | none => none
  | some desc => if desc.iSerialNumber = 0 then none else d.stringDescriptor desc.iSerialNumber

/-- The device can be opened and set up. -/
structure UsbDevice.Answers (d : UsbDevice) : Prop where
  opens : 0 ≤ d.libusbOpen
  containerId : d.containerId.isSome = true
  serialNumber : d.serialNumber.isSome = true
  claim : UsbcmdDevice.claim d = .succeeded

/-- The device `d` at the position `i` is the colour processor with the number `index`, and it
can be opened and set up. -/
structure Libusb.Available (lib : Libusb) (index : UInt32) (d : UsbDevice) (i : Nat) : Prop where
  init : 0 ≤ lib.init
  setOption : 0 ≤ lib.setOption
  lists : lib.list.Lists lib.list.entries
  entry : (wantedFrom zsaRgbPid 0 lib.list.entries)[index.toNat]? = some (d, i)
  answers : d.Answers

/-- The context that `usb_cmd_create` returns is that of the device. -/
structure UsbcmdDevice.IsOf (u : UsbcmdDevice) (d : UsbDevice) (i : Nat) : Prop where
  libusb : u.libusb = some i
  containerId : some u.containerId = d.containerId
  serialNumber : some u.serialNumber = d.serialNumber

/-- `populate_serialnumber` reads the serial number of the device. -/
theorem setUp_of_answers {u : UsbcmdDevice} {d : UsbDevice} {desc : DeviceDescriptor}
    (hd : d.descriptor = some desc) (h : d.Answers) :
    ∃ serialNumber, d.serialNumber = some serialNumber ∧
      u.setUp desc d = ({ u with serialNumber }, .succeeded) := by
  obtain ⟨serialNumber, hserial⟩ := Option.isSome_iff_exists.mp h.serialNumber
  refine ⟨serialNumber, hserial, ?_⟩
  simp only [UsbDevice.serialNumber, hd, Option.ite_none_left_eq_some] at hserial
  simp only [UsbcmdDevice.setUp, UsbcmdDevice.populateSerialnumber, if_neg hserial.1, hserial.2,
    h.claim]

/-- With its number given, `usb_cmd_create` opens the colour processor with that number. -/
theorem usbCmdCreate_of_available {host : UsbHost} {index : UInt32} {d : UsbDevice} {i : Nat}
    (husbcmd : host.usbcmdOk = true) (hlock : host.lockOk = true)
    (h : host.lib.Available index d i)
    (hwanted : (wantedFrom zsaRgbPid 0 host.lib.list.entries).length ≤ 255) :
    ∃ u, (usbCmdCreate host .colorImuProcessor index none).1 = some u ∧ u.IsOf d i := by
  have hleft := findLibusbDevice_left h.init h.setOption h.lists
    (u := { UsbcmdDevice.zero with lock := true }.configure .colorImuProcessor) rfl index none
  have hchosen : chosen zsaRgbPid index none host.lib.list.entries = some (d, i) := by
    rw [chosen, h.entry, Option.filter_some, if_pos]
    simp only [UsbDevice.accepts, Bool.and_eq_true, decide_eq_true_eq]
    exact ⟨h.answers.opens, h.answers.containerId⟩
  have hscan : scan zsaRgbPid index none host.lib.list.entries 0 0 = some (d, i) :=
    (scan_eq_chosen hwanted).trans hchosen
  have hmem := mem_of_chosen hchosen
  obtain ⟨desc, hdesc⟩ : ∃ desc, d.descriptor = some desc := by
    have hw : d.isWanted zsaRgbPid = true := (List.mem_filter.mp hmem).2
    cases hd : d.descriptor with
    | none => rw [UsbDevice.isWanted, hd] at hw; cases hw
    | some desc => exact ⟨desc, rfl⟩
  have hsucceeded := findLibusbDevice_succeeded host.lib index none
    ({ UsbcmdDevice.zero with lock := true }.configure .colorImuProcessor)
  generalize hr : findLibusbDevice host.lib index none
    ({ UsbcmdDevice.zero with lock := true }.configure .colorImuProcessor) = r at hleft hsucceeded
  obtain ⟨s, result⟩ := r
  replace hleft : s.Left host.lib.list (some (d, i)) := hscan ▸ hleft
  obtain rfl : result = .succeeded := hsucceeded.mpr hleft.found
  have hopened : host.lib.opened s.usbcmd = some d := by
    rw [Libusb.opened, hleft.libusb]
    exact getElem?_of_mem_wantedFrom hmem
  have hsdesc : s.desc = some desc := (hleft.desc _ rfl).trans hdesc
  obtain ⟨serialNumber, hserial, hsetUp⟩ := setUp_of_answers (u := s.usbcmd) hdesc h.answers
  have hselect : usbCmdSelect host .colorImuProcessor index none =
      ({ s.usbcmd with serialNumber }, .succeeded, [.acquire .lock] ++ s.log) := by
    simp only [usbCmdSelect, hlock, Bool.true_eq_false, if_false, hr, hsdesc, hopened, hsetUp]
  have hid : some s.usbcmd.containerId = d.containerId := hleft.containerId (d, i) rfl
  refine ⟨{ s.usbcmd with serialNumber }, ?_, hleft.libusb, hid, hserial.symm⟩
  simp only [usbCmdCreate, husbcmd, hselect, Bool.true_eq_false, if_false, reduceCtorEq]

end ZsaSdk
