import Mathlib.Data.List.TakeWhile
import ZsaSdk.Usbcommand.Selection

/-!
# Counting the devices

`usb_cmd_get_device_count` counts the colour and the depth processors that are attached and
returns the larger number.

The function leaves in several ways, and not each of them gives everything back or resets the
count.  `AllOrNothing` says what a call has to do whatever libusb answers, and `CountsWell` what
libusb has to answer for that.
-/

namespace ZsaSdk

open Ledger (RefOp acquireOf Owns)

/-! ## The function -/

/-- `color_device_count` and `depth_device_count`. -/
structure DeviceCount where
  colorDeviceCount : UInt32
  depthDeviceCount : UInt32
deriving DecidableEq, Repr

namespace DeviceCount

/-- One device more, if it has the vendor id and one of the product ids. -/
def add (c : DeviceCount) (desc : DeviceDescriptor) : DeviceCount :=
  if desc.idVendor = zsaMsftVid then
    if desc.idProduct = zsaRgbPid then { c with colorDeviceCount := c.colorDeviceCount + 1 }
    else if desc.idProduct = zsaDepthPid then
      { c with depthDeviceCount := c.depthDeviceCount + 1 }
    else c
  else c

/-- The loop over the list.  A descriptor that cannot be read ends it with a failure. -/
def count : List UsbDevice → DeviceCount → DeviceCount × Result
  | [], c => (c, .succeeded)
  | d :: l, c =>
      match d.descriptor with
      | none => (c, .failed)
      | some desc => count l (c.add desc)

/-- The larger of the two counts. -/
def larger (c : DeviceCount) : UInt32 :=
  if c.colorDeviceCount > c.depthDeviceCount then c.colorDeviceCount else c.depthDeviceCount

end DeviceCount

/-- What `usb_cmd_get_device_count` returns, what it has stored behind its pointer, and what it
has taken and given back. -/
structure CountReturn where
  result : Result
  deviceCount : Option UInt32
  log : List (RefOp UsbResource)
deriving DecidableEq, Repr

/-- `usb_cmd_get_device_count`, with a pointer that may be null.  The list that is freed at the
end is whatever `dev_list` holds: it is not initialised, and an error leaves it so. -/
def usbCmdGetDeviceCount (pDeviceCount : Bool) (lib : Libusb) : CountReturn :=
  if pDeviceCount = false then ⟨.failed, none, []⟩
  else if lib.init < 0 then ⟨.failed, some 0, []⟩
  else
    let log := [.acquire .context] ++ acquireOf lib.list.resource
    if lib.list.count > int32Max then ⟨.failed, some 0, log⟩
    else if lib.list.count = 0 then ⟨.failed, some 0, log⟩
    else
      let (c, result) := DeviceCount.count lib.list.entries ⟨0, 0⟩
      ⟨result, some c.larger, log ++ [.release .deviceList, .release .context]⟩

/-! ## What is counted -/

/-- The descriptor can be read. -/
def UsbDevice.isReadable (d : UsbDevice) : Bool := d.descriptor.isSome

/-- The entries before the first one that cannot be read. -/
def readablePrefix (l : List UsbDevice) : List UsbDevice := l.takeWhile UsbDevice.isReadable

/-- The number of entries with the vendor id and a product id. -/
def attached (pid : UInt16) (l : List UsbDevice) : Nat := l.countP (UsbDevice.isWanted pid)

namespace DeviceCount

variable {d : UsbDevice} {desc : DeviceDescriptor}

theorem isWanted_of_descriptor (h : d.descriptor = some desc) (pid : UInt16) :
    d.isWanted pid = true ↔ desc.idVendor = zsaMsftVid ∧ desc.idProduct = pid := by
  simp only [UsbDevice.isWanted, h, Bool.and_eq_true, beq_iff_eq]

/-- A device is counted once, under the product id that it has. -/
theorem add_spec (h : d.descriptor = some desc) (c : DeviceCount) :
    c.add desc =
      ⟨c.colorDeviceCount + UInt32.ofNat (attached zsaRgbPid [d]),
        c.depthDeviceCount + UInt32.ofNat (attached zsaDepthPid [d])⟩ := by
  have hrgb := isWanted_of_descriptor h zsaRgbPid
  have hdepth := isWanted_of_descriptor h zsaDepthPid
  simp only [add, attached, List.countP_singleton]
  by_cases hv : desc.idVendor = zsaMsftVid
  · by_cases hp : desc.idProduct = zsaRgbPid
    · have hne : desc.idProduct ≠ zsaDepthPid := by rw [hp]; decide
      rw [if_pos hv, if_pos hp, if_pos (hrgb.mpr ⟨hv, hp⟩), if_neg fun hw => hne (hdepth.mp hw).2]
      simp
    · rw [if_pos hv, if_neg hp, if_neg fun hw => hp (hrgb.mp hw).2]
      by_cases hq : desc.idProduct = zsaDepthPid
      · rw [if_pos hq, if_pos (hdepth.mpr ⟨hv, hq⟩)]
        simp
      · rw [if_neg hq, if_neg fun hw => hq (hdepth.mp hw).2]
        simp
  · rw [if_neg hv, if_neg fun hw => hv (hrgb.mp hw).1, if_neg fun hw => hv (hdepth.mp hw).1]
    simp

theorem attached_cons (pid : UInt16) (d : UsbDevice) (l : List UsbDevice) :
    attached pid (d :: l) = attached pid [d] + attached pid l := by
  rw [attached, attached, attached, List.countP_cons, List.countP_singleton, Nat.add_comm]

/-- The loop counts the entries that it can read before the first one that it cannot, and
succeeds if there is no such one. -/
theorem count_spec (l : List UsbDevice) : ∀ c : DeviceCount,
    count l c =
      (⟨c.colorDeviceCount + UInt32.ofNat (attached zsaRgbPid (readablePrefix l)),
        c.depthDeviceCount + UInt32.ofNat (attached zsaDepthPid (readablePrefix l))⟩,
        if l.all UsbDevice.isReadable then .succeeded else .failed) := by
  induction l with
  | nil => intro c; simp [count, readablePrefix, attached]
  | cons d l ih =>
      intro c
      cases hd : d.descriptor with
      | none =>
          have hread : d.isReadable = false := by rw [UsbDevice.isReadable, hd]; rfl
          simp [count, hd, readablePrefix, hread, attached]
      | some desc =>
          have hread : d.isReadable = true := by rw [UsbDevice.isReadable, hd]; rfl
          have hprefix : readablePrefix (d :: l) = d :: readablePrefix l := by
            rw [readablePrefix, List.takeWhile_cons, if_pos hread]
            rfl
          have hall : (d :: l).all UsbDevice.isReadable = l.all UsbDevice.isReadable := by
            rw [List.all_cons, hread, Bool.true_and]
          simp only [count, hd]
          rw [ih, add_spec hd, hprefix, hall, attached_cons zsaRgbPid d (readablePrefix l),
            attached_cons zsaDepthPid d (readablePrefix l)]
          simp only [UInt32.ofNat_add, UInt32.add_assoc]

/-- The larger count, of lists that are not longer than `INT32_MAX`. -/
theorem toNat_larger_count {l : List UsbDevice} (h : l.length ≤ int32Max) :
    (count l ⟨0, 0⟩).1.larger.toNat =
      max (attached zsaRgbPid (readablePrefix l)) (attached zsaDepthPid (readablePrefix l)) := by
  have hlength : (readablePrefix l).length ≤ 2147483647 :=
    (List.takeWhile_sublist _).length_le.trans h
  have hofNat : ∀ pid, (0 + UInt32.ofNat (attached pid (readablePrefix l))).toNat =
      attached pid (readablePrefix l) := by
    intro pid
    have hle : attached pid (readablePrefix l) ≤ (readablePrefix l).length := List.countP_le_length
    rw [UInt32.zero_add, UInt32.toNat_ofNat_of_lt' (by show _ < 4294967296; omega)]
  rw [count_spec, larger]
  simp only [gt_iff_lt, UInt32.lt_iff_toNat_lt, hofNat]
  split
  · rw [hofNat, Nat.max_eq_left (by omega)]
  · rw [hofNat, Nat.max_eq_right (by omega)]

end DeviceCount

/-! ## All or nothing -/

/-- What a call has to do: it counts the whole list or fails with a count of zero, and it exits
the context and frees the list that it got, each once, and nothing else. -/
structure CountReturn.AllOrNothing (r : CountReturn) (pDeviceCount : Bool) (lib : Libusb) :
    Prop where
  succeeded : r.result = .succeeded → ∃ l n, lib.list = .devices l ∧
    l.all UsbDevice.isReadable = true ∧ r.deviceCount = some n ∧
    n.toNat = max (attached zsaRgbPid l) (attached zsaDepthPid l)
  failed : r.result = .failed → r.deviceCount = if pDeviceCount then some 0 else none
  exited : pDeviceCount = true → 0 ≤ lib.init → r.log.count (.release .context) = 1
  freed : pDeviceCount = true → 0 ≤ lib.init → lib.list.resource.isSome = true →
    r.log.count (.release .deviceList) = 1
  released : Owns r.log 0

/-- What libusb has to answer: a list that is neither empty nor too long, and either all of its
descriptors can be read or none that counts comes before the first one that cannot. -/
def CountsWell (pDeviceCount : Bool) (lib : Libusb) : Prop :=
  pDeviceCount = false ∨ lib.init < 0 ∨
    ∃ l, lib.list = .devices l ∧ 0 < l.length ∧ l.length ≤ int32Max ∧
      (l.all UsbDevice.isReadable = true ∨
        ∀ d ∈ readablePrefix l, d.isWanted zsaRgbPid = false ∧ d.isWanted zsaDepthPid = false)

theorem readablePrefix_of_all {l : List UsbDevice} (h : l.all UsbDevice.isReadable = true) :
    readablePrefix l = l := by
  rw [readablePrefix, List.takeWhile_eq_self_iff]
  exact List.all_eq_true.mp h

theorem attached_eq_zero_iff {pid : UInt16} {l : List UsbDevice} :
    attached pid l = 0 ↔ ∀ d ∈ l, d.isWanted pid = false := by
  simp only [attached, List.countP_eq_zero, Bool.not_eq_true]

/-- A call that reaches the loop. -/
theorem usbCmdGetDeviceCount_listed {lib : Libusb} {l : List UsbDevice} (hinit : 0 ≤ lib.init)
    (hlist : lib.list = .devices l) (hpos : 0 < l.length) (hle : l.length ≤ int32Max) :
    usbCmdGetDeviceCount true lib =
      ⟨if l.all UsbDevice.isReadable then .succeeded else .failed,
        some (DeviceCount.count l ⟨0, 0⟩).1.larger,
        [.acquire .context, .acquire .deviceList, .release .deviceList, .release .context]⟩ := by
  have hcount : lib.list.count = l.length := by rw [hlist]; rfl
  have hentries : lib.list.entries = l := by rw [hlist]; rfl
  have hresource : lib.list.resource = some .deviceList := by rw [hlist]; rfl
  have hresult : (DeviceCount.count l ⟨0, 0⟩).2 =
      if l.all UsbDevice.isReadable then .succeeded else .failed := by rw [DeviceCount.count_spec]
  simp only [usbCmdGetDeviceCount, Bool.true_eq_false, if_false, if_neg (Int.not_lt.mpr hinit),
    hcount, if_neg (show ¬ (l.length : Int) > int32Max by omega),
    if_neg (show ¬ (l.length : Int) = 0 by omega), hentries, hresource, hresult]
  rfl

/-- A call that gets no list goes through an empty loop and frees what is in `dev_list`. -/
theorem usbCmdGetDeviceCount_error {lib : Libusb} {code : Nat} (hinit : 0 ≤ lib.init)
    (hlist : lib.list = .error code) :
    usbCmdGetDeviceCount true lib =
      ⟨.succeeded, some 0, [.acquire .context, .release .deviceList, .release .context]⟩ := by
  simp only [usbCmdGetDeviceCount, Bool.true_eq_false, if_false, if_neg (Int.not_lt.mpr hinit),
    hlist]
  rfl

/-- A list that is refused is not given back. -/
theorem usbCmdGetDeviceCount_refused {lib : Libusb} {l : List UsbDevice} (hinit : 0 ≤ lib.init)
    (hlist : lib.list = .devices l) (h : l.length = 0 ∨ int32Max < l.length) :
    usbCmdGetDeviceCount true lib =
      ⟨.failed, some 0, [.acquire .context, .acquire .deviceList]⟩ := by
  have hcount : lib.list.count = l.length := by rw [hlist]; rfl
  have hresource : lib.list.resource = some .deviceList := by rw [hlist]; rfl
  simp only [usbCmdGetDeviceCount, Bool.true_eq_false, if_false, if_neg (Int.not_lt.mpr hinit),
    hcount, hresource]
  rcases h with h | h
  · rw [if_neg (by rw [h]; decide), if_pos (by omega)]
    rfl
  · rw [if_pos (by omega)]
    rfl

section CountsWell

variable {pDeviceCount : Bool} {lib : Libusb}

/-- A list that is missing, empty, too long or read in part gives the call away. -/
theorem countsWell_of_allOrNothing
    (h : (usbCmdGetDeviceCount pDeviceCount lib).AllOrNothing pDeviceCount lib) :
    CountsWell pDeviceCount lib := by
  cases pDeviceCount with
  | false => exact .inl rfl
  | true =>
      by_cases hinit : lib.init < 0
      · exact .inr (.inl hinit)
      · have hinit : 0 ≤ lib.init := by omega
        cases hlist : lib.list with
        | error code =>
            rw [usbCmdGetDeviceCount_error hinit hlist] at h
            obtain ⟨l, n, hl, -⟩ := h.succeeded rfl
            rw [hlist] at hl
            cases hl
        | devices l =>
            by_cases hlength : l.length = 0 ∨ int32Max < l.length
            · rw [usbCmdGetDeviceCount_refused hinit hlist hlength] at h
              have hexited := h.exited rfl hinit
              cases hexited
            · have hpos : 0 < l.length := by omega
              have hle : l.length ≤ int32Max := by omega
              refine .inr (.inr ⟨l, hlist, hpos, hle, ?_⟩)
              by_cases hall : l.all UsbDevice.isReadable = true
              · exact .inl hall
              · rw [usbCmdGetDeviceCount_listed hinit hlist hpos hle, if_neg hall] at h
                have hzero := DeviceCount.toNat_larger_count hle
                rw [Option.some.inj (h.failed rfl), UInt32.toNat_zero] at hzero
                right
                intro d hd
                exact ⟨attached_eq_zero_iff.mp (by omega) d hd,
                  attached_eq_zero_iff.mp (by omega) d hd⟩

theorem allOrNothing_of_countsWell (h : CountsWell pDeviceCount lib) :
    (usbCmdGetDeviceCount pDeviceCount lib).AllOrNothing pDeviceCount lib := by
  cases pDeviceCount with
  | false => exact ⟨nofun, fun _ => rfl, nofun, nofun, Owns.nil⟩
  | true =>
      by_cases hinit : lib.init < 0
      · have hr : usbCmdGetDeviceCount true lib = ⟨.failed, some 0, []⟩ := by
          simp only [usbCmdGetDeviceCount, Bool.true_eq_false, if_false, if_pos hinit]
        rw [hr]
        exact ⟨nofun, fun _ => rfl, fun _ hn => absurd hinit (by omega),
          fun _ hn => absurd hinit (by omega), Owns.nil⟩
      · obtain ⟨l, hlist, hpos, hle, hread⟩ := (h.resolve_left (by simp)).resolve_left hinit
        rw [usbCmdGetDeviceCount_listed (by omega) hlist hpos hle]
        refine ⟨fun hs => ?_, fun hf => ?_, fun _ _ => rfl, fun _ _ _ => rfl,
          Owns.nil.acquire.acquire.release.release⟩
        · have hall : l.all UsbDevice.isReadable = true := by
            by_contra hno
            rw [if_neg hno] at hs
            cases hs
          refine ⟨l, _, hlist, hall, rfl, ?_⟩
          rw [DeviceCount.toNat_larger_count hle, readablePrefix_of_all hall]
        · have hno : ¬ l.all UsbDevice.isReadable = true := by
            intro hall
            rw [if_pos hall] at hf
            cases hf
          have hnone := hread.resolve_left hno
          have hrgb := attached_eq_zero_iff.mpr fun d hd => (hnone d hd).1
          have hdepth := attached_eq_zero_iff.mpr fun d hd => (hnone d hd).2
          have hzero := DeviceCount.toNat_larger_count hle
          rw [hrgb, hdepth] at hzero
          exact congrArg some (UInt32.toNat_inj.mp hzero)

end CountsWell

/-- A count is all or nothing exactly if libusb answers well. -/
theorem device_count_all_or_nothing_iff (pDeviceCount : Bool) (lib : Libusb) :
    (usbCmdGetDeviceCount pDeviceCount lib).AllOrNothing pDeviceCount lib ↔
      CountsWell pDeviceCount lib :=
  ⟨countsWell_of_allOrNothing, allOrNothing_of_countsWell⟩

/-- One colour processor is counted, the next entry cannot be read, and the call fails with the
count at one. -/
theorem unreadable_descriptor_leaves_count :
    ¬ (usbCmdGetDeviceCount true ⟨0, 0, .devices [sampleDevice zsaRgbPid Guid.zero,
        { sampleDevice zsaRgbPid Guid.zero with descriptor := none }]⟩).AllOrNothing true
      ⟨0, 0, .devices [sampleDevice zsaRgbPid Guid.zero,
        { sampleDevice zsaRgbPid Guid.zero with descriptor := none }]⟩ := by
  intro h
  have hcount := h.failed rfl
  cases hcount

end ZsaSdk
