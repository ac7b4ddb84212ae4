import Mathlib.Data.List.Nodup
import ZsaSdk.Usbcommand.Devices

/-!
# Which device is opened

`find_libusb_device` selects a device by its number among the devices with the vendor and the
product id, or by its container id.  The first part says which entry of the list that is,
without the loop.  The second part runs the loop against it, in two steps: `scan` makes the
choices of the loop, with its counter of one byte, and nothing else, and it chooses the entry
that is meant as long as the counter does not wrap around.

Devices that are opened and turned down are closed at once, so the ledger of a search is a list
of handles that were tried, each opened and closed, and then perhaps one that is kept.
-/

namespace ZsaSdk

open Ledger (RefOp releaseOf acquireOf held Owns)

/-! ## The entry that is meant -/

/-- The descriptor can be read and has the vendor id and the product id. -/
def UsbDevice.isWanted (pid : UInt16) (d : UsbDevice) : Bool :=
  match d.descriptor with
  | none => false
  | some desc => desc.idVendor == zsaMsftVid && desc.idProduct == pid

/-- The entries with the ids, each with its position, counted from `k`. -/
def wantedFrom (pid : UInt16) (k : Nat) (l : List UsbDevice) : List (UsbDevice × Nat) :=
  (l.zipIdx k).filter fun e => e.1.isWanted pid

/-- The device opens, and its container id can be read and is the one that is asked for. -/
def UsbDevice.accepts (containerId : Option Guid) (d : UsbDevice) : Bool :=
  decide (0 ≤ d.libusbOpen) &&
    match containerId with
    | none => d.containerId.isSome
    | some id => d.containerId == some id

/-- The entry that a search has to open: the entry with the number `deviceIndex`, if it can be
opened and identified, or else the first one that opens and has the container id. -/
def chosen (pid : UInt16) (deviceIndex : UInt32) (containerId : Option Guid)
    (l : List UsbDevice) : Option (UsbDevice × Nat) :=
  match containerId with
  | none => (wantedFrom pid 0 l)[deviceIndex.toNat]?.filter fun e => e.1.accepts none
  | some id => (wantedFrom pid 0 l).find? fun e => e.1.accepts (some id)

/-- What is left to choose when `index` entries with the ids have been counted. -/
def chosenFrom (pid : UInt16) (deviceIndex index : Nat) (containerId : Option Guid) (k : Nat)
    (l : List UsbDevice) : Option (UsbDevice × Nat) :=
  match containerId with
  | none =>
      if deviceIndex < index then none
      else (wantedFrom pid k l)[deviceIndex - index]?.filter fun e => e.1.accepts none
  | some id => (wantedFrom pid k l).find? fun e => e.1.accepts (some id)

section Chosen

variable {pid : UInt16} {deviceIndex index : Nat} {containerId : Option Guid} {k : Nat}
  {d : UsbDevice} {l : List UsbDevice}

theorem wantedFrom_cons_wanted (h : d.isWanted pid = true) :
    wantedFrom pid k (d :: l) = (d, k) :: wantedFrom pid (k + 1) l := by
  rw [wantedFrom, List.zipIdx_cons, List.filter_cons, if_pos h]
  rfl

theorem wantedFrom_cons_other (h : d.isWanted pid = false) :
    wantedFrom pid k (d :: l) = wantedFrom pid (k + 1) l := by
  rw [wantedFrom, List.zipIdx_cons, List.filter_cons, if_neg (by simpa using h)]
  rfl

theorem chosenFrom_nil : chosenFrom pid deviceIndex index containerId k [] = none := by
  cases containerId with
  | none =>
      simp only [chosenFrom]
      split
      · rfl
      · rfl
  | some id => rfl

/-- An entry with other ids changes nothing. -/
theorem chosenFrom_other (h : d.isWanted pid = false) :
    chosenFrom pid deviceIndex index containerId k (d :: l) =
      chosenFrom pid deviceIndex index containerId (k + 1) l := by
  cases containerId with
  | none => rw [chosenFrom, chosenFrom, wantedFrom_cons_other h]
  | some id => rw [chosenFrom, chosenFrom, wantedFrom_cons_other h]

/-- An entry with another number is counted. -/
theorem chosenFrom_passed (h : d.isWanted pid = true) (hindex : deviceIndex ≠ index) :
    chosenFrom pid deviceIndex index none k (d :: l) =
      chosenFrom pid deviceIndex (index + 1) none (k + 1) l := by
  simp only [chosenFrom]
  by_cases hlt : deviceIndex < index
  · rw [if_pos hlt, if_pos (by omega)]
  · have hsub : deviceIndex - index = (deviceIndex - (index + 1)) + 1 := by omega
    rw [if_neg hlt, if_neg (by omega), wantedFrom_cons_wanted h, hsub, List.getElem?_cons_succ]

/-- An entry that is tried is chosen if it is accepted. -/
theorem chosenFrom_tried (h : d.isWanted pid = true)
    (hindex : containerId = none → deviceIndex = index) :
    chosenFrom pid deviceIndex index containerId k (d :: l) =
      if d.accepts containerId then some (d, k)
      else chosenFrom pid deviceIndex (index + 1) containerId (k + 1) l := by
  cases containerId with
  | none =>
      obtain rfl := hindex rfl
      simp only [chosenFrom]
      rw [if_neg (Nat.lt_irrefl _), if_pos (Nat.lt_succ_self _), Nat.sub_self,
        wantedFrom_cons_wanted h, List.getElem?_cons_zero, Option.filter_some]
  | some id =>
      simp only [chosenFrom]
      rw [wantedFrom_cons_wanted h, List.find?_cons]
      cases d.accepts (some id) with
      | true => rfl
      | false => rfl

end Chosen

theorem chosen_eq (pid : UInt16) (deviceIndex : UInt32) (containerId : Option Guid)
    (l : List UsbDevice) : chosen pid deviceIndex containerId l =
      chosenFrom pid deviceIndex.toNat 0 containerId 0 l := by
  cases containerId with
  | none => rw [chosen, chosenFrom, if_neg (Nat.not_lt_zero _), Nat.sub_zero]
  | some id => rfl

/-! ## The entry that the loop chooses -/

/-- The choices of the loop, from the entry at the position `k` on, when its counter is at
`index`. -/
def scan (pid : UInt16) (deviceIndex : UInt32) (containerId : Option Guid) :
    List UsbDevice → UInt8 → Nat → Option (UsbDevice × Nat)
  | [], _, _ => none
  | d :: l, index, k =>
      if d.isWanted pid = false then scan pid deviceIndex containerId l index (k + 1)
      else if deviceIndex ≠ index.toUInt32 ∧ containerId = none then
        scan pid deviceIndex containerId l (index + 1) (k + 1)
      else if d.accepts containerId then some (d, k)
      else scan pid deviceIndex containerId l (index + 1) (k + 1)

/-- The counter does not wrap around as long as there are no more than 255 entries to count. -/
theorem scan_eq_chosenFrom {pid : UInt16} {deviceIndex : UInt32} {containerId : Option Guid} :
    ∀ {l : List UsbDevice} {index : UInt8} {k : Nat},
    index.toNat + (wantedFrom pid k l).length ≤ 255 →
    scan pid deviceIndex containerId l index k =
      chosenFrom pid deviceIndex.toNat index.toNat containerId k l
  | [], index, k, _ => chosenFrom_nil.symm
  | d :: l, index, k, h => by
      have hindex : deviceIndex = index.toUInt32 ↔ deviceIndex.toNat = index.toNat := by
        rw [← UInt32.toNat_inj, UInt8.toNat_toUInt32]
      rw [scan]
      by_cases hw : d.isWanted pid = false
      · rw [wantedFrom_cons_other hw] at h
        rw [if_pos hw, chosenFrom_other hw]
        exact scan_eq_chosenFrom h
      · have hwanted : d.isWanted pid = true := by simpa using hw
        rw [wantedFrom_cons_wanted hwanted, List.length_cons] at h
        have hnext : (index + 1).toNat = index.toNat + 1 := by
          rw [UInt8.toNat_add, UInt8.toNat_one, Nat.mod_eq_of_lt (by omega)]
        have hrest : scan pid deviceIndex containerId l (index + 1) (k + 1) =
            chosenFrom pid deviceIndex.toNat (index.toNat + 1) containerId (k + 1) l := by
          rw [scan_eq_chosenFrom (by omega), hnext]
        rw [if_neg hw, hrest]
        by_cases hpass : deviceIndex ≠ index.toUInt32 ∧ containerId = none
        · obtain ⟨hne, rfl⟩ := hpass
          rw [if_pos ⟨hne, rfl⟩, chosenFrom_passed hwanted fun he => hne (hindex.mpr he)]
        · have hmeant : containerId = none → deviceIndex.toNat = index.toNat :=
            fun hnone => hindex.mp (not_not.mp fun hne => hpass ⟨hne, hnone⟩)
          rw [if_neg hpass, chosenFrom_tried hwanted hmeant]

/-! ## The handles that were tried -/

/-- The ledger of handles that were opened and closed one after the other. -/
def tried (hs : List Nat) : List (RefOp UsbResource) :=
  hs.flatMap fun h => [.acquire (.handle h), .release (.handle h)]

theorem owns_tried {ops : List (RefOp UsbResource)} {m : Multiset UsbResource}
    (h : Owns ops m) (hs : List Nat) : Owns (ops ++ tried hs) m := by
  induction hs generalizing ops with
  | nil => simpa [tried] using h
  | cons i hs ih =>
      have hone : Owns (ops ++ [.acquire (.handle i)] ++ [.release (.handle i)]) m :=
        h.acquire.release
      have hrest := ih hone
      simpa [tried] using hrest

/-- Each handle that was tried was closed as often as it was tried. -/
theorem count_release_tried (hs : List Nat) (i : Nat) :
    (tried hs).count (.release (.handle i)) = hs.count i := by
  induction hs with
  | nil => rfl
  | cons j hs ih =>
      have hcons : tried (j :: hs) =
          .acquire (.handle j) :: .release (.handle j) :: tried hs := rfl
      rw [hcons, List.count_cons, List.count_cons, List.count_cons, ih]
      simp

theorem acquire_mem_tried {hs : List Nat} {i : Nat}
    (h : RefOp.acquire (UsbResource.handle i) ∈ tried hs) : i ∈ hs := by
  obtain ⟨j, hj, hmem⟩ := List.mem_flatMap.mp h
  simp only [List.mem_cons, RefOp.acquire.injEq, UsbResource.handle.injEq, reduceCtorEq,
    List.not_mem_nil, or_false] at hmem
  rw [hmem]
  exact hj

/-! ## The loop -/

namespace Search

@[simp] theorem next_usbcmd (s : Search) : s.next.usbcmd = s.usbcmd := rfl
@[simp] theorem next_listIndex (s : Search) : s.next.listIndex = s.listIndex := rfl
@[simp] theorem next_loop (s : Search) : s.next.loop = s.loop + 1 := rfl

/-- The search goes on after an iteration that counted `n` entries and tried the handles `hs`:
nothing has been found, and no handle is open. -/
structure GoesOn (s s' : Search) (n : UInt8) (hs : List Nat) : Prop where
  found : s'.found = false
  libusb : s'.usbcmd.libusb = none
  pid : s'.usbcmd.pid = s.usbcmd.pid
  loop : s'.loop = s.loop
  listIndex : s'.listIndex = s.listIndex + n
  log : s'.log = s.log ++ tried hs
  devList : s'.devList = s.devList

/-- The search ends with the device `d` at the position `i`. -/
structure EndsWith (s s' : Search) (d : UsbDevice) (i : Nat) (hs : List Nat) : Prop where
  found : s'.found = true
  libusb : s'.usbcmd.libusb = some i
  desc : s'.desc = d.descriptor
  containerId : some s'.usbcmd.containerId = d.containerId
  log : s'.log = s.log ++ tried hs ++ [.acquire (.handle i)]
  devList : s'.devList = s.devList

/-- What an iteration makes of an entry. -/
inductive Examined (deviceIndex : UInt32) (containerId : Option Guid) (d : UsbDevice)
    (s : Search) : Search → Prop where
  /-- The entry has other ids, or cannot be read. -/
  | other {s' : Search} : d.isWanted s.usbcmd.pid = false → GoesOn s s' 0 [] →
      Examined deviceIndex containerId d s s'
  /-- The entry has another number. -/
  | passed {s' : Search} : d.isWanted s.usbcmd.pid = true → containerId = none →
      deviceIndex ≠ s.listIndex.toUInt32 → GoesOn s s' 1 [] →
      Examined deviceIndex containerId d s s'
  /-- The entry is tried and turned down. -/
  | rejected {s' : Search} {hs : List Nat} : d.isWanted s.usbcmd.pid = true →
      (containerId = none → deviceIndex = s.listIndex.toUInt32) →
      d.accepts containerId = false → hs = [] ∨ hs = [s.loop] → GoesOn s s' 1 hs →
      Examined deviceIndex containerId d s s'
  /-- The entry is the one. -/
  | accepted {s' : Search} : d.isWanted s.usbcmd.pid = true →
      (containerId = none → deviceIndex = s.listIndex.toUInt32) →
      d.accepts containerId = true → EndsWith s s' d s.loop [] →
      Examined deviceIndex containerId d s s'

variable {deviceIndex : UInt32} {containerId : Option Guid} {d : UsbDevice} {s : Search}

/-- A handle that is closed after it was opened leaves the search where it was. -/
theorem goesOn_close {s' : Search} (hfound : s'.found = false)
    (hlibusb : s'.usbcmd.libusb = some s.loop) (hpid : s'.usbcmd.pid = s.usbcmd.pid)
    (hloop : s'.loop = s.loop) (hindex : s'.listIndex = s.listIndex)
    (hlog : s'.log = s.log ++ [.acquire (.handle s.loop)]) (hlist : s'.devList = s.devList) :
    GoesOn s s'.close 0 [s.loop] where
  found := hfound
  libusb := rfl
  pid := hpid
  loop := hloop
  listIndex := by rw [UInt8.add_zero]; exact hindex
  log := by
    simp only [close, hlibusb, hlog, Option.map_some, Ledger.releaseOf_some, List.append_assoc]
    rfl
  devList := hlist

/-- A device that is tried is kept if it is accepted, and else no handle of it is left open. -/
theorem tryOpen_spec (hfound : s.found = false) (hdesc : s.desc = d.descriptor)
    (containerId : Option Guid) :
    (d.accepts containerId = false ∧
      ∃ hs, (hs = [] ∨ hs = [s.loop]) ∧ GoesOn s (s.tryOpen containerId d) 0 hs) ∨
    (d.accepts containerId = true ∧ EndsWith s (s.tryOpen containerId d) d s.loop []) := by
  by_cases hopen : d.libusbOpen < 0
  · -- The device cannot be opened: the iteration ends with the handle null.
    refine .inl ⟨?_, [], .inl rfl, ?_⟩
    · rw [UsbDevice.accepts.eq_def, decide_eq_false (by omega), Bool.false_and]
    · simp only [tryOpen, if_pos hopen]
      exact ⟨hfound, rfl, rfl, rfl, (UInt8.add_zero _).symm, (List.append_nil _).symm, rfl⟩
  · have haccepts : d.accepts containerId =
        match containerId with
        | none => d.containerId.isSome
        | some id => d.containerId == some id := by
      rw [UsbDevice.accepts.eq_def, decide_eq_true (by omega), Bool.true_and]
    simp only [tryOpen, if_neg hopen, identify, UsbcmdDevice.populateContainerId]
    cases hid : d.containerId with
    | none =>
        refine .inl ⟨?_, [s.loop], .inr rfl, goesOn_close hfound rfl rfl rfl rfl rfl rfl⟩
        rw [haccepts, hid]
        cases containerId with
        | none => rfl
        | some id => rfl
    | some guid =>
        by_cases heq : containerId = none ∨ containerId = some guid
        · simp only [if_pos heq]
          refine .inr ⟨?_, rfl, rfl, hdesc, hid.symm, ?_, rfl⟩
          · rw [haccepts, hid]
            rcases heq with rfl | rfl
            · rfl
            · exact beq_self_eq_true _
          · simp [tried]
        · simp only [if_neg heq]
          refine .inl ⟨?_, [s.loop], .inr rfl, goesOn_close hfound rfl rfl rfl rfl rfl rfl⟩
          rw [haccepts, hid]
          cases containerId with
          | none => exact absurd (.inl rfl) heq
          | some id => exact beq_eq_false_iff_ne.mpr fun h => heq (.inr h.symm)

/-- The body of the loop. -/
theorem examine_spec (hfound : s.found = false) (hlibusb : s.usbcmd.libusb = none)
    (deviceIndex : UInt32) (containerId : Option Guid) (d : UsbDevice) :
    Examined deviceIndex containerId d s (s.examine deviceIndex containerId d) := by
  simp only [examine]
  cases hd : d.descriptor with
  | none =>
      refine .other ?_ ⟨hfound, rfl, rfl, rfl, (UInt8.add_zero _).symm, ?_, rfl⟩
      · rw [UsbDevice.isWanted, hd]
      · simp [close, tried]
  | some desc =>
      by_cases hids : desc.idVendor ≠ zsaMsftVid ∨ desc.idProduct ≠ s.usbcmd.pid
      · simp only [if_pos hids]
        refine .other ?_ ⟨hfound, hlibusb, rfl, rfl, (UInt8.add_zero _).symm, ?_, rfl⟩
        · simp only [UsbDevice.isWanted, hd, Bool.and_eq_false_iff, beq_eq_false_iff_ne]
          exact hids
        · simp [tried]
      · have hwanted : d.isWanted s.usbcmd.pid = true := by
          simp only [UsbDevice.isWanted, hd, Bool.and_eq_true, beq_iff_eq]
          exact ⟨not_not.mp fun h => hids (.inl h), not_not.mp fun h => hids (.inr h)⟩
        simp only [if_neg hids]
        by_cases hpass : deviceIndex ≠ s.listIndex.toUInt32 ∧ containerId = none
        · simp only [if_pos hpass]
          refine .passed hwanted hpass.2 hpass.1 ⟨hfound, hlibusb, rfl, rfl, rfl, ?_, rfl⟩
          simp [tried]
        · have hindex : containerId = none → deviceIndex = s.listIndex.toUInt32 :=
            fun hnone => not_not.mp fun hne => hpass ⟨hne, hnone⟩
          simp only [if_neg hpass]
          rcases tryOpen_spec (s := { s with desc := some desc, listIndex := s.listIndex + 1 })
            hfound hd.symm containerId with ⟨hno, hs, hhs, h⟩ | ⟨hyes, h⟩
          · refine .rejected hwanted hindex hno hhs ⟨h.found, h.libusb, h.pid, h.loop, ?_, h.log,
              h.devList⟩
            rw [h.listIndex, UInt8.add_zero]
          · exact .accepted hwanted hindex hyes
              ⟨h.found, h.libusb, h.desc, h.containerId, h.log, h.devList⟩

/-- The search goes from `s` to `s'`, where it ends with the entry `c`, or with none: it has
tried handles of different devices from `s.loop` on, and closed them. -/
def Ends (s s' : Search) (c : Option (UsbDevice × Nat)) : Prop :=
  ∃ hs : List Nat, hs.Nodup ∧ (∀ h ∈ hs, s.loop ≤ h) ∧
    match c with
    | none => s'.found = false ∧ s'.usbcmd.libusb = none ∧ s'.log = s.log ++ tried hs ∧
        s'.devList = s.devList
    | some (d, i) => EndsWith s s' d i hs ∧ i ∉ hs ∧ s.loop ≤ i

/-- One more iteration at the start. -/
theorem Ends.after {s₁ s' : Search} {n : UInt8} {hs₀ : List Nat} {c : Option (UsbDevice × Nat)}
    (hgo : GoesOn s s₁ n hs₀) (hhs₀ : hs₀ = [] ∨ hs₀ = [s.loop])
    (h : Ends s₁.next s' c) : Ends s s' c := by
  obtain ⟨hs, hnodup, hle, hend⟩ := h
  have hle' : ∀ h ∈ hs, s.loop < h := fun h hh => by
    have := hle h hh
    simp only [next_loop, hgo.loop] at this
    omega
  have hmem : ∀ h ∈ hs₀, h = s.loop := by
    rcases hhs₀ with rfl | rfl
    · simp
    · simp
  have hlog : ∀ ops : List (RefOp UsbResource),
      s₁.log ++ tried hs ++ ops = s.log ++ tried (hs₀ ++ hs) ++ ops := by
    intro ops
    rw [hgo.log, tried, tried, tried, List.flatMap_append]
    simp only [List.append_assoc]
  refine ⟨hs₀ ++ hs, ?_, ?_, ?_⟩
  · rcases hhs₀ with rfl | rfl
    · exact hnodup
    · exact List.nodup_cons.mpr ⟨fun hh => Nat.lt_irrefl _ (hle' _ hh), hnodup⟩
  · intro h hh
    rcases List.mem_append.mp hh with hh | hh
    · exact (hmem h hh).ge
    · exact (hle' h hh).le
  · cases c with
    | none =>
        obtain ⟨hfound, hlibusb, hl, hd⟩ := hend
        have hlog' := hlog []
        rw [List.append_nil, List.append_nil] at hlog'
        exact ⟨hfound, hlibusb, hl.trans hlog', hd.trans hgo.devList⟩
    | some e =>
        obtain ⟨hends, hni, hi⟩ := hend
        simp only [next_loop, hgo.loop] at hi
        refine ⟨⟨hends.found, hends.libusb, hends.desc, hends.containerId,
          hends.log.trans (hlog _), hends.devList.trans hgo.devList⟩, ?_, by omega⟩
        intro hh
        rcases List.mem_append.mp hh with hh | hh
        · have := hmem _ hh
          omega
        · exact hni hh

/-- The loop does nothing more once a device has been found. -/
theorem run_of_found (h : s.found = true) (l : List UsbDevice) :
    s.run deviceIndex containerId l = s := by
  cases l with
  | nil => rfl
  | cons d l => simp only [run, h, if_true]

/-- The whole loop ends with the entry that it chooses. -/
theorem run_spec (deviceIndex : UInt32) (containerId : Option Guid) (l : List UsbDevice) :
    ∀ {s : Search}, s.found = false → s.usbcmd.libusb = none →
    Ends s (s.run deviceIndex containerId l)
      (scan s.usbcmd.pid deviceIndex containerId l s.listIndex s.loop) := by
  induction l with
  | nil =>
      intro s hfound hlibusb
      exact ⟨[], List.nodup_nil, by simp, hfound, hlibusb, by simp [run, tried], rfl⟩
  | cons d l ih =>
      intro s hfound hlibusb
      have hrun : s.run deviceIndex containerId (d :: l) =
          run deviceIndex containerId l (s.examine deviceIndex containerId d).next := by
        simp only [run, hfound, Bool.false_eq_true, if_false]
      have hexamined := examine_spec hfound hlibusb deviceIndex containerId d
      rw [hrun, scan]
      generalize s.examine deviceIndex containerId d = s₁ at hexamined ⊢
      -- What the rest of the loop does after an iteration that has found nothing.
      have hrest : ∀ {n : UInt8} {hs₀ : List Nat}, GoesOn s s₁ n hs₀ →
          hs₀ = [] ∨ hs₀ = [s.loop] →
          Ends s (s₁.next.run deviceIndex containerId l)
            (scan s.usbcmd.pid deviceIndex containerId l (s.listIndex + n) (s.loop + 1)) := by
        intro n hs₀ h hhs₀
        have hend := ih (s := s₁.next) h.found h.libusb
        simp only [next_usbcmd, next_listIndex, next_loop, h.pid, h.listIndex, h.loop] at hend
        exact .after h hhs₀ hend
      cases hexamined with
      | other hw h =>
          have hend := hrest h (.inl rfl)
          rw [UInt8.add_zero] at hend
          rw [if_pos hw]
          exact hend
      | passed hw hnone hne h =>
          rw [if_neg (by simp [hw]), if_pos ⟨hne, hnone⟩]
          exact hrest h (.inl rfl)
      | rejected hw hi hno hhs h =>
          rw [if_neg (by simp [hw]), if_neg (fun hp => hp.1 (hi hp.2)), if_neg (by simp [hno])]
          exact hrest h hhs
      | accepted hw hi hyes h =>
          rw [if_neg (by simp [hw]), if_neg (fun hp => hp.1 (hi hp.2)), if_pos hyes,
            run_of_found (s := s₁.next) h.found]
          exact ⟨[], List.nodup_nil, by simp,
            ⟨h.found, h.libusb, h.desc, h.containerId, h.log, h.devList⟩, by simp, Nat.le_refl _⟩

end Search

/-! ## The search -/

/-- Listing the devices succeeds: there are fewer than `INT32_MAX` of them, which is what
`find_libusb_device` tests. -/
def DeviceList.Lists (list : DeviceList) (l : List UsbDevice) : Prop :=
  list = .devices l ∧ l.length < int32Max

/-- The entry with the number exists, opens and can be identified, or some entry opens and has
the container id. -/
def Selectable (pid : UInt16) (deviceIndex : UInt32) (l : List UsbDevice) : Option Guid → Prop
  | none => ∃ e, (wantedFrom pid 0 l)[deviceIndex.toNat]? = some e ∧ 0 ≤ e.1.libusbOpen ∧
      ∃ id, e.1.containerId = some id
  | some id => ∃ e ∈ wantedFrom pid 0 l, 0 ≤ e.1.libusbOpen ∧ e.1.containerId = some id

section Search

variable {pid : UInt16} {deviceIndex : UInt32} {containerId : Option Guid} {l : List UsbDevice}
  {e : UsbDevice × Nat} {lib : Libusb} {u : UsbcmdDevice}

/-- The position that comes with an entry is where it stands in the list. -/
theorem getElem?_of_mem_wantedFrom (h : e ∈ wantedFrom pid 0 l) : l[e.2]? = some e.1 :=
  List.mem_zipIdx_iff_getElem?.mp (List.mem_of_mem_filter h)

theorem mem_of_chosen (h : chosen pid deviceIndex containerId l = some e) :
    e ∈ wantedFrom pid 0 l := by
  cases containerId with
  | none => exact List.mem_of_getElem? (Option.filter_eq_some_iff.mp h).1
  | some id => exact List.mem_of_find?_eq_some h

theorem chosen_isSome_iff :
    (chosen pid deviceIndex containerId l).isSome = true ↔
      Selectable pid deviceIndex l containerId := by
  cases containerId with
  | none =>
      simp only [chosen, Selectable, Option.isSome_iff_exists, Option.filter_eq_some_iff,
        UsbDevice.accepts, Bool.and_eq_true, decide_eq_true_eq]
  | some id =>
      simp only [chosen, Selectable, List.find?_isSome, UsbDevice.accepts, Bool.and_eq_true,
        decide_eq_true_eq, beq_iff_eq]

/-- The search runs the loop over the list. -/
theorem select_eq (hinit : 0 ≤ lib.init) (hoption : 0 ≤ lib.setOption)
    (hlist : lib.list.Lists l) (s : Search) :
    s.select lib deviceIndex containerId =
      (s.withContext.withList lib.list).run deviceIndex containerId l := by
  obtain ⟨hlist, hlength⟩ := hlist
  have hcount : lib.list.count = l.length := by rw [hlist]; rfl
  have hentries : lib.list.entries = l := by rw [hlist]; rfl
  rw [Search.select, if_neg (Result.ofLibusb_ne_failed hinit),
    if_neg (Result.ofLibusb_ne_failed hoption), hcount, hentries]
  cases l with
  | nil => rfl
  | cons d l => exact if_pos ⟨by omega, by rw [List.length_cons]; omega⟩

/-- The ledger of a search in a list that tried the handles `hs` and keeps one, or none. -/
def searchLog (list : DeviceList) (hs : List Nat) (kept : Option Nat) : List (RefOp UsbResource) :=
  [.acquire .context] ++ acquireOf list.resource ++ tried hs ++
    acquireOf (kept.map UsbResource.handle) ++ releaseOf list.resource

theorem owns_searchLog (list : DeviceList) (hs : List Nat) (kept : Option Nat) :
    Owns (searchLog list hs kept) (.context ::ₘ held (kept.map UsbResource.handle)) := by
  have hcontext : Owns ([] ++ [RefOp.acquire UsbResource.context]) (.context ::ₘ 0) :=
    Owns.nil.acquire
  have hkept := (owns_tried (hcontext.acquireOf list.resource) hs).acquireOf
    (kept.map UsbResource.handle)
  refine Owns.releaseOf (hkept.congr ?_)
  rw [← Multiset.add_assoc, Multiset.add_comm (held (kept.map UsbResource.handle)),
    Multiset.add_assoc, Multiset.add_cons, Multiset.add_zero]

theorem count_release_searchLog (list : DeviceList) (hs : List Nat) (kept : Option Nat) (i : Nat) :
    (searchLog list hs kept).count (.release (.handle i)) = hs.count i := by
  have hacquire : ∀ p : Option UsbResource,
      (acquireOf p).count (.release (.handle i)) = 0 := by
    intro p
    cases p with
    | none => rfl
    | some r => rfl
  have hrelease : (releaseOf list.resource).count (.release (.handle i)) = 0 := by
    cases list with
    | error code => rfl
    | devices l => rfl
  rw [searchLog, List.count_append, List.count_append, List.count_append, List.count_append,
    hacquire, hacquire, hrelease, count_release_tried]
  simp

theorem acquire_mem_searchLog {list : DeviceList} {hs : List Nat} {kept : Option Nat} {i : Nat}
    (h : RefOp.acquire (UsbResource.handle i) ∈ searchLog list hs kept) :
    i ∈ hs ∨ kept = some i := by
  have hacquire : ∀ p : Option UsbResource, RefOp.acquire (UsbResource.handle i) ∈ acquireOf p →
      p = some (.handle i) := by
    intro p hp
    cases p with
    | none => cases hp
    | some r =>
        simp only [Ledger.acquireOf_some, List.mem_cons, RefOp.acquire.injEq, List.not_mem_nil,
          or_false] at hp
        rw [hp]
  simp only [searchLog, List.mem_append, List.mem_cons, RefOp.acquire.injEq, reduceCtorEq,
    List.not_mem_nil, or_false, false_or] at h
  rcases h with ((h | h) | h) | h
  · have hlist := hacquire _ h
    cases list with
    | error code => cases hlist
    | devices l => cases hlist
  · exact .inl (acquire_mem_tried h)
  · obtain ⟨j, hj, he⟩ := Option.map_eq_some_iff.mp (hacquire _ h)
    cases he
    exact .inr hj
  · cases list with
    | error code => cases h
    | devices l => simp [DeviceList.resource] at h

/-- What is left behind when a search in a list has ended with an entry, or with none. -/
structure Search.Left (s : Search) (list : DeviceList) (c : Option (UsbDevice × Nat)) : Prop where
  found : s.found = c.isSome
  libusb : s.usbcmd.libusb = c.map Prod.snd
  desc : ∀ e ∈ c, s.desc = e.1.descriptor
  containerId : ∀ e ∈ c, some s.usbcmd.containerId = e.1.containerId
  log : ∃ hs : List Nat, hs.Nodup ∧ (∀ e ∈ c, e.2 ∉ hs) ∧
    s.log = searchLog list hs (c.map Prod.snd)

theorem Search.Ends.left {list : DeviceList} {s' : Search} {c : Option (UsbDevice × Nat)}
    (h : Ends ((Search.start u).withContext.withList list) s' c) : s'.finish.Left list c := by
  obtain ⟨hs, hnodup, -, hend⟩ := h
  cases c with
  | none =>
      obtain ⟨hfound, hlibusb, hlog, hdev⟩ := hend
      refine ⟨?_, ?_, ?_, ?_, hs, hnodup, ?_, ?_⟩
      · simp [Search.finish, hfound, Search.close]
      · simp [Search.finish, hfound, Search.close]
      · exact fun e he => absurd he (Option.not_mem_none e)
      · exact fun e he => absurd he (Option.not_mem_none e)
      · exact fun e he => absurd he (Option.not_mem_none e)
      · simp [Search.finish, hfound, Search.close, hlibusb, hlog, hdev, Search.withList,
          Search.withContext, Search.start, searchLog]
  | some e =>
      obtain ⟨h, hni, -⟩ := hend
      refine ⟨?_, ?_, ?_, ?_, hs, hnodup, ?_, ?_⟩
      · simp [Search.finish, h.found]
      · simp [Search.finish, h.found, h.libusb]
      · rintro e' ⟨⟩
        simp [Search.finish, h.found, h.desc]
      · rintro e' ⟨⟩
        simp [Search.finish, h.found, h.containerId]
      · rintro e' ⟨⟩
        exact hni
      · simp [Search.finish, h.found, h.log, h.devList, Search.withList, Search.withContext,
          Search.start, searchLog]

/-- What the search leaves behind, in terms of the entry that the loop chooses. -/
theorem findLibusbDevice_left (hinit : 0 ≤ lib.init) (hoption : 0 ≤ lib.setOption)
    (hlist : lib.list.Lists l) (hu : u.libusb = none) (deviceIndex : UInt32)
    (containerId : Option Guid) :
    (findLibusbDevice lib deviceIndex containerId u).1.Left lib.list
      (scan u.pid deviceIndex containerId l 0 0) := by
  simp only [findLibusbDevice, select_eq hinit hoption hlist]
  exact (Search.run_spec deviceIndex containerId l
    (s := (Search.start u).withContext.withList lib.list) rfl hu).left

theorem findLibusbDevice_succeeded (lib : Libusb) (deviceIndex : UInt32)
    (containerId : Option Guid) (u : UsbcmdDevice) :
    (findLibusbDevice lib deviceIndex containerId u).2 = .succeeded ↔
      (findLibusbDevice lib deviceIndex containerId u).1.found = true := by
  simp [findLibusbDevice]

theorem scan_eq_chosen (h : (wantedFrom pid 0 l).length ≤ 255) :
    scan pid deviceIndex containerId l 0 0 = chosen pid deviceIndex containerId l := by
  rw [chosen_eq, scan_eq_chosenFrom (by simpa using h)]
  rfl

/-- The search opens the device that is meant, or no device: it succeeds exactly if there is
one that can be selected, the handle that is kept is the one of that device, and every other
handle that was opened has been closed once. -/
theorem find_libusb_device_exact (lib : Libusb) (u : UsbcmdDevice) (hinit : 0 ≤ lib.init)
    (hoption : 0 ≤ lib.setOption) (hlist : lib.list.Lists l) (hu : u.libusb = none)
    (hwanted : (wantedFrom u.pid 0 l).length ≤ 255) (deviceIndex : UInt32)
    (containerId : Option Guid) :
    let r := findLibusbDevice lib deviceIndex containerId u
    (r.2 = .succeeded ↔ Selectable u.pid deviceIndex l containerId) ∧
    (r.2 = .succeeded → ∃ d i, chosen u.pid deviceIndex containerId l = some (d, i) ∧
      l[i]? = some d ∧ r.1.usbcmd.libusb = some i ∧ r.1.desc = d.descriptor ∧
      r.1.log.count (.release (.handle i)) = 0) ∧
    (r.2 = .failed → r.1.usbcmd.libusb = none) ∧
    (∀ i, .acquire (.handle i) ∈ r.1.log → r.1.usbcmd.libusb ≠ some i →
      r.1.log.count (.release (.handle i)) = 1) ∧
    Owns r.1.log (.context ::ₘ held (r.1.usbcmd.libusb.map UsbResource.handle)) := by
  intro r
  have hleft := findLibusbDevice_left hinit hoption hlist hu deviceIndex containerId
  rw [scan_eq_chosen hwanted] at hleft
  obtain ⟨hfound, hlibusb, hdesc, -, hs, hnodup, hkept, hlog⟩ := hleft
  have hsucceeded : r.2 = .succeeded ↔ (chosen u.pid deviceIndex containerId l).isSome = true := by
    rw [findLibusbDevice_succeeded, hfound]
  refine ⟨hsucceeded.trans chosen_isSome_iff, ?_, ?_, ?_, ?_⟩
  · intro h
    obtain ⟨e, he⟩ := Option.isSome_iff_exists.mp (hsucceeded.mp h)
    refine ⟨e.1, e.2, he, getElem?_of_mem_wantedFrom (mem_of_chosen he), ?_, hdesc e he, ?_⟩
    · rw [hlibusb, he]
      rfl
    · rw [hlog, count_release_searchLog]
      exact List.count_eq_zero_of_not_mem (hkept e he)
  · intro h
    have hnone : chosen u.pid deviceIndex containerId l = none := by
      rw [← Option.not_isSome_iff_eq_none, ← hsucceeded, h]
      exact nofun
    rw [hlibusb, hnone]
    rfl
  · intro i hi hne
    rw [hlog] at hi ⊢
    rw [hlibusb] at hne
    rw [count_release_searchLog]
    exact List.count_eq_one_of_mem hnodup ((acquire_mem_searchLog hi).resolve_right hne)
  · rw [hlog, hlibusb]
    exact owns_searchLog _ hs _

/-- A device of the vendor with the container id `id`. -/
def sampleDevice (pid : UInt16) (id : Guid) : UsbDevice :=
  { descriptor := some ⟨zsaMsftVid, pid, 1⟩
    libusbOpen := 0
    bos := some [⟨2, none⟩, ⟨libusbBtContainerId, some id⟩]
    stringDescriptor := fun _ => some [48, 49]
    configuration := some 1
    setConfiguration := 0
    kernelDriverActive := 0
    detachKernelDriver := 0
    claimInterface := 0 }

/-- A mouse, a colour processor that another process has opened, and one that is free: the
second colour processor is selected by its number. -/
def sampleDevices : List UsbDevice :=
  [{ sampleDevice zsaRgbPid Guid.zero with descriptor := some ⟨0x046D, 0xC077, 0⟩ },
    { sampleDevice zsaRgbPid Guid.zero with libusbOpen := -3 }, sampleDevice zsaRgbPid Guid.zero]

theorem find_second_colour_processor :
    ∃ r : Search × Result,
      findLibusbDevice ⟨0, 0, .devices sampleDevices⟩ 1 none
        { UsbcmdDevice.zero with pid := zsaRgbPid } = r ∧
      r.2 = .succeeded ∧ r.1.usbcmd.libusb = some 2 := by
  have h := find_libusb_device_exact ⟨0, 0, .devices sampleDevices⟩
    { UsbcmdDevice.zero with pid := zsaRgbPid } (by decide) (by decide) ⟨rfl, by decide⟩ rfl
    (by decide) 1 none
  have hr := h.1.mpr ⟨_, rfl, by decide, _, rfl⟩
  obtain ⟨d, i, hc, -, hi, -⟩ := h.2.1 hr
  obtain ⟨-, rfl⟩ := Prod.mk.inj (Option.some.inj hc)
  exact ⟨_, rfl, hr, hi⟩

end Search

end ZsaSdk
