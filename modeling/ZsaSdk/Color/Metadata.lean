import ZsaSdk.Image.Model
import ZsaSdk.Lib.Bytes
import ZsaSdk.Lib.Loop

/-!
# Frame metadata

A frame of the colour camera comes with a list of items, each a header with an identifier and
a size, and a payload.  The reader on Linux walks the list with the bytes left in a `size_t`
(`UVCCameraReader::Callback`), the reader on Windows with the bytes left in a `LONG`
(`CFrameContext`).  Both step from item to item by the size the item gives.

*Memory.*  Offsets are those from the start of the buffer.  Memory goes on behind the buffer,
and what stands there is not known.  The walk records its reads; the code does not look at
them.

*Safety.*  The walk stays inside the buffer precisely if every item that it reaches holds the
fields that are read from it, and is not larger than what is left (`metadata_walk_within_iff`).
-/

namespace ZsaSdk

open Bytes

/-! ## The layout of the items -/

/-- `MetadataId_CaptureStats` -/
def metadataIdCaptureStats : UInt32 := 0x00000003

/-- `MetadataId_FrameAlignInfo` -/
def metadataIdFrameAlignInfo : UInt32 := 0x80000001

/-- `KSCAMERA_METADATA_CAPTURESTATS_FLAG_EXPOSURETIME` -/
def captureStatsFlagExposureTime : UInt32 := 0x00000001

/-- `KSCAMERA_METADATA_CAPTURESTATS_FLAG_ISOSPEED` -/
def captureStatsFlagIsoSpeed : UInt32 := 0x00000004

/-- `KSCAMERA_METADATA_CAPTURESTATS_FLAG_WHITEBALANCE` -/
def captureStatsFlagWhiteBalance : UInt32 := 0x00000020

/-- `sizeof(KSCAMERA_METADATA_ITEMHEADER)` -/
def itemHeaderSize : Nat := 8

def readUint32 (m : Nat → UInt8) (offset : Nat) : UInt32 := UInt32.ofNat (number m offset 4)

def readUint64 (m : Nat → UInt8) (offset : Nat) : UInt64 := UInt64.ofNat (number m offset 8)

section Item

variable (m : Nat → UInt8) (item : Nat)

/-- `MetadataId` of an item header. -/
def metadataId : UInt32 := readUint32 m item

/-- `Size` of an item header. -/
def metadataSize : UInt32 := readUint32 m (item + 4)

/-- `FramePTS` of a `CUSTOM_METADATA_FrameAlignInfo`. -/
def framePts : UInt64 := readUint64 m (item + 16)

/-- `Flags` of a `KSCAMERA_METADATA_CAPTURESTATS`. -/
def captureStatsFlags : UInt32 := readUint32 m (item + 8)

/-- `ExposureTime` -/
def captureStatsExposureTime : UInt64 := readUint64 m (item + 16)

/-- `IsoSpeed` -/
def captureStatsIsoSpeed : UInt32 := readUint32 m (item + 36)

/-- `WhiteBalance` -/
def captureStatsWhiteBalance : UInt32 := readUint32 m (item + 48)

/-- The field behind a flag is there. -/
def hasFlag (flag : UInt32) : Bool := captureStatsFlags m item &&& flag != 0

end Item

/-! ## The reader on Linux -/

/-- What is taken from the metadata of a frame. -/
structure FrameMetadata where
  framePts : UInt64
  exposureTime : UInt64
  isoSpeed : UInt32
  whiteBalance : UInt32
deriving DecidableEq, Repr

def FrameMetadata.zero : FrameMetadata := ⟨0, 0, 0, 0⟩

/-- A read of `size` bytes. -/
structure Access where
  offset : Nat
  size : Nat
deriving DecidableEq, Repr

/-- The `switch` over the identifier of an item. -/
def parseItem (m : Nat → UInt8) (item : Nat) (v : FrameMetadata) : FrameMetadata :=
  if metadataId m item = metadataIdFrameAlignInfo then { v with framePts := framePts m item }
  else if metadataId m item = metadataIdCaptureStats then
    let v := if hasFlag m item captureStatsFlagExposureTime then
      { v with exposureTime := captureStatsExposureTime m item / 10 } else v
    let v := if hasFlag m item captureStatsFlagIsoSpeed then
      { v with isoSpeed := captureStatsIsoSpeed m item } else v
    if hasFlag m item captureStatsFlagWhiteBalance then
      { v with whiteBalance := captureStatsWhiteBalance m item } else v
  else v

/-- The reads of one iteration: the identifier, the fields in the `switch`, and the size. -/
def itemReads (m : Nat → UInt8) (item : Nat) : List Access :=
  [⟨item, 4⟩] ++
  (if metadataId m item = metadataIdFrameAlignInfo then [⟨item + 16, 8⟩]
  else if metadataId m item = metadataIdCaptureStats then
    [⟨item + 8, 4⟩] ++
    (if hasFlag m item captureStatsFlagExposureTime then [⟨item + 16, 8⟩] else []) ++
    (if hasFlag m item captureStatsFlagIsoSpeed then [⟨item + 36, 4⟩] else []) ++
    (if hasFlag m item captureStatsFlagWhiteBalance then [⟨item + 48, 4⟩] else [])
  else []) ++ [⟨item + 4, 4⟩]

/-- The variables of the loop.  `left` says that a `break` has been executed. -/
structure MetadataWalk where
  item : Nat
  bufferLeft : UInt64
  values : FrameMetadata
  reads : List Access
  left : Bool

namespace MetadataWalk

/-- Before the loop.  A buffer that is smaller than a header is not walked. -/
def start (metadataBytes : UInt64) : MetadataWalk :=
  ⟨0, metadataBytes, .zero, [], metadataBytes < UInt64.ofNat itemHeaderSize⟩

def guard (s : MetadataWalk) : Bool := !s.left && s.bufferLeft > 0

def body (m : Nat → UInt8) (s : MetadataWalk) : MetadataWalk :=
  let s := { s with
    values := parseItem m s.item s.values
    reads := s.reads ++ itemReads m s.item }
  if metadataSize m s.item = 0 then { s with left := true }
  else
    let s := { s with bufferLeft := s.bufferLeft - (metadataSize m s.item).toUInt64 }
    if s.bufferLeft < UInt64.ofNat itemHeaderSize then { s with left := true }
    else { s with item := s.item + (metadataSize m s.item).toNat }

/-- The walk after `n` iterations at most. -/
def run (m : Nat → UInt8) (metadataBytes : UInt64) (n : Nat) : MetadataWalk :=
  Loop.run guard (body m) n (start metadataBytes)

end MetadataWalk

/-- The metadata of a frame.  An item that does not end the walk takes at least one byte; a
walk that has left the buffer is cut off here. -/
def parseMetadata (m : Nat → UInt8) (metadataBytes : UInt64) : FrameMetadata :=
  (MetadataWalk.run m metadataBytes (metadataBytes.toNat + 1)).values

/-! ## The reader on Windows -/

/-- The variables of the loop of `CFrameContext::CFrameContext`.  The bytes left are a `LONG`,
and are compared with a `size_t`. -/
structure FrameContextWalk where
  item : Nat
  bufferLeft : Int32
  capturePts : UInt64
  left : Bool

namespace FrameContextWalk

def start (currentLength : UInt32) : FrameContextWalk :=
  ⟨0, currentLength.toInt32, 0,
    ObjectStore.sizeT currentLength.toInt32 < UInt64.ofNat itemHeaderSize⟩

def guard (s : FrameContextWalk) : Bool := !s.left && s.bufferLeft > 0

def body (m : Nat → UInt8) (s : FrameContextWalk) : FrameContextWalk :=
  let s := if metadataId m s.item = metadataIdFrameAlignInfo then
    { s with capturePts := framePts m s.item } else s
  if metadataSize m s.item = 0 then { s with left := true }
  else
    let s := { s with bufferLeft := s.bufferLeft - (metadataSize m s.item).toInt32 }
    if ObjectStore.sizeT s.bufferLeft < UInt64.ofNat itemHeaderSize then { s with left := true }
    else { s with item := s.item + (metadataSize m s.item).toNat }

/-- The walk after `n` iterations at most. -/
def run (m : Nat → UInt8) (currentLength : UInt32) (n : Nat) : FrameContextWalk :=
  Loop.run guard (body m) n (start currentLength)

end FrameContextWalk

/-! ## Reads inside the buffer -/

/-- The read ends before the buffer of `n` bytes does. -/
def Access.Within (n : Nat) (r : Access) : Prop := r.offset + r.size ≤ n

/-- The buffer of `n` bytes holds what is read of the item at an offset: its header, and the
fields that its identifier and its flags select. -/
structure FieldsWithin (m : Nat → UInt8) (n item : Nat) : Prop where
  header : item + itemHeaderSize ≤ n
  framePts : metadataId m item = metadataIdFrameAlignInfo → item + 24 ≤ n
  flags : metadataId m item = metadataIdCaptureStats → item + 12 ≤ n
  exposureTime : metadataId m item = metadataIdCaptureStats →
    hasFlag m item captureStatsFlagExposureTime = true → item + 24 ≤ n
  isoSpeed : metadataId m item = metadataIdCaptureStats →
    hasFlag m item captureStatsFlagIsoSpeed = true → item + 40 ≤ n
  whiteBalance : metadataId m item = metadataIdCaptureStats →
    hasFlag m item captureStatsFlagWhiteBalance = true → item + 52 ≤ n

/-- The items from an offset on, as the sizes lead from one to the next: each holds its fields
and ends in the buffer.  The list ends with an item of size 0, or where no header is left. -/
inductive Items (m : Nat → UInt8) (n : Nat) : Nat → Prop where
  | zero {item : Nat} : FieldsWithin m n item → metadataSize m item = 0 → Items m n item
  | last {item : Nat} : FieldsWithin m n item → metadataSize m item ≠ 0 →
      item + (metadataSize m item).toNat ≤ n →
      n < item + (metadataSize m item).toNat + itemHeaderSize → Items m n item
  | next {item : Nat} : FieldsWithin m n item → metadataSize m item ≠ 0 →
      item + (metadataSize m item).toNat + itemHeaderSize ≤ n →
      Items m n (item + (metadataSize m item).toNat) → Items m n item

theorem captureStats_ne_frameAlignInfo : metadataIdCaptureStats ≠ metadataIdFrameAlignInfo := by
  decide

theorem forall_within_append {n : Nat} {l l' : List Access} :
    (∀ r ∈ l ++ l', r.Within n) ↔ (∀ r ∈ l, r.Within n) ∧ ∀ r ∈ l', r.Within n :=
  List.forall_mem_append

theorem forall_within_ite {n : Nat} {b : Bool} {r : Access} :
    (∀ r' ∈ (if b then [r] else []), r'.Within n) ↔ (b = true → r.Within n) := by
  cases b with
  | false => simp
  | true => simp

/-- The two reads of the header. -/
theorem header_within_iff {n item : Nat} {P : Prop} :
    ((⟨item, 4⟩ : Access).Within n ∧ P) ∧ (⟨item + 4, 4⟩ : Access).Within n ↔
      item + itemHeaderSize ≤ n ∧ P := by
  have h8 : itemHeaderSize = 8 := rfl
  simp only [Access.Within]
  constructor
  · rintro ⟨⟨-, hP⟩, hsize⟩
    exact ⟨by omega, hP⟩
  · rintro ⟨hle, hP⟩
    exact ⟨⟨by omega, hP⟩, by omega⟩

/-- The reads of one iteration. -/
theorem itemReads_within_iff {m : Nat → UInt8} {n item : Nat} :
    (∀ r ∈ itemReads m item, r.Within n) ↔ FieldsWithin m n item := by
  rw [itemReads, forall_within_append, forall_within_append, List.forall_mem_singleton,
    List.forall_mem_singleton, header_within_iff]
  split
  · next hid =>
    have hne : metadataId m item ≠ metadataIdCaptureStats :=
      fun heq => captureStats_ne_frameAlignInfo (heq.symm.trans hid)
    rw [List.forall_mem_singleton]
    constructor
    · rintro ⟨hheader, hpts⟩
      exact ⟨hheader, fun _ => hpts, fun h => absurd h hne, fun h => absurd h hne,
        fun h => absurd h hne, fun h => absurd h hne⟩
    · exact fun h => ⟨h.header, h.framePts hid⟩
  · next hid =>
    split
    · next hstats =>
      rw [forall_within_append, forall_within_append, forall_within_append, forall_within_ite,
        forall_within_ite, forall_within_ite, List.forall_mem_singleton]
      constructor
      · rintro ⟨hheader, ⟨⟨hflags, hexposure⟩, hiso⟩, hwhite⟩
        exact ⟨hheader, fun h => absurd h hid, fun _ => hflags, fun _ => hexposure, fun _ => hiso,
          fun _ => hwhite⟩
      · intro h
        exact ⟨h.header, ⟨⟨h.flags hstats, h.exposureTime hstats⟩, h.isoSpeed hstats⟩,
          h.whiteBalance hstats⟩
    · next hstats =>
      constructor
      · rintro ⟨hheader, -⟩
        exact ⟨hheader, fun h => absurd h hid, fun h => absurd h hstats,
          fun h => absurd h hstats, fun h => absurd h hstats, fun h => absurd h hstats⟩
      · exact fun h => ⟨h.header, nofun⟩

namespace MetadataWalk

variable {m : Nat → UInt8} {n : Nat} {s : MetadataWalk}

/-- The walk stops, and all its reads end inside the buffer. -/
def Safe (m : Nat → UInt8) (n : Nat) (s : MetadataWalk) : Prop :=
  ∃ k, guard (Loop.run guard (body m) k s) = false ∧
    ∀ r ∈ (Loop.run guard (body m) k s).reads, r.Within n

/-- The walk is at an item and counts the bytes left from there. -/
structure At (n : Nat) (s : MetadataWalk) : Prop where
  left : s.left = false
  header : s.item + itemHeaderSize ≤ n
  bufferLeft : s.bufferLeft.toNat = n - s.item

theorem At.guard (h : At n s) : MetadataWalk.guard s = true := by
  have hpos : 0 < s.bufferLeft := by
    have h8 : itemHeaderSize = 8 := rfl
    have hheader := h.header
    rw [UInt64.lt_iff_toNat_lt, h.bufferLeft, UInt64.toNat_zero]
    omega
  simp [MetadataWalk.guard, h.left, hpos]

theorem reads_body : (body m s).reads = s.reads ++ itemReads m s.item := by
  simp only [body]
  split
  · rfl
  · split
    · rfl
    · rfl

/-- A read is never forgotten. -/
theorem mem_reads_run {r : Access} (hr : r ∈ s.reads) (k : Nat) :
    r ∈ (Loop.run MetadataWalk.guard (body m) k s).reads := by
  refine Loop.run_invariant (fun t => r ∈ t.reads) ?_ k s hr
  intro t _ ht
  rw [reads_body]
  exact List.mem_append_left _ ht

/-- An item of size 0 ends the walk. -/
theorem left_body_of_zero (h : metadataSize m s.item = 0) : (body m s).left = true := by
  simp only [body]
  rw [if_pos h]

/-- What is left behind the item. -/
theorem toNat_bufferLeft_sub (s : MetadataWalk) :
    (s.bufferLeft - (metadataSize m s.item).toUInt64).toNat =
      (s.bufferLeft.toNat + 2 ^ 64 - (metadataSize m s.item).toNat) % 2 ^ 64 := by
  have hlt := (metadataSize m s.item).toNat_lt
  rw [UInt64.toNat_sub, UInt32.toNat_toUInt64]
  omega

/-- Where no header is left the walk ends. -/
theorem left_body_of_lt (hz : metadataSize m s.item ≠ 0)
    (h : (s.bufferLeft - (metadataSize m s.item).toUInt64).toNat < itemHeaderSize) :
    (body m s).left = true := by
  have hlt : s.bufferLeft - (metadataSize m s.item).toUInt64 < UInt64.ofNat itemHeaderSize :=
    UInt64.lt_iff_toNat_lt.mpr h
  simp only [body]
  rw [if_neg hz, if_pos hlt]

/-- Otherwise it goes on to the next item. -/
theorem body_of_le (hz : metadataSize m s.item ≠ 0)
    (h : itemHeaderSize ≤ (s.bufferLeft - (metadataSize m s.item).toUInt64).toNat) :
    (body m s).left = s.left ∧ (body m s).item = s.item + (metadataSize m s.item).toNat ∧
      (body m s).bufferLeft = s.bufferLeft - (metadataSize m s.item).toUInt64 := by
  have hle : ¬ s.bufferLeft - (metadataSize m s.item).toUInt64 < UInt64.ofNat itemHeaderSize := by
    rw [UInt64.not_lt]
    exact UInt64.le_iff_toNat_le.mpr h
  simp only [body]
  rw [if_neg hz, if_neg hle]
  exact ⟨rfl, rfl, rfl⟩

theorem guard_of_left (h : s.left = true) : MetadataWalk.guard s = false := by
  simp [MetadataWalk.guard, h]

/-- An iteration that ends the walk. -/
theorem Safe.of_left (hat : At n s) (hreads : ∀ r ∈ s.reads, r.Within n)
    (hfields : FieldsWithin m n s.item) (hleft : (body m s).left = true) : Safe m n s := by
  refine ⟨1, ?_⟩
  rw [Loop.run_succ_true hat.guard, Loop.run_zero, reads_body]
  exact ⟨guard_of_left hleft,
    forall_within_append.mpr ⟨hreads, itemReads_within_iff.mpr hfields⟩⟩

/-- An iteration that goes on. -/
theorem Safe.of_body (hat : At n s) (h : Safe m n (body m s)) : Safe m n s := by
  obtain ⟨k, hstop, hwithin⟩ := h
  refine ⟨k + 1, ?_⟩
  rw [Loop.run_succ_true hat.guard]
  exact ⟨hstop, hwithin⟩

/-- What is left behind an item that ends in the buffer. -/
theorem At.bufferLeft_sub (hat : At n s) (hle : s.item + (metadataSize m s.item).toNat ≤ n) :
    (s.bufferLeft - (metadataSize m s.item).toUInt64).toNat =
      n - (s.item + (metadataSize m s.item).toNat) := by
  have hlt := s.bufferLeft.toNat_lt
  have heq := hat.bufferLeft
  rw [toNat_bufferLeft_sub]
  omega

/-- The next item of the buffer. -/
theorem At.body (hat : At n s) (hz : metadataSize m s.item ≠ 0)
    (hle : s.item + (metadataSize m s.item).toNat + itemHeaderSize ≤ n) :
    At n (MetadataWalk.body m s) ∧
      (MetadataWalk.body m s).item = s.item + (metadataSize m s.item).toNat := by
  have hsub := hat.bufferLeft_sub (m := m) (by omega)
  obtain ⟨hleft, hitem, hbuffer⟩ := body_of_le hz (by rw [hsub]; omega)
  refine ⟨⟨hleft.trans hat.left, ?_, ?_⟩, hitem⟩
  · rw [hitem]
    exact hle
  · rw [hbuffer, hsub, hitem]

/-- The walk over items that hold their fields. -/
theorem safe_of_items {item : Nat} (h : Items m n item) : ∀ {s : MetadataWalk}, At n s →
    s.item = item → (∀ r ∈ s.reads, r.Within n) → Safe m n s := by
  induction h with
  | zero hfields hz =>
      rintro s hat rfl hreads
      exact Safe.of_left hat hreads hfields (left_body_of_zero hz)
  | last hfields hz hle hlt =>
      rintro s hat rfl hreads
      refine Safe.of_left hat hreads hfields (left_body_of_lt hz ?_)
      rw [hat.bufferLeft_sub hle]
      omega
  | next hfields hz hle _ ih =>
      rintro s hat rfl hreads
      obtain ⟨hat', hitem⟩ := hat.body hz hle
      refine Safe.of_body hat (ih hat' hitem ?_)
      rw [reads_body]
      exact forall_within_append.mpr ⟨hreads, itemReads_within_iff.mpr hfields⟩

/-- If the rest of the walk stays inside the buffer, so do the reads of the next iteration. -/
theorem fieldsWithin_of_safe {k : Nat} (hg : guard s = true)
    (hstop : guard (Loop.run guard (MetadataWalk.body m) k s) = false)
    (hwithin : ∀ r ∈ (Loop.run guard (MetadataWalk.body m) k s).reads, r.Within n) :
    FieldsWithin m n s.item := by
  cases k with
  | zero =>
      rw [Loop.run_zero, hg] at hstop
      cases hstop
  | succ k =>
      rw [Loop.run_succ_true hg] at hwithin
      refine itemReads_within_iff.mp ?_
      intro r hr
      refine hwithin r (mem_reads_run ?_ k)
      rw [reads_body]
      exact List.mem_append_right _ hr

/-- If an item is larger than what is left, the count of the bytes left wraps around, and the
walk goes on behind the buffer. -/
theorem body_beyond (hn : n < 2 ^ 64) (hat : At n s) (hz : metadataSize m s.item ≠ 0)
    (hlt : n < s.item + (metadataSize m s.item).toNat) :
    guard (MetadataWalk.body m s) = true ∧ n < (MetadataWalk.body m s).item := by
  have h8 : itemHeaderSize = 8 := rfl
  have hheader := hat.header
  have heq := hat.bufferLeft
  have hsize := (metadataSize m s.item).toNat_lt
  have hsub := toNat_bufferLeft_sub (m := m) s
  obtain ⟨hleft, hitem, hbuffer⟩ := body_of_le hz (by rw [hsub]; omega)
  have hpos : 0 < (MetadataWalk.body m s).bufferLeft := by
    rw [hbuffer, UInt64.lt_iff_toNat_lt, hsub, UInt64.toNat_zero]
    omega
  refine ⟨?_, ?_⟩
  · simp [MetadataWalk.guard, hleft, hat.left, hpos]
  · rw [hitem]
    exact hlt

/-- A walk that stays inside the buffer finds such items.  The induction is on the number of
iterations left. -/
theorem items_of_safe (hn : n < 2 ^ 64) (k : Nat) : ∀ {s : MetadataWalk}, At n s →
    guard (Loop.run guard (MetadataWalk.body m) k s) = false →
    (∀ r ∈ (Loop.run guard (MetadataWalk.body m) k s).reads, r.Within n) → Items m n s.item := by
  induction k with
  | zero =>
      intro s hat hstop _
      rw [Loop.run_zero, hat.guard] at hstop
      cases hstop
  | succ k ih =>
      intro s hat hstop hwithin
      have hfields := fieldsWithin_of_safe hat.guard hstop hwithin
      rw [Loop.run_succ_true hat.guard] at hstop hwithin
      by_cases hz : metadataSize m s.item = 0
      · exact Items.zero hfields hz
      by_cases hle : s.item + (metadataSize m s.item).toNat ≤ n
      · by_cases hlt : n < s.item + (metadataSize m s.item).toNat + itemHeaderSize
        · exact Items.last hfields hz hle hlt
        · have hnext := Nat.not_lt.mp hlt
          obtain ⟨hat', hitem⟩ := hat.body hz hnext
          refine Items.next hfields hz hnext ?_
          rw [← hitem]
          exact ih hat' hstop hwithin
      · obtain ⟨hg, hbeyond⟩ := body_beyond hn hat hz (Nat.not_le.mp hle)
        have hheader := (fieldsWithin_of_safe hg hstop hwithin).header
        omega

end MetadataWalk

/-- The walk over the metadata of a frame ends and stays inside the buffer precisely if the
buffer is smaller than a header, or if every item that the sizes lead to holds the fields read
from it and ends in the buffer. -/
theorem metadata_walk_within_iff (m : Nat → UInt8) (metadataBytes : UInt64) :
    (∃ k, MetadataWalk.guard (MetadataWalk.run m metadataBytes k) = false ∧
      ∀ r ∈ (MetadataWalk.run m metadataBytes k).reads, r.Within metadataBytes.toNat) ↔
    metadataBytes.toNat < itemHeaderSize ∨ Items m metadataBytes.toNat 0 := by
  by_cases hlt : metadataBytes.toNat < itemHeaderSize
  · refine iff_of_true ⟨0, ?_, nofun⟩ (Or.inl hlt)
    exact MetadataWalk.guard_of_left (decide_eq_true (UInt64.lt_iff_toNat_lt.mpr hlt))
  · have hat : MetadataWalk.At metadataBytes.toNat (MetadataWalk.start metadataBytes) := by
      refine ⟨?_, ?_, rfl⟩
      · refine decide_eq_false ?_
        rw [UInt64.lt_iff_toNat_lt]
        exact hlt
      · rw [MetadataWalk.start, Nat.zero_add]
        exact Nat.not_lt.mp hlt
    rw [or_iff_right hlt]
    constructor
    · rintro ⟨k, hstop, hwithin⟩
      exact MetadataWalk.items_of_safe metadataBytes.toNat_lt k hat hstop hwithin
    · intro hitems
      exact MetadataWalk.safe_of_items hitems hat rfl nofun

/-- A buffer of 8 bytes that holds the header of a `FrameAlignInfo`.  Its time stamp is read
behind the end. -/
theorem frame_align_info_header_only :
    let m := Bytes.memory (ofNumber 4 0x80000001 ++ ofNumber 4 8)
    (MetadataWalk.run m 8 1).reads = [⟨0, 4⟩, ⟨16, 8⟩, ⟨4, 4⟩] ∧
    MetadataWalk.guard (MetadataWalk.run m 8 1) = false ∧
    ¬ ∃ k, MetadataWalk.guard (MetadataWalk.run m 8 k) = false ∧
      ∀ r ∈ (MetadataWalk.run m 8 k).reads, r.Within 8 := by
  refine ⟨by decide, by decide, ?_⟩
  rintro ⟨k, hstop, hwithin⟩
  have hfields := MetadataWalk.fieldsWithin_of_safe (by decide) hstop hwithin
  exact absurd (hfields.framePts (by decide)) (by decide)

end ZsaSdk
