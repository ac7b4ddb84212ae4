import ZsaSdk.Color.Metadata
import ZsaSdk.Image.Sizes
import ZsaSdk.Lib.Conversions

/-!
# Lists of metadata items

The buffer of a frame that is well formed is the concatenation of its items.  On every such
buffer both readers visit each item once and stop behind the last one, although they count the
bytes left in different types, so both take the same time stamp from it, the one of the last
item that has one (`metadata_readers_agree`).
-/

namespace ZsaSdk

open Bytes

/-! ## Items -/

/-- An item, without the size in its header. -/
structure MetadataItem where
  id : UInt32
  payload : List UInt8
deriving DecidableEq, Repr

/-- `sizeof(CUSTOM_METADATA_FrameAlignInfo)` on Linux. -/
def frameAlignInfoSize : Nat := 44

/-- `sizeof(CUSTOM_METADATA_FrameAlignInfo)` on Windows, where it has one more field. -/
def mfFrameAlignInfoSize : Nat := 48

/-- `sizeof(KSCAMERA_METADATA_CAPTURESTATS)` -/
def captureStatsSize : Nat := 80

namespace MetadataItem

/-- `Size` of the header. -/
def size (i : MetadataItem) : Nat := itemHeaderSize + i.payload.length

def encode (i : MetadataItem) : List UInt8 :=
  ofNumber 4 i.id.toNat ++ ofNumber 4 i.size ++ i.payload

def flags (i : MetadataItem) : UInt32 := readUint32 (memory i.payload) 0

/-- `FramePTS`, if the item has one. -/
def framePts? (i : MetadataItem) : Option UInt64 :=
  if i.id = metadataIdFrameAlignInfo then some (readUint64 (memory i.payload) 8) else none

/-- The exposure time in microseconds, if the item has one. -/
def exposureTime? (i : MetadataItem) : Option UInt64 :=
  if i.id = metadataIdCaptureStats ∧ i.flags &&& captureStatsFlagExposureTime ≠ 0 then
    some (readUint64 (memory i.payload) 8 / 10) else none

def isoSpeed? (i : MetadataItem) : Option UInt32 :=
  if i.id = metadataIdCaptureStats ∧ i.flags &&& captureStatsFlagIsoSpeed ≠ 0 then
    some (readUint32 (memory i.payload) 28) else none

def whiteBalance? (i : MetadataItem) : Option UInt32 :=
  if i.id = metadataIdCaptureStats ∧ i.flags &&& captureStatsFlagWhiteBalance ≠ 0 then
    some (readUint32 (memory i.payload) 40) else none

/-- The item is at least as large as the structure that its identifier selects, on either
platform. -/
structure WellFormed (i : MetadataItem) : Prop where
  frameAlignInfo : i.id = metadataIdFrameAlignInfo →
    frameAlignInfoSize ≤ i.size ∧ mfFrameAlignInfoSize ≤ i.size
  captureStats : i.id = metadataIdCaptureStats → captureStatsSize ≤ i.size

/-- What an item makes of the values found so far. -/
def apply (i : MetadataItem) (v : FrameMetadata) : FrameMetadata :=
  ⟨i.framePts?.getD v.framePts, i.exposureTime?.getD v.exposureTime,
    i.isoSpeed?.getD v.isoSpeed, i.whiteBalance?.getD v.whiteBalance⟩

end MetadataItem

/-- The bytes of a list of items. -/
def encodeItems (items : List MetadataItem) : List UInt8 := items.flatMap MetadataItem.encode

/-- The value of the last item that has one, and 0 if none has. -/
def lastValue {α : Type} [OfNat α 0] (f : MetadataItem → Option α)
    (items : List MetadataItem) : α :=
  (items.filterMap f).getLast?.getD 0

/-- The values of a list of items. -/
def decodeItems (items : List MetadataItem) : FrameMetadata :=
  ⟨lastValue MetadataItem.framePts? items, lastValue MetadataItem.exposureTime? items,
    lastValue MetadataItem.isoSpeed? items, lastValue MetadataItem.whiteBalance? items⟩

/-- The items of a buffer that is well formed. -/
structure WellFormedItems (items : List MetadataItem) : Prop where
  nonempty : items ≠ []
  item : ∀ i ∈ items, i.WellFormed
  length : (encodeItems items).length < 2 ^ 31

/-! ## Values of the last item -/

theorem foldl_getD {α β : Type} (f : α → Option β) (l : List α) (b : β) :
    l.foldl (fun b a => (f a).getD b) b = (l.filterMap f).getLast?.getD b := by
  induction l generalizing b with
  | nil => rfl
  | cons a l ih =>
      rw [List.foldl_cons, ih, List.filterMap_cons]
      cases f a with
      | none => rfl
      | some c =>
          rw [List.getLast?_cons, Option.getD_some]
          cases (l.filterMap f).getLast? with
          | none => rfl
          | some d => rfl

/-- Going through the items one by one leaves the values of the last items. -/
theorem foldl_apply (items : List MetadataItem) (v : FrameMetadata) :
    items.foldl (fun v i => i.apply v) v =
      ⟨items.foldl (fun b i => i.framePts?.getD b) v.framePts,
        items.foldl (fun b i => i.exposureTime?.getD b) v.exposureTime,
        items.foldl (fun b i => i.isoSpeed?.getD b) v.isoSpeed,
        items.foldl (fun b i => i.whiteBalance?.getD b) v.whiteBalance⟩ := by
  induction items generalizing v with
  | nil => rfl
  | cons i items ih => exact ih (i.apply v)

theorem decodeItems_eq (items : List MetadataItem) :
    decodeItems items = items.foldl (fun v i => i.apply v) .zero := by
  rw [foldl_apply, foldl_getD, foldl_getD, foldl_getD, foldl_getD]
  rfl

/-! ## Reading an item -/

theorem getD_ite {α : Type} {p : Prop} [Decidable p] (a b : α) :
    (if p then some a else none).getD b = if p then a else b := by
  split
  · rfl
  · rfl

section Read

variable {m : Nat → UInt8} {o : Nat} {i : MetadataItem}

theorem length_encode (i : MetadataItem) : i.encode.length = i.size := by
  rw [MetadataItem.encode, List.length_append, List.length_append, length_ofNumber,
    length_ofNumber]
  rfl

theorem metadataId_of_holds (h : Holds m o i.encode) : metadataId m o = i.id := by
  have hnumber := number_of_holds_ofNumber h.left.left
  have hlt := i.id.toNat_lt
  rw [metadataId, readUint32, hnumber, Nat.mod_eq_of_lt (by omega), UInt32.ofNat_toNat]

theorem metadataSize_of_holds (h : Holds m o i.encode) (hsize : i.size < 2 ^ 32) :
    (metadataSize m o).toNat = i.size := by
  have hnumber := number_of_holds_ofNumber h.left.right
  rw [length_ofNumber] at hnumber
  rw [metadataSize, readUint32, hnumber, UInt32.toNat_ofNat']
  omega

theorem payload_of_holds (h : Holds m o i.encode) : Holds m (o + 8) i.payload := by
  have hright := h.right
  rw [List.length_append, length_ofNumber, length_ofNumber] at hright
  exact hright

theorem readUint32_payload (h : Holds m o i.encode) {k : Nat} (hk : k + 4 ≤ i.payload.length) :
    readUint32 m (o + 8 + k) = readUint32 (memory i.payload) k := by
  rw [readUint32, (payload_of_holds h).number hk]
  rfl

theorem readUint64_payload (h : Holds m o i.encode) {k : Nat} (hk : k + 8 ≤ i.payload.length) :
    readUint64 m (o + 8 + k) = readUint64 (memory i.payload) k := by
  rw [readUint64, (payload_of_holds h).number hk]
  rfl

theorem flags_of_holds (h : Holds m o i.encode) (hk : 4 ≤ i.payload.length) (flag : UInt32) :
    hasFlag m o flag = true ↔ i.flags &&& flag ≠ 0 := by
  have hread : captureStatsFlags m o = i.flags := readUint32_payload h (k := 0) (by omega)
  rw [hasFlag, hread, bne_iff_ne]

theorem framePts_of_holds (h : Holds m o i.encode) (hwf : i.WellFormed)
    (hid : i.id = metadataIdFrameAlignInfo) :
    framePts m o = readUint64 (memory i.payload) 8 := by
  have hsize : i.size = 8 + i.payload.length := rfl
  have hlength : 44 ≤ i.size := (hwf.frameAlignInfo hid).1
  exact readUint64_payload h (k := 8) (by omega)

/-- What the `switch` makes of an item is what the item says. -/
theorem parseItem_of_holds (h : Holds m o i.encode) (hwf : i.WellFormed) (v : FrameMetadata) :
    parseItem m o v = i.apply v := by
  have hsize : i.size = 8 + i.payload.length := rfl
  rw [parseItem, metadataId_of_holds h, MetadataItem.apply, MetadataItem.framePts?,
    MetadataItem.exposureTime?, MetadataItem.isoSpeed?, MetadataItem.whiteBalance?]
  split
  · next hid =>
    have hne : i.id ≠ metadataIdCaptureStats :=
      fun heq => captureStats_ne_frameAlignInfo (heq.symm.trans hid)
    rw [framePts_of_holds h hwf hid, if_neg (not_and_of_not_left _ hne),
      if_neg (not_and_of_not_left _ hne), if_neg (not_and_of_not_left _ hne)]
    rfl
  · next hid =>
    split
    · next hstats =>
      have hlength : 80 ≤ i.size := hwf.captureStats hstats
      have hexposure : captureStatsExposureTime m o = readUint64 (memory i.payload) 8 :=
        readUint64_payload h (k := 8) (by omega)
      have hiso : captureStatsIsoSpeed m o = readUint32 (memory i.payload) 28 :=
        readUint32_payload h (k := 28) (by omega)
      have hwhite : captureStatsWhiteBalance m o = readUint32 (memory i.payload) 40 :=
        readUint32_payload h (k := 40) (by omega)
      have hflags := flags_of_holds h (show 4 ≤ i.payload.length by omega)
      rw [hexposure, hiso, hwhite, getD_ite, getD_ite, getD_ite]
      simp only [hflags, hstats, true_and]
      split
      · split
        · split <;> rfl
        · split <;> rfl
      · split
        · split <;> rfl
        · split <;> rfl
    · next hstats =>
      rw [if_neg (not_and_of_not_left _ hstats), if_neg (not_and_of_not_left _ hstats),
        if_neg (not_and_of_not_left _ hstats)]
      rfl

end Read

/-! ## The rest of a buffer -/

/-- The items stand in the buffer of `n` bytes from an offset to the end. -/
structure Rest (m : Nat → UInt8) (n item : Nat) (items : List MetadataItem) : Prop where
  holds : Holds m item (encodeItems items)
  length : item + (encodeItems items).length = n
  wellFormed : ∀ i ∈ items, i.WellFormed
  small : n < 2 ^ 31

namespace Rest

variable {m : Nat → UInt8} {n item : Nat} {i : MetadataItem} {items : List MetadataItem}

theorem length_cons (i : MetadataItem) (items : List MetadataItem) :
    (encodeItems (i :: items)).length = i.size + (encodeItems items).length := by
  rw [encodeItems, List.flatMap_cons, List.length_append, length_encode, encodeItems]

theorem head (h : Rest m n item (i :: items)) : Holds m item i.encode := h.holds.left

theorem size (h : Rest m n item (i :: items)) : (metadataSize m item).toNat = i.size := by
  have hlength := h.length
  have hsmall := h.small
  rw [length_cons] at hlength
  exact metadataSize_of_holds h.head (by omega)

/-- A buffer with an item has a header. -/
theorem header (h : Rest m n item (i :: items)) : item + itemHeaderSize ≤ n := by
  have hlength := h.length
  have hle : itemHeaderSize ≤ i.size := Nat.le_add_right _ _
  rw [length_cons] at hlength
  omega

theorem size_ne_zero (h : Rest m n item (i :: items)) : metadataSize m item ≠ 0 := by
  have hpos : 0 < i.size := Nat.add_pos_left (by decide) _
  rintro hzero
  rw [← h.size, hzero] at hpos
  exact absurd hpos (by decide)

theorem tail (h : Rest m n item (i :: items)) :
    Rest m n (item + (metadataSize m item).toNat) items := by
  have hlength := h.length
  have hholds : Holds m (item + i.encode.length) (encodeItems items) := h.holds.right
  rw [length_cons] at hlength
  rw [length_encode] at hholds
  rw [h.size]
  exact ⟨hholds, by omega, fun j hj => h.wellFormed j (List.mem_cons_of_mem _ hj), h.small⟩

theorem nil (h : Rest m n item []) : item = n := h.length

theorem head_wellFormed (h : Rest m n item (i :: items)) : i.WellFormed :=
  h.wellFormed i List.mem_cons_self

/-- The item is what the `switch` sees. -/
theorem parseItem (h : Rest m n item (i :: items)) (v : FrameMetadata) :
    ZsaSdk.parseItem m item v = i.apply v :=
  parseItem_of_holds h.head h.head_wellFormed v

end Rest

/-- There are not more items than bytes. -/
theorem length_le_encodeItems (items : List MetadataItem) :
    items.length ≤ (encodeItems items).length := by
  induction items with
  | nil => exact Nat.le_refl _
  | cons i items ih =>
      have hpos : 0 < i.size := Nat.add_pos_left (by decide) _
      rw [List.length_cons, Rest.length_cons]
      omega

/-! ## The reader on Linux -/

namespace MetadataWalk

variable {m : Nat → UInt8} {n : Nat} {s : MetadataWalk}

theorem values_body : (body m s).values = parseItem m s.item s.values := by
  simp only [body]
  split
  · rfl
  · split
    · rfl
    · rfl

/-- The walk visits every item once and stops behind the last.  The induction is on the items
that are left. -/
theorem run_items {items : List MetadataItem} (hne : items ≠ []) (hat : At n s)
    (hrest : Rest m n s.item items) :
    guard (Loop.run guard (body m) items.length s) = false ∧
      (Loop.run guard (body m) items.length s).values =
        items.foldl (fun v i => i.apply v) s.values := by
  induction items generalizing s with
  | nil => exact absurd rfl hne
  | cons i items ih =>
      have hvalues : (body m s).values = i.apply s.values :=
        values_body.trans (hrest.parseItem s.values)
      rw [List.length_cons, Loop.run_succ_true hat.guard, List.foldl_cons, ← hvalues]
      cases items with
      | nil =>
          have hend := hrest.tail.nil
          refine ⟨guard_of_left (left_body_of_lt hrest.size_ne_zero ?_), rfl⟩
          rw [hat.bufferLeft_sub hend.le, hend, Nat.sub_self]
          decide
      | cons j items =>
          obtain ⟨hat', hitem⟩ := hat.body hrest.size_ne_zero hrest.tail.header
          refine ih (List.cons_ne_nil _ _) hat' ?_
          rw [hitem]
          exact hrest.tail

theorem at_start (hn : n < 2 ^ 31) (hle : 0 + itemHeaderSize ≤ n) :
    At n (start (UInt64.ofNat n)) := by
  have hlength : (UInt64.ofNat n).toNat = n := UInt64.toNat_ofNat_of_lt' (hn.trans (by decide))
  refine ⟨decide_eq_false ?_, hle, hlength⟩
  rw [UInt64.lt_iff_toNat_lt, hlength]
  exact Nat.not_lt.mpr (Nat.zero_add itemHeaderSize ▸ hle)

end MetadataWalk

/-! ## The reader on Windows -/

namespace FrameContextWalk

variable {m : Nat → UInt8} {n : Nat} {s : FrameContextWalk}

/-- The walk is at an item and counts the bytes left from there. -/
structure At (n : Nat) (s : FrameContextWalk) : Prop where
  left : s.left = false
  header : s.item + itemHeaderSize ≤ n
  bufferLeft : s.bufferLeft.toInt = n - s.item

theorem At.guard (h : At n s) : FrameContextWalk.guard s = true := by
  have hpos : 0 < s.bufferLeft := by
    have h8 : itemHeaderSize = 8 := rfl
    have hheader := h.header
    rw [Int32.lt_iff_toInt_lt, h.bufferLeft, Int32.toInt_zero]
    omega
  simp [FrameContextWalk.guard, h.left, hpos]

theorem guard_of_left (h : s.left = true) : FrameContextWalk.guard s = false := by
  simp [FrameContextWalk.guard, h]

/-- What is left behind an item that ends in the buffer. -/
theorem At.bufferLeft_sub (hat : At n s) (hn : n < 2 ^ 31)
    (hle : s.item + (metadataSize m s.item).toNat ≤ n) :
    (s.bufferLeft - (metadataSize m s.item).toInt32).toInt =
      n - (s.item + (metadataSize m s.item).toNat) := by
  rw [Int32.toInt_sub, hat.bufferLeft, Conversions.toInt_toInt32 (by omega),
    Int.bmod_eq_of_le (by omega)
    (by omega)]
  omega

/-- A count of bytes that is not negative is compared as it is. -/
theorem sizeT_lt_iff {x : Int32} (h : 0 ≤ x.toInt) :
    ObjectStore.sizeT x < UInt64.ofNat itemHeaderSize ↔ x.toInt < itemHeaderSize := by
  have h8 : (UInt64.ofNat itemHeaderSize).toNat = itemHeaderSize := rfl
  have hsize := ObjectStore.toNat_sizeT x
  have hlt := x.toInt_lt
  rw [UInt64.lt_iff_toNat_lt, h8]
  omega

/-- The assignments of an iteration, with the one of the `switch` brought into the record. -/
theorem body_eq (m : Nat → UInt8) (s : FrameContextWalk) :
    body m s =
      let pts := if metadataId m s.item = metadataIdFrameAlignInfo then framePts m s.item
        else s.capturePts
      let bufferLeft := s.bufferLeft - (metadataSize m s.item).toInt32
      if metadataSize m s.item = 0 then ⟨s.item, s.bufferLeft, pts, true⟩
      else if ObjectStore.sizeT bufferLeft < UInt64.ofNat itemHeaderSize then
        ⟨s.item, bufferLeft, pts, true⟩
      else ⟨s.item + (metadataSize m s.item).toNat, bufferLeft, pts, s.left⟩ := by
  simp only [body]
  split
  · rfl
  · rfl

/-- The time stamp of an item that is well formed. -/
theorem capturePts_body {items : List MetadataItem} {i : MetadataItem}
    (hrest : Rest m n s.item (i :: items)) {v : FrameMetadata} (hv : s.capturePts = v.framePts) :
    (body m s).capturePts = (i.apply v).framePts := by
  have happly : (i.apply v).framePts =
      if metadataId m s.item = metadataIdFrameAlignInfo then framePts m s.item
      else v.framePts := by
    rw [metadataId_of_holds hrest.head, MetadataItem.apply, MetadataItem.framePts?, getD_ite]
    split
    · next hid => exact (framePts_of_holds hrest.head hrest.head_wellFormed hid).symm
    · rfl
  rw [happly, ← hv, body_eq]
  simp only
  generalize (if metadataId m s.item = metadataIdFrameAlignInfo then framePts m s.item
    else s.capturePts) = pts
  split
  · rfl
  · split
    · rfl
    · rfl

/-- Where no header is left the walk ends. -/
theorem left_body_of_lt (hz : metadataSize m s.item ≠ 0)
    (h : ObjectStore.sizeT (s.bufferLeft - (metadataSize m s.item).toInt32) <
      UInt64.ofNat itemHeaderSize) :
    (body m s).left = true := by
  rw [body_eq]
  simp only
  rw [if_neg hz, if_pos h]

/-- The next item of the buffer. -/
theorem At.body (hat : At n s) (hn : n < 2 ^ 31) (hz : metadataSize m s.item ≠ 0)
    (hle : s.item + (metadataSize m s.item).toNat + itemHeaderSize ≤ n) :
    At n (FrameContextWalk.body m s) ∧
      (FrameContextWalk.body m s).item = s.item + (metadataSize m s.item).toNat := by
  have hsub := hat.bufferLeft_sub (m := m) hn (by omega)
  have hnot : ¬ ObjectStore.sizeT (s.bufferLeft - (metadataSize m s.item).toInt32) <
      UInt64.ofNat itemHeaderSize := by
    rw [sizeT_lt_iff (by omega), hsub]
    omega
  rw [body_eq]
  simp only
  rw [if_neg hz, if_neg hnot]
  refine ⟨⟨hat.left, hle, ?_⟩, rfl⟩
  rw [hsub]
  rfl

/-- The walk visits every item once and stops behind the last. -/
theorem run_items {items : List MetadataItem} (hne : items ≠ []) (hat : At n s)
    (hrest : Rest m n s.item items) {v : FrameMetadata} (hv : s.capturePts = v.framePts) :
    guard (Loop.run guard (FrameContextWalk.body m) items.length s) = false ∧
      (Loop.run guard (FrameContextWalk.body m) items.length s).capturePts =
        (items.foldl (fun v i => i.apply v) v).framePts := by
  induction items generalizing s v with
  | nil => exact absurd rfl hne
  | cons i items ih =>
      have hpts := capturePts_body hrest hv
      rw [List.length_cons, Loop.run_succ_true hat.guard, List.foldl_cons]
      cases items with
      | nil =>
          have hend := hrest.tail.nil
          have hsub := hat.bufferLeft_sub hrest.small hend.le
          refine ⟨guard_of_left (left_body_of_lt hrest.size_ne_zero ?_), hpts⟩
          rw [sizeT_lt_iff (by omega), hsub]
          have hpos : 0 < itemHeaderSize := by decide
          omega
      | cons j items =>
          obtain ⟨hat', hitem⟩ := hat.body hrest.small hrest.size_ne_zero hrest.tail.header
          refine ih (List.cons_ne_nil _ _) hat' ?_ hpts
          rw [hitem]
          exact hrest.tail

theorem at_start (hn : n < 2 ^ 31) (hle : 0 + itemHeaderSize ≤ n) :
    At n (start (UInt32.ofNat n)) := by
  have hlength : (UInt32.ofNat n).toInt32.toInt = n := by
    have hnat : (UInt32.ofNat n).toNat = n := UInt32.toNat_ofNat_of_lt' (hn.trans (by decide))
    rw [Conversions.toInt_toInt32 (by omega), hnat]
  refine ⟨decide_eq_false ?_, hle, ?_⟩
  · rw [sizeT_lt_iff (by omega), hlength]
    omega
  · exact hlength.trans (Int.sub_zero _).symm

end FrameContextWalk

/-- On a buffer that is the concatenation of items that are well formed, both walks end, the
reader on Linux with the values of the last items that have them, and the reader on Windows
with the same time stamp. -/
theorem metadata_readers_agree (items : List MetadataItem) (h : WellFormedItems items)
    (m : Nat → UInt8) (hm : Holds m 0 (encodeItems items)) :
    let length := (encodeItems items).length
    MetadataWalk.guard (MetadataWalk.run m (UInt64.ofNat length) items.length) = false ∧
    (MetadataWalk.run m (UInt64.ofNat length) items.length).values = decodeItems items ∧
    parseMetadata m (UInt64.ofNat length) = decodeItems items ∧
    FrameContextWalk.guard (FrameContextWalk.run m (UInt32.ofNat length) items.length) = false ∧
    (FrameContextWalk.run m (UInt32.ofNat length) items.length).capturePts =
      (decodeItems items).framePts := by
  have hsmall := h.length
  have hrest : Rest m (encodeItems items).length 0 items :=
    ⟨hm, Nat.zero_add _, h.item, hsmall⟩
  obtain ⟨i, tail, rfl⟩ := List.exists_cons_of_ne_nil h.nonempty
  have hheader := hrest.header
  have hmf := FrameContextWalk.run_items h.nonempty
    (FrameContextWalk.at_start hsmall hheader) hrest (v := .zero) rfl
  have huvc := MetadataWalk.run_items h.nonempty (MetadataWalk.at_start hsmall hheader) hrest
  rw [decodeItems_eq]
  refine ⟨huvc.1, huvc.2, ?_, hmf.1, hmf.2⟩
  have hlength := length_le_encodeItems (i :: tail)
  have hbytes : (UInt64.ofNat (encodeItems (i :: tail)).length).toNat =
      (encodeItems (i :: tail)).length := (MetadataWalk.at_start hsmall hheader).bufferLeft
  exact (congrArg MetadataWalk.values (Loop.run_of_stopped huvc.1 (by omega))).trans huvc.2

/-- A vendor's item, the time stamp 90000, statistics with an exposure time and a white balance,
and a second time stamp. -/
def sampleItems : List MetadataItem :=
  [⟨0x80000002, [7]⟩,
    ⟨metadataIdFrameAlignInfo, ofNumber 8 0 ++ ofNumber 8 90000 ++ ofNumber 24 0⟩,
    ⟨metadataIdCaptureStats, ofNumber 8 0x21 ++ ofNumber 8 80000 ++ ofNumber 24 0 ++
      ofNumber 4 4500 ++ ofNumber 28 0⟩,
    ⟨metadataIdFrameAlignInfo, ofNumber 8 0 ++ ofNumber 8 93000 ++ ofNumber 24 0⟩]

theorem metadata_readers_agree_sample :
    WellFormedItems sampleItems ∧ decodeItems sampleItems = ⟨93000, 8000, 0, 4500⟩ ∧
    parseMetadata (memory (encodeItems sampleItems)) 185 = ⟨93000, 8000, 0, 4500⟩ := by
  have hwf : WellFormedItems sampleItems := by
    refine ⟨by decide, ?_, by
      simp [sampleItems, encodeItems, length_encode, MetadataItem.size, itemHeaderSize]⟩
    intro i hi
    simp only [sampleItems, List.mem_cons, List.not_mem_nil, or_false] at hi
    obtain rfl | rfl | rfl | rfl := hi
    all_goals exact ⟨by decide, by decide⟩
  have hvalues : decodeItems sampleItems = ⟨93000, 8000, 0, 4500⟩ := by decide
  have h := metadata_readers_agree sampleItems hwf (memory (encodeItems sampleItems))
    (fun k _ => congrArg _ (Nat.zero_add k))
  exact ⟨hwf, hvalues, h.2.2.1.trans hvalues⟩

end ZsaSdk
