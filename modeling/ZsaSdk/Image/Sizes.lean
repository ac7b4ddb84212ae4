import ZsaSdk.Image.References

/-!
# Sizes of buffers

`allocator_alloc` adds the size of its header to the size asked for and compares the sum with
the largest `int`.  The addition is made in `size_t`, so for sizes within 32 of the top it
wraps around and passes the test: the block is smaller than the header alone
(`allocFits_iff`).  `image_create` can ask for such a size, since the stride of a custom image
may be negative and is converted to `size_t` as it is (`imageSize_wraps_iff`).
-/

namespace ZsaSdk

/-! ## The allocator -/

namespace Allocator

/-- If the call hands out a buffer, the callback was asked for a positive `int` of bytes, the
size asked for and the header. -/
def AllocFits (g : Allocator) (source : AllocationSource) (allocSize : UInt64)
    (answer : Option (Nat × Nat)) : Prop :=
  ∀ buffer, (g.allocatorAlloc source allocSize answer).2 = some buffer →
    ∃ size block,
      (g.allocatorAlloc source allocSize answer).1.calls =
        g.calls ++ [.allocate g.alloc size (some block)] ∧
      size = allocSize.toNat + allocationContextSize ∧ 0 < size ∧ size ≤ 2147483647

theorem toNat_requiredBytes_le {source : AllocationSource} {allocSize : UInt64}
    (h : asksCallback source allocSize = true) :
    (requiredBytes allocSize).toNat ≤ 2147483647 := by
  simp only [asksCallback, Bool.and_eq_true, Bool.not_eq_true', decide_eq_false_iff_not,
    gt_iff_lt, UInt64.not_lt, UInt64.le_iff_toNat_le] at h
  exact h.2

/-- If the sum wraps around, what is left of it is smaller than the header. -/
theorem toNat_requiredBytes_wrapped {allocSize : UInt64}
    (h : 2 ^ 64 ≤ allocSize.toNat + allocationContextSize) :
    (requiredBytes allocSize).toNat < allocationContextSize := by
  have hlt := allocSize.toNat_lt
  have h32 : (UInt64.ofNat allocationContextSize).toNat = 32 := rfl
  have hsize : allocationContextSize = 32 := rfl
  rw [requiredBytes, UInt64.toNat_add, h32]
  omega

theorem asksCallback_wrapped {source : AllocationSource} {allocSize : UInt64}
    (hs : source.counted = true) (h : 2 ^ 64 ≤ allocSize.toNat + allocationContextSize) :
    asksCallback source allocSize = true := by
  have hrequired := toNat_requiredBytes_wrapped h
  have hsize : allocationContextSize = 32 := rfl
  have hne : allocSize ≠ 0 := by
    rintro rfl
    rw [UInt64.toNat_zero] at h
    omega
  have hle : ¬ requiredBytes allocSize > 2147483647 := by
    rw [gt_iff_lt, UInt64.not_lt, UInt64.le_iff_toNat_le]
    exact (Nat.le_of_lt hrequired).trans (by decide)
  simp [asksCallback, hs, hne, hle]

theorem size_of_calls {calls : List CallbackCall} {cb : AllocateCb} {n m : Nat}
    {answer answer' : Option (Nat × Nat)}
    (h : calls ++ [.allocate cb n answer] = calls ++ [.allocate cb m answer']) : n = m := by
  have hinj := List.head_eq_of_cons_eq (List.append_cancel_left h)
  injection hinj

/-- What a call that hands out a buffer has asked for. -/
theorem calls_of_allocatorAlloc {g : Allocator} {source : AllocationSource} {allocSize : UInt64}
    {answer : Option (Nat × Nat)} {buffer : Nat}
    (h : (g.allocatorAlloc source allocSize answer).2 = some buffer) :
    asksCallback source allocSize = true ∧ ∃ block,
      (g.allocatorAlloc source allocSize answer).1.calls =
        g.calls ++ [.allocate g.alloc (requiredBytes allocSize).toNat (some block)] := by
  cases ha : asksCallback source allocSize with
  | false =>
      rw [allocatorAlloc_of_not_asks g answer ha] at h
      cases h
  | true =>
      cases answer with
      | none =>
          rw [allocatorAlloc_refused g ha] at h
          cases h
      | some block =>
          rw [allocatorAlloc_answered g block.1 block.2 ha]
          exact ⟨rfl, _, rfl⟩

/-- The buffer is as large as asked for precisely if the sum does not wrap around, or if there
is no buffer because the source has no counter or the callback returns null. -/
theorem allocFits_iff (g : Allocator) (source : AllocationSource) (allocSize : UInt64)
    (answer : Option (Nat × Nat)) :
    g.AllocFits source allocSize answer ↔
      allocSize.toNat + allocationContextSize < 2 ^ 64 ∨ source.counted = false ∨
        answer = none := by
  constructor
  · intro h
    by_contra hnot
    simp only [not_or, Nat.not_lt, Bool.not_eq_false] at hnot
    obtain ⟨hwrap, hs, hanswer⟩ := hnot
    obtain ⟨⟨fullBuffer, context⟩, rfl⟩ := Option.ne_none_iff_exists'.mp hanswer
    have ha := asksCallback_wrapped hs hwrap
    have hcall := allocatorAlloc_answered g fullBuffer context ha
    obtain ⟨size, block, hcalls, hsize, -⟩ := h _ (congrArg Prod.snd hcall)
    rw [hcall] at hcalls
    have heq := size_of_calls hcalls
    have hlt := toNat_requiredBytes_wrapped hwrap
    omega
  · intro h buffer hbuffer
    obtain ⟨ha, block, hcalls⟩ := calls_of_allocatorAlloc hbuffer
    have hfit : allocSize.toNat + allocationContextSize < 2 ^ 64 := by
      rcases h with hfit | hs | rfl
      · exact hfit
      · rw [counted_of_asks ha] at hs
        cases hs
      · cases buffer_of_allocatorAlloc hbuffer
    have hsize := toNat_requiredBytes hfit
    refine ⟨_, block, hcalls, hsize, ?_, toNat_requiredBytes_le ha⟩
    rw [hsize]
    exact Nat.add_pos_right _ (by decide)

end Allocator

/-! ## The size an image asks for -/

namespace ObjectStore

theorem toNat_sizeT (x : Int32) : ((sizeT x).toNat : Int) = x.toInt % 2 ^ 64 := by
  have hint : (sizeT x).toBitVec.toInt = x.toInt := by
    rw [sizeT, Int64.toBitVec_toUInt64, Int64.toInt_toBitVec, Int32.toInt_toInt64]
  have hlt := (sizeT x).toNat_lt
  rw [← hint, BitVec.toInt_eq_toNat_cond, UInt64.toNat_toBitVec]
  split
  · omega
  · omega

/-- The product of height and stride, as a `size_t`. -/
theorem toNat_sizeT_mul (x y : Int32) :
    ((sizeT x * sizeT y).toNat : Int) = (x.toInt * y.toInt) % 2 ^ 64 := by
  rw [UInt64.toNat_mul, Int.mul_emod, ← toNat_sizeT, ← toNat_sizeT]
  exact Int.natCast_emod _ _

/-- The product of a height that is accepted and any stride. -/
theorem height_mul_stride_bounds {height : Int32} (hh : 0 < height.toInt)
    (hlt : height.toInt < 20000) (stride : Int32) :
    -(20000 * 2 ^ 31) ≤ height.toInt * stride.toInt ∧
      height.toInt * stride.toInt ≤ 20000 * 2 ^ 31 ∧
      (0 < stride.toInt → 0 < height.toInt * stride.toInt) := by
  have hs := stride.toInt_lt
  have hs' := stride.le_toInt
  have hlow := Int.mul_le_mul_of_nonneg_left hs' (Int.le_of_lt hh)
  have hhigh := Int.mul_le_mul_of_nonneg_left (Int.le_of_lt hs) (Int.le_of_lt hh)
  refine ⟨?_, ?_, fun hpos => Int.mul_pos hh hpos⟩
  · omega
  · omega

/-- The size of a custom image wraps around precisely if the product of its height and its
stride lies between -32 and -1. -/
theorem custom_wraps_iff {height stride : Int32} (hh : 0 < height.toInt)
    (hlt : height.toInt < 20000) :
    2 ^ 64 ≤ (sizeT height * sizeT stride).toNat + allocationContextSize ↔
      -32 ≤ height.toInt * stride.toInt ∧ height.toInt * stride.toInt < 0 := by
  obtain ⟨hlow, hhigh, -⟩ := height_mul_stride_bounds hh hlt stride
  have hsize := toNat_sizeT_mul height stride
  have h32 : allocationContextSize = 32 := rfl
  generalize height.toInt * stride.toInt = p at *
  omega

/-- A stride that holds a row is positive. -/
theorem stride_pos {k width stride : Int32} (hk : 0 < k.toInt) (hk4 : k.toInt ≤ 4)
    (hw : 0 < width.toInt) (hlt : width.toInt < 20000) (h : ¬ stride < k * width) :
    0 < stride.toInt := by
  have hpos := Int.mul_pos hk hw
  have hle := Int.mul_le_mul_of_nonneg_right hk4 (Int.le_of_lt hw)
  rw [Int32.not_lt, Int32.le_iff_toInt_le, Int32.toInt_mul,
    Int.bmod_eq_of_le (by omega) (by omega)] at h
  omega

theorem positive_fits {height stride : Int32} (hh : 0 < height.toInt)
    (hlt : height.toInt < 20000) (hs : 0 < stride.toInt) :
    (sizeT height * sizeT stride).toNat ≤ 20000 * 2 ^ 31 := by
  obtain ⟨-, hhigh, hpos⟩ := height_mul_stride_bounds hh hlt stride
  have hsize := toNat_sizeT_mul height stride
  have hpos' := hpos hs
  generalize height.toInt * stride.toInt = p at *
  omega

/-- The two planes of an NV12 image are half as large again as the first. -/
theorem toNat_nv12Size {height stride : Int32}
    (h : (sizeT height * sizeT stride).toNat ≤ 20000 * 2 ^ 31) :
    (3 * sizeT height * sizeT stride / 2).toNat =
      3 * (sizeT height * sizeT stride).toNat / 2 := by
  have h3 : (3 : UInt64).toNat = 3 := rfl
  have h2 : (2 : UInt64).toNat = 2 := rfl
  rw [UInt64.mul_assoc, UInt64.toNat_div, UInt64.toNat_mul, h3, h2]
  omega

section Checked

variable {width height stride : Int32} {size : UInt64}

/-- A size that has passed the check of its rows. -/
theorem checked_le {k : Int32} (hk : 0 < k.toInt ∧ k.toInt ≤ 4) (hw : 0 < width.toInt)
    (hwlt : width.toInt < 20000) (hh : 0 < height.toInt) (hhlt : height.toInt < 20000)
    (h : (if stride < k * width then none else some (sizeT height * sizeT stride)) = some size) :
    size.toNat ≤ 20000 * 2 ^ 31 := by
  split at h
  · cases h
  next hstride =>
  rw [← Option.some.inj h]
  exact positive_fits hh hhlt (stride_pos hk.1 hk.2 hw hwlt hstride)

theorem not_wraps_of_le (hle : size.toNat ≤ 3 * (20000 * 2 ^ 31) / 2) :
    ¬ 2 ^ 64 ≤ size.toNat + allocationContextSize := by
  have h32 : allocationContextSize = 32 := rfl
  omega

/-- Only a custom image can ask for a size that wraps around. -/
theorem imageSize_wraps_iff {format : ImageFormat} (hknown : format.known = true)
    (hw : 0 < width.toInt) (hwlt : width.toInt < 20000) (hh : 0 < height.toInt)
    (hhlt : height.toInt < 20000) (h : imageSize format width height stride = some size) :
    2 ^ 64 ≤ size.toNat + allocationContextSize ↔
      format = .custom ∧ -32 ≤ height.toInt * stride.toInt ∧ height.toInt * stride.toInt < 0 := by
  have hproduct : ∀ {k : Int32}, 0 < k.toInt ∧ k.toInt ≤ 4 →
      (if stride < k * width then none else some (sizeT height * sizeT stride)) = some size →
      ¬ 2 ^ 64 ≤ size.toNat + allocationContextSize :=
    fun hk hsize => not_wraps_of_le ((checked_le hk hw hwlt hh hhlt hsize).trans (by decide))
  cases format with
  | colorMjpg => cases h
  | colorNv12 =>
      simp only [imageSize] at h
      split at h
      · cases h
      split at h
      · cases h
      split at h
      · cases h
      next hstride =>
      have hle := positive_fits hh hhlt (stride_pos (by decide) (by decide) hw hwlt hstride)
      rw [← Option.some.inj h]
      refine iff_of_false (not_wraps_of_le ?_) nofun
      rw [toNat_nv12Size hle]
      exact Nat.div_le_div_right (Nat.mul_le_mul_left 3 hle)
  | colorYuy2 =>
      simp only [imageSize] at h
      split at h
      · cases h
      exact iff_of_false (hproduct (by decide) h) nofun
  | custom8 => exact iff_of_false (hproduct (by decide) h) nofun
  | depth16 => exact iff_of_false (hproduct (by decide) h) nofun
  | ir16 => exact iff_of_false (hproduct (by decide) h) nofun
  | custom16 => exact iff_of_false (hproduct (by decide) h) nofun
  | colorBgra32 => exact iff_of_false (hproduct (by decide) h) nofun
  | custom =>
      rw [← Option.some.inj h, custom_wraps_iff hh hhlt]
      exact (and_iff_right rfl).symm
  | unknown value => cases hknown

end Checked

/-! ## Images -/

/-- The image that the call creates, if it creates one, fits with its header into the block
that was asked for. -/
def ImageFits (o : ObjectStore) (format : ImageFormat) (width height stride : Int32)
    (source : AllocationSource) (contextOk : Bool) (answer : Option (Nat × Nat)) (lockOk : Bool) :
    Prop :=
  ∀ o' h, o.imageCreate format width height stride source contextOk answer lockOk =
      some (o', .succeeded, some h) →
    ∃ context size block, o'.image h = some context ∧
      o'.allocator.calls =
        o.allocator.calls ++ [.allocate o.allocator.alloc size (some block)] ∧
      context.bufferSize.toNat + allocationContextSize ≤ size

variable {o o' : ObjectStore} {h : ImageHandle} {source : AllocationSource} {size : UInt64}
  {contextOk lockOk : Bool} {answer : Option (Nat × Nat)}

/-- The context of an image that `image_create_empty_image` has created. -/
def emptyContext (buffer : Nat) (size : UInt64) : ImageContext :=
  { ImageContext.zero with
    buffer := some buffer
    refCount := 1
    bufferSize := size
    memoryFreeCb := some .imageDefaultFreeFunction
    lock := true }

/-- `image_create_empty_image` when nothing fails. -/
theorem imageCreateEmptyImage_of_buffer {buffer : Nat}
    (hb : (o.allocator.allocatorAlloc source size answer).2 = some buffer) :
    o.imageCreateEmptyImage source size true answer true =
      some ({ o with
        images := o.images ++ [some (emptyContext buffer size)]
        allocator := (o.allocator.allocatorAlloc source size answer).1 }, .succeeded,
        some o.nextImage) := by
  obtain ⟨ha, -⟩ := Allocator.calls_of_allocatorAlloc hb
  have hne : size ≠ 0 := by
    simp only [asksCallback, Bool.and_eq_true, bne_iff_ne] at ha
    exact ha.1.2
  have hs : ¬ source.counted = false := by
    rw [counted_of_asks ha]
    exact Bool.noConfusion
  cases hr : o.allocator.allocatorAlloc source size answer with
  | mk allocator buffer' =>
      obtain rfl : buffer' = some buffer := (congrArg Prod.snd hr).symm.trans hb
      rw [imageCreateEmptyImage, if_neg hne, if_neg hs, if_neg Bool.noConfusion]
      simp only [pushImage, hr]
      rw [setImage_pushed (o := o) rfl]
      rfl

/-- What has gone well when `image_create_empty_image` succeeds. -/
theorem imageCreateEmptyImage_succeeded
    (hr : o.imageCreateEmptyImage source size contextOk answer lockOk =
      some (o', .succeeded, some h)) :
    contextOk = true ∧ lockOk = true ∧
      ∃ buffer, (o.allocator.allocatorAlloc source size answer).2 = some buffer := by
  simp only [imageCreateEmptyImage] at hr
  split at hr
  · cases hr
  split at hr
  · cases hr
  split at hr
  · cases hr
  next hcontext =>
  split at hr
  · next hb =>
    obtain ⟨o'', -, heq⟩ := Option.map_eq_some_iff.mp hr
    cases heq
  · next buffer hb =>
    split at hr
    · next hlock => exact ⟨Bool.eq_true_of_not_eq_false hcontext, hlock, buffer, hb⟩
    · obtain ⟨o'', -, heq⟩ := Option.map_eq_some_iff.mp hr
      cases heq

/-- The size that an image with these properties asks for, if they are accepted. -/
def acceptedSize (format : ImageFormat) (width height stride : Int32) : Option UInt64 :=
  if format.known = false then none
  else if !(width > 0 && width < 20000) then none
  else if !(height > 0 && height < 20000) then none
  else imageSize format width height stride

variable {format : ImageFormat} {width height stride : Int32}

/-- The properties that `image_create` accepts. -/
theorem acceptedSize_some (hsize : acceptedSize format width height stride = some size) :
    format.known = true ∧ (0 < width.toInt ∧ width.toInt < 20000) ∧
      (0 < height.toInt ∧ height.toInt < 20000) ∧
      imageSize format width height stride = some size := by
  simp only [acceptedSize] at hsize
  split at hsize
  · cases hsize
  next hknown =>
  split at hsize
  · cases hsize
  next hwidth =>
  split at hsize
  · cases hsize
  next hheight =>
  simp only [Bool.not_eq_true', Bool.not_eq_false, Bool.and_eq_true, decide_eq_true_eq, gt_iff_lt,
    Int32.lt_iff_toInt_lt] at hwidth hheight
  exact ⟨Bool.eq_true_of_not_eq_false hknown, hwidth, hheight, hsize⟩

/-- A custom image may have any stride. -/
theorem acceptedSize_custom (stride : Int32) (hw : 0 < width.toInt ∧ width.toInt < 20000)
    (hh : 0 < height.toInt ∧ height.toInt < 20000) :
    acceptedSize .custom width height stride = some (sizeT height * sizeT stride) := by
  have hrange : ∀ {x : Int32}, 0 < x.toInt ∧ x.toInt < 20000 →
      ¬ (!(decide (x > 0) && decide (x < 20000))) = true := by
    intro x hx
    simp only [Bool.not_eq_true', Bool.not_eq_false, Bool.and_eq_true, decide_eq_true_eq,
      gt_iff_lt, Int32.lt_iff_toInt_lt]
    exact hx
  rw [acceptedSize, if_neg Bool.noConfusion, if_neg (hrange hw), if_neg (hrange hh)]
  rfl

/-- Properties that are not accepted create nothing. -/
theorem imageCreate_not_accepted (hsize : acceptedSize format width height stride = none) :
    o.imageCreate format width height stride source contextOk answer lockOk =
      some (o, .failed, none) := by
  simp only [acceptedSize] at hsize
  simp only [imageCreate]
  split
  · rfl
  next hknown =>
  rw [if_neg hknown] at hsize
  split
  · rfl
  next hwidth =>
  rw [if_neg hwidth] at hsize
  split
  · rfl
  next hheight =>
  rw [if_neg hheight] at hsize
  rw [hsize]

/-- The rest of `image_create`: the properties are stored in the context. -/
def describeImage (format : ImageFormat) (width height stride : Int32)
    (r : Created ImageHandle) : Option (Created ImageHandle) :=
  match r with
  | (o, .succeeded, some h) =>
      (o.image h).map fun context =>
        (o.setImage h (some { context with
          format := format
          widthPixels := width
          heightPixels := height
          strideBytes := stride }), .succeeded, some h)
  | (o, _, _) => some (o, .failed, none)

theorem imageCreate_accepted (hsize : acceptedSize format width height stride = some size) :
    o.imageCreate format width height stride source contextOk answer lockOk =
      (o.imageCreateEmptyImage source size contextOk answer lockOk).bind
        (describeImage format width height stride) := by
  simp only [acceptedSize] at hsize
  simp only [imageCreate]
  split
  · next hknown =>
    rw [if_pos hknown] at hsize
    cases hsize
  next hknown =>
  rw [if_neg hknown] at hsize
  split
  · next hwidth =>
    rw [if_pos hwidth] at hsize
    cases hsize
  next hwidth =>
  rw [if_neg hwidth] at hsize
  split
  · next hheight =>
    rw [if_pos hheight] at hsize
    cases hsize
  next hheight =>
  rw [if_neg hheight] at hsize
  rw [hsize]
  rfl

/-- `image_create` when nothing fails. -/
theorem imageCreate_of_buffer (hsize : acceptedSize format width height stride = some size)
    {buffer : Nat} (hb : (o.allocator.allocatorAlloc source size answer).2 = some buffer) :
    o.imageCreate format width height stride source true answer true =
      some ({ o with
        images := o.images ++ [some { emptyContext buffer size with
          format := format
          widthPixels := width
          heightPixels := height
          strideBytes := stride }]
        allocator := (o.allocator.allocatorAlloc source size answer).1 }, .succeeded,
        some o.nextImage) := by
  rw [imageCreate_accepted hsize, imageCreateEmptyImage_of_buffer hb, Option.bind_some]
  simp only [describeImage]
  rw [image_pushed (o := o) rfl, Option.map_some, setImage_pushed (o := o) rfl]

/-- What has gone well when `image_create` succeeds. -/
theorem imageCreate_succeeded
    (hr : o.imageCreate format width height stride source contextOk answer lockOk =
      some (o', .succeeded, some h)) :
    contextOk = true ∧ lockOk = true ∧ ∃ size buffer,
      acceptedSize format width height stride = some size ∧
      (o.allocator.allocatorAlloc source size answer).2 = some buffer := by
  cases hsize : acceptedSize format width height stride with
  | none =>
      rw [imageCreate_not_accepted hsize] at hr
      cases hr
  | some size =>
      rw [imageCreate_accepted hsize] at hr
      obtain ⟨r, hempty, hdescribe⟩ := Option.bind_eq_some_iff.mp hr
      simp only [describeImage] at hdescribe
      split at hdescribe
      · obtain ⟨hcontext, hlock, buffer, hb⟩ := imageCreateEmptyImage_succeeded hempty
        exact ⟨hcontext, hlock, size, buffer, rfl, hb⟩
      · cases hdescribe

/-- The arguments for which an image is created in a block that is too small. -/
structure Undersized (format : ImageFormat) (width height stride : Int32)
    (source : AllocationSource) (contextOk : Bool) (answer : Option (Nat × Nat)) (lockOk : Bool) :
    Prop where
  custom : format = .custom
  wide : 0 < width.toInt ∧ width.toInt < 20000
  high : 0 < height.toInt ∧ height.toInt < 20000
  product : -32 ≤ height.toInt * stride.toInt ∧ height.toInt * stride.toInt < 0
  counted : source.counted = true
  context : contextOk = true
  answered : answer ≠ none
  lock : lockOk = true

theorem imageFits_iff (o : ObjectStore) :
    o.ImageFits format width height stride source contextOk answer lockOk ↔
      ¬ Undersized format width height stride source contextOk answer lockOk := by
  constructor
  · intro hfits hu
    obtain ⟨rfl, hwidth, hheight, hproduct, hs, rfl, hanswer, rfl⟩ := hu
    obtain ⟨⟨fullBuffer, userContext⟩, rfl⟩ := Option.ne_none_iff_exists'.mp hanswer
    have hsize := acceptedSize_custom stride hwidth hheight
    have hwrap := (custom_wraps_iff hheight.1 hheight.2).mpr hproduct
    have hcall := Allocator.allocatorAlloc_answered o.allocator fullBuffer userContext
      (Allocator.asksCallback_wrapped hs hwrap)
    obtain ⟨context, size, block, hi, hcalls, hle⟩ :=
      hfits _ _ (imageCreate_of_buffer hsize (congrArg Prod.snd hcall))
    rw [image_pushed (o := o) rfl] at hi
    obtain rfl := Option.some.inj hi
    rw [hcall] at hcalls
    have heq := Allocator.size_of_calls hcalls
    have hlt := Allocator.toNat_requiredBytes_wrapped hwrap
    have hle' : (sizeT height * sizeT stride).toNat + allocationContextSize ≤ size := hle
    omega
  · intro hnot o' h hr
    obtain ⟨rfl, rfl, size, buffer, hsize, hb⟩ := imageCreate_succeeded hr
    obtain ⟨hknown, hwidth, hheight, himage⟩ := acceptedSize_some hsize
    obtain ⟨ha, block, hcalls⟩ := Allocator.calls_of_allocatorAlloc hb
    have hfit : size.toNat + allocationContextSize < 2 ^ 64 := by
      by_contra hwrap
      obtain ⟨hcustom, hproduct⟩ := (imageSize_wraps_iff hknown hwidth.1 hwidth.2 hheight.1
        hheight.2 himage).mp (Nat.not_lt.mp hwrap)
      refine hnot ⟨hcustom, hwidth, hheight, hproduct, counted_of_asks ha, rfl, ?_, rfl⟩
      rintro rfl
      cases Allocator.buffer_of_allocatorAlloc hb
    rw [imageCreate_of_buffer hsize hb] at hr
    cases hr
    refine ⟨_, _, block, image_pushed (o := o) rfl, hcalls, ?_⟩
    rw [toNat_requiredBytes hfit]
    exact Nat.le_refl _

end ObjectStore

/-- A buffer has the size asked for precisely if that size and the header do not wrap around,
and an image fits into its block precisely if it is not a custom image whose height times
stride lies between -32 and -1.  Calls that create nothing are right in both cases. -/
theorem buffers_fit_iff (g : Allocator) (o : ObjectStore) (source : AllocationSource)
    (allocSize : UInt64) (format : ImageFormat) (width height stride : Int32) (contextOk : Bool)
    (answer : Option (Nat × Nat)) (lockOk : Bool) :
    (g.AllocFits source allocSize answer ↔
      allocSize.toNat + allocationContextSize < 2 ^ 64 ∨ source.counted = false ∨
        answer = none) ∧
    (o.ImageFits format width height stride source contextOk answer lockOk ↔
      ¬ ObjectStore.Undersized format width height stride source contextOk answer lockOk) :=
  ⟨g.allocFits_iff source allocSize answer, o.imageFits_iff⟩

/-- A custom image of one row with stride -1.  The block has 31 bytes, and the image says that
its buffer has `2 ^ 64 - 1`. -/
theorem negative_stride_undersized :
    (∃ o' h context, ObjectStore.empty.imageCreate .custom 1 1 (-1) .user true (some (1000, 0))
        true = some (o', .succeeded, some h) ∧
      o'.image h = some context ∧ context.bufferSize = 0xffffffffffffffff ∧
      o'.allocator.calls = [.allocate .defaultAlloc 31 (some (1000, 0))]) ∧
    ¬ ObjectStore.empty.ImageFits .custom 1 1 (-1) .user true (some (1000, 0)) true ∧
    ¬ Allocator.initial.AllocFits .user 0xffffffffffffffff (some (1000, 0)) := by
  refine ⟨⟨_, _, _, rfl, rfl, rfl, rfl⟩, ?_, ?_⟩
  · rw [ObjectStore.imageFits_iff, not_not]
    exact ⟨rfl, by decide, by decide, by decide, rfl, rfl, Option.some_ne_none _, rfl⟩
  · rw [Allocator.allocFits_iff]
    decide

end ZsaSdk
