import ZsaSdk.Image.Sizes
import ZsaSdk.Lib.Raster

/-!
# The pixels of an image

`image_create` computes the size of a buffer from the height and the stride of the image, after
it has tested that the format suits the width, the height and the stride.  Each format has its
own test and its own number of bytes for a pixel.  Here the tests are stated over the integers,
and the buffer is read as a raster: every pixel has its own bytes in it, and an NV12 image has
its colour rows behind the rows of its brightness.
-/

namespace ZsaSdk

open ObjectStore (acceptedSize imageSize)

/-! ## What a format asks for -/

/-- The bytes of a pixel, for the formats that have a fixed number of them. -/
def ImageFormat.bytesPerPixel : ImageFormat → Nat
  | .colorNv12 | .custom8 => 1
  | .depth16 | .ir16 | .custom16 | .colorYuy2 => 2
  | .colorBgra32 => 4
  | .colorMjpg | .custom | .unknown _ => 0

/-- The dimensions suit the format: a row fits into the stride, and where two pixels share their
colour their number is even. -/
structure ImageFormat.Suits (format : ImageFormat) (width height stride : Int) : Prop where
  row : format.bytesPerPixel * width ≤ stride
  evenWidth : format = .colorNv12 ∨ format = .colorYuy2 → 2 ∣ width
  evenHeight : format = .colorNv12 → 2 ∣ height

/-- Twice the size of the buffer. -/
def ImageFormat.doubleSize (format : ImageFormat) (height stride : Int) : Int :=
  if format = .colorNv12 then 3 * (height * stride) else 2 * (height * stride)

/-! ## The tests of the code -/

section Checks

variable {width height stride : Int32}

/-- The test of a row does not wrap around. -/
theorem row_check_iff {k : Int32} (hk : 0 < k.toInt ∧ k.toInt ≤ 4) (hw : 0 < width.toInt)
    (hwlt : width.toInt < 20000) :
    stride < k * width ↔ ¬ k.toInt * width.toInt ≤ stride.toInt := by
  have hpos := Int.mul_pos hk.1 hw
  have hle := Int.mul_le_mul_of_nonneg_right hk.2 (Int.le_of_lt hw)
  rw [Int32.lt_iff_toInt_lt, Int32.toInt_mul, Int.bmod_eq_of_le (by omega) (by omega)]
  omega

theorem even_check_iff (x : Int32) : x % 2 ≠ 0 ↔ ¬ 2 ∣ x.toInt := by
  rw [ne_eq, ← Int32.toInt_inj, Int32.toInt_mod, Int.dvd_iff_tmod_eq_zero]
  rfl

/-- The product of height and stride is exact. -/
theorem toNat_size (hh : 0 < height.toInt) (hhlt : height.toInt < 20000)
    (hs : 0 < stride.toInt) :
    ((ObjectStore.sizeT height * ObjectStore.sizeT stride).toNat : Int) =
      height.toInt * stride.toInt := by
  obtain ⟨-, hhigh, hpos⟩ := ObjectStore.height_mul_stride_bounds hh hhlt stride
  have hpos' := hpos hs
  rw [ObjectStore.toNat_sizeT_mul]
  omega

variable {size : UInt64}

/-- A size that has passed the test of its rows. -/
theorem checked_size {k : Int32} (hk : 0 < k.toInt ∧ k.toInt ≤ 4) (hw : 0 < width.toInt)
    (hwlt : width.toInt < 20000) (hh : 0 < height.toInt) (hhlt : height.toInt < 20000)
    (h : (if stride < k * width then none
      else some (ObjectStore.sizeT height * ObjectStore.sizeT stride)) = some size) :
    k.toInt * width.toInt ≤ stride.toInt ∧ 0 < stride.toInt ∧
      (size.toNat : Int) = height.toInt * stride.toInt := by
  split at h
  · cases h
  · next hrow =>
    have hpos := ObjectStore.stride_pos hk.1 hk.2 hw hwlt hrow
    obtain rfl := Option.some.inj h
    exact ⟨not_not.mp (mt (row_check_iff hk hw hwlt).mpr hrow), hpos, toNat_size hh hhlt hpos⟩

/-- The dimensions suit the format, and the size is the exact one for them. -/
def ExactSize (format : ImageFormat) (width height stride : Int32) (size : UInt64) : Prop :=
  format.Suits width.toInt height.toInt stride.toInt ∧ 0 < stride.toInt ∧
    2 * (size.toNat : Int) = format.doubleSize height.toInt stride.toInt

/-- A format whose only test is that of its rows. -/
theorem exactSize_of_rows {k : Int32} {format : ImageFormat} (hk : 0 < k.toInt ∧ k.toInt ≤ 4)
    (hw : 0 < width.toInt) (hwlt : width.toInt < 20000) (hh : 0 < height.toInt)
    (hhlt : height.toInt < 20000) (hbytes : (format.bytesPerPixel : Int) = k.toInt)
    (hnv12 : format ≠ .colorNv12) (hyuy2 : format ≠ .colorYuy2)
    (h : (if stride < k * width then none
      else some (ObjectStore.sizeT height * ObjectStore.sizeT stride)) = some size) :
    ExactSize format width height stride size := by
  obtain ⟨hrow, hpos, hexact⟩ := checked_size hk hw hwlt hh hhlt h
  refine ⟨⟨by rw [hbytes]; exact hrow, fun he => ?_, fun he => absurd he hnv12⟩, hpos, ?_⟩
  · exact absurd he (not_or.mpr ⟨hnv12, hyuy2⟩)
  · rw [ImageFormat.doubleSize, if_neg hnv12, hexact]

/-- A YUY2 image needs an even width as well. -/
theorem exactSize_yuy2 (hw : 0 < width.toInt) (hwlt : width.toInt < 20000)
    (hh : 0 < height.toInt) (hhlt : height.toInt < 20000)
    (h : imageSize .colorYuy2 width height stride = some size) :
    ExactSize .colorYuy2 width height stride size := by
  simp only [imageSize] at h
  split at h
  · cases h
  · next heven =>
    obtain ⟨hrow, hpos, hexact⟩ := checked_size (by decide) hw hwlt hh hhlt h
    refine ⟨⟨hrow, fun _ => ?_, fun hnv12 => ?_⟩, hpos, ?_⟩
    · exact not_not.mp (mt (even_check_iff width).mpr heven)
    · cases hnv12
    · rw [ImageFormat.doubleSize, if_neg (by decide), hexact]

/-- An NV12 image needs an even height too, and has half a plane behind its first one. -/
theorem exactSize_nv12 (hw : 0 < width.toInt) (hwlt : width.toInt < 20000)
    (hh : 0 < height.toInt) (hhlt : height.toInt < 20000)
    (h : imageSize .colorNv12 width height stride = some size) :
    ExactSize .colorNv12 width height stride size := by
  simp only [imageSize] at h
  split at h
  · cases h
  · next hevenHeight =>
    split at h
    · cases h
    · next hevenWidth =>
      split at h
      · cases h
      · next hrow =>
        have hpos := ObjectStore.stride_pos (by decide) (by decide) hw hwlt hrow
        have hevenHeight := not_not.mp (mt (even_check_iff height).mpr hevenHeight)
        refine ⟨⟨?_, fun _ => ?_, fun _ => hevenHeight⟩, hpos, ?_⟩
        · have hle : (1 : Int32).toInt * width.toInt ≤ stride.toInt :=
            not_not.mp (mt (row_check_iff (k := 1) (by decide) hw hwlt).mpr hrow)
          exact hle
        · exact not_not.mp (mt (even_check_iff width).mpr hevenWidth)
        · have hproduct := toNat_size hh hhlt hpos
          have hsize := ObjectStore.toNat_nv12Size (ObjectStore.positive_fits hh hhlt hpos)
          rw [Option.some.inj h] at hsize
          obtain ⟨n, hn⟩ := hevenHeight
          rw [ImageFormat.doubleSize, if_pos rfl, ← hproduct]
          have heven : 2 ∣ height.toInt * stride.toInt :=
            ⟨n * stride.toInt, by rw [hn, Int.mul_assoc]⟩
          omega

/-- A size that is accepted belongs to dimensions that suit the format, and it is exact. -/
theorem imageSize_exact {format : ImageFormat} (hknown : format.known = true)
    (hcustom : format ≠ .custom) (hw : 0 < width.toInt) (hwlt : width.toInt < 20000)
    (hh : 0 < height.toInt) (hhlt : height.toInt < 20000)
    (h : imageSize format width height stride = some size) :
    ExactSize format width height stride size := by
  cases format with
  | colorMjpg => cases h
  | custom => exact absurd rfl hcustom
  | unknown value => cases hknown
  | custom8 => exact exactSize_of_rows (k := 1) (by decide) hw hwlt hh hhlt rfl nofun nofun h
  | depth16 | ir16 | custom16 =>
      exact exactSize_of_rows (k := 2) (by decide) hw hwlt hh hhlt rfl nofun nofun h
  | colorBgra32 => exact exactSize_of_rows (k := 4) (by decide) hw hwlt hh hhlt rfl nofun nofun h
  | colorYuy2 => exact exactSize_yuy2 hw hwlt hh hhlt h
  | colorNv12 => exact exactSize_nv12 hw hwlt hh hhlt h

end Checks

/-! ## The bytes of the pixels -/

/-- The bytes of the pixel `(x, y)` of an image with the stride `s`. -/
def pixelBytes (format : ImageFormat) (s x y : Nat) : Set Nat :=
  Set.Ico (y * s + x * format.bytesPerPixel) (y * s + (x + 1) * format.bytesPerPixel)

/-- The bytes of a colour row of an NV12 image with `w` times `h` pixels. -/
def chromaRow (w h s row : Nat) : Set Nat := Set.Ico (h * s + row * s) (h * s + row * s + w)

/-- A buffer with `size` bytes holds an image with `w` times `h` pixels. -/
structure HoldsPixels (format : ImageFormat) (w h s size : Nat) : Prop where
  size_eq : 2 * size = if format = .colorNv12 then 3 * (h * s) else 2 * (h * s)
  inside : ∀ x y, x < w → y < h → pixelBytes format s x y ⊆ Set.Ico 0 size
  apart : ∀ x y x' y', x < w → y < h → x' < w → y' < h → (x, y) ≠ (x', y') →
    Disjoint (pixelBytes format s x y) (pixelBytes format s x' y')
  chroma : format = .colorNv12 → ∀ row, row < h / 2 →
    chromaRow w h s row ⊆ Set.Ico 0 size ∧
      Disjoint (chromaRow w h s row) (Set.Ico 0 (h * s))

/-- A buffer of the right size holds the pixels of an image whose rows fit into the stride. -/
theorem holdsPixels {format : ImageFormat} {w h s size : Nat}
    (hrow : w * format.bytesPerPixel ≤ s) (heven : format = .colorNv12 → 2 ∣ h)
    (hsize : 2 * size = if format = .colorNv12 then 3 * (h * s) else 2 * (h * s)) :
    HoldsPixels format w h s size := by
  let r : Raster := ⟨w, h, s, format.bytesPerPixel, hrow⟩
  have hplane : h * s ≤ size := by
    split at hsize
    · omega
    · omega
  refine ⟨hsize, fun x y hx hy => ?_, fun x y x' y' hx _ hx' _ hne => ?_, fun hnv12 row hlt => ?_⟩
  · exact (r.pixel_subset_plane hx hy).trans (Set.Ico_subset_Ico_right hplane)
  · exact r.pixel_disjoint hx hx' hne
  · subst hnv12
    -- The colour rows are a raster of their own, with half as many rows.
    have hw : w * 1 ≤ s := hrow
    have hbelow : (row + 1) * s ≤ h / 2 * s := Nat.mul_le_mul_right s hlt
    have hhalf : h * s = 2 * (h / 2 * s) := by
      rw [← Nat.mul_assoc, Nat.mul_div_cancel' (heven rfl)]
    rw [Nat.add_one_mul] at hbelow
    rw [if_pos rfl] at hsize
    refine ⟨Set.Ico_subset_Ico (Nat.zero_le _) (by omega), ?_⟩
    rw [chromaRow, Set.Ico_disjoint_Ico]
    exact (Nat.min_le_right _ _).trans
      ((Nat.le_add_right _ _).trans (Nat.le_max_left _ _))

/-- The same for the dimensions as the code has them. -/
theorem ImageFormat.Suits.holdsPixels {format : ImageFormat} {width height stride : Int}
    {size : Nat} (h : format.Suits width height stride) (hw : 0 ≤ width) (hh : 0 ≤ height)
    (hs : 0 ≤ stride) (hsize : 2 * (size : Int) = format.doubleSize height stride) :
    HoldsPixels format width.toNat height.toNat stride.toNat size := by
  obtain ⟨w, rfl⟩ := Int.eq_ofNat_of_zero_le hw
  obtain ⟨n, rfl⟩ := Int.eq_ofNat_of_zero_le hh
  obtain ⟨s, rfl⟩ := Int.eq_ofNat_of_zero_le hs
  obtain ⟨hrow, -, heven⟩ := h
  refine ZsaSdk.holdsPixels ?_ (fun hnv12 => ?_) ?_
  · rw [Nat.mul_comm]
    exact_mod_cast hrow
  · exact_mod_cast heven hnv12
  · rw [ImageFormat.doubleSize] at hsize
    split
    · next hnv12 =>
      rw [if_pos hnv12] at hsize
      exact_mod_cast hsize
    · next hnv12 =>
      rw [if_neg hnv12] at hsize
      exact_mod_cast hsize

/-! ## Images -/

namespace ObjectStore

variable {o : ObjectStore} {source : AllocationSource} {size : UInt64} {contextOk lockOk : Bool}
  {answer : Option (Nat × Nat)} {format : ImageFormat} {width height stride : Int32}

/-- Without a buffer no image is created. -/
theorem imageCreateEmptyImage_no_buffer
    (hb : (o.allocator.allocatorAlloc source size answer).2 = none) (contextOk lockOk : Bool) :
    ∃ o', o.imageCreateEmptyImage source size contextOk answer lockOk =
      some (o', .failed, none) := by
  simp only [imageCreateEmptyImage]
  split
  · exact ⟨_, rfl⟩
  · split
    · exact ⟨_, rfl⟩
    · split
      · exact ⟨_, rfl⟩
      · cases hr : (o.pushImage .zero).allocator.allocatorAlloc source size answer with
        | mk allocator buffer =>
            obtain rfl : buffer = none := (congrArg Prod.snd hr).symm.trans hb
            simp only [imageDecRef, pushImage]
            rw [image_pushed (o := o) rfl]
            exact ⟨_, rfl⟩

/-- Without a size or without a buffer, `image_create` fails. -/
theorem imageCreate_no_buffer
    (h : ∀ size, acceptedSize format width height stride = some size →
      (o.allocator.allocatorAlloc source size answer).2 = none) :
    ∃ o', o.imageCreate format width height stride source contextOk answer lockOk =
      some (o', .failed, none) := by
  cases hsize : acceptedSize format width height stride with
  | none => exact ⟨o, imageCreate_not_accepted hsize⟩
  | some size =>
      obtain ⟨o', ho'⟩ := imageCreateEmptyImage_no_buffer (h size hsize) contextOk lockOk
      exact ⟨o', by rw [imageCreate_accepted hsize, ho']; rfl⟩

/-- The allocator refuses a size that is too large. -/
theorem allocatorAlloc_too_large (g : Allocator) (source : AllocationSource)
    (answer : Option (Nat × Nat)) (hfits : size.toNat + allocationContextSize < 2 ^ 64)
    (h : 2147483647 < size.toNat + allocationContextSize) :
    (g.allocatorAlloc source size answer).2 = none := by
  have hrequired : requiredBytes size > 2147483647 := by
    rw [gt_iff_lt, UInt64.lt_iff_toNat_lt, toNat_requiredBytes hfits]
    exact h
  simp only [Allocator.allocatorAlloc, if_pos hrequired]
  split
  · rfl
  · split
    · rfl
    · rfl

end ObjectStore

/-- An image that is created holds all its pixels, and arguments that do not suit the format, or
ask for more than the allocator gives, create none. -/
theorem image_create_holds_pixels (o : ObjectStore) (format : ImageFormat)
    (hcustom : format ≠ .custom) (width height : Int32)
    (hw : 0 < width.toInt ∧ width.toInt < 20000) (hh : 0 < height.toInt ∧ height.toInt < 20000)
    (stride : Int32) (source : AllocationSource) (contextOk : Bool) (answer : Option (Nat × Nat))
    (lockOk : Bool) :
    (∀ o' h, o.imageCreate format width height stride source contextOk answer lockOk =
        some (o', .succeeded, some h) →
      ∃ context, o'.image h = some context ∧ 0 < stride.toInt ∧
        HoldsPixels format width.toInt.toNat height.toInt.toNat stride.toInt.toNat
          context.bufferSize.toNat) ∧
    (¬ format.Suits width.toInt height.toInt stride.toInt ∨
        2 * 2147483647 < format.doubleSize height.toInt stride.toInt + 2 * allocationContextSize →
      ∃ o', o.imageCreate format width height stride source contextOk answer lockOk =
        some (o', .failed, none)) := by
  have hexact : ∀ {size}, acceptedSize format width height stride = some size →
      format.Suits width.toInt height.toInt stride.toInt ∧ 0 < stride.toInt ∧
        2 * (size.toNat : Int) = format.doubleSize height.toInt stride.toInt := by
    intro size hsize
    obtain ⟨hknown, hw, hh, himage⟩ := ObjectStore.acceptedSize_some hsize
    exact imageSize_exact hknown hcustom hw.1 hw.2 hh.1 hh.2 himage
  constructor
  · intro o' h hr
    obtain ⟨rfl, rfl, size, buffer, hsize, hb⟩ := ObjectStore.imageCreate_succeeded hr
    obtain ⟨hsuits, hpos, hdouble⟩ := hexact hsize
    rw [ObjectStore.imageCreate_of_buffer hsize hb] at hr
    cases hr
    exact ⟨_, ObjectStore.image_pushed (o := o) rfl, hpos,
      hsuits.holdsPixels (Int.le_of_lt hw.1) (Int.le_of_lt hh.1) (Int.le_of_lt hpos) hdouble⟩
  · intro h
    refine ObjectStore.imageCreate_no_buffer fun size hsize => ?_
    obtain ⟨hsuits, hpos, hdouble⟩ := hexact hsize
    have hlarge := h.resolve_left (not_not_intro hsuits)
    have hbound : format.doubleSize height.toInt stride.toInt ≤ 3 * (20000 * 2 ^ 31) := by
      obtain ⟨-, hhigh, hproduct⟩ := ObjectStore.height_mul_stride_bounds hh.1 hh.2 stride
      have hproduct := hproduct hpos
      rw [ImageFormat.doubleSize]
      split
      · omega
      · omega
    have h32 : allocationContextSize = 32 := rfl
    exact ObjectStore.allocatorAlloc_too_large o.allocator source answer (by omega) (by omega)

/-- An NV12 image of four times two pixels, in rows of six bytes. -/
theorem image_create_holds_pixels_nv12 :
    ∃ o' h context,
      ObjectStore.empty.imageCreate .colorNv12 4 2 6 .color true (some (1000, 0)) true =
        some (o', .succeeded, some h) ∧
      o'.image h = some context ∧ HoldsPixels .colorNv12 4 2 6 context.bufferSize.toNat := by
  obtain ⟨o', h, hr⟩ : ∃ o' h, ObjectStore.empty.imageCreate .colorNv12 4 2 6 .color true
      (some (1000, 0)) true = some (o', .succeeded, some h) := ⟨_, _, rfl⟩
  obtain ⟨context, hcontext, -, hpixels⟩ := (image_create_holds_pixels ObjectStore.empty .colorNv12
    nofun 4 2 (by decide) (by decide) 6 .color true (some (1000, 0)) true).1 o' h hr
  exact ⟨o', h, context, hr, hcontext, hpixels⟩

end ZsaSdk
