import Mathlib.Algebra.BigOperators.Group.Multiset.Basic
import ZsaSdk.Allocator.Model
import ZsaSdk.Lib.Ledger
import ZsaSdk.Lib.Table

/-!
# Images and captures

Images (`image.c`) and captures (the second part of `allocator.c`) are counted objects.  A
capture has three slots for images and owns a reference to the image in each.  The last
reference to an image runs its free callback, and the last reference to a capture gives up
the images in its slots.

*Handles.*  A handle is an index into the table of its kind.  A destroyed object leaves a
hole, and its index is not used again.  An operation that follows a handle to a hole reads
freed memory; it has no result here.

*Failures.*  Whether the allocation of a context or `Lock_Init` succeeds, and what the
allocate callback of the allocator answers, is given with the call.

*Counts.*  `DEC_REF_VAR` returns the new value, as it does on the supported compilers.

The lock of a capture is left out: the functions here hold it from start to end, except for
the getters, which read the slot once more after they have released it.  `freeCalls` records
the free callbacks called; the code does not read it.
-/

namespace ZsaSdk

/-- The format lies between `ZSA_IMAGE_FORMAT_COLOR_MJPG` and `ZSA_IMAGE_FORMAT_CUSTOM`. -/
def ImageFormat.known : ImageFormat → Bool
  | .unknown _ => false
  | _ => true

/-- A non-null `image_destroy_cb_t`. -/
inductive ImageDestroyCb where
  | imageDefaultFreeFunction
  | user (id : Nat)
deriving DecidableEq, Repr

/-- `image_type_index_t` -/
inductive ImageType where
  | color
  | depth
  | ir
deriving DecidableEq, Repr

namespace ObjectStore

/-- `image_context_t`, less the timestamps and the metadata.  `lock` says whether the lock
was created. -/
structure ImageContext where
  refCount : Int
  lock : Bool
  buffer : Option Nat
  bufferSize : UInt64
  format : ImageFormat
  widthPixels : Int32
  heightPixels : Int32
  strideBytes : Int32
  memoryFreeCb : Option ImageDestroyCb
  memoryFreeCbContext : Nat
deriving DecidableEq, Repr

/-- A context as `calloc` returns it. -/
def ImageContext.zero : ImageContext := ⟨0, false, none, 0, .colorMjpg, 0, 0, 0, none, 0⟩

/-- `capture_context_t`, less the temperature. -/
structure CaptureContext where
  refCount : Int
  image : ImageType → Option ImageHandle

/-- A call of a free callback, with the image that is being destroyed. -/
structure FreeCall where
  image : ImageHandle
  cb : ImageDestroyCb
  buffer : Option Nat
  context : Nat
deriving DecidableEq, Repr

end ObjectStore

/-- The images and captures of a process, and the allocator. -/
structure ObjectStore where
  images : List (Option ObjectStore.ImageContext)
  captures : List (Option ObjectStore.CaptureContext)
  allocator : Allocator
  freeCalls : List ObjectStore.FreeCall

namespace ObjectStore

def empty : ObjectStore := ⟨[], [], .initial, []⟩

/-- The image behind a handle, if it has not been destroyed. -/
def image (o : ObjectStore) (h : ImageHandle) : Option ImageContext :=
  Table.lookup o.images h.id

def setImage (o : ObjectStore) (h : ImageHandle) (context : Option ImageContext) : ObjectStore :=
  { o with images := o.images.set h.id context }

/-- The capture behind a handle, if it has not been destroyed. -/
def capture (o : ObjectStore) (c : CaptureHandle) : Option CaptureContext :=
  Table.lookup o.captures c.id

def setCapture (o : ObjectStore) (c : CaptureHandle) (context : Option CaptureContext) :
    ObjectStore := { o with captures := o.captures.set c.id context }

/-! ## Reference counts of images -/

/-- Call the free callback of an image.  Where the header in front of the buffer is damaged,
what `allocator_free` does is not defined, and the allocator is left as it is. -/
def callMemoryFreeCb (o : ObjectStore) (h : ImageHandle) (context : ImageContext) : ObjectStore :=
  match context.memoryFreeCb with
  | none => o
  | some cb =>
      let call : FreeCall := ⟨h, cb, context.buffer, context.memoryFreeCbContext⟩
      let allocator := match cb, context.buffer with
        | .imageDefaultFreeFunction, some buffer =>
            (o.allocator.allocatorFree buffer).getD o.allocator
        | _, _ => o.allocator
      { o with allocator, freeCalls := o.freeCalls ++ [call] }

/-- `image_inc_ref` -/
def imageIncRef (o : ObjectStore) (h : ImageHandle) : Option ObjectStore :=
  (o.image h).map fun context =>
    o.setImage h (some { context with refCount := context.refCount + 1 })

/-- `image_dec_ref` -/
def imageDecRef (o : ObjectStore) (h : ImageHandle) : Option ObjectStore :=
  (o.image h).map fun context =>
    let count := context.refCount - 1
    if count = 0 then (o.callMemoryFreeCb h context).setImage h none
    else o.setImage h (some { context with refCount := count })

/-- `if (image) image_dec_ref(image)` -/
def imageDecRefOf (o : ObjectStore) : Option ImageHandle → Option ObjectStore
  | none => some o
  | some h => o.imageDecRef h

/-- `if (image) image_inc_ref(image)` -/
def imageIncRefOf (o : ObjectStore) : Option ImageHandle → Option ObjectStore
  | none => some o
  | some h => o.imageIncRef h

/-! ## Creating images -/

/-- The handle of the next image. -/
def nextImage (o : ObjectStore) : ImageHandle := ⟨o.images.length⟩

def pushImage (o : ObjectStore) (context : ImageContext) : ObjectStore :=
  { o with images := o.images ++ [some context] }

/-- What a function that creates an object returns: its result and the handle it stores. -/
abbrev Created (Handle : Type) := ObjectStore × Result × Option Handle

/-- `image_create_from_buffer` -/
def imageCreateFromBuffer (o : ObjectStore) (format : ImageFormat)
    (widthPixels heightPixels strideBytes : Int32) (buffer : Option Nat) (bufferSize : UInt64)
    (bufferDestroyCb : Option ImageDestroyCb) (bufferDestroyCbContext : Nat)
    (contextOk lockOk : Bool) : Created ImageHandle :=
  if format.known = false then (o, .failed, none)
  else if widthPixels ≤ 0 || widthPixels > 20000 then (o, .failed, none)
  else if heightPixels ≤ 0 || heightPixels > 20000 then (o, .failed, none)
  else if buffer = none then (o, .failed, none)
  else if bufferSize = 0 then (o, .failed, none)
  else if contextOk = false then (o, .failed, none)
  else
    let h := o.nextImage
    let o := o.pushImage ⟨1, lockOk, buffer, bufferSize, format, widthPixels, heightPixels,
      strideBytes, bufferDestroyCb, bufferDestroyCbContext⟩
    if lockOk then (o, .succeeded, some h)
    -- The buffer stays with the caller: the context is destroyed without its callback.
    else (o.setImage h none, .failed, none)

/-- `image_create_empty_image`.  If there is no buffer the context still has the count 0 when
it is released, so it is not destroyed. -/
def imageCreateEmptyImage (o : ObjectStore) (source : AllocationSource) (size : UInt64)
    (contextOk : Bool) (answer : Option (Nat × Nat)) (lockOk : Bool) :
    Option (Created ImageHandle) :=
  if size = 0 then some (o, .failed, none)
  else if source.counted = false then some (o, .failed, none)
  else if contextOk = false then some (o, .failed, none)
  else
    let h := o.nextImage
    let o := o.pushImage .zero
    let (allocator, buffer) := o.allocator.allocatorAlloc source size answer
    let o := { o with allocator }
    match buffer with
    | none => (o.imageDecRef h).map fun o => (o, .failed, none)
    | some buffer =>
        let o := o.setImage h (some { ImageContext.zero with
          buffer := some buffer
          refCount := 1
          bufferSize := size
          memoryFreeCb := some .imageDefaultFreeFunction
          memoryFreeCbContext := 0
          lock := lockOk })
        if lockOk then some (o, .succeeded, some h)
        else (o.imageDecRef h).map fun o => (o, .failed, none)

/-- A C `int` as a `size_t`. -/
def sizeT (x : Int32) : UInt64 := x.toInt64.toUInt64

/-- The size of the buffer that `image_create` asks for, if the format has one and the
dimensions suit it. -/
def imageSize (format : ImageFormat) (widthPixels heightPixels strideBytes : Int32) :
    Option UInt64 :=
  let size := sizeT heightPixels * sizeT strideBytes
  match format with
  | .colorMjpg => none
  | .colorNv12 =>
      if heightPixels % 2 ≠ 0 then none
      else if widthPixels % 2 ≠ 0 then none
      else if strideBytes < 1 * widthPixels then none
      else some (3 * sizeT heightPixels * sizeT strideBytes / 2)
  | .custom8 => if strideBytes < 1 * widthPixels then none else some size
  | .depth16 | .ir16 | .custom16 => if strideBytes < 2 * widthPixels then none else some size
  | .colorYuy2 =>
      if widthPixels % 2 ≠ 0 then none
      else if strideBytes < 2 * widthPixels then none
      else some size
  | .colorBgra32 => if strideBytes < 4 * widthPixels then none else some size
  | .custom | .unknown _ => some size

/-- `image_create` -/
def imageCreate (o : ObjectStore) (format : ImageFormat)
    (widthPixels heightPixels strideBytes : Int32) (source : AllocationSource)
    (contextOk : Bool) (answer : Option (Nat × Nat)) (lockOk : Bool) :
    Option (Created ImageHandle) :=
  if format.known = false then some (o, .failed, none)
  else if !(widthPixels > 0 && widthPixels < 20000) then some (o, .failed, none)
  else if !(heightPixels > 0 && heightPixels < 20000) then some (o, .failed, none)
  else
    match imageSize format widthPixels heightPixels strideBytes with
    | none => some (o, .failed, none)
    | some size =>
        (o.imageCreateEmptyImage source size contextOk answer lockOk).bind fun r =>
          match r with
          | (o, .succeeded, some h) =>
              (o.image h).map fun context =>
                (o.setImage h (some { context with
                  format := format
                  widthPixels := widthPixels
                  heightPixels := heightPixels
                  strideBytes := strideBytes }), .succeeded, some h)
          | (o, _, _) => some (o, .failed, none)

/-! ## Captures -/

/-- `capture_create` -/
def captureCreate (o : ObjectStore) (contextOk : Bool) : Created CaptureHandle :=
  if contextOk then
    ({ o with captures := o.captures ++ [some ⟨1, fun _ => none⟩] }, .succeeded,
      some ⟨o.captures.length⟩)
  else (o, .failed, none)

/-- `capture_inc_ref` -/
def captureIncRef (o : ObjectStore) (c : CaptureHandle) : Option ObjectStore :=
  (o.capture c).map fun context =>
    o.setCapture c (some { context with refCount := context.refCount + 1 })

/-- `capture_dec_ref` -/
def captureDecRef (o : ObjectStore) (c : CaptureHandle) : Option ObjectStore :=
  (o.capture c).bind fun context =>
    let newCount := context.refCount - 1
    if newCount = 0 then
      (((o.imageDecRefOf (context.image .color)).bind fun o =>
        o.imageDecRefOf (context.image .depth)).bind fun o =>
        o.imageDecRefOf (context.image .ir)).map fun o => o.setCapture c none
    else some (o.setCapture c (some { context with refCount := newCount }))

/-- The getters up to the release of the lock: the image in the slot gets a reference. -/
def captureGetLocked (o : ObjectStore) (k : ImageType) (c : CaptureHandle) :
    Option (ObjectStore × Option ImageHandle) :=
  (o.capture c).bind fun context =>
    (o.imageIncRefOf (context.image k)).map fun o => (o, context.image k)

/-- The getters from the release of the lock on: the slot is read again. -/
def captureGetUnlocked (o : ObjectStore) (k : ImageType) (c : CaptureHandle) :
    Option (Option ImageHandle) :=
  (o.capture c).map fun context => context.image k

/-- The three getters, one after the other with nothing in between. -/
def captureGetImage (o : ObjectStore) (k : ImageType) (c : CaptureHandle) :
    Option (ObjectStore × Option ImageHandle) :=
  (o.captureGetLocked k c).bind fun r => (r.1.captureGetUnlocked k c).map fun i => (r.1, i)

/-- `capture_get_color_image` -/
def captureGetColorImage (o : ObjectStore) := o.captureGetImage .color

/-- `capture_get_depth_image` -/
def captureGetDepthImage (o : ObjectStore) := o.captureGetImage .depth

/-- `capture_get_ir_image` -/
def captureGetIrImage (o : ObjectStore) := o.captureGetImage .ir

/-- The three setters: the image that was in the slot loses its reference first. -/
def captureSetImage (o : ObjectStore) (k : ImageType) (c : CaptureHandle)
    (imageHandle : Option ImageHandle) : Option ObjectStore :=
  (o.capture c).bind fun context =>
    (o.imageDecRefOf (context.image k)).bind fun o =>
      (o.setCapture c (some { context with
        image := fun j => if j = k then imageHandle else context.image j })).imageIncRefOf
          imageHandle

/-- `capture_set_color_image` -/
def captureSetColorImage (o : ObjectStore) := o.captureSetImage .color

/-- `capture_set_depth_image` -/
def captureSetDepthImage (o : ObjectStore) := o.captureSetImage .depth

/-- `capture_set_ir_image` -/
def captureSetIrImage (o : ObjectStore) := o.captureSetImage .ir

end ObjectStore

/-! ## Clients

A run is a sequence of calls, one at a time.  The record of a run keeps the references that
clients own and what each image was created with.  A call is allowed if the clients own a
reference to every object they pass, and release only references they own. -/

/-- A call of `image.c` or of the capture functions, with the outcomes of the allocations in
it. -/
inductive ObjectCall where
  | imageCreate (format : ImageFormat) (widthPixels heightPixels strideBytes : Int32)
      (source : AllocationSource) (contextOk : Bool) (answer : Option (Nat × Nat)) (lockOk : Bool)
  | imageCreateFromBuffer (format : ImageFormat) (widthPixels heightPixels strideBytes : Int32)
      (buffer : Option Nat) (bufferSize : UInt64) (cb : Option ImageDestroyCb) (context : Nat)
      (contextOk lockOk : Bool)
  | imageIncRef (image : ImageHandle)
  | imageDecRef (image : ImageHandle)
  | captureCreate (contextOk : Bool)
  | captureIncRef (capture : CaptureHandle)
  | captureDecRef (capture : CaptureHandle)
  | captureGet (k : ImageType) (capture : CaptureHandle)
  | captureSet (k : ImageType) (capture : CaptureHandle) (image : Option ImageHandle)

/-- What an image was created with. -/
structure ImageRecord where
  image : ImageHandle
  cb : Option ImageDestroyCb
  buffer : Option Nat
  context : Nat
deriving DecidableEq, Repr

/-- The calls of the free callback that the image is to receive when it is destroyed. -/
def ImageRecord.freeCalls (r : ImageRecord) : List ObjectStore.FreeCall :=
  r.cb.toList.map fun cb => ⟨r.image, cb, r.buffer, r.context⟩

/-- The objects, and what the clients own. -/
structure Clients where
  store : ObjectStore
  imageRefs : Multiset ImageHandle
  captureRefs : Multiset CaptureHandle
  /-- The images that a call has returned. -/
  created : List ImageRecord

namespace Clients

def initial : Clients := ⟨.empty, 0, 0, []⟩

/-- The call passes only objects that the clients own references to. -/
def Allowed (s : Clients) : ObjectCall → Prop
  | .imageCreate .. | .imageCreateFromBuffer .. | .captureCreate _ => True
  | .imageIncRef image | .imageDecRef image => image ∈ s.imageRefs
  | .captureIncRef capture | .captureDecRef capture | .captureGet _ capture =>
      capture ∈ s.captureRefs
  | .captureSet _ capture image => capture ∈ s.captureRefs ∧ ∀ i, image = some i → i ∈ s.imageRefs

/-- A new image belongs to the client it is returned to. -/
def imageReturned (s : Clients) (r : ObjectStore.Created ImageHandle)
    (record : ImageHandle → ImageRecord) : Clients :=
  { s with
    store := r.1
    imageRefs := Ledger.held r.2.2 + s.imageRefs
    created := s.created ++ r.2.2.toList.map record }

/-- The getter of a slot. -/
def getter (o : ObjectStore) : ImageType → CaptureHandle → Option (ObjectStore × Option ImageHandle)
  | .color => o.captureGetColorImage
  | .depth => o.captureGetDepthImage
  | .ir => o.captureGetIrImage

/-- The setter of a slot. -/
def setter (o : ObjectStore) : ImageType → CaptureHandle → Option ImageHandle → Option ObjectStore
  | .color => o.captureSetColorImage
  | .depth => o.captureSetDepthImage
  | .ir => o.captureSetIrImage

/-- One call, with what it does to the references of the clients. -/
def step (s : Clients) : ObjectCall → Option Clients
  | .imageCreate format width height stride source contextOk answer lockOk =>
      (s.store.imageCreate format width height stride source contextOk answer lockOk).map fun r =>
        s.imageReturned r fun h =>
          ⟨h, some .imageDefaultFreeFunction,
            answer.map fun block => block.1 + allocationContextSize, 0⟩
  | .imageCreateFromBuffer format width height stride buffer bufferSize cb context contextOk
      lockOk =>
      some (s.imageReturned (s.store.imageCreateFromBuffer format width height stride buffer
        bufferSize cb context contextOk lockOk) fun h => ⟨h, cb, buffer, context⟩)
  | .imageIncRef image =>
      (s.store.imageIncRef image).map fun store =>
        { s with store, imageRefs := image ::ₘ s.imageRefs }
  | .imageDecRef image =>
      (s.store.imageDecRef image).map fun store =>
        { s with store, imageRefs := s.imageRefs.erase image }
  | .captureCreate contextOk =>
      let r := s.store.captureCreate contextOk
      some { s with store := r.1, captureRefs := Ledger.held r.2.2 + s.captureRefs }
  | .captureIncRef capture =>
      (s.store.captureIncRef capture).map fun store =>
        { s with store, captureRefs := capture ::ₘ s.captureRefs }
  | .captureDecRef capture =>
      (s.store.captureDecRef capture).map fun store =>
        { s with store, captureRefs := s.captureRefs.erase capture }
  | .captureGet k capture =>
      (getter s.store k capture).map fun r =>
        { s with store := r.1, imageRefs := Ledger.held r.2 + s.imageRefs }
  | .captureSet k capture image =>
      (setter s.store k capture image).map fun store => { s with store }

/-- A sequence of calls. -/
def run (s : Clients) (calls : List ObjectCall) : Option Clients := Steps.run step s calls

end Clients

end ZsaSdk
