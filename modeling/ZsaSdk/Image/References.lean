import ZsaSdk.Allocator.Accounting
import ZsaSdk.Image.Model

/-!
# Reference counts of images and captures

`ImagesOk o created e` says that the images of `o` account for the references `e`: the count
of every image a client was given is the number of its references in `e`, it is destroyed
exactly if there is none, and its free callback has been called exactly if it is destroyed.
Taking a reference adds to `e` and dropping one takes from it (`ImagesOk.incRef`,
`ImagesOk.decRef`), so what each call does to the counts follows from what it does to the
references.

The references are those of the clients and those of the slots.  That the two always add up
is `Balanced`; a setter that stores the image already in the slot keeps it alive through the
reference of its client.
-/

namespace ZsaSdk

open Ledger

namespace ObjectStore

variable {o o' : ObjectStore} {h h' : ImageHandle} {context : ImageContext}
  {created : List ImageRecord} {e : Multiset ImageHandle}

theorem id_ne (hne : h ≠ h') : h.id ≠ h'.id := fun heq => hne (congrArg ImageHandle.mk heq)

theorem image_setImage_self (hi : o.image h = some context) (y : Option ImageContext) :
    (o.setImage h y).image h = y := Table.lookup_set_self hi y

theorem image_setImage_ne (hne : h ≠ h') (y : Option ImageContext) :
    (o.setImage h y).image h' = o.image h' := Table.lookup_set_ne (id_ne hne) y

@[simp] theorem length_setImage (y : Option ImageContext) :
    (o.setImage h y).images.length = o.images.length := List.length_set

@[simp] theorem images_callMemoryFreeCb (h : ImageHandle) (context : ImageContext) :
    (o.callMemoryFreeCb h context).images = o.images := by
  simp only [callMemoryFreeCb]
  split <;> rfl

@[simp] theorem captures_callMemoryFreeCb (h : ImageHandle) (context : ImageContext) :
    (o.callMemoryFreeCb h context).captures = o.captures := by
  simp only [callMemoryFreeCb]
  split <;> rfl

/-- The free callback is called at most once, with what stands in the context. -/
theorem freeCalls_callMemoryFreeCb (h : ImageHandle) (context : ImageContext) :
    (o.callMemoryFreeCb h context).freeCalls = o.freeCalls ++
      ImageRecord.freeCalls ⟨h, context.memoryFreeCb, context.buffer,
        context.memoryFreeCbContext⟩ := by
  cases hcb : context.memoryFreeCb with
  | none => simp [callMemoryFreeCb, hcb, ImageRecord.freeCalls]
  | some cb => simp [callMemoryFreeCb, hcb, ImageRecord.freeCalls]

/-- The free callbacks called for an image. -/
def callsFor (o : ObjectStore) (h : ImageHandle) : List FreeCall :=
  o.freeCalls.filter fun call => call.image = h

theorem filter_freeCalls (r : ImageRecord) (h : ImageHandle) :
    r.freeCalls.filter (fun call => call.image = h) = if r.image = h then r.freeCalls else [] := by
  cases hcb : r.cb with
  | none => simp [ImageRecord.freeCalls, hcb]
  | some cb =>
      by_cases hr : r.image = h
      · simp [ImageRecord.freeCalls, hcb, hr]
      · simp [ImageRecord.freeCalls, hcb, hr]

/-! ## Accounting for references -/

/-- The images account for the references `e`. -/
structure ImagesOk (o : ObjectStore) (created : List ImageRecord) (e : Multiset ImageHandle) :
    Prop where
  count : ∀ r ∈ created, ∀ context, o.image r.image = some context →
    context.refCount = e.count r.image
  record : ∀ r ∈ created, ∀ context, o.image r.image = some context →
    r = ⟨r.image, context.memoryFreeCb, context.buffer, context.memoryFreeCbContext⟩
  live : ∀ r ∈ created, (o.image r.image ≠ none ↔ r.image ∈ e)
  known : ∀ h ∈ e, ∃ r ∈ created, r.image = h
  calls : ∀ r ∈ created, o.callsFor r.image = if r.image ∈ e then [] else r.freeCalls
  bounded : ∀ r ∈ created, r.image.id < o.images.length
  callsBounded : ∀ call ∈ o.freeCalls, call.image.id < o.images.length

theorem ImagesOk.exists_context (hok : ImagesOk o created e) (hh : h ∈ e) :
    ∃ r ∈ created, r.image = h ∧ ∃ context, o.image h = some context := by
  obtain ⟨r, hr, rfl⟩ := hok.known h hh
  exact ⟨r, hr, rfl, Option.ne_none_iff_exists'.mp ((hok.live r hr).mpr hh)⟩

/-- The count of one live image changes, and it stays alive. -/
theorem ImagesOk.recount {e' : Multiset ImageHandle} {n : Int} (hok : ImagesOk o created e)
    (hi : o.image h = some context) (hn : n = e'.count h)
    (hcount : ∀ x, x ≠ h → e'.count x = e.count x) (hmem : ∀ x, x ∈ e' ↔ x ∈ e) :
    ImagesOk (o.setImage h (some { context with refCount := n })) created e' := by
  -- Every image that is found now was found before, with everything but its count the same.
  have hfound : ∀ {x : ImageHandle} {context' : ImageContext},
      (o.setImage h (some { context with refCount := n })).image x = some context' →
      (x = h ∧ context' = { context with refCount := n }) ∨
        (x ≠ h ∧ o.image x = some context') := by
    intro x context' hx
    by_cases hxh : x = h
    · subst hxh
      rw [image_setImage_self hi] at hx
      exact Or.inl ⟨rfl, (Option.some.inj hx).symm⟩
    · rw [image_setImage_ne (Ne.symm hxh)] at hx
      exact Or.inr ⟨hxh, hx⟩
  refine ⟨?_, ?_, ?_, ?_, ?_, ?_, ?_⟩
  · intro r hr context' hx
    obtain ⟨hxh, rfl⟩ | ⟨hxh, hx⟩ := hfound hx
    · rw [hxh]
      exact hn
    · rw [hcount _ hxh]
      exact hok.count r hr context' hx
  · intro r hr context' hx
    obtain ⟨hxh, rfl⟩ | ⟨-, hx⟩ := hfound hx
    · exact hok.record r hr context (hxh ▸ hi)
    · exact hok.record r hr context' hx
  · intro r hr
    rw [hmem, ← hok.live r hr]
    by_cases hxh : r.image = h
    · rw [hxh, image_setImage_self hi, hi]
      simp
    · rw [image_setImage_ne (Ne.symm hxh)]
  · exact fun x hx => hok.known x ((hmem x).mp hx)
  · intro r hr
    simp only [hmem]
    exact hok.calls r hr
  · intro r hr
    rw [length_setImage]
    exact hok.bounded r hr
  · intro call hc
    rw [length_setImage]
    exact hok.callsBounded call hc

theorem mem_cons_of_mem (hh : h ∈ e) (x : ImageHandle) : x ∈ h ::ₘ e ↔ x ∈ e := by
  rw [Multiset.mem_cons]
  exact ⟨fun hx => hx.elim (fun heq => heq ▸ hh) id, Or.inr⟩

/-- A reference more to an image that has one. -/
theorem ImagesOk.incRef (hok : ImagesOk o created e) (hh : h ∈ e) :
    ∃ o', o.imageIncRef h = some o' ∧ ImagesOk o' created (h ::ₘ e) ∧ o'.captures = o.captures := by
  obtain ⟨r, hr, rfl, context, hi⟩ := hok.exists_context hh
  refine ⟨o.setImage r.image (some { context with refCount := context.refCount + 1 }), ?_, ?_, rfl⟩
  · rw [imageIncRef, hi, Option.map_some]
  · refine hok.recount hi ?_ (fun x hx => Multiset.count_cons_of_ne hx _) (mem_cons_of_mem hh)
    rw [Multiset.count_cons_self, hok.count r hr context hi]
    rfl

/-- References to an image are not changed by a reference to another. -/
theorem mem_cons_iff_of_ne (hne : h' ≠ h) : h' ∈ h ::ₘ e ↔ h' ∈ e := by
  rw [Multiset.mem_cons]
  exact ⟨fun hm => hm.resolve_left hne, Or.inr⟩

/-- Destroying an image leaves the others. -/
theorem image_destroyed_ne (hne : h' ≠ h) :
    ((o.callMemoryFreeCb h context).setImage h none).image h' = o.image h' := by
  rw [image_setImage_ne (Ne.symm hne), image, images_callMemoryFreeCb]
  rfl

/-- An image that is destroyed is not found. -/
theorem image_destroyed_self (hi : o.image h = some context) :
    ((o.callMemoryFreeCb h context).setImage h none).image h = none := by
  have hi' : (o.callMemoryFreeCb h context).image h = some context := by
    rw [image, images_callMemoryFreeCb]
    exact hi
  exact image_setImage_self hi' none

/-- The calls for an image are those from before and those that destroying `h` adds. -/
theorem callsFor_destroyed (image : ImageHandle) :
    ((o.callMemoryFreeCb h context).setImage h none).callsFor image =
      o.callsFor image ++ (ImageRecord.freeCalls ⟨h, context.memoryFreeCb, context.buffer,
        context.memoryFreeCbContext⟩).filter (fun call => call.image = image) := by
  rw [callsFor, callsFor, ← List.filter_append, ← freeCalls_callMemoryFreeCb]
  rfl

/-- The last reference to an image goes: it is destroyed, and its free callback called. -/
theorem ImagesOk.destroy (hok : ImagesOk o created (h ::ₘ e)) (hh : h ∉ e)
    (hi : o.image h = some context) :
    ImagesOk ((o.callMemoryFreeCb h context).setImage h none) created e := by
  -- A record whose image is found is not the record of the image destroyed.
  have hother : ∀ {r : ImageRecord} {context' : ImageContext},
      ((o.callMemoryFreeCb h context).setImage h none).image r.image = some context' →
      r.image ≠ h ∧ o.image r.image = some context' := by
    intro r context' hx
    by_cases hxh : r.image = h
    · rw [hxh, image_destroyed_self hi] at hx
      cases hx
    · rw [image_destroyed_ne hxh] at hx
      exact ⟨hxh, hx⟩
  refine ⟨?_, ?_, ?_, ?_, ?_, ?_, ?_⟩
  · intro r hr context' hx
    obtain ⟨hxh, hx⟩ := hother hx
    have hcount := hok.count r hr context' hx
    rwa [Multiset.count_cons_of_ne hxh] at hcount
  · intro r hr context' hx
    exact hok.record r hr context' (hother hx).2
  · intro r hr
    by_cases hxh : r.image = h
    · rw [hxh, image_destroyed_self hi]
      exact ⟨fun hne => absurd rfl hne, fun hm => absurd hm hh⟩
    · rw [image_destroyed_ne hxh, hok.live r hr, mem_cons_iff_of_ne hxh]
  · exact fun x hx => hok.known x (Multiset.mem_cons_of_mem hx)
  · intro r hr
    rw [callsFor_destroyed, hok.calls r hr, filter_freeCalls]
    by_cases hxh : r.image = h
    · have hrec := hok.record r hr context (hxh ▸ hi)
      rw [hxh, if_pos (Multiset.mem_cons_self h e), if_pos rfl, if_neg hh, List.nil_append, ← hxh,
        ← hrec]
    · rw [if_neg (Ne.symm hxh), List.append_nil]
      simp only [mem_cons_iff_of_ne hxh]
  · intro r hr
    rw [length_setImage, images_callMemoryFreeCb]
    exact hok.bounded r hr
  · intro call hc
    rw [length_setImage, images_callMemoryFreeCb]
    have hc' : call ∈ (o.callMemoryFreeCb h context).freeCalls := hc
    rw [freeCalls_callMemoryFreeCb] at hc'
    rcases List.mem_append.mp hc' with hc' | hc'
    · exact hok.callsBounded call hc'
    · obtain ⟨cb, -, rfl⟩ := List.mem_map.mp hc'
      exact Table.lt_of_lookup hi

/-- A reference less to an image. -/
theorem ImagesOk.decRef (hok : ImagesOk o created (h ::ₘ e)) :
    ∃ o', o.imageDecRef h = some o' ∧ ImagesOk o' created e ∧ o'.captures = o.captures := by
  obtain ⟨r, hr, rfl, context, hi⟩ := hok.exists_context (Multiset.mem_cons_self h e)
  have hcount := hok.count r hr context hi
  rw [Multiset.count_cons_self] at hcount
  by_cases hh : r.image ∈ e
  · refine ⟨o.setImage r.image (some { context with refCount := context.refCount - 1 }), ?_, ?_,
      rfl⟩
    · have hpos := Multiset.count_pos.mpr hh
      rw [imageDecRef, hi, Option.map_some]
      exact congrArg some (if_neg (by omega))
    · refine hok.recount hi (by omega) (fun x hx => (Multiset.count_cons_of_ne hx _).symm) ?_
      exact fun x => (mem_cons_of_mem hh x).symm
  · refine ⟨(o.callMemoryFreeCb r.image context).setImage r.image none, ?_, hok.destroy hh hi, ?_⟩
    · have hzero := Multiset.count_eq_zero.mpr hh
      rw [imageDecRef, hi, Option.map_some]
      exact congrArg some (if_pos (by omega))
    · exact captures_callMemoryFreeCb r.image context

theorem ImagesOk.incRefOf (hok : ImagesOk o created e) {i : Option ImageHandle}
    (hi : ∀ h, i = some h → h ∈ e) :
    ∃ o', o.imageIncRefOf i = some o' ∧ ImagesOk o' created (held i + e) ∧
      o'.captures = o.captures := by
  cases i with
  | none => exact ⟨o, rfl, by rwa [held_none, zero_add], rfl⟩
  | some h =>
      obtain ⟨o', ho', hok', hcap⟩ := hok.incRef (hi h rfl)
      exact ⟨o', ho', by rwa [held_some, Multiset.singleton_add], hcap⟩

theorem ImagesOk.decRefOf {i : Option ImageHandle} (hok : ImagesOk o created (held i + e)) :
    ∃ o', o.imageDecRefOf i = some o' ∧ ImagesOk o' created e ∧ o'.captures = o.captures := by
  cases i with
  | none => exact ⟨o, rfl, by rwa [held_none, zero_add] at hok, rfl⟩
  | some h =>
      rw [held_some, Multiset.singleton_add] at hok
      exact hok.decRef

/-! ## Creating images -/

/-- Every image that existed is as it was.  A callback was called at most for a new one. -/
structure Extends (o o' : ObjectStore) : Prop where
  captures : o'.captures = o.captures
  length : o.images.length ≤ o'.images.length
  image : ∀ h : ImageHandle, h.id < o.images.length → o'.image h = o.image h
  calls : ∃ calls, o'.freeCalls = o.freeCalls ++ calls ∧
    ∀ call ∈ calls, call.image = o.nextImage ∧ o.images.length < o'.images.length

theorem Extends.refl (o : ObjectStore) : Extends o o :=
  ⟨rfl, le_rfl, fun _ _ => rfl, [], (List.append_nil _).symm, nofun⟩

theorem ne_nextImage (hlt : h.id < o.images.length) : h ≠ o.nextImage := by
  rintro rfl
  exact Nat.lt_irrefl _ hlt

/-- What a function that creates an image does. -/
def Creates (o : ObjectStore) (r : Created ImageHandle) (record : ImageHandle → ImageRecord) :
    Prop :=
  Extends o r.1 ∧ (r.2.2 = none ∨ r.2.2 = some o.nextImage ∧ r.1.freeCalls = o.freeCalls ∧
    ∃ context, r.1.image o.nextImage = some context ∧ context.refCount = 1 ∧
      record o.nextImage = ⟨o.nextImage, context.memoryFreeCb, context.buffer,
        context.memoryFreeCbContext⟩)

theorem Creates.failed {result : Result} (hext : Extends o o')
    (record : ImageHandle → ImageRecord) : Creates o (o', result, none) record :=
  ⟨hext, Or.inl rfl⟩

/-- A table with one more entry. -/
theorem Extends.of_push {x : Option ImageContext}
    (himages : o'.images = o.images ++ [x]) (hcaptures : o'.captures = o.captures)
    (hcalls : ∃ calls, o'.freeCalls = o.freeCalls ++ calls ∧
      ∀ call ∈ calls, call.image = o.nextImage) : Extends o o' := by
  have hlength : o'.images.length = o.images.length + 1 := by
    rw [himages, List.length_append, List.length_singleton]
  refine ⟨hcaptures, by omega, ?_, ?_⟩
  · intro h hlt
    show Table.lookup o'.images h.id = _
    rw [himages]
    exact Table.lookup_append_ne (Nat.ne_of_lt hlt) x
  · obtain ⟨calls, heq, hall⟩ := hcalls
    exact ⟨calls, heq, fun call hc => ⟨hall call hc, by omega⟩⟩

theorem ImagesOk.extends (hok : ImagesOk o created e) (hext : Extends o o') :
    ImagesOk o' created e := by
  obtain ⟨calls, hcalls, hnew⟩ := hext.calls
  have himage : ∀ r ∈ created, o'.image r.image = o.image r.image :=
    fun r hr => hext.image r.image (hok.bounded r hr)
  refine ⟨?_, ?_, ?_, hok.known, ?_, ?_, ?_⟩
  · intro r hr context hi
    exact hok.count r hr context (himage r hr ▸ hi)
  · intro r hr context hi
    exact hok.record r hr context (himage r hr ▸ hi)
  · intro r hr
    rw [himage r hr]
    exact hok.live r hr
  · intro r hr
    have hnil : calls.filter (fun call => call.image = r.image) = [] := by
      rw [List.filter_eq_nil_iff]
      intro call hc
      rw [(hnew call hc).1, decide_eq_true_eq]
      exact Ne.symm (ne_nextImage (hok.bounded r hr))
    rw [callsFor, hcalls, List.filter_append, hnil, List.append_nil]
    exact hok.calls r hr
  · exact fun r hr => Nat.lt_of_lt_of_le (hok.bounded r hr) hext.length
  · intro call hc
    rw [hcalls] at hc
    rcases List.mem_append.mp hc with hc | hc
    · exact Nat.lt_of_lt_of_le (hok.callsBounded call hc) hext.length
    · rw [(hnew call hc).1]
      exact (hnew call hc).2

/-- A new image with one reference. -/
theorem ImagesOk.create {r : ImageRecord} (hok : ImagesOk o created e) (hext : Extends o o')
    (hcalls : o'.freeCalls = o.freeCalls) (hi : o'.image o.nextImage = some context)
    (hone : context.refCount = 1) (hr : r = ⟨o.nextImage, context.memoryFreeCb, context.buffer,
      context.memoryFreeCbContext⟩) :
    ImagesOk o' (created ++ [r]) (o.nextImage ::ₘ e) := by
  have hok' := hok.extends hext
  have hold : ∀ r' ∈ created, r'.image ≠ o.nextImage := fun r' hr' =>
    ne_nextImage (hok.bounded r' hr')
  have hfresh : o.nextImage ∉ e := by
    intro hmem
    obtain ⟨r', hr', heq⟩ := hok.known _ hmem
    exact hold r' hr' heq
  have hrimage : r.image = o.nextImage := congrArg ImageRecord.image hr
  -- Every field is checked for the old records and for the new one.
  have hsplit : ∀ {P : ImageRecord → Prop}, (∀ r' ∈ created, P r') → P r →
      ∀ r' ∈ created ++ [r], P r' := by
    intro P hP hPr r' hr'
    rcases List.mem_append.mp hr' with hr' | hr'
    · exact hP r' hr'
    · exact List.mem_singleton.mp hr' ▸ hPr
  refine ⟨hsplit ?_ ?_, hsplit ?_ ?_, hsplit ?_ ?_, ?_, hsplit ?_ ?_, hsplit ?_ ?_,
    hok'.callsBounded⟩
  · intro r' hr' context' hi'
    rw [Multiset.count_cons_of_ne (hold r' hr')]
    exact hok'.count r' hr' context' hi'
  · intro context' hi'
    rw [hrimage, hi] at hi'
    obtain rfl := Option.some.inj hi'
    rw [hrimage, Multiset.count_cons_self, Multiset.count_eq_zero.mpr hfresh, hone]
    rfl
  · exact hok'.record
  · intro context' hi'
    rw [hrimage, hi] at hi'
    obtain rfl := Option.some.inj hi'
    rw [hrimage]
    exact hr
  · intro r' hr'
    rw [mem_cons_iff_of_ne (hold r' hr')]
    exact hok'.live r' hr'
  · rw [hrimage, hi]
    exact ⟨fun _ => Multiset.mem_cons_self _ _, fun _ => Option.some_ne_none _⟩
  · intro x hx
    rcases Multiset.mem_cons.mp hx with rfl | hx
    · exact ⟨r, List.mem_append_right _ (List.mem_singleton_self r), hrimage⟩
    · obtain ⟨r', hr', heq⟩ := hok.known x hx
      exact ⟨r', List.mem_append_left _ hr', heq⟩
  · intro r' hr'
    simp only [mem_cons_iff_of_ne (hold r' hr')]
    exact hok'.calls r' hr'
  · rw [hrimage, if_pos (Multiset.mem_cons_self _ _), callsFor, hcalls, List.filter_eq_nil_iff]
    intro call hc
    rw [decide_eq_true_eq]
    exact ne_nextImage (hok.callsBounded call hc)
  · exact hok'.bounded
  · rw [hrimage]
    exact Table.lt_of_lookup hi

/-- The context of the newest image is set. -/
theorem setImage_pushed {x : Option ImageContext} (himages : o'.images = o.images ++ [x])
    (y : Option ImageContext) :
    o'.setImage o.nextImage y = { o' with images := o.images ++ [y] } := by
  simp [setImage, nextImage, himages]

theorem image_pushed {x : Option ImageContext}
    (himages : o'.images = o.images ++ [x]) : o'.image o.nextImage = x := by
  show Table.lookup o'.images o.images.length = x
  rw [himages]
  exact Table.lookup_append_self o.images x

theorem freeCalls_imageCreateFromBuffer (o : ObjectStore) (format : ImageFormat)
    (width height stride : Int32) (buffer : Option Nat) (bufferSize : UInt64)
    (cb : Option ImageDestroyCb) (context : Nat) (contextOk lockOk : Bool) :
    (o.imageCreateFromBuffer format width height stride buffer bufferSize cb context contextOk
      lockOk).1.freeCalls = o.freeCalls := by
  simp only [imageCreateFromBuffer]
  repeat' split
  all_goals rfl

theorem creates_imageCreateFromBuffer (o : ObjectStore) (format : ImageFormat)
    (width height stride : Int32) (buffer : Option Nat) (bufferSize : UInt64)
    (cb : Option ImageDestroyCb) (context : Nat) (contextOk lockOk : Bool) :
    Creates o (o.imageCreateFromBuffer format width height stride buffer bufferSize cb context
      contextOk lockOk) (fun h => ⟨h, cb, buffer, context⟩) := by
  have hpush : ∀ x, Extends o { o with images := o.images ++ [x] } := fun x =>
    .of_push rfl rfl ⟨[], (List.append_nil _).symm, nofun⟩
  simp only [imageCreateFromBuffer]
  split
  · exact .failed (.refl o) _
  split
  · exact .failed (.refl o) _
  split
  · exact .failed (.refl o) _
  split
  · exact .failed (.refl o) _
  split
  · exact .failed (.refl o) _
  split
  · exact .failed (.refl o) _
  split
  · exact ⟨hpush _, Or.inr ⟨rfl, rfl, _, image_pushed rfl, rfl, rfl⟩⟩
  · rw [setImage_pushed (o := o) rfl]
    exact .failed (hpush none) _

theorem imageDecRef_eq (hi : o.image h = some context) :
    o.imageDecRef h = some (if context.refCount - 1 = 0 then
      (o.callMemoryFreeCb h context).setImage h none
      else o.setImage h (some { context with refCount := context.refCount - 1 })) := by
  rw [imageDecRef, hi]
  rfl

/-- `image_create_empty_image` reads no freed memory. -/
theorem creates_imageCreateEmptyImage (o : ObjectStore) (source : AllocationSource)
    (size : UInt64) (contextOk : Bool) (answer : Option (Nat × Nat)) (lockOk : Bool) :
    ∃ r, o.imageCreateEmptyImage source size contextOk answer lockOk = some r ∧
      Creates o r (fun h => ⟨h, some .imageDefaultFreeFunction,
        answer.map fun block => block.1 + allocationContextSize, 0⟩) := by
  simp only [imageCreateEmptyImage]
  split
  · exact ⟨_, rfl, .failed (.refl o) _⟩
  split
  · exact ⟨_, rfl, .failed (.refl o) _⟩
  split
  · exact ⟨_, rfl, .failed (.refl o) _⟩
  cases hr : o.allocator.allocatorAlloc source size answer with
  | mk allocator buffer =>
      have hpush : ∀ x, Extends o { o with images := o.images ++ [x], allocator } := fun x =>
        .of_push rfl rfl ⟨[], (List.append_nil _).symm, nofun⟩
      simp only [pushImage, hr]
      cases buffer with
      | none =>
          -- The count of the context goes from 0 to -1, and the context stays.
          have hzero : ({ o with images := o.images ++ [some .zero], allocator } :
              ObjectStore).image o.nextImage = some .zero := image_pushed rfl
          refine ⟨_, congrArg (Option.map _) (imageDecRef_eq hzero), .failed ?_ _⟩
          rw [if_neg (by decide), setImage_pushed (o := o) rfl]
          exact hpush _
      | some buffer =>
          have hbuffer := Allocator.buffer_of_allocatorAlloc (congrArg Prod.snd hr)
          dsimp only
          rw [setImage_pushed (o := o) rfl]
          split
          · exact ⟨_, rfl, hpush _, Or.inr ⟨rfl, rfl, _, image_pushed rfl, rfl, by rw [hbuffer]⟩⟩
          · refine ⟨_, congrArg (Option.map _) (imageDecRef_eq (image_pushed rfl)), .failed ?_ _⟩
            rw [if_pos (Int.sub_self 1), setImage_pushed (o := o) (images_callMemoryFreeCb _ _)]
            refine .of_push rfl (captures_callMemoryFreeCb _ _)
              ⟨_, freeCalls_callMemoryFreeCb _ _, ?_⟩
            intro call hc
            obtain ⟨cb, -, rfl⟩ := List.mem_map.mp hc
            rfl

theorem Extends.setImage_nextImage (hext : Extends o o') (x : Option ImageContext) :
    Extends o (o'.setImage o.nextImage x) := by
  refine ⟨hext.captures, ?_, ?_, ?_⟩
  · rw [length_setImage]
    exact hext.length
  · intro h hlt
    rw [image_setImage_ne (Ne.symm (ne_nextImage hlt))]
    exact hext.image h hlt
  · obtain ⟨calls, hcalls, hnew⟩ := hext.calls
    refine ⟨calls, hcalls, fun call hc => ⟨(hnew call hc).1, ?_⟩⟩
    rw [length_setImage]
    exact (hnew call hc).2

theorem creates_imageCreate (o : ObjectStore) (format : ImageFormat) (width height stride : Int32)
    (source : AllocationSource) (contextOk : Bool) (answer : Option (Nat × Nat)) (lockOk : Bool) :
    ∃ r, o.imageCreate format width height stride source contextOk answer lockOk = some r ∧
      Creates o r (fun h => ⟨h, some .imageDefaultFreeFunction,
        answer.map fun block => block.1 + allocationContextSize, 0⟩) := by
  simp only [imageCreate]
  split
  · exact ⟨_, rfl, .failed (.refl o) _⟩
  split
  · exact ⟨_, rfl, .failed (.refl o) _⟩
  split
  · exact ⟨_, rfl, .failed (.refl o) _⟩
  split
  · exact ⟨_, rfl, .failed (.refl o) _⟩
  rename_i size _
  obtain ⟨r, hr, hext, hcreated⟩ :=
    creates_imageCreateEmptyImage o source size contextOk answer lockOk
  rw [hr, Option.bind_some]
  split
  · obtain hnone | ⟨hsome, hcalls, context, hi, hone, hrecord⟩ := hcreated
    · cases hnone
    · obtain rfl := Option.some.inj hsome
      refine ⟨_, congrArg (Option.map _) hi, hext.setImage_nextImage _, Or.inr ⟨rfl, hcalls, ?_⟩⟩
      exact ⟨_, image_setImage_self hi _, hone, hrecord⟩
  · exact ⟨_, rfl, .failed hext _⟩

/-! ## Slots -/

variable {c c' : CaptureHandle} {capture : CaptureContext} {k : ImageType}
  {imageRefs : Multiset ImageHandle} {captureRefs : Multiset CaptureHandle}

/-- The references that the slots of a capture own. -/
def slots : Option CaptureContext → Multiset ImageHandle
  | none => 0
  | some capture =>
      held (capture.image .color) + held (capture.image .depth) + held (capture.image .ir)

/-- The references that the slots of all captures own. -/
def slotImages (o : ObjectStore) : Multiset ImageHandle := Table.total slots o.captures

theorem slotImages_congr (hcap : o'.captures = o.captures) : o'.slotImages = o.slotImages := by
  rw [slotImages, hcap]
  rfl

/-- The slots of a capture, one of them set apart. -/
theorem slots_split (capture : CaptureContext) (k : ImageType) :
    ∃ m, slots (some capture) = held (capture.image k) + m ∧
      ∀ i n, slots (some ⟨n, fun j => if j = k then i else capture.image j⟩) = held i + m := by
  cases k with
  | color =>
      refine ⟨held (capture.image .depth) + held (capture.image .ir), ?_, fun i n => ?_⟩
      · exact add_assoc _ _ _
      · exact add_assoc _ _ _
  | depth =>
      refine ⟨held (capture.image .color) + held (capture.image .ir), ?_, fun i n => ?_⟩
      · rw [slots, add_comm (held (capture.image .color)), add_assoc]
      · show held (capture.image .color) + held i + held (capture.image .ir) = _
        rw [add_comm (held (capture.image .color)), add_assoc]
  | ir =>
      refine ⟨held (capture.image .color) + held (capture.image .depth), ?_, fun i n => ?_⟩
      · exact add_comm _ _
      · exact add_comm _ _

/-- The slots of all captures, those of one set apart. -/
theorem slotImages_split (hc : o.capture c = some capture) :
    ∃ m, o.slotImages = slots (some capture) + m ∧
      ∀ {o' : ObjectStore}, o'.captures = o.captures → ∀ y,
        (o'.setCapture c y).slotImages = slots y + m := by
  obtain ⟨m, hm, hset⟩ := Table.total_set slots (Table.getElem?_of_lookup hc)
  refine ⟨m, hm, fun hcap y => ?_⟩
  rw [← hset y, slotImages, setCapture, hcap]

theorem slotImages_recount (hc : o.capture c = some capture) (n : Int) :
    (o.setCapture c (some { capture with refCount := n })).slotImages = o.slotImages := by
  obtain ⟨m, hm, hset⟩ := slotImages_split hc
  rw [hset rfl, hm]
  rfl

/-- The captures account for the references of the clients. -/
structure CapturesOk (o : ObjectStore) (e : Multiset CaptureHandle) : Prop where
  count : ∀ c capture, o.capture c = some capture → capture.refCount = e.count c
  live : ∀ c, o.capture c ≠ none ↔ c ∈ e

theorem CapturesOk.congr {e : Multiset CaptureHandle} (hok : CapturesOk o e)
    (hcap : o'.captures = o.captures) : CapturesOk o' e := by
  have hcapture : ∀ c, o'.capture c = o.capture c := by
    intro c
    show Table.lookup o'.captures c.id = _
    rw [hcap]
    rfl
  refine ⟨fun c capture hc => hok.count c capture (hcapture c ▸ hc), fun c => ?_⟩
  rw [hcapture]
  exact hok.live c

theorem CapturesOk.exists_capture {e : Multiset CaptureHandle} (hok : CapturesOk o e)
    (hc : c ∈ e) : ∃ capture, o.capture c = some capture :=
  Option.ne_none_iff_exists'.mp ((hok.live c).mpr hc)

/-- The context of one capture changes, or it is destroyed. -/
theorem CapturesOk.set {e e' : Multiset CaptureHandle} {y : Option CaptureContext}
    (hok : CapturesOk o e) (hc : o.capture c = some capture)
    (hcount : ∀ x, y = some x → x.refCount = e'.count c) (hlive : y ≠ none ↔ c ∈ e')
    (hother : ∀ x, x ≠ c → e'.count x = e.count x) : CapturesOk (o.setCapture c y) e' := by
  have hself : (o.setCapture c y).capture c = y := Table.lookup_set_self hc y
  have hne : ∀ x, x ≠ c → (o.setCapture c y).capture x = o.capture x := fun x hx =>
    Table.lookup_set_ne (fun heq => hx (congrArg CaptureHandle.mk heq.symm)) y
  refine ⟨fun x capture' hx => ?_, fun x => ?_⟩
  · by_cases hxc : x = c
    · rw [hxc, hself] at hx
      rw [hxc]
      exact hcount capture' hx
    · rw [hne x hxc] at hx
      rw [hother x hxc]
      exact hok.count x capture' hx
  · by_cases hxc : x = c
    · rw [hxc, hself]
      exact hlive
    · rw [hne x hxc, hok.live x, ← Multiset.count_pos, ← Multiset.count_pos, hother x hxc]

theorem CapturesOk.incRef {e : Multiset CaptureHandle} (hok : CapturesOk o e)
    (hc : o.capture c = some capture) :
    CapturesOk (o.setCapture c (some { capture with refCount := capture.refCount + 1 }))
      (c ::ₘ e) := by
  refine hok.set hc ?_ ?_ fun x hx => Multiset.count_cons_of_ne hx e
  · intro x hx
    obtain rfl := Option.some.inj hx
    have hcount := hok.count c capture hc
    rw [Multiset.count_cons_self]
    show capture.refCount + 1 = _
    omega
  · exact ⟨fun _ => Multiset.mem_cons_self c e, fun _ => Option.some_ne_none _⟩

/-- A reference less to a capture that another one keeps. -/
theorem CapturesOk.decRef {e : Multiset CaptureHandle} (hok : CapturesOk o (c ::ₘ e))
    (hc : o.capture c = some capture) (hmem : c ∈ e) :
    CapturesOk (o.setCapture c (some { capture with refCount := capture.refCount - 1 })) e := by
  refine hok.set hc ?_ ?_ fun x hx => (Multiset.count_cons_of_ne hx e).symm
  · intro x hx
    obtain rfl := Option.some.inj hx
    have hcount := hok.count c capture hc
    rw [Multiset.count_cons_self] at hcount
    show capture.refCount - 1 = _
    omega
  · exact ⟨fun _ => hmem, fun _ => Option.some_ne_none _⟩

theorem CapturesOk.destroy {e : Multiset CaptureHandle} (hok : CapturesOk o (c ::ₘ e))
    (hc : o.capture c = some capture) (hmem : c ∉ e) : CapturesOk (o.setCapture c none) e := by
  refine hok.set hc nofun ?_ fun x hx => (Multiset.count_cons_of_ne hx e).symm
  exact ⟨fun hne => absurd rfl hne, fun hm => absurd hm hmem⟩

theorem CapturesOk.create {e : Multiset CaptureHandle} (hok : CapturesOk o e) :
    CapturesOk { o with captures := o.captures ++ [some ⟨1, fun _ => none⟩] }
      (⟨o.captures.length⟩ ::ₘ e) := by
  have hnone : o.capture ⟨o.captures.length⟩ = none := by
    show (o.captures[o.captures.length]?).join = none
    rw [List.getElem?_eq_none (Nat.le_refl _)]
    rfl
  have hfresh : (⟨o.captures.length⟩ : CaptureHandle) ∉ e := fun hm =>
    (hok.live _).mpr hm hnone
  have hself : ({ o with captures := o.captures ++ [some ⟨1, fun _ => none⟩] } :
      ObjectStore).capture ⟨o.captures.length⟩ = some ⟨1, fun _ => none⟩ :=
    Table.lookup_append_self _ _
  have hne : ∀ x : CaptureHandle, x ≠ ⟨o.captures.length⟩ →
      ({ o with captures := o.captures ++ [some ⟨1, fun _ => none⟩] } : ObjectStore).capture x =
        o.capture x := fun x hx =>
    Table.lookup_append_ne (fun heq => hx (congrArg CaptureHandle.mk heq)) _
  refine ⟨fun x capture hx => ?_, fun x => ?_⟩
  · by_cases hxc : x = ⟨o.captures.length⟩
    · rw [hxc, hself] at hx
      obtain rfl := Option.some.inj hx
      rw [hxc, Multiset.count_cons_self, Multiset.count_eq_zero.mpr hfresh]
      rfl
    · rw [hne x hxc] at hx
      rw [Multiset.count_cons_of_ne hxc]
      exact hok.count x capture hx
  · by_cases hxc : x = ⟨o.captures.length⟩
    · rw [hxc, hself]
      exact ⟨fun _ => Multiset.mem_cons_self _ _, fun _ => Option.some_ne_none _⟩
    · rw [hne x hxc, hok.live x, Multiset.mem_cons]
      exact ⟨Or.inr, fun hm => hm.resolve_left hxc⟩

/-! ## What each call keeps -/

/-- The objects account for the references of the clients and of the slots. -/
structure Accounts (o : ObjectStore) (created : List ImageRecord)
    (imageRefs : Multiset ImageHandle) (captureRefs : Multiset CaptureHandle) : Prop where
  images : ImagesOk o created (imageRefs + o.slotImages)
  captures : CapturesOk o captureRefs

theorem ImagesOk.congr (hok : ImagesOk o created e) (himages : o'.images = o.images)
    (hcalls : o'.freeCalls = o.freeCalls) : ImagesOk o' created e := by
  have himage : ∀ h, o'.image h = o.image h := by
    intro h
    show Table.lookup o'.images h.id = _
    rw [himages]
    rfl
  have hfor : ∀ h, o'.callsFor h = o.callsFor h := by
    intro h
    rw [callsFor, hcalls]
    rfl
  refine ⟨?_, ?_, ?_, hok.known, ?_, ?_, ?_⟩
  · exact fun r hr context hi => hok.count r hr context (himage _ ▸ hi)
  · exact fun r hr context hi => hok.record r hr context (himage _ ▸ hi)
  · intro r hr
    rw [himage]
    exact hok.live r hr
  · intro r hr
    rw [hfor]
    exact hok.calls r hr
  · rw [himages]
    exact hok.bounded
  · rw [himages, hcalls]
    exact hok.callsBounded

variable (hacc : Accounts o created imageRefs captureRefs)

include hacc

/-- A call that creates an image. -/
theorem Accounts.imageCreated {r : Created ImageHandle} {record : ImageHandle → ImageRecord}
    (hr : Creates o r record) :
    Accounts r.1 (created ++ r.2.2.toList.map record) (held r.2.2 + imageRefs) captureRefs := by
  obtain ⟨o', result, i⟩ := r
  obtain ⟨hext, hcreated⟩ := hr
  refine ⟨?_, hacc.captures.congr hext.captures⟩
  rw [slotImages_congr hext.captures]
  obtain hnone | ⟨hsome, hcalls, context, hi, hone, hrecord⟩ := hcreated
  · obtain rfl : i = none := hnone
    simpa using hacc.images.extends hext
  · obtain rfl : i = some o.nextImage := hsome
    rw [held_some, add_assoc, Multiset.singleton_add]
    exact hacc.images.create hext hcalls hi hone hrecord

theorem Accounts.imageIncRef (hh : h ∈ imageRefs) :
    ∃ o', o.imageIncRef h = some o' ∧ Accounts o' created (h ::ₘ imageRefs) captureRefs := by
  obtain ⟨o', ho', hok, hcap⟩ := hacc.images.incRef (Multiset.mem_add.mpr (Or.inl hh))
  refine ⟨o', ho', ?_, hacc.captures.congr hcap⟩
  rw [slotImages_congr hcap, Multiset.cons_add]
  exact hok

theorem Accounts.imageDecRef (hh : h ∈ imageRefs) :
    ∃ o', o.imageDecRef h = some o' ∧ Accounts o' created (imageRefs.erase h) captureRefs := by
  have himages := hacc.images
  rw [← Multiset.cons_erase hh, Multiset.cons_add] at himages
  obtain ⟨o', ho', hok, hcap⟩ := himages.decRef
  refine ⟨o', ho', ?_, hacc.captures.congr hcap⟩
  rw [slotImages_congr hcap]
  exact hok

theorem Accounts.captureCreate (contextOk : Bool) :
    Accounts (o.captureCreate contextOk).1 created imageRefs
      (held (o.captureCreate contextOk).2.2 + captureRefs) := by
  cases contextOk with
  | false => rwa [ObjectStore.captureCreate, if_neg Bool.false_ne_true, held_none, zero_add]
  | true =>
      rw [ObjectStore.captureCreate, if_pos rfl, held_some, Multiset.singleton_add]
      refine ⟨?_, hacc.captures.create⟩
      have hslots : slotImages { o with captures := o.captures ++ [some ⟨1, fun _ => none⟩] } =
          o.slotImages := (Table.total_append slots _ _).trans (zero_add _)
      rw [hslots]
      exact hacc.images.congr rfl rfl

theorem Accounts.captureIncRef (hc : c ∈ captureRefs) :
    ∃ o', o.captureIncRef c = some o' ∧ Accounts o' created imageRefs (c ::ₘ captureRefs) := by
  obtain ⟨capture, hcap⟩ := hacc.captures.exists_capture hc
  refine ⟨_, congrArg (Option.map _) hcap, ?_, hacc.captures.incRef hcap⟩
  rw [slotImages_recount hcap]
  exact hacc.images.congr rfl rfl

omit hacc in
/-- The three slots give up their references, one after the other. -/
theorem ImagesOk.decRefSlots (hok : ImagesOk o created (slots (some capture) + e)) :
    ∃ o', (((o.imageDecRefOf (capture.image .color)).bind fun o =>
        o.imageDecRefOf (capture.image .depth)).bind fun o =>
        o.imageDecRefOf (capture.image .ir)) = some o' ∧
      ImagesOk o' created e ∧ o'.captures = o.captures := by
  rw [slots, add_assoc, add_assoc] at hok
  obtain ⟨o₁, h₁, hok, hcap₁⟩ := hok.decRefOf
  obtain ⟨o₂, h₂, hok, hcap₂⟩ := hok.decRefOf
  obtain ⟨o₃, h₃, hok, hcap₃⟩ := hok.decRefOf
  refine ⟨o₃, ?_, hok, (hcap₃.trans hcap₂).trans hcap₁⟩
  rw [h₁, Option.bind_some, h₂, Option.bind_some, h₃]

theorem Accounts.captureDecRef (hc : c ∈ captureRefs) :
    ∃ o', o.captureDecRef c = some o' ∧
      Accounts o' created imageRefs (captureRefs.erase c) := by
  have hcaps := hacc.captures
  rw [← Multiset.cons_erase hc] at hcaps
  obtain ⟨capture, hcap⟩ := hacc.captures.exists_capture hc
  have hcount := hcaps.count c capture hcap
  rw [Multiset.count_cons_self] at hcount
  rw [ObjectStore.captureDecRef, hcap, Option.bind_some]
  by_cases hmem : c ∈ captureRefs.erase c
  · have hpos := Multiset.count_pos.mpr hmem
    have hnz : ¬ capture.refCount - 1 = 0 := by omega
    refine ⟨_, if_neg hnz, ?_, hcaps.decRef hcap hmem⟩
    rw [slotImages_recount hcap]
    exact hacc.images.congr rfl rfl
  · have hzero := Multiset.count_eq_zero.mpr hmem
    have hlast : capture.refCount - 1 = 0 := by omega
    obtain ⟨m, hm, hset⟩ := slotImages_split hcap
    have himages := hacc.images
    rw [hm, add_left_comm] at himages
    obtain ⟨o', ho', hok, hcap'⟩ := himages.decRefSlots
    refine ⟨o'.setCapture c none, ?_, ?_, ?_⟩
    · rw [if_pos hlast, ho']
      rfl
    · rw [hset hcap']
      exact (zero_add m).symm ▸ hok.congr rfl rfl
    · exact (hcaps.destroy hcap hmem).congr (congrArg (List.set · c.id none) hcap')

/-- A getter up to the release of the lock.  Its second read finds the image it has
referenced, as long as the captures stay as they are. -/
theorem Accounts.captureGetLocked (hc : c ∈ captureRefs) (k : ImageType) :
    ∃ o' i, o.captureGetLocked k c = some (o', i) ∧ o'.captureGetUnlocked k c = some i ∧
      o'.captures = o.captures ∧ Accounts o' created (held i + imageRefs) captureRefs := by
  obtain ⟨capture, hcap⟩ := hacc.captures.exists_capture hc
  obtain ⟨m, hm, -⟩ := slotImages_split hcap
  obtain ⟨n, hn, -⟩ := slots_split capture k
  have hmem : ∀ h, capture.image k = some h → h ∈ imageRefs + o.slotImages := by
    intro h hh
    rw [hm, hn, hh, held_some]
    simp
  obtain ⟨o', ho', hok, hcap'⟩ := hacc.images.incRefOf hmem
  have hcapture : o'.capture c = some capture := by
    show Table.lookup o'.captures c.id = _
    rw [hcap']
    exact hcap
  refine ⟨o', capture.image k, ?_, ?_, hcap', ?_, hacc.captures.congr hcap'⟩
  · rw [ObjectStore.captureGetLocked, hcap, Option.bind_some, ho']
    rfl
  · rw [captureGetUnlocked, hcapture]
    rfl
  · rw [slotImages_congr hcap', add_assoc]
    exact hok

/-- A setter.  The client's own reference keeps the new image while the old one is released,
even if they are the same. -/
theorem Accounts.captureSetImage (hc : c ∈ captureRefs) (k : ImageType) {i : Option ImageHandle}
    (hi : ∀ h, i = some h → h ∈ imageRefs) :
    ∃ o', o.captureSetImage k c i = some o' ∧ Accounts o' created imageRefs captureRefs := by
  obtain ⟨capture, hcap⟩ := hacc.captures.exists_capture hc
  obtain ⟨m, hm, hset⟩ := slotImages_split hcap
  obtain ⟨n, hn, hnset⟩ := slots_split capture k
  have himages := hacc.images
  rw [hm, hn, add_assoc, add_left_comm] at himages
  obtain ⟨o₁, h₁, hok₁, hcap₁⟩ := himages.decRefOf
  have hok₂ : ImagesOk (o₁.setCapture c (some ⟨capture.refCount, fun j =>
      if j = k then i else capture.image j⟩)) created (imageRefs + (n + m)) :=
    hok₁.congr rfl rfl
  obtain ⟨o₃, h₃, hok₃, hcap₃⟩ :=
    hok₂.incRefOf fun h hh => Multiset.mem_add.mpr (Or.inl (hi h hh))
  refine ⟨o₃, ?_, ?_, ?_⟩
  · rw [ObjectStore.captureSetImage, hcap, Option.bind_some, h₁, Option.bind_some]
    exact h₃
  · rw [slotImages_congr hcap₃, hset hcap₁, hnset, add_assoc, add_left_comm]
    exact hok₃
  · have hlive : ∀ x : CaptureContext, some x ≠ none ↔ c ∈ captureRefs := fun x =>
      ⟨fun _ => hc, fun _ => Option.some_ne_none x⟩
    have hcapture : o₁.capture c = some capture := by
      show Table.lookup o₁.captures c.id = _
      rw [hcap₁]
      exact hcap
    refine ((hacc.captures.congr hcap₁).set hcapture ?_ (hlive _) fun _ _ => rfl).congr hcap₃
    intro x hx
    obtain rfl := Option.some.inj hx
    exact hacc.captures.count c capture hcap

end ObjectStore

/-! ## Runs -/

namespace Clients

open ObjectStore

variable {s s' : Clients} {call : ObjectCall}

/-- The objects account for the references of the clients and of the slots. -/
def Balanced (s : Clients) : Prop := s.store.Accounts s.created s.imageRefs s.captureRefs

theorem balanced_initial : Balanced initial := by
  refine ⟨⟨nofun, nofun, nofun, ?_, nofun, nofun, nofun⟩, ⟨?_, ?_⟩⟩
  · intro h hh
    exact absurd hh (Multiset.notMem_zero h)
  · intro c capture hc
    cases hc
  · intro c
    exact ⟨fun hne => absurd rfl hne, fun hc => absurd hc (Multiset.notMem_zero c)⟩

theorem getter_eq (o : ObjectStore) (k : ImageType) : getter o k = o.captureGetImage k := by
  cases k <;> rfl

theorem setter_eq (o : ObjectStore) (k : ImageType) : setter o k = o.captureSetImage k := by
  cases k <;> rfl

/-- An allowed call touches no destroyed object, and the counts stay balanced. -/
theorem step_balanced (hs : Balanced s) (hcall : Allowed s call) :
    ∃ s', step s call = some s' ∧ Balanced s' := by
  cases call with
  | imageCreate format width height stride source contextOk answer lockOk =>
      obtain ⟨r, hr, hcreates⟩ :=
        creates_imageCreate s.store format width height stride source contextOk answer lockOk
      exact ⟨_, congrArg (Option.map _) hr, hs.imageCreated hcreates⟩
  | imageCreateFromBuffer format width height stride buffer bufferSize cb context contextOk
      lockOk =>
      exact ⟨_, rfl, hs.imageCreated (creates_imageCreateFromBuffer s.store format width height
        stride buffer bufferSize cb context contextOk lockOk)⟩
  | imageIncRef image =>
      obtain ⟨o, ho, hacc⟩ := Accounts.imageIncRef hs hcall
      exact ⟨_, congrArg (Option.map _) ho, hacc⟩
  | imageDecRef image =>
      obtain ⟨o, ho, hacc⟩ := Accounts.imageDecRef hs hcall
      exact ⟨_, congrArg (Option.map _) ho, hacc⟩
  | captureCreate contextOk => exact ⟨_, rfl, Accounts.captureCreate hs contextOk⟩
  | captureIncRef capture =>
      obtain ⟨o, ho, hacc⟩ := Accounts.captureIncRef hs hcall
      exact ⟨_, congrArg (Option.map _) ho, hacc⟩
  | captureDecRef capture =>
      obtain ⟨o, ho, hacc⟩ := Accounts.captureDecRef hs hcall
      exact ⟨_, congrArg (Option.map _) ho, hacc⟩
  | captureGet k capture =>
      obtain ⟨o, i, ho, hi, -, hacc⟩ := Accounts.captureGetLocked hs hcall k
      have hget : getter s.store k capture = some (o, i) := by
        rw [getter_eq, captureGetImage, ho, Option.bind_some, hi]
        rfl
      exact ⟨_, congrArg (Option.map _) hget, hacc⟩
  | captureSet k capture image =>
      obtain ⟨o, ho, hacc⟩ := Accounts.captureSetImage hs hcall.1 k hcall.2
      have hset : setter s.store k capture image = some o := by
        rw [setter_eq]
        exact ho
      exact ⟨_, congrArg (Option.map _) hset, hacc⟩

theorem run_balanced {calls : List ObjectCall}
    (hallowed : Steps.Along step Allowed initial calls) :
    ∃ s, run initial calls = some s ∧ Balanced s :=
  Steps.run_total (fun _ _ hs hcall => step_balanced hs hcall) calls balanced_initial hallowed

end Clients

/-- Clients that pass and release only what they own never make the library touch a destroyed
object.  At every point the count of an image is the number of references to it, in the hands
of clients and in slots, and the count of a capture the number of the clients' references.
The free callback of an image has been called exactly if no reference is left, once, and with
what the image was created with.  `image_create_from_buffer` calls none. -/
theorem reference_counts_exact {calls : List ObjectCall}
    (hallowed : Steps.Along Clients.step Clients.Allowed .initial calls) :
    ∃ s, Clients.run .initial calls = some s ∧
      (∀ r ∈ s.created, ∀ context, s.store.image r.image = some context →
        context.refCount = s.imageRefs.count r.image + s.store.slotImages.count r.image) ∧
      (∀ c capture, s.store.capture c = some capture →
        capture.refCount = s.captureRefs.count c) ∧
      (∀ r ∈ s.created, s.store.callsFor r.image =
        if s.imageRefs.count r.image + s.store.slotImages.count r.image = 0 then r.freeCalls
        else []) ∧
      ∀ format width height stride buffer bufferSize cb context contextOk lockOk,
        (s.store.imageCreateFromBuffer format width height stride buffer bufferSize cb context
          contextOk lockOk).1.freeCalls = s.store.freeCalls := by
  obtain ⟨s, hrun, himages, hcaptures⟩ := Clients.run_balanced hallowed
  refine ⟨s, hrun, ?_, hcaptures.count, ?_, ?_⟩
  · intro r hr context hi
    rw [himages.count r hr context hi, Multiset.count_add]
    rfl
  · intro r hr
    rw [himages.calls r hr, ← Multiset.count_add]
    simp only [Multiset.count_eq_zero, ite_not]
  · intro format width height stride buffer bufferSize cb context contextOk lockOk
    exact ObjectStore.freeCalls_imageCreateFromBuffer s.store format width height stride buffer
      bufferSize cb context contextOk lockOk

/-- An image is stored in a capture, and its client releases it: the last reference is that of
the slot. -/
theorem reference_counts_exact_slot :
    ∃ s, Clients.run .initial [.imageCreateFromBuffer .custom8 1 1 1 (some 64) 1 (some (.user 0)) 7
        true true, .captureCreate true, .captureSet .color ⟨0⟩ (some ⟨0⟩), .imageDecRef ⟨0⟩,
        .captureDecRef ⟨0⟩] = some s ∧
      s.store.callsFor ⟨0⟩ = [⟨⟨0⟩, .user 0, some 64, 7⟩] := by
  have hone : (⟨0⟩ : ImageHandle) ∈ held (some (⟨0⟩ : ImageHandle)) + 0 := by decide
  have hcap : (⟨0⟩ : CaptureHandle) ∈ held (some (⟨0⟩ : CaptureHandle)) + 0 := by decide
  obtain ⟨s, hrun, -, -, hcalls, -⟩ := @reference_counts_exact
    [.imageCreateFromBuffer .custom8 1 1 1 (some 64) 1 (some (.user 0)) 7
      true true, .captureCreate true, .captureSet .color ⟨0⟩ (some ⟨0⟩), .imageDecRef ⟨0⟩,
      .captureDecRef ⟨0⟩]
    (.cons rfl trivial (.cons rfl trivial (.cons rfl ⟨hcap, fun i hi => Option.some.inj hi ▸ hone⟩
      (.cons rfl hone (.cons rfl hcap trivial)))))
  refine ⟨s, hrun, ?_⟩
  obtain rfl := Option.some.inj (Eq.trans hrun.symm rfl)
  exact hcalls ⟨⟨0⟩, some (.user 0), some 64, 7⟩ List.mem_cons_self

end ZsaSdk
