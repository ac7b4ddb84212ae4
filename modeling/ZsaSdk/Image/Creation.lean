import ZsaSdk.Image.Sizes

/-!
# Images whose creation fails

`image_create` and `image_create_empty_internal` leave it to `image_dec_ref` to clean up after a
failure.  It destroys an image when its count goes from 1 to 0, and the count is 1 from the
moment on when there is a buffer.  A failure of the lock comes after that moment, a missing
buffer before it: then the count goes from 0 to -1, and the context is lost.
-/

namespace ZsaSdk

namespace ObjectStore

/-- `image_create_empty_internal` -/
def imageCreateEmptyInternal (o : ObjectStore) (source : AllocationSource) (size : UInt64)
    (contextOk : Bool) (answer : Option (Nat × Nat)) (lockOk : Bool) :
    Option (Created ImageHandle) :=
  if source = .user then some (o, .failed, none)
  else if size = 0 then some (o, .failed, none)
  else o.imageCreateEmptyImage source size contextOk answer lockOk

/-! ## What a creation leaves behind -/

/-- The call has answered with the block at an address. -/
def takesBlock (b : Nat) : CallbackCall → Bool
  | .allocate _ _ (some block) => block.1 == b
  | _ => false

/-- The call gives the block at an address back. -/
def freesBlock (b : Nat) : CallbackCall → Bool
  | .free _ buffer _ => buffer == b
  | _ => false

/-- Between two states no image has been added, every block that was allocated has been freed as
often, and the counters of the allocator are the same. -/
structure LeavesNothing (o o' : ObjectStore) : Prop where
  contexts : ∀ h, o'.image h = o.image h
  counters : o'.allocator.allocatedImageCount = o.allocator.allocatedImageCount
  buffers : ∃ calls, o'.allocator.calls = o.allocator.calls ++ calls ∧
    ∀ b, calls.countP (takesBlock b) = calls.countP (freesBlock b)

/-- A new image has been added, with one reference and the one buffer that was allocated. -/
structure AddsImage (o o' : ObjectStore) (h : ImageHandle) : Prop where
  fresh : o.image h = none
  image : ∃ context block size, o'.image h = some context ∧ context.refCount = 1 ∧
    context.buffer = some (block.1 + allocationContextSize) ∧
    o'.allocator.calls = o.allocator.calls ++ [.allocate o.allocator.alloc size (some block)]

/-- A creation is all or nothing. -/
def CleanCreation (o : ObjectStore) : Created ImageHandle → Prop
  | (o', .failed, handle) => handle = none ∧ LeavesNothing o o'
  | (o', .succeeded, handle) => ∃ h, handle = some h ∧ AddsImage o o' h

/-- The context is there, and the allocator gives no buffer for it. -/
def NoBuffer (source : AllocationSource) (size : UInt64) (contextOk : Bool)
    (answer : Option (Nat × Nat)) : Prop :=
  contextOk = true ∧ source.counted = true ∧ size ≠ 0 ∧
    (requiredBytes size > 2147483647 ∨ answer = none)

theorem LeavesNothing.refl (o : ObjectStore) : LeavesNothing o o :=
  ⟨fun _ => rfl, rfl, [], (List.append_nil _).symm, fun _ => rfl⟩

/-! ## The endings -/

section Endings

variable {o : ObjectStore} {source : AllocationSource} {size : UInt64} {contextOk lockOk : Bool}
  {answer : Option (Nat × Nat)}

/-- The ways in which `image_create_empty_image` ends. -/
inductive EmptyImageEnd (o : ObjectStore) (source : AllocationSource) (size : UInt64)
    (contextOk : Bool) (answer : Option (Nat × Nat)) : Created ImageHandle → Prop where
  /-- It fails and everything is undone. -/
  | undone {o' : ObjectStore} : ¬ NoBuffer source size contextOk answer → LeavesNothing o o' →
      EmptyImageEnd o source size contextOk answer (o', .failed, none)
  /-- It fails and the context stays. -/
  | lost {o' : ObjectStore} : NoBuffer source size contextOk answer →
      o'.image o.nextImage = some { ImageContext.zero with refCount := -1 } →
      EmptyImageEnd o source size contextOk answer (o', .failed, none)
  | created {buffer : Nat} : ¬ NoBuffer source size contextOk answer →
      (o.allocator.allocatorAlloc source size answer).2 = some buffer →
      EmptyImageEnd o source size contextOk answer
        ({ o with
          images := o.images ++ [some (emptyContext buffer size)]
          allocator := (o.allocator.allocatorAlloc source size answer).1 }, .succeeded,
          some o.nextImage)

/-- A block that is freed right after it was allocated. -/
theorem allocatorFree_allocated (g : Allocator) (fullBuffer userContext : Nat)
    (ha : asksCallback source size = true) :
    ∃ g', ((g.allocatorAlloc source size (some (fullBuffer, userContext))).1).allocatorFree
        (fullBuffer + allocationContextSize) = some g' ∧
      g'.allocatedImageCount = g.allocatedImageCount ∧
      ∃ n c, g'.calls = g.calls ++
        [.allocate g.alloc n (some (fullBuffer, c)), .free g.free fullBuffer c] := by
  rw [g.allocatorAlloc_answered fullBuffer userContext ha]
  have hfree := Allocator.allocatorFree_header
    { g.addCount source 1 with
      memory := writeHeader g.memory fullBuffer ⟨source, g.free, g.contextOf userContext⟩
      calls := g.calls ++ [.allocate g.alloc (requiredBytes size).toNat
        (some (fullBuffer, g.contextOf userContext))] }
    (writeHeader_self _ _ _) (counted_of_asks ha)
  refine ⟨_, hfree, ?_, _, _, List.append_assoc _ _ _⟩
  funext s
  simp only [Allocator.addCount]
  split
  · omega
  · rfl

/-- A context with a buffer just allocated, when its only reference is dropped. -/
theorem imageDecRef_pushed {o₁ : ObjectStore} {context : ImageContext}
    {fullBuffer userContext : Nat} (ha : asksCallback source size = true)
    (himages : o₁.images = o.images ++ [some context])
    (hallocator : o₁.allocator =
      (o.allocator.allocatorAlloc source size (some (fullBuffer, userContext))).1)
    (hcount : context.refCount = 1) (hcb : context.memoryFreeCb = some .imageDefaultFreeFunction)
    (hbuffer : context.buffer = some (fullBuffer + allocationContextSize)) :
    ∃ o', o₁.imageDecRef o.nextImage = some o' ∧ LeavesNothing o o' := by
  obtain ⟨allocator, hfree, hcounters, n, c, hcalls⟩ :=
    allocatorFree_allocated o.allocator fullBuffer userContext ha
  rw [← hallocator] at hfree
  have hfreed : (o₁.callMemoryFreeCb o.nextImage context).images = o.images ++ [some context] ∧
      (o₁.callMemoryFreeCb o.nextImage context).allocator = allocator := by
    simp only [callMemoryFreeCb, hcb, hbuffer, hfree, Option.getD_some]
    exact ⟨himages, trivial⟩
  refine ⟨_, by rw [imageDecRef, image_pushed himages, Option.map_some], ?_⟩
  simp only [hcount, Int.sub_self, if_true]
  rw [setImage_pushed hfreed.1]
  refine ⟨fun h => Table.lookup_append_none _ _, ?_, _,
    (congrArg Allocator.calls hfreed.2).trans hcalls, fun b => ?_⟩
  · exact (congrArg Allocator.allocatedImageCount hfreed.2).trans hcounters
  · simp only [List.countP_cons, List.countP_nil, takesBlock, freesBlock]
    rfl

/-- Without a buffer the count of the context goes from 0 to -1. -/
theorem imageCreateEmptyImage_lost (hcounted : source.counted = true) (hsize : size ≠ 0)
    (hb : (o.allocator.allocatorAlloc source size answer).2 = none) (lockOk : Bool) :
    ∃ o', o.imageCreateEmptyImage source size true answer lockOk = some (o', .failed, none) ∧
      o'.image o.nextImage = some { ImageContext.zero with refCount := -1 } := by
  have hs : ¬ source.counted = false := by simp [hcounted]
  cases hr : o.allocator.allocatorAlloc source size answer with
  | mk allocator buffer =>
      obtain rfl : buffer = none := (congrArg Prod.snd hr).symm.trans hb
      rw [imageCreateEmptyImage, if_neg hsize, if_neg hs, if_neg Bool.noConfusion]
      simp only [pushImage, hr, imageDecRef]
      rw [image_pushed (o := o) rfl]
      refine ⟨_, rfl, ?_⟩
      beta_reduce
      rw [if_neg (by decide), setImage_pushed (o := o) rfl]
      exact image_pushed (o := o) rfl

/-- Without a lock the buffer and the context are given back. -/
theorem imageCreateEmptyImage_undone {fullBuffer userContext : Nat}
    (ha : asksCallback source size = true) :
    ∃ o', o.imageCreateEmptyImage source size true (some (fullBuffer, userContext)) false =
        some (o', .failed, none) ∧ LeavesNothing o o' := by
  have hb := congrArg Prod.snd (o.allocator.allocatorAlloc_answered fullBuffer userContext ha)
  have hs : ¬ source.counted = false := by simp [counted_of_asks ha]
  have hsize : size ≠ 0 := by
    simp only [asksCallback, Bool.and_eq_true, bne_iff_ne] at ha
    exact ha.1.2
  have hdec : ∀ o₁ : ObjectStore, o₁.images = o.images ++ [some { emptyContext
      (fullBuffer + allocationContextSize) size with lock := false }] → o₁.allocator =
        (o.allocator.allocatorAlloc source size (some (fullBuffer, userContext))).1 →
      ∃ o', o₁.imageDecRef o.nextImage = some o' ∧ LeavesNothing o o' :=
    fun _ himages hallocator => imageDecRef_pushed ha himages hallocator rfl rfl rfl
  cases hr : o.allocator.allocatorAlloc source size (some (fullBuffer, userContext)) with
  | mk allocator buffer =>
      rw [hr] at hb hdec
      obtain rfl : buffer = some (fullBuffer + allocationContextSize) := hb
      rw [imageCreateEmptyImage, if_neg hsize, if_neg hs, if_neg Bool.noConfusion]
      simp only [pushImage, hr]
      rw [setImage_pushed (o := o) rfl, if_neg Bool.noConfusion]
      obtain ⟨o', ho', hnothing⟩ := hdec { o with
        images := o.images ++ [some { emptyContext (fullBuffer + allocationContextSize) size with
          lock := false }]
        allocator := allocator } rfl rfl
      exact ⟨o', congrArg _ ho', hnothing⟩

theorem imageCreateEmptyImage_ends (o : ObjectStore) (source : AllocationSource) (size : UInt64)
    (contextOk : Bool) (answer : Option (Nat × Nat)) (lockOk : Bool) :
    ∃ r, o.imageCreateEmptyImage source size contextOk answer lockOk = some r ∧
      EmptyImageEnd o source size contextOk answer r := by
  by_cases hreached : contextOk = true ∧ source.counted = true ∧ size ≠ 0
  · obtain ⟨rfl, hcounted, hsize⟩ := hreached
    -- No buffer, because it would be too large or because the callback has none.
    have hlost : NoBuffer source size true answer →
        (o.allocator.allocatorAlloc source size answer).2 = none →
        ∃ r, o.imageCreateEmptyImage source size true answer lockOk = some r ∧
          EmptyImageEnd o source size true answer r := by
      intro hno hb
      obtain ⟨o', ho', himage⟩ := imageCreateEmptyImage_lost hcounted hsize hb lockOk
      exact ⟨_, ho', .lost hno himage⟩
    cases ha : asksCallback source size with
    | false =>
        have hlarge : requiredBytes size > 2147483647 := by
          simpa [asksCallback, hcounted, hsize] using ha
        refine hlost ⟨rfl, hcounted, hsize, .inl hlarge⟩ ?_
        rw [o.allocator.allocatorAlloc_of_not_asks answer ha]
    | true =>
        have hfits : ¬ requiredBytes size > 2147483647 := by
          simpa [asksCallback, hcounted, hsize] using ha
        cases answer with
        | none =>
            refine hlost ⟨rfl, hcounted, hsize, .inr rfl⟩ ?_
            rw [o.allocator.allocatorAlloc_refused ha]
        | some block =>
            have hbuffer : ¬ NoBuffer source size true (some block) := by
              rintro ⟨-, -, -, hlarge | hnone⟩
              · exact hfits hlarge
              · cases hnone
            cases lockOk with
            | true =>
                have hb := congrArg Prod.snd
                  (o.allocator.allocatorAlloc_answered block.1 block.2 ha)
                exact ⟨_, imageCreateEmptyImage_of_buffer hb, .created hbuffer hb⟩
            | false =>
                obtain ⟨o', ho', hnothing⟩ := imageCreateEmptyImage_undone ha
                exact ⟨_, ho', .undone hbuffer hnothing⟩
  · refine ⟨(o, .failed, none), ?_, .undone (fun hno => hreached ⟨hno.1, hno.2.1, hno.2.2.1⟩)
      (.refl o)⟩
    simp only [imageCreateEmptyImage]
    split
    · rfl
    · next hsize =>
      split
      · rfl
      · next hcounted =>
        split
        · rfl
        · next hcontext =>
          exact absurd ⟨by simpa using hcontext, by simpa using hcounted, hsize⟩ hreached

end Endings

/-! ## All or nothing -/

section Clean

variable {o : ObjectStore} {source : AllocationSource} {size : UInt64} {contextOk lockOk : Bool}
  {answer : Option (Nat × Nat)}

/-- A context that stays with no buffer is left behind. -/
theorem not_clean_of_lost {o' : ObjectStore} (context : ImageContext)
    (h : o'.image o.nextImage = some context) : ¬ CleanCreation o (o', .failed, none) := by
  rintro ⟨-, hnothing⟩
  have hcontexts := hnothing.contexts o.nextImage
  rw [h, image, nextImage, Table.lookup_length] at hcontexts
  cases hcontexts

/-- An image that is made of a buffer just allocated is a new one. -/
theorem addsImage_of_buffer {buffer : Nat} {o' : ObjectStore} {context : ImageContext}
    (hb : (o.allocator.allocatorAlloc source size answer).2 = some buffer)
    (himages : o'.images = o.images ++ [some context])
    (hallocator : o'.allocator = (o.allocator.allocatorAlloc source size answer).1)
    (hcount : context.refCount = 1) (hbuffer : context.buffer = some buffer) :
    AddsImage o o' o.nextImage := by
  refine ⟨Table.lookup_length _, context, ?_⟩
  cases ha : asksCallback source size with
  | false =>
      rw [o.allocator.allocatorAlloc_of_not_asks answer ha] at hb
      cases hb
  | true =>
      cases answer with
      | none =>
          rw [o.allocator.allocatorAlloc_refused ha] at hb
          cases hb
      | some block =>
          have halloc := o.allocator.allocatorAlloc_answered block.1 block.2 ha
          rw [halloc] at hb hallocator
          obtain rfl := Option.some.inj hb
          exact ⟨(block.1, o.allocator.contextOf block.2), _, image_pushed himages, hcount, hbuffer,
            by rw [hallocator]⟩

/-- The creation of an empty image is all or nothing unless a buffer is missing. -/
theorem EmptyImageEnd.clean_iff {r : Created ImageHandle}
    (h : EmptyImageEnd o source size contextOk answer r) :
    CleanCreation o r ↔ ¬ NoBuffer source size contextOk answer := by
  cases h with
  | undone hbuffer hnothing => exact ⟨fun _ => hbuffer, fun _ => ⟨rfl, hnothing⟩⟩
  | lost hno himage => exact ⟨fun hclean => absurd hclean (not_clean_of_lost _ himage),
      fun h => absurd hno h⟩
  | created hbuffer hb =>
      exact ⟨fun _ => hbuffer, fun _ => ⟨_, rfl, addsImage_of_buffer hb rfl rfl rfl rfl⟩⟩

/-- Storing the properties of an image changes nothing of that. -/
theorem EmptyImageEnd.describe_clean_iff {r : Created ImageHandle} (format : ImageFormat)
    (width height stride : Int32) (h : EmptyImageEnd o source size contextOk answer r) :
    ∃ r', describeImage format width height stride r = some r' ∧
      (CleanCreation o r' ↔ ¬ NoBuffer source size contextOk answer) := by
  cases h with
  | undone hbuffer hnothing =>
      exact ⟨_, rfl, (undone hbuffer hnothing).clean_iff⟩
  | lost hno himage => exact ⟨_, rfl, (lost hno himage).clean_iff⟩
  | created hbuffer hb =>
      simp only [describeImage]
      rw [image_pushed (o := o) rfl, Option.map_some, setImage_pushed (o := o) rfl]
      exact ⟨_, rfl, fun _ => hbuffer, fun _ => ⟨_, rfl, addsImage_of_buffer hb rfl rfl rfl rfl⟩⟩

end Clean

end ObjectStore

open ObjectStore (CleanCreation NoBuffer acceptedSize)

/-- Both functions that create an image are all or nothing, for arguments that pass their
checks, if and only if it does not happen that the context is allocated and the buffer is not. -/
theorem image_creation_clean_iff (o : ObjectStore) (source : AllocationSource) (size : UInt64)
    (format : ImageFormat) (width height stride : Int32) (contextOk : Bool)
    (answer : Option (Nat × Nat)) (lockOk : Bool) :
    (source ≠ .user → source.counted = true → size ≠ 0 →
      ∃ r, o.imageCreateEmptyInternal source size contextOk answer lockOk = some r ∧
        (CleanCreation o r ↔ ¬ NoBuffer source size contextOk answer)) ∧
    (format.known = true → 0 < width.toInt ∧ width.toInt < 20000 →
      0 < height.toInt ∧ height.toInt < 20000 →
      ∃ r, o.imageCreate format width height stride source contextOk answer lockOk = some r ∧
        (CleanCreation o r ↔ ∀ size, acceptedSize format width height stride = some size →
          ¬ NoBuffer source size contextOk answer)) := by
  constructor
  · intro huser _ hsize
    obtain ⟨r, hr, hend⟩ := o.imageCreateEmptyImage_ends source size contextOk answer lockOk
    refine ⟨r, ?_, hend.clean_iff⟩
    rw [ObjectStore.imageCreateEmptyInternal, if_neg huser, if_neg hsize, hr]
  · intro _ _ _
    cases hsize : acceptedSize format width height stride with
    | none =>
        exact ⟨_, ObjectStore.imageCreate_not_accepted hsize, fun _ => nofun,
          fun _ => ⟨rfl, .refl o⟩⟩
    | some n =>
        obtain ⟨r, hr, hend⟩ := o.imageCreateEmptyImage_ends source n contextOk answer lockOk
        obtain ⟨r', hr', hclean⟩ := hend.describe_clean_iff format width height stride
        refine ⟨r', ?_, hclean.trans ⟨fun h size heq => ?_, fun h => h n rfl⟩⟩
        · rw [ObjectStore.imageCreate_accepted hsize, hr]
          exact hr'
        · obtain rfl := Option.some.inj heq
          exact h

/-- A lock that cannot be had leaves nothing behind. -/
theorem image_creation_clean_without_lock :
    ∃ r r', ObjectStore.empty.imageCreateEmptyInternal .usbDepth 64 true (some (1000, 0)) false =
        some r ∧
      CleanCreation .empty r ∧
      ObjectStore.empty.imageCreate .depth16 4 2 8 .user true (some (1000, 0)) false = some r' ∧
      CleanCreation .empty r' := by
  have hbuffer : ∀ {source size}, requiredBytes size ≤ 2147483647 →
      ¬ NoBuffer source size true (some (1000, 0)) := by
    rintro source size hle ⟨-, -, -, hlarge | hnone⟩
    · exact absurd hlarge (UInt64.not_lt.mpr hle)
    · cases hnone
  have h := image_creation_clean_iff .empty .usbDepth 64 .depth16 4 2 8 true (some (1000, 0)) false
  have h' := image_creation_clean_iff .empty .user 64 .depth16 4 2 8 true (some (1000, 0)) false
  obtain ⟨r, hr, hclean⟩ := h.1 nofun rfl (by decide)
  obtain ⟨r', hr', hclean'⟩ := h'.2 rfl (by decide) (by decide)
  refine ⟨r, r', hr, hclean.mpr (hbuffer (by decide)), hr', hclean'.mpr ?_⟩
  intro size hsize
  obtain rfl : 16 = size := Option.some.inj hsize
  exact hbuffer (by decide)

/-- The callback has no memory.  The call fails, the context of the image stays, and so does the
increment of the counter. -/
theorem missing_buffer_leaves_context :
    ∃ r, ObjectStore.empty.imageCreateEmptyInternal .usbDepth 64 true none true = some r ∧
      r.2.1 = .failed ∧ r.1.allocator.allocatedImageCount .usbDepth = 1 ∧
      ¬ CleanCreation .empty r := by
  refine ⟨_, rfl, rfl, rfl, ?_⟩
  exact ObjectStore.not_clean_of_lost { ObjectStore.ImageContext.zero with refCount := -1 }
    rfl

end ZsaSdk
