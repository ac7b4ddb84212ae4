import ZsaSdk.Image.References

/-!
# Objects handed to a callback

A camera reader creates an image and a capture, passes the capture to the callback it was
started with, and drops its own two references when the callback has returned.  In between,
the callback and everyone it passes the capture on to may use both objects and take references
of their own, and release those (`Borrows`).

Whatever they do, the two references of the reader are there when it drops them
(`release_spec`), and the free callback of the image is called once, when its last reference
is gone (`callsFor_later`).
-/

namespace ZsaSdk

open Ledger

/-- The arguments of `image_create_from_buffer`, with a free callback. -/
structure ImageArgs where
  format : ImageFormat
  widthPixels : Int32
  heightPixels : Int32
  strideBytes : Int32
  buffer : Option Nat
  size : UInt64
  cb : ImageDestroyCb
  context : Nat

/-- `image_create_from_buffer` gets past the checks of its arguments, and nothing fails. -/
def ImageArgs.accepted (a : ImageArgs) (contextOk lockOk : Bool) : Bool :=
  a.format.known && !(a.widthPixels ≤ 0 || a.widthPixels > 20000) &&
    !(a.heightPixels ≤ 0 || a.heightPixels > 20000) && a.buffer != none && a.size != 0 &&
    contextOk && lockOk

/-- What is recorded of the image. -/
def ImageArgs.record (a : ImageArgs) (h : ImageHandle) : ImageRecord :=
  ⟨h, some a.cb, a.buffer, a.context⟩

namespace Clients

variable {s s' : Clients} {call : ObjectCall} {image : Option ImageHandle}
  {capture : Option CaptureHandle}

/-- `if (image) image_dec_ref(image)` -/
def dropImage (s : Clients) : Option ImageHandle → Option Clients
  | none => some s
  | some h => s.step (.imageDecRef h)

/-- `if (capture) capture_dec_ref(capture)` -/
def dropCapture (s : Clients) : Option CaptureHandle → Option Clients
  | none => some s
  | some c => s.step (.captureDecRef c)

/-- What a reader does when the callback has returned. -/
def release (s : Clients) (image : Option ImageHandle) (capture : Option CaptureHandle) :
    Option Clients :=
  (s.dropImage image).bind fun s => s.dropCapture capture

/-- The call uses objects that are alive, and does not release the references to `image` and
`capture` that the reader holds. -/
def Borrows (image : Option ImageHandle) (capture : Option CaptureHandle) (s : Clients)
    (call : ObjectCall) : Prop :=
  Allowed s call ∧ (∀ h, call = .imageDecRef h → h ∈ s.imageRefs - held image) ∧
    ∀ c, call = .captureDecRef c → c ∈ s.captureRefs - held capture

/-- The objects are balanced, and the reader holds its references. -/
structure Lent (image : Option ImageHandle) (capture : Option CaptureHandle) (s : Clients) :
    Prop where
  balanced : Balanced s
  image : held image ≤ s.imageRefs
  capture : held capture ≤ s.captureRefs

/-! ## Creating what is handed over -/

/-- `allocator_alloc` of a buffer for the colour camera. -/
def allocate (s : Clients) (size : UInt64) (answer : Option (Nat × Nat)) : Clients × Option Nat :=
  let r := s.store.allocator.allocatorAlloc .color size answer
  ({ s with store := { s.store with allocator := r.1 } }, r.2)

/-- `allocator_free`.  Where the buffer is null, or its header damaged, what it does is not
defined, and the allocator is left as it is. -/
def freeBuffer (s : Clients) (buffer : Option Nat) : Clients :=
  { s with
    store := { s.store with
      allocator := (buffer.bind s.store.allocator.allocatorFree).getD s.store.allocator } }

def createImage (s : Clients) (a : ImageArgs) (contextOk lockOk : Bool) :
    Clients × Result × Option ImageHandle :=
  let r := s.store.imageCreateFromBuffer a.format a.widthPixels a.heightPixels a.strideBytes
    a.buffer a.size (some a.cb) a.context contextOk lockOk
  (s.imageReturned r a.record, r.2)

def createCapture (s : Clients) (contextOk : Bool) : Clients × Result × Option CaptureHandle :=
  let r := s.store.captureCreate contextOk
  ({ s with store := r.1, captureRefs := held r.2.2 + s.captureRefs }, r.2)

/-- The allocator plays no part in the balance. -/
theorem Balanced.withAllocator (hs : Balanced s) (allocator : Allocator) :
    Balanced { s with store := { s.store with allocator } } :=
  ⟨hs.images.congr rfl rfl, hs.captures.congr rfl⟩

theorem Balanced.allocate (hs : Balanced s) (size : UInt64) (answer : Option (Nat × Nat)) :
    Balanced (s.allocate size answer).1 := hs.withAllocator _

theorem Balanced.freeBuffer (hs : Balanced s) (buffer : Option Nat) :
    Balanced (s.freeBuffer buffer) := hs.withAllocator _

/-- A buffer is handed out precisely if the arguments are right and the callback answers. -/
theorem allocate_isSome_iff (s : Clients) (size : UInt64) (answer : Option (Nat × Nat)) :
    (∃ buffer, (s.allocate size answer).2 = some buffer) ↔
      asksCallback .color size = true ∧ answer ≠ none := by
  simp only [allocate]
  cases ha : asksCallback .color size with
  | false =>
      rw [Allocator.allocatorAlloc_of_not_asks _ _ ha]
      simp
  | true =>
      cases answer with
      | none =>
          rw [Allocator.allocatorAlloc_refused _ ha]
          simp
      | some block =>
          rw [Allocator.allocatorAlloc_answered _ block.1 block.2 ha]
          simp

theorem createImage_accepted {a : ImageArgs} {contextOk lockOk : Bool}
    (h : a.accepted contextOk lockOk = true) :
    s.createImage a contextOk lockOk =
      ({ s with
        store := s.store.pushImage ⟨1, true, a.buffer, a.size, a.format, a.widthPixels,
          a.heightPixels, a.strideBytes, some a.cb, a.context⟩
        imageRefs := {s.store.nextImage} + s.imageRefs
        created := s.created ++ [a.record s.store.nextImage] }, .succeeded,
        some s.store.nextImage) := by
  simp only [ImageArgs.accepted, Bool.and_eq_true, Bool.not_eq_true', bne_iff_ne] at h
  obtain ⟨⟨⟨⟨⟨⟨hknown, hwidth⟩, hheight⟩, hbuffer⟩, hsize⟩, rfl⟩, rfl⟩ := h
  simp only [createImage, ObjectStore.imageCreateFromBuffer]
  rw [if_neg (by rw [hknown]; exact Bool.noConfusion), hwidth, if_neg Bool.false_ne_true, hheight,
    if_neg Bool.false_ne_true, if_neg hbuffer, if_neg hsize, if_neg Bool.noConfusion,
    if_pos trivial]
  rfl

theorem createImage_rejected {a : ImageArgs} {contextOk lockOk : Bool}
    (h : a.accepted contextOk lockOk = false) :
    ∃ s', s.createImage a contextOk lockOk = (s', .failed, none) := by
  refine ⟨_, Prod.ext rfl ?_⟩
  simp only [createImage, ObjectStore.imageCreateFromBuffer]
  split
  · rfl
  next hknown =>
  split
  · rfl
  next hwidth =>
  split
  · rfl
  next hheight =>
  split
  · rfl
  next hbuffer =>
  split
  · rfl
  next hsize =>
  split
  · rfl
  next hcontext =>
  split
  · next hlock =>
    simp [ImageArgs.accepted, hknown, hwidth, hheight, hbuffer, hsize, hcontext, hlock] at h
  · rfl

/-- An image that is created belongs to the reader. -/
theorem createImage_lent {a : ImageArgs} {contextOk lockOk : Bool} {result : Result}
    (hs : Balanced s) (h : s.createImage a contextOk lockOk = (s', result, image)) :
    Balanced s' ∧ s'.imageRefs = held image + s.imageRefs ∧ s'.captureRefs = s.captureRefs ∧
      s'.created = s.created ++ image.toList.map a.record := by
  obtain ⟨rfl, hrest⟩ := Prod.mk.inj h
  obtain rfl : _ = image := congrArg Prod.snd hrest
  exact ⟨hs.imageCreated (ObjectStore.creates_imageCreateFromBuffer s.store a.format a.widthPixels
    a.heightPixels a.strideBytes a.buffer a.size (some a.cb) a.context contextOk lockOk),
    rfl, rfl, rfl⟩

theorem createCapture_failed (s : Clients) : s.createCapture false = (s, .failed, none) := by
  simp [createCapture, ObjectStore.captureCreate]

/-- A new capture gets an image of the reader.  Both belong to the reader. -/
theorem captureSet_new {h : ImageHandle} (hs : Balanced s) (hh : h ∈ s.imageRefs)
    (k : ImageType) :
    ∃ s', (s.createCapture true).1.step (.captureSet k ⟨s.store.captures.length⟩ (some h)) =
        some s' ∧ Balanced s' ∧ s'.imageRefs = s.imageRefs ∧
      s'.captureRefs = {⟨s.store.captures.length⟩} + s.captureRefs ∧ s'.created = s.created := by
  have hbalanced : Balanced (s.createCapture true).1 :=
    ObjectStore.Accounts.captureCreate hs true
  have hc : (⟨s.store.captures.length⟩ : CaptureHandle) ∈ (s.createCapture true).1.captureRefs :=
    Multiset.mem_add.mpr (Or.inl (Multiset.mem_singleton_self _))
  have hcall : Allowed (s.createCapture true).1
      (.captureSet k ⟨s.store.captures.length⟩ (some h)) :=
    ⟨hc, fun i hi => Option.some.inj hi ▸ hh⟩
  obtain ⟨s', hstep, hbalanced'⟩ := step_balanced hbalanced hcall
  refine ⟨s', hstep, hbalanced', ?_⟩
  obtain ⟨o, -, rfl⟩ := Option.map_eq_some_iff.mp hstep
  exact ⟨rfl, rfl, rfl⟩

/-- An image that is stored in a new capture has one more reference, and is the same
otherwise. -/
theorem image_of_captureSet {h : ImageHandle} {k : ImageType} {context : ObjectStore.ImageContext}
    (hi : s.store.image h = some context)
    (hset : (s.createCapture true).1.step
      (.captureSet k ⟨s.store.captures.length⟩ (some h)) = some s') :
    s'.store.image h = some { context with refCount := context.refCount + 1 } := by
  obtain ⟨o, ho, rfl⟩ := Option.map_eq_some_iff.mp hset
  rw [setter_eq, ObjectStore.captureSetImage] at ho
  have hcapture : (s.createCapture true).1.store.capture ⟨s.store.captures.length⟩ =
      some ⟨1, fun _ => none⟩ := Table.lookup_append_self _ _
  rw [hcapture, Option.bind_some] at ho
  obtain ⟨context', hi', rfl⟩ := Option.map_eq_some_iff.mp ho
  obtain rfl := Option.some.inj (hi.symm.trans hi')
  exact ObjectStore.image_setImage_self hi' _

/-! ## One call -/

/-- Releasing another reference leaves the one that is held. -/
theorem held_le_erase {α : Type} [DecidableEq α] {p : Option α} {m : Multiset α} {a : α}
    (hle : held p ≤ m) (ha : a ∈ m - held p) : held p ≤ m.erase a := by
  obtain ⟨n, rfl⟩ := Multiset.le_iff_exists_add.mp hle
  rw [add_tsub_cancel_left] at ha
  rw [Multiset.erase_add_right_pos _ ha]
  exact Multiset.le_add_right _ _

theorem imageReturned_refs (r : ObjectStore.Created ImageHandle)
    (record : ImageHandle → ImageRecord) :
    s.imageRefs ≤ (s.imageReturned r record).imageRefs ∧
      s.captureRefs ≤ (s.imageReturned r record).captureRefs ∧
      s.created ⊆ (s.imageReturned r record).created :=
  ⟨Multiset.le_add_left _ _, le_rfl, List.subset_append_left _ _⟩

/-- Except for the two that release something, a call leaves the references that there are,
and no call forgets an image. -/
theorem step_refs (h : step s call = some s') :
    ((∀ i, call ≠ .imageDecRef i) → s.imageRefs ≤ s'.imageRefs) ∧
      ((∀ c, call ≠ .captureDecRef c) → s.captureRefs ≤ s'.captureRefs) ∧
      s.created ⊆ s'.created := by
  cases call with
  | imageCreate format width height stride source contextOk answer lockOk =>
      obtain ⟨r, -, rfl⟩ := Option.map_eq_some_iff.mp h
      obtain ⟨himage, hcapture, hcreated⟩ := imageReturned_refs (s := s) r _
      exact ⟨fun _ => himage, fun _ => hcapture, hcreated⟩
  | imageCreateFromBuffer format width height stride buffer size cb context contextOk lockOk =>
      obtain rfl := Option.some.inj h
      obtain ⟨himage, hcapture, hcreated⟩ := imageReturned_refs (s := s)
        (s.store.imageCreateFromBuffer format width height stride buffer size cb context contextOk
          lockOk) _
      exact ⟨fun _ => himage, fun _ => hcapture, hcreated⟩
  | imageIncRef i =>
      obtain ⟨o, -, rfl⟩ := Option.map_eq_some_iff.mp h
      exact ⟨fun _ => Multiset.le_cons_self _ _, fun _ => le_rfl, List.Subset.refl _⟩
  | imageDecRef i =>
      obtain ⟨o, -, rfl⟩ := Option.map_eq_some_iff.mp h
      exact ⟨fun hne => absurd rfl (hne i), fun _ => le_rfl, List.Subset.refl _⟩
  | captureCreate contextOk =>
      obtain rfl := Option.some.inj h
      exact ⟨fun _ => le_rfl, fun _ => Multiset.le_add_left _ _, List.Subset.refl _⟩
  | captureIncRef c =>
      obtain ⟨o, -, rfl⟩ := Option.map_eq_some_iff.mp h
      exact ⟨fun _ => le_rfl, fun _ => Multiset.le_cons_self _ _, List.Subset.refl _⟩
  | captureDecRef c =>
      obtain ⟨o, -, rfl⟩ := Option.map_eq_some_iff.mp h
      exact ⟨fun _ => le_rfl, fun hne => absurd rfl (hne c), List.Subset.refl _⟩
  | captureGet k c =>
      obtain ⟨r, -, rfl⟩ := Option.map_eq_some_iff.mp h
      exact ⟨fun _ => Multiset.le_add_left _ _, fun _ => le_rfl, List.Subset.refl _⟩
  | captureSet k c i =>
      obtain ⟨o, -, rfl⟩ := Option.map_eq_some_iff.mp h
      exact ⟨fun _ => le_rfl, fun _ => le_rfl, List.Subset.refl _⟩

/-- A call by a borrower. -/
theorem Lent.step (hs : Lent image capture s) (hcall : Borrows image capture s call) :
    ∃ s', Clients.step s call = some s' ∧ Lent image capture s' := by
  obtain ⟨s', hstep, hbalanced⟩ := step_balanced hs.balanced hcall.1
  obtain ⟨himage, hcapture, -⟩ := step_refs hstep
  refine ⟨s', hstep, hbalanced, ?_, ?_⟩
  · by_cases hdrop : ∀ i, call ≠ .imageDecRef i
    · exact hs.image.trans (himage hdrop)
    · obtain ⟨i, hi⟩ := not_forall_not.mp hdrop
      have hmem := hcall.2.1 i hi
      subst hi
      obtain ⟨o, -, rfl⟩ := Option.map_eq_some_iff.mp hstep
      exact held_le_erase hs.image hmem
  · by_cases hdrop : ∀ c, call ≠ .captureDecRef c
    · exact hs.capture.trans (hcapture hdrop)
    · obtain ⟨c, hc⟩ := not_forall_not.mp hdrop
      have hmem := hcall.2.2 c hc
      subst hc
      obtain ⟨o, -, rfl⟩ := Option.map_eq_some_iff.mp hstep
      exact held_le_erase hs.capture hmem

/-! ## Runs -/

theorem created_subset_run (calls : List ObjectCall) : ∀ {s s' : Clients},
    run s calls = some s' → s.created ⊆ s'.created := by
  induction calls with
  | nil =>
      intro s s' h
      cases h
      exact List.Subset.refl _
  | cons call calls ih =>
      intro s s' h
      obtain ⟨v, hv, hrun⟩ := Steps.run_cons h
      exact List.Subset.trans (step_refs hv).2.2 (ih hrun)

/-- Dropping the reader's reference to its image. -/
theorem dropImage_spec (hs : Balanced s) (hle : held image ≤ s.imageRefs) :
    ∃ s', s.dropImage image = some s' ∧ Balanced s' ∧ s.imageRefs = held image + s'.imageRefs ∧
      s'.captureRefs = s.captureRefs ∧ s.created ⊆ s'.created := by
  cases image with
  | none => exact ⟨s, rfl, hs, (zero_add _).symm, rfl, List.Subset.refl _⟩
  | some h =>
      have hmem : h ∈ s.imageRefs := Multiset.singleton_le.mp hle
      have hcall : Allowed s (.imageDecRef h) := hmem
      obtain ⟨s', hstep, hbalanced⟩ := step_balanced hs hcall
      refine ⟨s', hstep, hbalanced, ?_⟩
      obtain ⟨o, -, rfl⟩ := Option.map_eq_some_iff.mp hstep
      exact ⟨(Multiset.cons_erase hmem).symm, rfl, List.Subset.refl _⟩

/-- Dropping the reader's reference to its capture. -/
theorem dropCapture_spec (hs : Balanced s) (hle : held capture ≤ s.captureRefs) :
    ∃ s', s.dropCapture capture = some s' ∧ Balanced s' ∧ s'.imageRefs = s.imageRefs ∧
      s.captureRefs = held capture + s'.captureRefs ∧ s.created ⊆ s'.created := by
  cases capture with
  | none => exact ⟨s, rfl, hs, rfl, (zero_add _).symm, List.Subset.refl _⟩
  | some c =>
      have hmem : c ∈ s.captureRefs := Multiset.singleton_le.mp hle
      have hcall : Allowed s (.captureDecRef c) := hmem
      obtain ⟨s', hstep, hbalanced⟩ := step_balanced hs hcall
      refine ⟨s', hstep, hbalanced, ?_⟩
      obtain ⟨o, -, rfl⟩ := Option.map_eq_some_iff.mp hstep
      exact ⟨rfl, (Multiset.cons_erase hmem).symm, List.Subset.refl _⟩

/-- The callback returns, and the reader drops its two references, each once. -/
theorem release_spec {consumer : List ObjectCall} (hs : Lent image capture s)
    (hconsumer : Steps.Along Clients.step (Borrows image capture) s consumer) :
    ∃ returned final, run s consumer = some returned ∧
      returned.release image capture = some final ∧ Balanced final ∧
      returned.imageRefs = held image + final.imageRefs ∧
      returned.captureRefs = held capture + final.captureRefs ∧ s.created ⊆ final.created := by
  obtain ⟨t, hrun, hlent⟩ := Steps.run_total (fun _ _ hs hcall => hs.step hcall) consumer hs
    hconsumer
  obtain ⟨t₁, h₁, hbalanced₁, himage, hcapture₁, hcreated₁⟩ :=
    dropImage_spec hlent.balanced hlent.image
  have hle : held capture ≤ t₁.captureRefs := by
    rw [hcapture₁]
    exact hlent.capture
  obtain ⟨t₂, h₂, hbalanced₂, himage₂, hcapture, hcreated₂⟩ := dropCapture_spec hbalanced₁ hle
  refine ⟨t, t₂, hrun, ?_, hbalanced₂, ?_, ?_, ?_⟩
  · rw [release, h₁, Option.bind_some, h₂]
  · rw [himage, himage₂]
  · rw [← hcapture₁, hcapture]
  · exact List.Subset.trans (created_subset_run consumer hrun)
      (List.Subset.trans hcreated₁ hcreated₂)

/-! ## What an image owns

A reader that has given a buffer, or anything else, to an image leaves it to the free callback
to give it back. -/

section GivenBack

variable {α : Type}

/-- What has been given back: by the reader itself, and by the free callback of the image that
it was given to.  `f` is what a call of a free callback gives back. -/
def givenBack (direct : List α) (image : Option ImageHandle)
    (f : ObjectStore.FreeCall → Option α) (t : Clients) : List α :=
  direct ++ image.toList.flatMap fun h => (t.store.callsFor h).filterMap f

/-- There are references to the image. -/
def referenced (image : Option ImageHandle) (t : Clients) : Bool :=
  image.any fun h => h ∈ t.imageRefs + t.store.slotImages

/-- Whatever the clients do from now on, the things of the list have been given back, once, as
soon as there is no reference to the image, and not before. -/
def GivenBackOnce (direct : List α) (image : Option ImageHandle)
    (f : ObjectStore.FreeCall → Option α) (owed : List α) (s : Clients) : Prop :=
  ∀ later, Steps.Along step Allowed s later → ∃ t, s.run later = some t ∧
    givenBack direct image f t = if referenced image t then [] else owed

/-- Without an image, the reader has to give everything back itself. -/
theorem givenBackOnce_none {direct owed : List α} {f : ObjectStore.FreeCall → Option α}
    (hs : Balanced s) : GivenBackOnce direct none f owed s ↔ direct = owed := by
  have hback : ∀ t, givenBack direct none f t = direct := fun t => List.append_nil _
  constructor
  · intro h
    obtain ⟨t, -, heq⟩ := h [] trivial
    exact (hback t).symm.trans heq
  · intro heq later hlater
    obtain ⟨t, hrun, -⟩ :=
      Steps.run_total (fun _ _ hs hcall => step_balanced hs hcall) later hs hlater
    exact ⟨t, hrun, (hback t).trans heq⟩

/-- Whatever the clients do from here on, the free callback of an image is called once, when no
reference to it is left. -/
theorem callsFor_later {r : ImageRecord} {later : List ObjectCall} (hs : Balanced s)
    (hr : r ∈ s.created) (hlater : Steps.Along Clients.step Allowed s later) :
    ∃ t, run s later = some t ∧ t.store.callsFor r.image =
      if r.image ∈ t.imageRefs + t.store.slotImages then [] else r.freeCalls := by
  obtain ⟨t, hrun, hbalanced⟩ :=
    Steps.run_total (fun _ _ hs hcall => step_balanced hs hcall) later hs hlater
  exact ⟨t, hrun, hbalanced.images.calls r (created_subset_run later hrun hr)⟩

/-- With an image, it is enough that its free callback gives everything back. -/
theorem givenBackOnce_some {r : ImageRecord} {owed : List α}
    {f : ObjectStore.FreeCall → Option α} (hs : Balanced s) (hr : r ∈ s.created)
    (hf : r.freeCalls.filterMap f = owed) : GivenBackOnce [] (some r.image) f owed s := by
  intro later hlater
  obtain ⟨t, hrun, hcalls⟩ := callsFor_later hs hr hlater
  refine ⟨t, hrun, ?_⟩
  simp only [givenBack, referenced, Option.toList_some, List.flatMap_cons, List.flatMap_nil,
    List.append_nil, List.nil_append, Option.any_some, hcalls, decide_eq_true_eq]
  split
  · rfl
  · exact hf

end GivenBack

end Clients

end ZsaSdk
