import ZsaSdk.Lib.SharedHandles
import ZsaSdk.Lib.Steps
import ZsaSdk.Image.References

/-!
# The classes for images and captures

`image` and `capture` of `zsa.hpp`: each object holds a handle, or none, and owns a reference to
it.  A program creates objects, copies, moves, resets and destroys them, and calls their member
functions.

*The public functions.*  Those that the classes call are not defined in the repository.  They are
the fields of `CApi`, and `CApi.Laws` says of each what `zsatypes.h` promises: who owns which
reference before the call and after it, and that it works if its caller owns what it passes.

*Exceptions.*  A member function that throws has made its call and has changed no object.  What the
program does then, the destruction of its local objects above all, is part of the program.
-/

namespace ZsaSdk

open Ledger (held)
open SharedHandles (Objects Operation references)

/-- The functions that the classes call, for a library in a state of type `σ`.  `ι` stands for the
arguments that are not handles, and for what is not decided by the arguments. -/
structure CApi (σ ι : Type) where
  /-- `zsa_image_create` and `zsa_image_create_from_buffer`, with the handle if they succeed. -/
  imageCreate : σ → ι → Option (σ × Option ImageHandle)
  imageReference : σ → ImageHandle → Option σ
  imageRelease : σ → ImageHandle → Option σ
  captureCreate : σ → ι → Option (σ × Option CaptureHandle)
  captureReference : σ → CaptureHandle → Option σ
  captureRelease : σ → CaptureHandle → Option σ
  /-- The getters of the three images; handles may be null. -/
  captureGetImage : σ → ImageType → Option CaptureHandle → Option (σ × Option ImageHandle)
  captureSetImage : σ → ImageType → Option CaptureHandle → Option ImageHandle → Option σ
  /-- `zsa_device_get_capture`, with the handle unless it fails or times out. -/
  deviceGetCapture : σ → ι → Option (σ × Option CaptureHandle)

/-- The ownership rules of `zsatypes.h`, where `Owned s m n` says that the caller owns the
references `m` to images and `n` to captures. -/
structure CApi.Laws {σ ι : Type} (api : CApi σ ι)
    (Owned : σ → Multiset ImageHandle → Multiset CaptureHandle → Prop) : Prop where
  imageCreate : ∀ {s m n} x, Owned s m n →
    ∃ s' h, api.imageCreate s x = some (s', h) ∧ Owned s' (held h + m) n
  imageReference : ∀ {s m n h}, Owned s m n → h ∈ m →
    ∃ s', api.imageReference s h = some s' ∧ Owned s' (h ::ₘ m) n
  imageRelease : ∀ {s m n h}, Owned s m n → h ∈ m →
    ∃ s', api.imageRelease s h = some s' ∧ Owned s' (m.erase h) n
  captureCreate : ∀ {s m n} x, Owned s m n →
    ∃ s' c, api.captureCreate s x = some (s', c) ∧ Owned s' m (held c + n)
  captureReference : ∀ {s m n c}, Owned s m n → c ∈ n →
    ∃ s', api.captureReference s c = some s' ∧ Owned s' m (c ::ₘ n)
  captureRelease : ∀ {s m n c}, Owned s m n → c ∈ n →
    ∃ s', api.captureRelease s c = some s' ∧ Owned s' m (n.erase c)
  captureGetImage : ∀ {s m n} k c, Owned s m n → (∀ x, c = some x → x ∈ n) →
    ∃ s' h, api.captureGetImage s k c = some (s', h) ∧ Owned s' (held h + m) n
  captureSetImage : ∀ {s m n} k c h, Owned s m n → (∀ x, c = some x → x ∈ n) →
    (∀ x, h = some x → x ∈ m) → ∃ s', api.captureSetImage s k c h = some s' ∧ Owned s' m n
  deviceGetCapture : ∀ {s m n} x, Owned s m n →
    ∃ s' c, api.deviceGetCapture s x = some (s', c) ∧ Owned s' m (held c + n)

/-! ## Programs -/

/-- The library and the objects of a program. -/
structure CppState (σ : Type) where
  lib : σ
  images : Objects ImageHandle
  captures : Objects CaptureHandle

/-- What a program does with objects, which it names by the order in which they were
constructed. -/
inductive CppStatement (ι : Type) where
  /-- `image::create` and `image::create_from_buffer` -/
  | imageCreate (x : ι)
  | image (op : Operation)
  /-- `capture::create` -/
  | captureCreate (x : ι)
  | capture (op : Operation)
  /-- `get_color_image` and the others construct an image. -/
  | captureGetImage (k : ImageType) (c : Nat)
  /-- `set_color_image` and the others. -/
  | captureSetImage (k : ImageType) (c i : Nat)
  /-- `device::get_capture` assigns to a capture. -/
  | deviceGetCapture (c : Nat) (x : ι)

namespace CppState

variable {σ ι α : Type}

/-- The calls of one of the classes. -/
def playCalls (reference release : σ → α → Option σ) : List (SharedHandles.Call α) → σ → Option σ
  | [], s => some s
  | .reference h :: cs, s => (reference s h).bind (playCalls reference release cs)
  | .release h :: cs, s => (release s h).bind (playCalls reference release cs)

/-- An operation on images, with its calls. -/
def image (api : CApi σ ι) (s : CppState σ) (op : Operation) : Option (CppState σ) :=
  (SharedHandles.apply s.images op).bind fun r =>
    (playCalls api.imageReference api.imageRelease r.2 s.lib).map fun lib =>
      { s with lib, images := r.1 }

/-- An operation on captures, with its calls. -/
def capture (api : CApi σ ι) (s : CppState σ) (op : Operation) : Option (CppState σ) :=
  (SharedHandles.apply s.captures op).bind fun r =>
    (playCalls api.captureReference api.captureRelease r.2 s.lib).map fun lib =>
      { s with lib, captures := r.1 }

/-- One statement. -/
def step (api : CApi σ ι) (s : CppState σ) : CppStatement ι → Option (CppState σ)
  | .imageCreate x =>
      (api.imageCreate s.lib x).map fun r =>
        match r.2 with
        | some h => { s with lib := r.1, images := SharedHandles.construct s.images (some h) }
        -- The error is thrown.
        | none => { s with lib := r.1 }
  | .image op => s.image api op
  | .captureCreate x =>
      (api.captureCreate s.lib x).map fun r =>
        match r.2 with
        | some c => { s with lib := r.1, captures := SharedHandles.construct s.captures (some c) }
        | none => { s with lib := r.1 }
  | .capture op => s.capture api op
  | .captureGetImage k c =>
      (Table.lookup s.captures c).bind fun handle =>
        (api.captureGetImage s.lib k handle).map fun r =>
          { s with lib := r.1, images := SharedHandles.construct s.images r.2 }
  | .captureSetImage k c i =>
      (Table.lookup s.captures c).bind fun handle => (Table.lookup s.images i).bind fun h =>
        (api.captureSetImage s.lib k handle h).map fun lib => { s with lib }
  | .deviceGetCapture c x =>
      (api.deviceGetCapture s.lib x).bind fun r =>
        match r.2 with
        | some handle =>
            -- A temporary object is moved from and destroyed.
            let temporary := s.captures.length
            let s := { s with
              lib := r.1, captures := SharedHandles.construct s.captures (some handle) }
            (s.capture api (.moveAssign c temporary)).bind fun s =>
              s.capture api (.destroy temporary)
        | none => some { s with lib := r.1 }

/-- The object has been constructed and not destroyed. -/
def Alive (objects : Objects α) (i : Nat) : Prop := (Table.lookup objects i).isSome

/-- The statement is about objects that are there. -/
def Valid (s : CppState σ) : CppStatement ι → Prop
  | .imageCreate _ | .captureCreate _ => True
  | .image op => ∀ i ∈ op.objects, Alive s.images i
  | .capture op => ∀ c ∈ op.objects, Alive s.captures c
  | .captureGetImage _ c | .deviceGetCapture c _ => Alive s.captures c
  | .captureSetImage _ c i => Alive s.captures c ∧ Alive s.images i

/-! ## What the objects own -/

/-- The calls of a class work if they can be played on what is owned. -/
theorem playCalls_owned [DecidableEq α] {reference release : σ → α → Option σ}
    {Owned : σ → Multiset α → Prop}
    (hreference : ∀ {s m h}, Owned s m → h ∈ m → ∃ s', reference s h = some s' ∧ Owned s' (h ::ₘ m))
    (hrelease : ∀ {s m h}, Owned s m → h ∈ m → ∃ s', release s h = some s' ∧ Owned s' (m.erase h))
    (cs : List (SharedHandles.Call α)) : ∀ {s : σ} {m m' : Multiset α}, Owned s m →
      SharedHandles.play cs m = some m' →
        ∃ s', playCalls reference release cs s = some s' ∧ Owned s' m' := by
  induction cs with
  | nil =>
      intro s m m' hs hplay
      obtain rfl := Option.some.inj hplay
      exact ⟨s, rfl, hs⟩
  | cons c cs ih =>
      intro s m m' hs hplay
      obtain ⟨n, hn, hrest⟩ := Option.bind_eq_some_iff.mp hplay
      cases c with
      | reference h =>
          simp only [SharedHandles.post, Option.ite_none_right_eq_some, Option.some.injEq] at hn
          obtain ⟨hmem, rfl⟩ := hn
          obtain ⟨t, ht, hok⟩ := hreference hs hmem
          obtain ⟨s', hs', hok'⟩ := ih hok hrest
          exact ⟨s', by rw [playCalls, ht, Option.bind_some, hs'], hok'⟩
      | release h =>
          simp only [SharedHandles.post, Option.ite_none_right_eq_some, Option.some.injEq] at hn
          obtain ⟨hmem, rfl⟩ := hn
          obtain ⟨t, ht, hok⟩ := hrelease hs hmem
          obtain ⟨s', hs', hok'⟩ := ih hok hrest
          exact ⟨s', by rw [playCalls, ht, Option.bind_some, hs'], hok'⟩

/-- What an object holds is owned. -/
theorem mem_references {objects : Objects α} {i : Nat} {p : Option α}
    (h : Table.lookup objects i = some p) : ∀ x, p = some x → x ∈ references objects := by
  rintro x rfl
  obtain ⟨m, hm, -⟩ := SharedHandles.references_set h
  rw [hm]
  exact Multiset.mem_add.mpr (.inl (Multiset.mem_singleton_self x))

/-- The program owns the handles of its objects. -/
def Owns (Owned : σ → Multiset ImageHandle → Multiset CaptureHandle → Prop) (s : CppState σ) :
    Prop := Owned s.lib (references s.images) (references s.captures)

variable {api : CApi σ ι} {Owned : σ → Multiset ImageHandle → Multiset CaptureHandle → Prop}
  {s : CppState σ}

theorem image_owns (laws : api.Laws Owned) (hs : s.Owns Owned) {op : Operation}
    (hop : ∀ i ∈ op.objects, Alive s.images i) :
    ∃ s', s.image api op = some s' ∧ s'.Owns Owned := by
  obtain ⟨images, cs, happly⟩ := SharedHandles.apply_isSome hop
  obtain ⟨lib, hlib, hok⟩ := playCalls_owned
    (fun h hmem => laws.imageReference (n := references s.captures) h hmem)
    (fun h hmem => laws.imageRelease h hmem) cs hs (SharedHandles.play_apply happly)
  exact ⟨{ s with lib, images }, by rw [image, happly, Option.bind_some, hlib]; rfl, hok⟩

theorem capture_owns (laws : api.Laws Owned) (hs : s.Owns Owned) {op : Operation}
    (hop : ∀ c ∈ op.objects, Alive s.captures c) :
    ∃ s', s.capture api op = some s' ∧ s'.Owns Owned ∧
      ∀ j, op ≠ .destroy j → Alive s.captures j → Alive s'.captures j := by
  obtain ⟨captures, cs, happly⟩ := SharedHandles.apply_isSome hop
  obtain ⟨lib, hlib, hok⟩ := playCalls_owned
    (fun h hmem => laws.captureReference (m := references s.images) h hmem)
    (fun h hmem => laws.captureRelease h hmem) cs hs (SharedHandles.play_apply happly)
  exact ⟨{ s with lib, captures }, by rw [capture, happly, Option.bind_some, hlib]; rfl, hok,
    fun j hne hj => SharedHandles.isSome_apply happly hne hj⟩

/-- What is assigned to a capture is moved from a temporary object, which is destroyed. -/
theorem assign_owns (laws : api.Laws Owned) {c : Nat} (hc : Alive s.captures c)
    {handle : CaptureHandle} (hs : Owned s.lib (references s.images)
      (held (some handle) + references s.captures)) :
    ∃ s', ((({ s with captures := SharedHandles.construct s.captures (some handle) } :
        CppState σ).capture api (.moveAssign c s.captures.length)).bind fun s' =>
          s'.capture api (.destroy s.captures.length)) = some s' ∧ s'.Owns Owned := by
  have htemporary : Alive (SharedHandles.construct s.captures (some handle)) s.captures.length := by
    rw [Alive, SharedHandles.construct, Table.lookup_append_self]
    rfl
  have howns : ({ s with captures := SharedHandles.construct s.captures (some handle) } :
      CppState σ).Owns Owned := by
    rw [Owns, SharedHandles.references_construct]
    exact hs
  have hassign : ∀ j ∈ (Operation.moveAssign c s.captures.length).objects,
      Alive (SharedHandles.construct s.captures (some handle)) j := by
    intro j hj
    rcases List.mem_pair.mp hj with rfl | rfl
    · exact SharedHandles.isSome_construct hc (some handle)
    · exact htemporary
  obtain ⟨t, ht, hok, halive⟩ := capture_owns laws howns hassign
  have hdestroy : ∀ j ∈ (Operation.destroy s.captures.length).objects, Alive t.captures j := by
    intro j hj
    rw [List.mem_singleton.mp hj]
    exact halive _ Operation.noConfusion htemporary
  obtain ⟨s', hs', hok', -⟩ := capture_owns laws hok hdestroy
  exact ⟨s', by rw [ht, Option.bind_some, hs'], hok'⟩

/-- A statement about objects that are there is carried out, and the program owns the handles of
its objects again. -/
theorem step_owns (laws : api.Laws Owned) (hs : s.Owns Owned) {statement : CppStatement ι}
    (hvalid : s.Valid statement) : ∃ s', s.step api statement = some s' ∧ s'.Owns Owned := by
  cases statement with
  | imageCreate x =>
      obtain ⟨lib, h, hlib, hok⟩ := laws.imageCreate x hs
      cases h with
      | none =>
          exact ⟨{ s with lib }, by rw [step, hlib]; rfl, by rwa [held, zero_add] at hok⟩
      | some h =>
          refine ⟨{ s with lib, images := SharedHandles.construct s.images (some h) },
            by rw [step, hlib]; rfl, ?_⟩
          rw [Owns, SharedHandles.references_construct]
          exact hok
  | image op => exact image_owns laws hs hvalid
  | captureCreate x =>
      obtain ⟨lib, c, hlib, hok⟩ := laws.captureCreate x hs
      cases c with
      | none =>
          exact ⟨{ s with lib }, by rw [step, hlib]; rfl, by rwa [held, zero_add] at hok⟩
      | some c =>
          refine ⟨{ s with lib, captures := SharedHandles.construct s.captures (some c) },
            by rw [step, hlib]; rfl, ?_⟩
          rw [Owns, SharedHandles.references_construct]
          exact hok
  | capture op =>
      obtain ⟨s', hs', hok, -⟩ := capture_owns laws hs hvalid
      exact ⟨s', hs', hok⟩
  | captureGetImage k c =>
      obtain ⟨handle, hhandle⟩ := Option.isSome_iff_exists.mp hvalid
      obtain ⟨lib, h, hlib, hok⟩ := laws.captureGetImage k handle hs (mem_references hhandle)
      refine ⟨{ s with lib, images := SharedHandles.construct s.images h }, ?_, ?_⟩
      · rw [step, hhandle, Option.bind_some, hlib]
        rfl
      · rw [Owns, SharedHandles.references_construct]
        exact hok
  | captureSetImage k c i =>
      obtain ⟨handle, hhandle⟩ := Option.isSome_iff_exists.mp hvalid.1
      obtain ⟨h, hh⟩ := Option.isSome_iff_exists.mp hvalid.2
      obtain ⟨lib, hlib, hok⟩ := laws.captureSetImage k handle h hs (mem_references hhandle)
        (mem_references hh)
      refine ⟨{ s with lib }, ?_, hok⟩
      rw [step, hhandle, Option.bind_some, hh, Option.bind_some, hlib]
      rfl
  | deviceGetCapture c x =>
      obtain ⟨lib, handle, hlib, hok⟩ := laws.deviceGetCapture x hs
      rw [step, hlib, Option.bind_some]
      cases handle with
      | none => exact ⟨{ s with lib }, rfl, by rwa [held, zero_add] at hok⟩
      | some handle => exact assign_owns (s := { s with lib }) laws hvalid hok

/-- A program that names only objects that are there makes no call with a handle that it does not
own, so all its calls work.  At every point it owns the handles of its objects, each as often as
there are objects with it; without objects it owns nothing. -/
theorem wrappers_own_references (laws : api.Laws Owned) {lib : σ} (hlib : Owned lib 0 0)
    {program : List (CppStatement ι)}
    (hvalid : Steps.Along (step api) Valid ⟨lib, [], []⟩ program) :
    ∃ s, Steps.run (step api) ⟨lib, [], []⟩ program = some s ∧
      Owned s.lib (references s.images) (references s.captures) ∧
      ((∀ o ∈ s.images, o.join = none) → (∀ o ∈ s.captures, o.join = none) →
        Owned s.lib 0 0) := by
  have howns : Owns Owned ⟨lib, [], []⟩ := hlib
  obtain ⟨s, hrun, hok⟩ := Steps.run_total
    (fun s statement hs hstatement => step_owns laws hs hstatement) program howns hvalid
  refine ⟨s, hrun, hok, fun himages hcaptures => ?_⟩
  rw [Owns, SharedHandles.references_eq_zero himages,
    SharedHandles.references_eq_zero hcaptures] at hok
  exact hok

end CppState

/-! ## The library behind the public functions

The functions of `image.c` and of the captures follow the rules.  The device that brings the
captures is a client of the same functions: it creates images and captures, stores images in
captures, takes references and releases them, with references of its own.  The state has the
objects and the references of the device; those of the program are what `Owned` says. -/

/-- The arguments of a public function, and what they do not decide. -/
inductive LibraryCall where
  | object (call : ObjectCall)
  /-- What the device does before it answers, and the capture that it hands over, unless it fails
  or times out. -/
  | device (work : List ObjectCall) (capture : Option CaptureHandle)

namespace Clients

instance (s : Clients) (call : ObjectCall) : Decidable (Allowed s call) :=
  match call with
  | .imageCreate .. | .imageCreateFromBuffer .. | .captureCreate _ =>
      inferInstanceAs (Decidable True)
  | .imageIncRef image | .imageDecRef image => inferInstanceAs (Decidable (image ∈ s.imageRefs))
  | .captureIncRef capture | .captureDecRef capture | .captureGet _ capture =>
      inferInstanceAs (Decidable (capture ∈ s.captureRefs))
  | .captureSet _ capture none =>
      decidable_of_iff (capture ∈ s.captureRefs) ⟨fun h => ⟨h, nofun⟩, And.left⟩
  | .captureSet _ capture (some image) =>
      decidable_of_iff (capture ∈ s.captureRefs ∧ image ∈ s.imageRefs)
        ⟨fun h => ⟨h.1, fun _ hi => Option.some.inj hi ▸ h.2⟩, fun h => ⟨h.1, h.2 image rfl⟩⟩

/-- A call of the device, which makes none with an object that it has no reference to. -/
def deviceCall (s : Clients) (call : ObjectCall) : Option Clients :=
  if Allowed s call then s.step call else some s

/-- The device hands a reference over. -/
def handOver (s : Clients) : Option CaptureHandle → Clients × Option CaptureHandle
  | some c => if c ∈ s.captureRefs then
      ({ s with captureRefs := s.captureRefs.erase c }, some c) else (s, none)
  | none => (s, none)

/-- The functions of `image.c` and `allocator.c` in the place of the public ones. -/
def api : CApi Clients LibraryCall where
  imageCreate s x :=
    match x with
    | .object (.imageCreate format width height stride source contextOk answer lockOk) =>
        (s.store.imageCreate format width height stride source contextOk answer lockOk).map fun r =>
          let h := r.2.2
          ({ s with
            store := r.1
            created := s.created ++ h.toList.map fun h => ⟨h, some .imageDefaultFreeFunction,
              answer.map fun block => block.1 + allocationContextSize, 0⟩ }, h)
    | .object (.imageCreateFromBuffer format width height stride buffer bufferSize cb context
        contextOk lockOk) =>
        let r := s.store.imageCreateFromBuffer format width height stride buffer bufferSize cb
          context contextOk lockOk
        let h := r.2.2
        some ({ s with
          store := r.1
          created := s.created ++ h.toList.map fun h => ⟨h, cb, buffer, context⟩ }, h)
    | _ => some (s, none)
  imageReference s h := (s.store.imageIncRef h).map fun store => { s with store }
  imageRelease s h := (s.store.imageDecRef h).map fun store => { s with store }
  captureCreate s x :=
    match x with
    | .object (.captureCreate contextOk) =>
        let r := s.store.captureCreate contextOk
        some ({ s with store := r.1 }, r.2.2)
    | _ => some (s, none)
  captureReference s c := (s.store.captureIncRef c).map fun store => { s with store }
  captureRelease s c := (s.store.captureDecRef c).map fun store => { s with store }
  captureGetImage s k c :=
    match c with
    | some c => (getter s.store k c).map fun r => ({ s with store := r.1 }, r.2)
    | none => some (s, none)
  captureSetImage s k c h :=
    match c with
    | some c => (setter s.store k c h).map fun store => { s with store }
    | none => some s
  deviceGetCapture s x :=
    match x with
    | .device work capture => (Steps.run deviceCall s work).map fun s => s.handOver capture
    | _ => some (s, none)

/-- The clients, with the references of further ones. -/
def sharing (s : Clients) (m : Multiset ImageHandle) (n : Multiset CaptureHandle) : Clients :=
  { s with imageRefs := m + s.imageRefs, captureRefs := n + s.captureRefs }

/-- What the program owns, with the counts in balance. -/
def Owned (s : Clients) (m : Multiset ImageHandle) (n : Multiset CaptureHandle) : Prop :=
  (s.sharing m n).Balanced

variable {s : Clients} {m : Multiset ImageHandle} {n : Multiset CaptureHandle}

theorem owned_initial : initial.Owned 0 0 := balanced_initial

theorem allowed_sharing {call : ObjectCall} (h : Allowed s call) :
    Allowed (s.sharing m n) call := by
  have himage : ∀ {i}, i ∈ s.imageRefs → i ∈ m + s.imageRefs :=
    fun hi => Multiset.mem_add.mpr (.inr hi)
  have hcapture : ∀ {c}, c ∈ s.captureRefs → c ∈ n + s.captureRefs :=
    fun hc => Multiset.mem_add.mpr (.inr hc)
  cases call with
  | imageCreate | imageCreateFromBuffer | captureCreate => trivial
  | imageIncRef | imageDecRef => exact himage h
  | captureIncRef | captureDecRef | captureGet => exact hcapture h
  | captureSet => exact ⟨hcapture h.1, fun i hi => himage (h.2 i hi)⟩

/-- A call leaves the references of the others. -/
theorem step_sharing {call : ObjectCall} (h : Allowed s call) :
    (s.sharing m n).step call = (s.step call).map fun s' => s'.sharing m n := by
  cases call with
  | imageCreate format width height stride source contextOk answer lockOk =>
      simp only [step, sharing, imageReturned, Option.map_map, Function.comp_def,
        add_left_comm m]
  | imageCreateFromBuffer format width height stride buffer bufferSize cb context contextOk
      lockOk =>
      simp only [step, sharing, imageReturned, Option.map_some, add_left_comm m]
  | imageIncRef i =>
      simp only [step, sharing, Option.map_map, Function.comp_def, Multiset.add_cons]
  | imageDecRef i =>
      simp only [step, sharing, Option.map_map, Function.comp_def,
        Multiset.erase_add_right_pos m h]
  | captureCreate contextOk =>
      simp only [step, sharing, Option.map_some, add_left_comm n]
  | captureIncRef c =>
      simp only [step, sharing, Option.map_map, Function.comp_def, Multiset.add_cons]
  | captureDecRef c =>
      simp only [step, sharing, Option.map_map, Function.comp_def,
        Multiset.erase_add_right_pos n h]
  | captureGet k c =>
      simp only [step, sharing, Option.map_map, Function.comp_def, add_left_comm m]
  | captureSet k c i =>
      simp only [step, sharing, Option.map_map, Function.comp_def]

/-- Whatever the device does, the program owns what it owned. -/
theorem deviceCall_owned (hs : s.Owned m n) (call : ObjectCall) :
    ∃ s', s.deviceCall call = some s' ∧ s'.Owned m n := by
  by_cases hcall : Allowed s call
  · obtain ⟨t, ht, hok⟩ := step_balanced hs (allowed_sharing hcall)
    rw [step_sharing hcall] at ht
    obtain ⟨s', hs', rfl⟩ := Option.map_eq_some_iff.mp ht
    exact ⟨s', by rw [deviceCall, if_pos hcall, hs'], hok⟩
  · exact ⟨s, if_neg hcall, hs⟩

theorem deviceWork_owned (work : List ObjectCall) (hs : s.Owned m n) :
    ∃ s', Steps.run deviceCall s work = some s' ∧ s'.Owned m n :=
  Steps.run_total (P := fun _ _ => True) (fun _ call hs _ => deviceCall_owned hs call) work hs
    (Steps.Along.of_forall fun _ _ _ => trivial)

/-- What the device hands over is the program's. -/
theorem handOver_owned (hs : s.Owned m n) (capture : Option CaptureHandle) :
    (s.handOver capture).1.Owned m (held (s.handOver capture).2 + n) := by
  have hnone : s.Owned m (held none + n) := by rwa [held, zero_add]
  cases capture with
  | none => exact hnone
  | some c =>
      by_cases hc : c ∈ s.captureRefs
      · have hmoved : {c} + n + s.captureRefs.erase c = n + s.captureRefs := by
          rw [add_right_comm, Multiset.singleton_add, Multiset.cons_erase hc, add_comm]
        rw [handOver, if_pos hc, Owned, sharing, held, hmoved]
        exact hs
      · rw [handOver, if_neg hc]
        exact hnone

theorem api_laws : api.Laws Owned where
  imageCreate := by
    intro s m n x hs
    -- The new reference is added to those of the program.
    have hreturned : ∀ {r : ObjectStore.Created ImageHandle} {record : ImageHandle → ImageRecord},
        s.store.Creates r record → Owned { s with
          store := r.1, created := s.created ++ r.2.2.toList.map record } (held r.2.2 + m) n := by
      intro r record hcreates
      rw [Owned, sharing, add_assoc]
      exact ObjectStore.Accounts.imageCreated hs hcreates
    have hnone : s.Owned (held none + m) n := by rwa [held, zero_add]
    match x with
    | .object (.imageCreate format width height stride source contextOk answer lockOk) =>
        obtain ⟨r, hr, hcreates⟩ := ObjectStore.creates_imageCreate s.store format width height
          stride source contextOk answer lockOk
        exact ⟨_, r.2.2, congrArg (Option.map _) hr, hreturned hcreates⟩
    | .object (.imageCreateFromBuffer format width height stride buffer bufferSize cb context
        contextOk lockOk) =>
        exact ⟨_, _, rfl, hreturned (ObjectStore.creates_imageCreateFromBuffer s.store format width
          height stride buffer bufferSize cb context contextOk lockOk)⟩
    | .object (.imageIncRef _) | .object (.imageDecRef _) | .object (.captureCreate _)
    | .object (.captureIncRef _) | .object (.captureDecRef _) | .object (.captureGet _ _)
    | .object (.captureSet _ _ _) | .device _ _ => exact ⟨s, none, rfl, hnone⟩
  imageReference := by
    intro s m n h hs hmem
    obtain ⟨t, ht, hok⟩ := @step_balanced _ (.imageIncRef h) hs (Multiset.mem_add.mpr (.inl hmem))
    obtain ⟨o, ho, rfl⟩ := Option.map_eq_some_iff.mp ht
    refine ⟨{ s with store := o }, congrArg (Option.map _) ho, ?_⟩
    rw [Owned, sharing, Multiset.cons_add]
    exact hok
  imageRelease := by
    intro s m n h hs hmem
    obtain ⟨t, ht, hok⟩ := @step_balanced _ (.imageDecRef h) hs (Multiset.mem_add.mpr (.inl hmem))
    obtain ⟨o, ho, rfl⟩ := Option.map_eq_some_iff.mp ht
    refine ⟨{ s with store := o }, congrArg (Option.map _) ho, ?_⟩
    rw [Owned, sharing, ← Multiset.erase_add_left_pos _ hmem]
    exact hok
  captureCreate := by
    intro s m n x hs
    have hnone : s.Owned m (held none + n) := by rwa [held, zero_add]
    match x with
    | .object (.captureCreate contextOk) =>
        obtain ⟨t, ht, hok⟩ := @step_balanced _ (.captureCreate contextOk) hs trivial
        obtain rfl := Option.some.inj ht
        refine ⟨_, _, rfl, ?_⟩
        rw [Owned, sharing, add_assoc]
        exact hok
    | .object (.imageCreate ..) | .object (.imageCreateFromBuffer ..) | .object (.imageIncRef _)
    | .object (.imageDecRef _) | .object (.captureIncRef _) | .object (.captureDecRef _)
    | .object (.captureGet _ _) | .object (.captureSet _ _ _) | .device _ _ =>
        exact ⟨s, none, rfl, hnone⟩
  captureReference := by
    intro s m n c hs hmem
    obtain ⟨t, ht, hok⟩ := @step_balanced _ (.captureIncRef c) hs (Multiset.mem_add.mpr (.inl hmem))
    obtain ⟨o, ho, rfl⟩ := Option.map_eq_some_iff.mp ht
    refine ⟨{ s with store := o }, congrArg (Option.map _) ho, ?_⟩
    rw [Owned, sharing, Multiset.cons_add]
    exact hok
  captureRelease := by
    intro s m n c hs hmem
    obtain ⟨t, ht, hok⟩ := @step_balanced _ (.captureDecRef c) hs (Multiset.mem_add.mpr (.inl hmem))
    obtain ⟨o, ho, rfl⟩ := Option.map_eq_some_iff.mp ht
    refine ⟨{ s with store := o }, congrArg (Option.map _) ho, ?_⟩
    rw [Owned, sharing, ← Multiset.erase_add_left_pos _ hmem]
    exact hok
  captureGetImage := by
    intro s m n k c hs hmem
    cases c with
    | none => exact ⟨s, none, rfl, by rwa [held, zero_add]⟩
    | some c =>
        obtain ⟨t, ht, hok⟩ := @step_balanced _ (.captureGet k c) hs
          (Multiset.mem_add.mpr (.inl (hmem c rfl)))
        obtain ⟨r, hr, rfl⟩ := Option.map_eq_some_iff.mp ht
        refine ⟨{ s with store := r.1 }, r.2, congrArg (Option.map _) hr, ?_⟩
        rw [Owned, sharing, add_assoc]
        exact hok
  captureSetImage := by
    intro s m n k c h hs hmem himage
    cases c with
    | none => exact ⟨s, rfl, hs⟩
    | some c =>
        obtain ⟨t, ht, hok⟩ := @step_balanced _ (.captureSet k c h) hs
          ⟨Multiset.mem_add.mpr (.inl (hmem c rfl)),
            fun i hi => Multiset.mem_add.mpr (.inl (himage i hi))⟩
        obtain ⟨o, ho, rfl⟩ := Option.map_eq_some_iff.mp ht
        exact ⟨{ s with store := o }, congrArg (Option.map _) ho, hok⟩
  deviceGetCapture := by
    intro s m n x hs
    match x with
    | .device work capture =>
        obtain ⟨t, ht, hok⟩ := deviceWork_owned work hs
        exact ⟨_, _, congrArg (Option.map _) ht, handOver_owned hok capture⟩
    | .object call => exact ⟨s, none, rfl, by rwa [held, zero_add]⟩

end Clients

/-- A colour frame, as the camera reader passes it on and the queue keeps it. -/
def frameWork : List ObjectCall :=
  [.imageCreateFromBuffer .custom8 1 1 1 (some 64) 1 (some (.user 0)) 7 true true,
    .captureCreate true, .captureSet .color ⟨0⟩ (some ⟨0⟩), .captureIncRef ⟨0⟩, .imageDecRef ⟨0⟩,
    .captureDecRef ⟨0⟩]

def captureProgram : List (CppStatement LibraryCall) :=
  [.capture .defaultConstruct, .deviceGetCapture 0 (.device frameWork (some ⟨0⟩)),
    .captureGetImage .color 0, .image (.copyConstruct 0),
    .captureCreate (.object (.captureCreate true)), .captureSetImage .color 2 1,
    .captureGetImage .color 2, .image (.copyAssign 1 2), .image (.moveAssign 0 2),
    .image (.destroy 2), .capture (.reset 0), .capture (.destroy 2), .image (.destroy 1),
    .image (.destroy 0)]

theorem captureProgram_valid :
    Steps.Along (CppState.step Clients.api) CppState.Valid ⟨.initial, [], []⟩ captureProgram := by
  have hone : ∀ {α : Type} {objects : Objects α} {i : Nat}, CppState.Alive objects i →
      ∀ j ∈ [i], CppState.Alive objects j :=
    fun h j hj => List.mem_singleton.mp hj ▸ h
  have htwo : ∀ {α : Type} {objects : Objects α} {i k : Nat}, CppState.Alive objects i →
      CppState.Alive objects k → ∀ j ∈ [i, k], CppState.Alive objects j :=
    fun h h' => List.forall_mem_cons.mpr ⟨h, hone h'⟩
  exact .cons rfl (List.forall_mem_nil _) (.cons rfl (Eq.refl true) (.cons rfl (Eq.refl true)
    (.cons rfl (hone rfl) (.cons rfl trivial (.cons rfl ⟨rfl, rfl⟩ (.cons rfl (Eq.refl true)
      (.cons rfl (htwo rfl rfl) (.cons rfl (htwo rfl rfl) (.cons rfl (hone rfl)
        (.cons rfl (hone rfl) (.cons rfl (hone rfl) (.cons rfl (hone rfl)
          (.cons rfl (hone rfl) trivial)))))))))))))

theorem wrappers_own_references_image :
    ∃ s, Steps.run (CppState.step Clients.api) ⟨.initial, [], []⟩ captureProgram = some s ∧
      s.lib.Owned (references s.images) (references s.captures) ∧
      ((∀ o ∈ s.images, o.join = none) → (∀ o ∈ s.captures, o.join = none) → s.lib.Owned 0 0) :=
  CppState.wrappers_own_references Clients.api_laws Clients.owned_initial captureProgram_valid

end ZsaSdk
