import Mathlib.Algebra.Group.Basic
import ZsaSdk.Image.References

/-!
# Getters and setters of several threads

The getters of a capture take the reference under the lock, and read the slot a second time
after they have released it.  Here the two steps of a getter are steps of their own, and any
call of any thread may come between them.

A setter that puts another image into the slot between the two steps makes the getter return
that image, with the reference taken to the one before.  If no setter does
(`Undisturbed`), a getter behaves as one atomic call: until it returns, its thread owns the
reference it has taken.

*Ownership.*  A thread keeps its reference to the capture during a call, so a capture with a
getter on its way is released only by a client that leaves another reference.
-/

namespace ZsaSdk

open Ledger

/-- A getter between its two steps, with the image it has taken a reference to. -/
structure PendingGetter where
  k : ImageType
  capture : CaptureHandle
  taken : Option ImageHandle
deriving DecidableEq, Repr

/-- A getter that has returned. -/
structure ReturnedGetter where
  taken : Option ImageHandle
  image : Option ImageHandle
deriving DecidableEq, Repr

/-- The clients, and the getters of their threads. -/
structure Threads where
  clients : Clients
  pending : List PendingGetter
  returned : List ReturnedGetter

/-- A step of some thread. -/
inductive ThreadStep where
  | call (call : ObjectCall)
  | getLocked (k : ImageType) (capture : CaptureHandle)
  | getUnlocked (getter : PendingGetter)

namespace Threads

def initial : Threads := ⟨.initial, [], []⟩

/-- The threads pass only what they own, and keep the captures they are reading. -/
def Allowed (t : Threads) : ThreadStep → Prop
  | .call (.captureDecRef capture) => capture ∈ t.clients.captureRefs ∧
      ((∃ g ∈ t.pending, g.capture = capture) → 1 < t.clients.captureRefs.count capture)
  | .call call => t.clients.Allowed call
  | .getLocked _ capture => capture ∈ t.clients.captureRefs
  | .getUnlocked getter => getter ∈ t.pending

/-- No setter puts another image into a slot that a getter is reading. -/
def Undisturbed (t : Threads) : ThreadStep → Prop
  | .call (.captureSet k capture image) =>
      ∀ g ∈ t.pending, g.k = k → g.capture = capture → image = g.taken
  | _ => True

/-- One step of one thread.  The client owns the image that its getter returns. -/
def step (t : Threads) : ThreadStep → Option Threads
  | .call call => (t.clients.step call).map fun clients => { t with clients }
  | .getLocked k capture =>
      (t.clients.store.captureGetLocked k capture).map fun r =>
        { t with
          clients := { t.clients with store := r.1 }
          pending := ⟨k, capture, r.2⟩ :: t.pending }
  | .getUnlocked getter =>
      if getter ∈ t.pending then
        (t.clients.store.captureGetUnlocked getter.k getter.capture).map fun image =>
          { clients := { t.clients with imageRefs := held image + t.clients.imageRefs }
            pending := t.pending.erase getter
            returned := ⟨getter.taken, image⟩ :: t.returned }
      else none

/-- The steps of all threads, in the order in which they happen. -/
def run (t : Threads) (steps : List ThreadStep) : Option Threads := Steps.run step t steps

end Threads

/-! ## Frames -/

namespace ObjectStore

variable {o o' : ObjectStore} {h : ImageHandle} {c c' : CaptureHandle} {k : ImageType}

theorem captures_imageIncRef (ho : o.imageIncRef h = some o') : o'.captures = o.captures := by
  obtain ⟨context, -, rfl⟩ := Option.map_eq_some_iff.mp ho
  rfl

theorem captures_imageDecRef (ho : o.imageDecRef h = some o') : o'.captures = o.captures := by
  obtain ⟨context, -, rfl⟩ := Option.map_eq_some_iff.mp ho
  dsimp only
  split
  · exact captures_callMemoryFreeCb h context
  · rfl

theorem captures_imageIncRefOf {i : Option ImageHandle} (ho : o.imageIncRefOf i = some o') :
    o'.captures = o.captures := by
  cases i with
  | none =>
      cases ho
      rfl
  | some h => exact captures_imageIncRef ho

theorem captures_imageDecRefOf {i : Option ImageHandle} (ho : o.imageDecRefOf i = some o') :
    o'.captures = o.captures := by
  cases i with
  | none =>
      cases ho
      rfl
  | some h => exact captures_imageDecRef ho

theorem captures_captureGetLocked {r : ObjectStore × Option ImageHandle}
    (ho : o.captureGetLocked k c = some r) : r.1.captures = o.captures := by
  obtain ⟨context, -, ho⟩ := Option.bind_eq_some_iff.mp ho
  obtain ⟨o₁, h₁, rfl⟩ := Option.map_eq_some_iff.mp ho
  exact captures_imageIncRefOf h₁

theorem captureGetUnlocked_congr (hcap : o'.captures = o.captures) :
    o'.captureGetUnlocked k c = o.captureGetUnlocked k c := by
  rw [captureGetUnlocked, capture, hcap]
  rfl

theorem captureGetUnlocked_setCapture_ne (hne : c' ≠ c) (y : Option CaptureContext) :
    (o.setCapture c' y).captureGetUnlocked k c = o.captureGetUnlocked k c := by
  rw [captureGetUnlocked, captureGetUnlocked]
  have hid : c'.id ≠ c.id := fun heq => hne (congrArg CaptureHandle.mk heq)
  exact congrArg (Option.map _) (Table.lookup_set_ne hid y)

theorem captureGetUnlocked_setCapture_self {capture : CaptureContext}
    (hc : o.capture c = some capture) (y : CaptureContext) :
    (o.setCapture c (some y)).captureGetUnlocked k c = some (y.image k) :=
  congrArg (Option.map _) (Table.lookup_set_self hc (some y))

/-- A change that keeps the slots of a capture. -/
theorem captureGetUnlocked_setCapture {capture : CaptureContext}
    (hc' : o.capture c' = some capture) (n : Int) :
    (o.setCapture c' (some { capture with refCount := n })).captureGetUnlocked k c =
      o.captureGetUnlocked k c := by
  by_cases hne : c' = c
  · subst hne
    rw [captureGetUnlocked_setCapture_self hc', captureGetUnlocked, hc']
    rfl
  · exact captureGetUnlocked_setCapture_ne hne _

theorem captureGetUnlocked_captureIncRef (ho : o.captureIncRef c' = some o') :
    o'.captureGetUnlocked k c = o.captureGetUnlocked k c := by
  obtain ⟨capture, hc', rfl⟩ := Option.map_eq_some_iff.mp ho
  exact captureGetUnlocked_setCapture hc' _

/-- A capture that is not destroyed keeps its slots. -/
theorem captureGetUnlocked_captureDecRef (ho : o.captureDecRef c' = some o')
    (hlive : o'.capture c ≠ none) : o'.captureGetUnlocked k c = o.captureGetUnlocked k c := by
  obtain ⟨capture, hc', ho⟩ := Option.bind_eq_some_iff.mp ho
  dsimp only at ho
  split at ho
  · obtain ⟨o₃, h₃, rfl⟩ := Option.map_eq_some_iff.mp ho
    obtain ⟨o₂, h₂, h₃⟩ := Option.bind_eq_some_iff.mp h₃
    obtain ⟨o₁, h₁, h₂⟩ := Option.bind_eq_some_iff.mp h₂
    have hcap : o₃.captures = o.captures :=
      ((captures_imageDecRefOf h₃).trans (captures_imageDecRefOf h₂)).trans
        (captures_imageDecRefOf h₁)
    by_cases hne : c' = c
    · subst hne
      have hgone : (o₃.setCapture c' none).capture c' = none := by
        show Table.lookup (o₃.captures.set c'.id none) c'.id = none
        rw [hcap]
        exact Table.lookup_set_self hc' none
      exact absurd hgone hlive
    · rw [captureGetUnlocked_setCapture_ne hne, captureGetUnlocked_congr hcap]
  · cases ho
    exact captureGetUnlocked_setCapture hc' _

/-- A setter changes one slot. -/
theorem captureGetUnlocked_captureSetImage {k' : ImageType} {i : Option ImageHandle}
    (ho : o.captureSetImage k' c' i = some o') :
    o'.captureGetUnlocked k c = o.captureGetUnlocked k c ∨
      k' = k ∧ c' = c ∧ o'.captureGetUnlocked k c = some i := by
  obtain ⟨capture, hc', ho⟩ := Option.bind_eq_some_iff.mp ho
  obtain ⟨o₁, h₁, h₂⟩ := Option.bind_eq_some_iff.mp ho
  have hcap := captures_imageDecRefOf h₁
  have hc₁ : o₁.capture c' = some capture := by
    show Table.lookup o₁.captures c'.id = _
    rw [hcap]
    exact hc'
  rw [captureGetUnlocked_congr (captures_imageIncRefOf h₂)]
  by_cases hne : c' = c
  · subst hne
    rw [captureGetUnlocked_setCapture_self hc₁]
    by_cases hk : k = k'
    · exact Or.inr ⟨hk.symm, rfl, congrArg some (if_pos hk)⟩
    · left
      rw [captureGetUnlocked, hc']
      exact congrArg some (if_neg hk)
  · left
    rw [captureGetUnlocked_setCapture_ne hne, captureGetUnlocked_congr hcap]

end ObjectStore

namespace Clients

open ObjectStore

variable {s s' : Clients} {call : ObjectCall} {c : CaptureHandle} {k : ImageType}
  {i : Option ImageHandle}

/-- A slot of a capture that stays alive changes by a setter of the slot only. -/
theorem step_slot (hs : step s call = some s') (hslot : s.store.captureGetUnlocked k c = some i)
    (hlive : s'.store.capture c ≠ none) :
    s'.store.captureGetUnlocked k c = some i ∨
      ∃ i', call = .captureSet k c i' ∧ s'.store.captureGetUnlocked k c = some i' := by
  cases call with
  | imageCreate format width height stride source contextOk answer lockOk =>
      obtain ⟨r, hr, hcreates⟩ :=
        creates_imageCreate s.store format width height stride source contextOk answer lockOk
      obtain rfl := Option.some.inj ((congrArg (Option.map _) hr).symm.trans hs)
      exact Or.inl ((captureGetUnlocked_congr hcreates.1.captures).trans hslot)
  | imageCreateFromBuffer format width height stride buffer bufferSize cb context contextOk
      lockOk =>
      cases hs
      exact Or.inl ((captureGetUnlocked_congr (creates_imageCreateFromBuffer s.store format width
        height stride buffer bufferSize cb context contextOk lockOk).1.captures).trans hslot)
  | imageIncRef image =>
      obtain ⟨o, ho, rfl⟩ := Option.map_eq_some_iff.mp hs
      exact Or.inl ((captureGetUnlocked_congr (captures_imageIncRef ho)).trans hslot)
  | imageDecRef image =>
      obtain ⟨o, ho, rfl⟩ := Option.map_eq_some_iff.mp hs
      exact Or.inl ((captureGetUnlocked_congr (captures_imageDecRef ho)).trans hslot)
  | captureCreate contextOk =>
      cases hs
      left
      cases contextOk with
      | false => exact hslot
      | true =>
          obtain ⟨capture, hc, rfl⟩ := Option.map_eq_some_iff.mp hslot
          have hne : c.id ≠ s.store.captures.length := Nat.ne_of_lt (Table.lt_of_lookup hc)
          exact congrArg (Option.map _) ((Table.lookup_append_ne hne _).trans hc)
  | captureIncRef capture =>
      obtain ⟨o, ho, rfl⟩ := Option.map_eq_some_iff.mp hs
      exact Or.inl ((captureGetUnlocked_captureIncRef ho).trans hslot)
  | captureDecRef capture =>
      obtain ⟨o, ho, rfl⟩ := Option.map_eq_some_iff.mp hs
      exact Or.inl ((captureGetUnlocked_captureDecRef ho hlive).trans hslot)
  | captureGet k' capture =>
      obtain ⟨r, hr, rfl⟩ := Option.map_eq_some_iff.mp hs
      rw [getter_eq] at hr
      obtain ⟨r₁, h₁, hr⟩ := Option.bind_eq_some_iff.mp hr
      obtain ⟨j, -, rfl⟩ := Option.map_eq_some_iff.mp hr
      exact Or.inl ((captureGetUnlocked_congr (captures_captureGetLocked h₁)).trans hslot)
  | captureSet k' capture image =>
      obtain ⟨o, ho, rfl⟩ := Option.map_eq_some_iff.mp hs
      rw [setter_eq] at ho
      obtain heq | ⟨rfl, rfl, heq⟩ := captureGetUnlocked_captureSetImage (k := k) (c := c) ho
      · exact Or.inl (heq.trans hslot)
      · exact Or.inr ⟨image, rfl, heq⟩

/-- The clients with references of others added. -/
def withRefs (s : Clients) (e : Multiset ImageHandle) : Clients :=
  { s with imageRefs := s.imageRefs + e }

theorem Allowed.withRefs (hcall : s.Allowed call) (e : Multiset ImageHandle) :
    (s.withRefs e).Allowed call := by
  have hmem : ∀ {h : ImageHandle}, h ∈ s.imageRefs → h ∈ s.imageRefs + e := fun hh =>
    Multiset.mem_add.mpr (Or.inl hh)
  cases call with
  | imageCreate | imageCreateFromBuffer | captureCreate => trivial
  | imageIncRef image | imageDecRef image => exact hmem hcall
  | captureIncRef | captureDecRef | captureGet => exact hcall
  | captureSet k capture image => exact ⟨hcall.1, fun i hi => hmem (hcall.2 i hi)⟩

/-- A call does not depend on the references of others. -/
theorem step_withRefs (hcall : s.Allowed call) (e : Multiset ImageHandle) :
    step (s.withRefs e) call = (step s call).map fun s' => s'.withRefs e := by
  cases call with
  | imageCreate format width height stride source contextOk answer lockOk =>
      simp only [step, withRefs, imageReturned, Option.map_map, Function.comp_def, add_assoc]
  | imageCreateFromBuffer format width height stride buffer bufferSize cb context contextOk
      lockOk =>
      simp only [step, withRefs, imageReturned, Option.map_some, add_assoc]
  | imageIncRef image =>
      simp only [step, withRefs, Option.map_map, Function.comp_def, Multiset.cons_add]
  | imageDecRef image =>
      simp only [step, withRefs, Option.map_map, Function.comp_def,
        Multiset.erase_add_left_pos e hcall]
  | captureCreate contextOk => rfl
  | captureIncRef capture | captureDecRef capture | captureSet k capture image =>
      simp only [step, withRefs, Option.map_map, Function.comp_def]
  | captureGet k capture =>
      simp only [step, withRefs, Option.map_map, Function.comp_def, add_assoc]

/-- A capture keeps a reference unless the last one is released. -/
theorem step_captureRefs (hs : step s call = some s') (hc : c ∈ s.captureRefs)
    (hdec : call = .captureDecRef c → 1 < s.captureRefs.count c) : c ∈ s'.captureRefs := by
  cases call with
  | imageCreate | imageIncRef | imageDecRef | captureGet | captureSet =>
      obtain ⟨_, -, rfl⟩ := Option.map_eq_some_iff.mp hs
      exact hc
  | imageCreateFromBuffer =>
      cases hs
      exact hc
  | captureCreate contextOk =>
      cases hs
      exact Multiset.mem_add.mpr (Or.inr hc)
  | captureIncRef capture =>
      obtain ⟨_, -, rfl⟩ := Option.map_eq_some_iff.mp hs
      exact Multiset.mem_cons_of_mem hc
  | captureDecRef capture =>
      obtain ⟨_, -, rfl⟩ := Option.map_eq_some_iff.mp hs
      by_cases heq : capture = c
      · subst heq
        rw [← Multiset.count_pos, Multiset.count_erase_self]
        have hcount := hdec rfl
        omega
      · exact (Multiset.mem_erase_of_ne (Ne.symm heq)).mpr hc

end Clients

/-! ## Runs -/

namespace Threads

open ObjectStore

variable {t t' : Threads}

/-- The references that the getters on their way have taken. -/
def taken (pending : List PendingGetter) : Multiset ImageHandle :=
  (pending.map fun g => held g.taken).sum

/-- Between its steps a getter owns the reference it has taken, and the slot keeps the image. -/
structure Sound (t : Threads) : Prop where
  balanced : (t.clients.withRefs (taken t.pending)).Balanced
  kept : ∀ g ∈ t.pending, g.capture ∈ t.clients.captureRefs
  slot : ∀ g ∈ t.pending, t.clients.store.captureGetUnlocked g.k g.capture = some g.taken
  returned : ∀ r ∈ t.returned, r.image = r.taken

theorem sound_initial : Sound initial := ⟨Clients.balanced_initial, nofun, nofun, nofun⟩

theorem Sound.call {call : ObjectCall} (ht : Sound t) (hcall : t.Allowed (.call call))
    (hund : t.Undisturbed (.call call)) : ∃ t', step t (.call call) = some t' ∧ Sound t' := by
  have hclients : t.clients.Allowed call := by
    cases call with
    | captureDecRef capture => exact hcall.1
    | _ => exact hcall
  obtain ⟨s, hs, hbal⟩ := Clients.step_balanced ht.balanced (hclients.withRefs (taken t.pending))
  rw [Clients.step_withRefs hclients] at hs
  obtain ⟨s', hs', rfl⟩ := Option.map_eq_some_iff.mp hs
  have hkept : ∀ g ∈ t.pending, g.capture ∈ s'.captureRefs := by
    intro g hg
    refine Clients.step_captureRefs hs' (ht.kept g hg) fun heq => ?_
    subst heq
    exact hcall.2 ⟨g, hg, rfl⟩
  refine ⟨{ t with clients := s' }, congrArg (Option.map _) hs', hbal, hkept, ?_, ht.returned⟩
  intro g hg
  have hlive := (hbal.captures.live g.capture).mpr (hkept g hg)
  obtain hsame | ⟨i, rfl, hi⟩ := Clients.step_slot hs' (ht.slot g hg) hlive
  · exact hsame
  · have hi' : i = g.taken := hund g hg rfl rfl
    exact hi' ▸ hi

theorem Sound.getLocked {k : ImageType} {c : CaptureHandle} (ht : Sound t)
    (hc : c ∈ t.clients.captureRefs) : ∃ t', step t (.getLocked k c) = some t' ∧ Sound t' := by
  obtain ⟨o, i, ho, hi, hcap, hacc⟩ := Accounts.captureGetLocked ht.balanced hc k
  refine ⟨_, congrArg (Option.map _) ho, ?_, ?_, ?_, ht.returned⟩
  · have hrefs : t.clients.imageRefs + (held i + taken t.pending) =
        held i + (t.clients.imageRefs + taken t.pending) := add_left_comm _ _ _
    show o.Accounts t.clients.created (t.clients.imageRefs + (held i + taken t.pending))
      t.clients.captureRefs
    rw [hrefs]
    exact hacc
  · exact List.forall_mem_cons.mpr ⟨hc, ht.kept⟩
  · exact List.forall_mem_cons.mpr
      ⟨hi, fun g hg => (captureGetUnlocked_congr hcap).trans (ht.slot g hg)⟩

theorem Sound.getUnlocked {g : PendingGetter} (ht : Sound t) (hg : g ∈ t.pending) :
    ∃ t', step t (.getUnlocked g) = some t' ∧ Sound t' := by
  have hmem : ∀ {g'}, g' ∈ t.pending.erase g → g' ∈ t.pending := List.mem_of_mem_erase
  refine ⟨⟨{ t.clients with imageRefs := held g.taken + t.clients.imageRefs },
    t.pending.erase g, ⟨g.taken, g.taken⟩ :: t.returned⟩, ?_, ?_, ?_, ?_, ?_⟩
  · rw [step, if_pos hg, ht.slot g hg]
    rfl
  · have hrefs : held g.taken + t.clients.imageRefs + taken (t.pending.erase g) =
        t.clients.imageRefs + taken t.pending := by
      rw [taken, taken, ← List.sum_map_erase _ hg, add_comm (held g.taken), add_assoc]
    show t.clients.store.Accounts t.clients.created
      (held g.taken + t.clients.imageRefs + taken (t.pending.erase g)) t.clients.captureRefs
    rw [hrefs]
    exact ht.balanced
  · exact fun g' hg' => ht.kept g' (hmem hg')
  · exact fun g' hg' => ht.slot g' (hmem hg')
  · exact List.forall_mem_cons.mpr ⟨rfl, ht.returned⟩

theorem step_sound {a : ThreadStep} (ht : Sound t) (ha : t.Allowed a ∧ t.Undisturbed a) :
    ∃ t', step t a = some t' ∧ Sound t' := by
  cases a with
  | call call => exact ht.call ha.1 ha.2
  | getLocked k capture => exact ht.getLocked ha.1
  | getUnlocked getter => exact ht.getUnlocked ha.1

end Threads

/-- If no setter puts another image into a slot between the two steps of its getter, every
getter returns the image it has taken a reference to.  The count of an image is then the
number of references in the hands of clients, of getters on their way and of slots. -/
theorem getters_return_taken {steps : List ThreadStep}
    (hsteps : Steps.Along Threads.step (fun t a => t.Allowed a ∧ t.Undisturbed a) .initial steps) :
    ∃ t, Threads.run .initial steps = some t ∧
      (∀ r ∈ t.returned, r.image = r.taken) ∧
      ∀ r ∈ t.clients.created, ∀ context, t.clients.store.image r.image = some context →
        context.refCount = t.clients.imageRefs.count r.image +
          (Threads.taken t.pending).count r.image +
          t.clients.store.slotImages.count r.image := by
  obtain ⟨t, hrun, ht⟩ :=
    Steps.run_total (fun _ _ => Threads.step_sound) steps Threads.sound_initial hsteps
  refine ⟨t, hrun, ht.returned, fun r hr context hi => ?_⟩
  rw [ht.balanced.images.count r hr context hi]
  show ((Multiset.count r.image (t.clients.imageRefs + Threads.taken t.pending +
    t.clients.store.slotImages) : Nat) : Int) = _
  rw [Multiset.count_add, Multiset.count_add]
  rfl

/-- A getter with another client's call between its steps. -/
theorem getters_return_taken_undisturbed :
    ∃ t, Threads.run .initial
        [.call (.imageCreateFromBuffer .custom8 1 1 1 (some 64) 1 none 0 true true),
          .call (.captureCreate true), .call (.captureSet .color ⟨0⟩ (some ⟨0⟩)),
          .getLocked .color ⟨0⟩, .call (.imageDecRef ⟨0⟩),
          .getUnlocked ⟨.color, ⟨0⟩, some ⟨0⟩⟩] = some t ∧
      ∀ r ∈ t.returned, r.image = r.taken := by
  have himage : (⟨0⟩ : ImageHandle) ∈ held (some (⟨0⟩ : ImageHandle)) + 0 := by decide
  have hcap : (⟨0⟩ : CaptureHandle) ∈ held (some (⟨0⟩ : CaptureHandle)) + 0 := by decide
  obtain ⟨t, hrun, hreturned, -⟩ := @getters_return_taken
    [.call (.imageCreateFromBuffer .custom8 1 1 1 (some 64) 1 none 0 true true),
      .call (.captureCreate true), .call (.captureSet .color ⟨0⟩ (some ⟨0⟩)),
      .getLocked .color ⟨0⟩, .call (.imageDecRef ⟨0⟩), .getUnlocked ⟨.color, ⟨0⟩, some ⟨0⟩⟩]
    (.cons rfl ⟨trivial, trivial⟩ (.cons rfl ⟨trivial, trivial⟩
      (.cons rfl ⟨⟨hcap, fun i hi => Option.some.inj hi ▸ himage⟩, nofun⟩
        (.cons rfl ⟨hcap, trivial⟩ (.cons rfl ⟨himage, trivial⟩
          (.cons rfl ⟨List.mem_cons_self, trivial⟩ trivial))))))
  exact ⟨t, hrun, hreturned⟩

/-- A setter between the two steps of a getter: the getter returns the new image, and has taken
its reference to the old one.  The old image has a reference that nobody will release, and the
new one is in the hands of its client twice and in the slot, but counts two references. -/
theorem setter_between_steps_of_getter :
    ∃ t, Threads.run .initial
        [.call (.imageCreateFromBuffer .custom8 1 1 1 (some 64) 1 none 0 true true),
          .call (.imageCreateFromBuffer .custom8 1 1 1 (some 128) 1 none 0 true true),
          .call (.captureCreate true), .call (.captureSet .color ⟨0⟩ (some ⟨0⟩)),
          .getLocked .color ⟨0⟩, .call (.captureSet .color ⟨0⟩ (some ⟨1⟩)),
          .getUnlocked ⟨.color, ⟨0⟩, some ⟨0⟩⟩] = some t ∧
      Steps.Along Threads.step Threads.Allowed .initial
        [.call (.imageCreateFromBuffer .custom8 1 1 1 (some 64) 1 none 0 true true),
          .call (.imageCreateFromBuffer .custom8 1 1 1 (some 128) 1 none 0 true true),
          .call (.captureCreate true), .call (.captureSet .color ⟨0⟩ (some ⟨0⟩)),
          .getLocked .color ⟨0⟩, .call (.captureSet .color ⟨0⟩ (some ⟨1⟩)),
          .getUnlocked ⟨.color, ⟨0⟩, some ⟨0⟩⟩] ∧
      t.returned = [⟨some ⟨0⟩, some ⟨1⟩⟩] ∧ t.pending = [] ∧
      ((t.clients.store.image ⟨0⟩).map (·.refCount) = some 2 ∧
        t.clients.imageRefs.count ⟨0⟩ + t.clients.store.slotImages.count ⟨0⟩ = 1) ∧
      (t.clients.store.image ⟨1⟩).map (·.refCount) = some 2 ∧
        t.clients.imageRefs.count ⟨1⟩ + t.clients.store.slotImages.count ⟨1⟩ = 3 := by
  have himage : ∀ h : ImageHandle, h.id < 2 →
      h ∈ held (some (⟨1⟩ : ImageHandle)) + (held (some (⟨0⟩ : ImageHandle)) + 0) := by
    rintro ⟨_ | _ | n⟩ hlt
    · decide
    · decide
    · exact absurd hlt (by simp)
  have hcap : (⟨0⟩ : CaptureHandle) ∈ held (some (⟨0⟩ : CaptureHandle)) + 0 := by decide
  refine ⟨_, rfl, ?_, rfl, rfl, ⟨rfl, rfl⟩, rfl, rfl⟩
  exact .cons rfl trivial (.cons rfl trivial (.cons rfl trivial
    (.cons rfl ⟨hcap, fun i hi => Option.some.inj hi ▸ himage _ (by decide)⟩ (.cons rfl hcap
      (.cons rfl ⟨hcap, fun i hi => Option.some.inj hi ▸ himage _ (by decide)⟩
        (.cons rfl List.mem_cons_self trivial))))))

end ZsaSdk
