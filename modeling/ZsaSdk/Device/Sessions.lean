import ZsaSdk.Device.Model
import ZsaSdk.Lib.Steps

/-!
# The session counter

`zsa_device_open` counts a session before it creates anything, and relies on
`zsa_device_close` to take it back when a creation fails.  If the context of the device itself
cannot be allocated there is no handle to close, `zsa_device_close` returns at once, and the
session stays counted for good.  So the counter is the number of open devices and of the calls
that failed this way (`Counted`).
-/

namespace ZsaSdk

namespace Allocator

/-- `allocator_test_for_leaks` reports what is still counted, whatever that is. -/
def ChecksForLeaks (g : Allocator) : Prop :=
  ∀ count : AllocationSource → Int,
    ({ g with allocatedImageCount := count } : Allocator).allocatorTestForLeaks.1 =
      ({ g with allocatedImageCount := count } : Allocator).totalCount

theorem checksForLeaks_iff {g : Allocator} : g.ChecksForLeaks ↔ g.allocatorSessions = 0 := by
  constructor
  · intro h
    by_contra hne
    have hone := h fun _ => 1
    rw [allocatorTestForLeaks, if_pos hne] at hone
    exact absurd hone (by decide : (0 : Int) ≠ 1 + 1 + 1 + 1 + 1 + 1)
  · intro h count
    rw [allocatorTestForLeaks, if_neg (not_not_intro h)]

end Allocator

/-! ## Runs -/

/-- A call of the interface.  A device is closed with a handle that was returned for it. -/
inductive SdkCall where
  | openDevice (index : UInt32) (o : OpenOutcome)
  | closeDevice (handle : DeviceHandle)

/-- The call does not fail to allocate the context of a device. -/
def SdkCall.getsContext : SdkCall → Bool
  | .openDevice _ o => o.contextOk
  | .closeDevice _ => true

/-- The devices, and the handles that were returned and not yet closed. -/
structure SdkRun (Q : Type) where
  sdk : Sdk Q
  opened : List DeviceHandle

namespace SdkRun

variable {Q : Type}

/-- Before any call. -/
def initial : SdkRun Q := ⟨⟨[], .initial⟩, []⟩

section Step

variable [QueueApi Q]

/-- One call.  There is no result if the handle is not that of an open device. -/
def step (containerId : Option Guid) (s : SdkRun Q) : SdkCall → Option (SdkRun Q)
  | .openDevice index o =>
      match s.sdk.zsaDeviceOpen containerId index o with
      | (sdk, none) => some { s with sdk }
      | (sdk, some handle) => some ⟨sdk, s.opened ++ [handle]⟩
  | .closeDevice handle =>
      if handle ∈ s.opened then
        some ⟨s.sdk.zsaDeviceClose (some handle), s.opened.erase handle⟩
      else none

/-- A sequence of calls. -/
def run (containerId : Option Guid) (s : SdkRun Q) (calls : List SdkCall) : Option (SdkRun Q) :=
  Steps.run (step containerId) s calls

end Step

/-! ## The invariant -/

/-- The handles returned are those of the devices in the table, and the counter exceeds their
number by `lost`. -/
structure Counted (lost : Nat) (s : SdkRun Q) : Prop where
  device : ∀ h ∈ s.opened, ∃ d, Table.lookup s.sdk.devices h.id = some d
  nodup : s.opened.Nodup
  sessions : s.sdk.allocator.allocatorSessions = s.opened.length + lost

theorem counted_initial : Counted 0 (initial : SdkRun Q) where
  device := nofun
  nodup := List.nodup_nil
  sessions := rfl

variable {s : SdkRun Q} {lost : Nat}

/-- A call that failed without a context leaves its session behind. -/
theorem Counted.lose (h : Counted lost s) : Counted (lost + 1)
    { s with sdk := { s.sdk with allocator := s.sdk.allocator.allocatorInitialize } } where
  device := h.device
  nodup := h.nodup
  sessions := by
    have hs := h.sessions
    simp only [Allocator.allocatorInitialize]
    omega

/-- A call that failed later leaves a hole in the table. -/
theorem Counted.fail (h : Counted lost s) : Counted lost
    { s with sdk := ⟨s.sdk.devices ++ [none],
      s.sdk.allocator.allocatorInitialize.allocatorDeinitialize⟩ } where
  device k hk := by
    obtain ⟨d, hd⟩ := h.device k hk
    exact ⟨d, (Table.lookup_append_none _ _).trans hd⟩
  nodup := h.nodup
  sessions := by
    have hs := h.sessions
    simp only [Allocator.allocatorInitialize, Allocator.allocatorDeinitialize]
    omega

/-- A device that was opened gets a handle of its own. -/
theorem Counted.opens (h : Counted lost s) (d : ZsaContext Q) : Counted lost
    ⟨⟨s.sdk.devices ++ [some d], s.sdk.allocator.allocatorInitialize⟩,
      s.opened ++ [⟨s.sdk.devices.length⟩]⟩ where
  device k hk := by
    rcases List.mem_append.mp hk with hk | hk
    · obtain ⟨e, he⟩ := h.device k hk
      exact ⟨e, (Table.lookup_append_ne (Table.lt_of_lookup he).ne _).trans he⟩
    · obtain rfl := List.mem_singleton.mp hk
      exact ⟨d, Table.lookup_append_self _ _⟩
  nodup := by
    rw [List.nodup_append]
    refine ⟨h.nodup, List.nodup_singleton _, ?_⟩
    rintro k hk j hj rfl
    obtain rfl := List.mem_singleton.mp hj
    obtain ⟨e, he⟩ := h.device _ hk
    rw [Table.lookup_length] at he
    cases he
  sessions := by
    have hs := h.sessions
    simp only [Allocator.allocatorInitialize, List.length_append, List.length_singleton]
    omega

/-- A device that is closed takes its session with it. -/
theorem Counted.closes (h : Counted lost s) {k : DeviceHandle} (hk : k ∈ s.opened) : Counted lost
    ⟨⟨s.sdk.devices.set k.id none, s.sdk.allocator.allocatorDeinitialize⟩, s.opened.erase k⟩ where
  device j hj := by
    obtain ⟨hne, hj⟩ := h.nodup.mem_erase_iff.mp hj
    obtain ⟨d, hd⟩ := h.device j hj
    have hid : k.id ≠ j.id := fun he => hne (congrArg DeviceHandle.mk he.symm)
    exact ⟨d, (Table.lookup_set_ne hid none).trans hd⟩
  nodup := h.nodup.erase k
  sessions := by
    have hs := h.sessions
    have hlen := List.length_erase_add_one hk
    simp only [Allocator.allocatorDeinitialize]
    omega

end SdkRun

/-! ## Steps -/

namespace Sdk

variable {Q : Type} [QueueApi Q]

/-- The three ways in which `zsa_device_open` ends. -/
theorem zsaDeviceOpen_cases (s : Sdk Q) (containerId : Option Guid) (index : UInt32)
    (o : OpenOutcome) :
    (o.contextOk = false ∧ s.zsaDeviceOpen containerId index o =
      ({ s with allocator := s.allocator.allocatorInitialize }, none)) ∨
    (o.contextOk = true ∧ s.zsaDeviceOpen containerId index o =
      (⟨s.devices ++ [none], s.allocator.allocatorInitialize.allocatorDeinitialize⟩, none)) ∨
    ∃ d, o.contextOk = true ∧ s.zsaDeviceOpen containerId index o =
      (⟨s.devices ++ [some d], s.allocator.allocatorInitialize⟩, some ⟨s.devices.length⟩) := by
  cases hc : o.contextOk with
  | false =>
      refine Or.inl ⟨rfl, ?_⟩
      rw [zsaDeviceOpen, hc]
      rfl
  | true =>
      cases hp : (ZsaContext.createParts containerId o : ZsaContext Q × Result) with
      | mk d result =>
          cases result with
          | failed =>
              refine Or.inr (Or.inl ⟨rfl, ?_⟩)
              simp only [zsaDeviceOpen, hc, Bool.true_eq_false, if_false, hp, zsaDeviceClose,
                device, Table.lookup_append_self]
              rw [List.set_append_right _ _ (Nat.le_refl _), Nat.sub_self, List.set_cons_zero]
          | succeeded =>
              refine Or.inr (Or.inr ⟨d, rfl, ?_⟩)
              simp only [zsaDeviceOpen, hc, Bool.true_eq_false, if_false, hp]

end Sdk

namespace SdkRun

variable {Q : Type} [QueueApi Q] {s s' : SdkRun Q} {containerId : Option Guid} {lost : Nat}

/-- One call. -/
theorem Counted.step (h : Counted lost s) {call : SdkCall}
    (hstep : s.step containerId call = some s') :
    Counted (lost + if call.getsContext then 0 else 1) s' := by
  cases call with
  | openDevice index o =>
      rcases s.sdk.zsaDeviceOpen_cases containerId index o with ⟨hc, he⟩ | ⟨hc, he⟩ | ⟨d, hc, he⟩
      · simp only [SdkRun.step, he, Option.some.injEq] at hstep
        subst hstep
        rw [SdkCall.getsContext, hc]
        exact h.lose
      · simp only [SdkRun.step, he, Option.some.injEq] at hstep
        subst hstep
        rw [SdkCall.getsContext, hc]
        exact h.fail
      · simp only [SdkRun.step, he, Option.some.injEq] at hstep
        subst hstep
        rw [SdkCall.getsContext, hc]
        exact h.opens d
  | closeDevice k =>
      simp only [SdkRun.step] at hstep
      split at hstep
      · next hk =>
        obtain ⟨d, hd⟩ := h.device k hk
        obtain rfl := Option.some.inj hstep
        simp only [Sdk.zsaDeviceClose, Sdk.device, hd]
        exact h.closes hk
      · cases hstep

/-- A run, by induction on its calls.  The counter keeps every session that was lost. -/
theorem Counted.run (calls : List SdkCall) : ∀ {s : SdkRun Q} {lost : Nat}, Counted lost s →
    s.run containerId calls = some s' → Counted (lost + calls.countP (!·.getsContext)) s' := by
  induction calls with
  | nil =>
      intro s lost h hrun
      obtain rfl := Option.some.inj hrun
      exact h
  | cons call calls ih =>
      intro s lost h hrun
      obtain ⟨v, hv, hrest⟩ := Steps.run_cons hrun
      have hsum : lost + (if call.getsContext then 0 else 1) + calls.countP (!·.getsContext) =
          lost + (call :: calls).countP (!·.getsContext) := by
        rw [List.countP_cons]
        cases call.getsContext with
        | true => rfl
        | false => exact Nat.add_right_comm _ _ _
      exact hsum ▸ ih (h.step hv) hrest

end SdkRun

/-- For every sequence of calls that open and close devices, whatever fails in them: the session
counter is the number of devices opened and not yet closed, and the leak test checks exactly
when there is none, if and only if no call failed to allocate the context of its device. -/
theorem sessions_track_open_devices_iff (containerId : Option Guid) (calls : List SdkCall)
    {s : SdkRun QueueContext} (hrun : SdkRun.initial.run containerId calls = some s) :
    (s.sdk.allocator.allocatorSessions = s.opened.length ∧
      (s.sdk.allocator.ChecksForLeaks ↔ s.opened = [])) ↔
    ∀ call ∈ calls, call.getsContext = true := by
  have hcounted := (SdkRun.counted_initial.run calls hrun).sessions
  have hlost : calls.countP (!·.getsContext) = 0 ↔ ∀ call ∈ calls, call.getsContext = true := by
    simp only [List.countP_eq_zero, Bool.not_eq_true', Bool.not_eq_false]
  rw [← hlost, Allocator.checksForLeaks_iff, ← List.length_eq_zero_iff]
  omega

/-- Captures without images. -/
def emptyHeap : Heap := ⟨fun _ => ⟨none, none⟩, fun _ => 0⟩

/-- Two devices are opened, a third fails to open its camera, and the first is closed. -/
theorem sessions_track_open_devices_failed_camera :
    ∃ s : SdkRun QueueContext, SdkRun.initial.run (some Guid.zero)
        [.openDevice 0 (.ok emptyHeap), .openDevice 1 (.ok emptyHeap),
          .openDevice 2
            { OpenOutcome.ok emptyHeap with color := ⟨true, true, ⟨true, true, false⟩⟩ },
          .closeDevice ⟨0⟩] = some s ∧
      s.sdk.allocator.allocatorSessions = s.opened.length ∧ s.opened = [⟨1⟩] := by
  obtain ⟨s, hs⟩ : ∃ s : SdkRun QueueContext, SdkRun.initial.run (some Guid.zero)
      [.openDevice 0 (.ok emptyHeap), .openDevice 1 (.ok emptyHeap),
        .openDevice 2
          { OpenOutcome.ok emptyHeap with color := ⟨true, true, ⟨true, true, false⟩⟩ },
        .closeDevice ⟨0⟩] = some s := ⟨_, rfl⟩
  have hopened : s.opened = [⟨1⟩] := by
    rw [← Option.some.inj hs]
    rfl
  refine ⟨s, hs, ((sessions_track_open_devices_iff _ _ hs).mpr ?_).1, hopened⟩
  simp [SdkCall.getsContext, OpenOutcome.ok]

/-- The only device fails to get its context.  No device is open, the counter is 1, and the
leak test does not look at a buffer that is still allocated. -/
theorem session_lost_without_context :
    ∃ s : SdkRun QueueContext, SdkRun.initial.run none
        [.openDevice 0 { OpenOutcome.ok emptyHeap with contextOk := false }] = some s ∧
      s.opened = [] ∧ s.sdk.allocator.allocatorSessions = 1 ∧
      ({ s.sdk.allocator with
        allocatedImageCount := fun _ => 1 } : Allocator).allocatorTestForLeaks = (0, true) ∧
      ¬ s.sdk.allocator.ChecksForLeaks := by
  obtain ⟨s, hs⟩ : ∃ s : SdkRun QueueContext, SdkRun.initial.run none
      [.openDevice 0 { OpenOutcome.ok emptyHeap with contextOk := false }] = some s := ⟨_, rfl⟩
  have hsessions : s.sdk.allocator.allocatorSessions = 1 := by
    rw [← Option.some.inj hs]
    rfl
  refine ⟨s, hs, ?_, hsessions, ?_, ?_⟩
  · rw [← Option.some.inj hs]
    rfl
  · rw [← Option.some.inj hs]
    rfl
  · rw [Allocator.checksForLeaks_iff, hsessions]
    decide

end ZsaSdk
