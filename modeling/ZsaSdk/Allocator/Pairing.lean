import ZsaSdk.Allocator.Accounting

/-!
# Pairing of the allocate and free callbacks

Buffers of several allocators are live at once, and a buffer is often freed long after the
pair of callbacks it came from was replaced.  The header in front of it remembers the free
callback and the context.  `Recorded` says that the callbacks have been called exactly as
the record of the run demands; with the headers of `Sound` it gives
`callbacks_stay_paired`.
-/

namespace ZsaSdk

namespace CallbackCall

def isFree : CallbackCall → Bool
  | .free _ _ _ => true
  | .allocate _ _ _ => false

/-- An allocate call that was answered with a block. -/
def isAnswered : CallbackCall → Bool
  | .allocate _ _ (some _) => true
  | _ => false

end CallbackCall

/-- The pair was registered by one of the calls, or is the pair of default callbacks. -/
def CallbackPair.RegisteredBy (pair : CallbackPair) (calls : List AllocatorCall) : Prop :=
  pair = ⟨.defaultAlloc, .defaultFree⟩ ∨
    ∃ allocate free, .setAllocator allocate free ∈ calls ∧ allocate.isSome = free.isSome ∧
      pair = AllocatorRun.requestedPair allocate free

namespace AllocatorRun

variable {s s' : AllocatorRun} {call : AllocatorCall} {calls : List AllocatorCall}

/-- The record of the run and the callbacks called agree. -/
structure Recorded (calls : List AllocatorCall) (s : AllocatorRun) : Prop where
  perm : s.returned.Perm (s.freed ++ s.live)
  freeCalls : s.globals.calls.filter CallbackCall.isFree = s.freed.map Allocation.release
  allocateCalls : s.globals.calls.filter CallbackCall.isAnswered = s.returned.map Allocation.origin
  current : s.current.RegisteredBy calls
  registered : ∀ a ∈ s.returned, a.pair.RegisteredBy calls

theorem recorded_initial (calls : List AllocatorCall) : Recorded calls initial where
  perm := .nil
  freeCalls := rfl
  allocateCalls := rfl
  current := Or.inl rfl
  registered := nofun

theorem Recorded.step (h : Recorded calls s) (hs : Sound s) (hmem : call ∈ calls)
    (hstep : s.step call = some s') : Recorded calls s' := by
  cases stepped hstep with
  | began => exact ⟨h.perm, h.freeCalls, h.allocateCalls, h.current, h.registered⟩
  | ended _ => exact ⟨h.perm, h.freeCalls, h.allocateCalls, h.current, h.registered⟩
  | rejected _ => exact h
  | @registered allocate free hboth =>
      exact ⟨h.perm, h.freeCalls, h.allocateCalls, Or.inr ⟨allocate, free, hmem, hboth, rfl⟩,
        h.registered⟩
  | unasked _ => exact h
  | refused _ =>
      refine ⟨h.perm, ?_, ?_, h.current, h.registered⟩
      · rw [List.filter_append, h.freeCalls]
        exact List.append_nil _
      · rw [List.filter_append, h.allocateCalls]
        exact List.append_nil _
  | @handedOut source allocSize fullBuffer context g ha _ heq =>
      rw [Allocator.allocatorAlloc_answered _ _ _ ha, Allocator.contextOf, hs.alloc] at heq
      obtain rfl := (Prod.mk.inj heq).1
      refine ⟨?_, ?_, ?_, h.current, ?_⟩
      · exact (List.perm_append_singleton _ _).trans
          ((h.perm.cons _).trans List.perm_middle.symm)
      · show List.filter _ (s.globals.calls ++ _) = _
        rw [List.filter_append, h.freeCalls]
        exact List.append_nil _
      · show List.filter _ (s.globals.calls ++ _) = List.map _ (s.returned ++ _)
        rw [List.filter_append, List.map_append, h.allocateCalls]
        rfl
      · intro a hret
        rcases List.mem_append.mp hret with hret | hret
        · exact h.registered a hret
        · rw [List.mem_singleton.mp hret]
          exact h.current
  | @gaveBack a g ha hg =>
      rw [hs.allocatorFree ha] at hg
      obtain rfl := Option.some.inj hg
      refine ⟨?_, ?_, ?_, h.current, h.registered⟩
      · rw [List.append_assoc]
        exact h.perm.trans ((List.perm_cons_erase ha).append_left s.freed)
      · show List.filter _ (s.globals.calls ++ _) = List.map _ (s.freed ++ _)
        rw [List.filter_append, List.map_append, h.freeCalls]
        rfl
      · show List.filter _ (s.globals.calls ++ _) = _
        rw [List.filter_append, h.allocateCalls]
        exact List.append_nil _

theorem Recorded.run (hfit : ∀ call ∈ calls, call.Fits) (hrun : initial.run calls = some s) :
    Sound s ∧ Recorded calls s := by
  refine Steps.run_invariant (fun v => Sound v ∧ Recorded calls v)
    (fun call => call.Fits ∧ call ∈ calls) ?_ calls (fun call hc => ⟨hfit call hc, hc⟩)
    ⟨sound_initial, recorded_initial calls⟩ hrun
  rintro u call v ⟨hs, hr⟩ ⟨hf, hmem⟩ hstep
  exact ⟨hs.step hf hstep, hr.step hs hmem hstep⟩

end AllocatorRun

/-- In every run in which the headers fit their blocks: each buffer handed out is live or has been
given back, once.  It came from one answer of the allocate callback of a pair that was registered
together, and the free calls are, in order, one for each buffer given back, of the free callback of
its pair with the block and the context of that answer.  A live buffer will be released so as well,
whatever pair is in force by then.  A half-null pair is rejected and changes nothing. -/
theorem callbacks_stay_paired (calls : List AllocatorCall) {s : AllocatorRun}
    (hrun : AllocatorRun.initial.run calls = some s) (hfit : ∀ call ∈ calls, call.Fits) :
    s.returned.Perm (s.freed ++ s.live) ∧
    (∀ a ∈ s.returned, a.pair.RegisteredBy calls) ∧
    s.globals.calls.filter CallbackCall.isAnswered = s.returned.map Allocation.origin ∧
    s.globals.calls.filter CallbackCall.isFree = s.freed.map Allocation.release ∧
    (∀ a ∈ s.live, ∃ g, s.globals.allocatorFree a.buffer = some g ∧
      g.calls = s.globals.calls ++ [a.release]) ∧
    s.globals.alloc = s.current.alloc ∧ s.globals.free = s.current.free ∧
    ∀ allocate free, allocate.isSome ≠ free.isSome →
      s.globals.allocatorSetAllocator allocate free = (s.globals, .failed) := by
  obtain ⟨hs, hr⟩ := AllocatorRun.Recorded.run hfit hrun
  refine ⟨hr.perm, hr.registered, hr.allocateCalls, hr.freeCalls,
    fun a ha => ⟨_, hs.allocatorFree ha, rfl⟩, hs.alloc, hs.free, ?_⟩
  intro allocate free hne
  cases allocate with
  | none =>
      cases free with
      | none => exact absurd rfl hne
      | some f => rfl
  | some a =>
      cases free with
      | none => rfl
      | some f => exact absurd rfl hne

/-- Two buffers of two pairs, freed after both pairs were replaced. -/
theorem callbacks_stay_paired_replaced : ∃ s, AllocatorRun.initial.run
      [.alloc .user 16 (some (1000, 9)), .setAllocator (some (.user 1)) (some (.user 2)),
        .alloc .color 8 (some (2000, 5)), .setAllocator none (some (.user 3)),
        .setAllocator none none, .free 2032, .free 1032] = some s ∧
    s.globals.calls.filter CallbackCall.isFree =
      [.free (.user 2) 2000 5, .free .defaultFree 1000 0] := by
  obtain ⟨s, hs⟩ : ∃ s, AllocatorRun.initial.run
      [.alloc .user 16 (some (1000, 9)), .setAllocator (some (.user 1)) (some (.user 2)),
        .alloc .color 8 (some (2000, 5)), .setAllocator none (some (.user 3)),
        .setAllocator none none, .free 2032, .free 1032] = some s := ⟨_, rfl⟩
  obtain ⟨-, -, -, hfree, -⟩ := callbacks_stay_paired _ hs
    (by simp [AllocatorCall.Fits, allocationContextSize])
  refine ⟨s, hs, ?_⟩
  rw [hfree, ← Option.some.inj hs]
  rfl

end ZsaSdk
