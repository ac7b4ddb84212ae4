import ZsaSdk.Types
import ZsaSdk.Lib.Steps

/-!
# The allocator

The first part of `allocator.c`.  Buffers come from a pair of callbacks that the user can
replace at any time.  The allocator asks for 32 bytes more than its caller, stores the
source of the allocation, the free callback and its context in them, and hands out the
address behind.  When a buffer is freed this header says which counter to decrement and
which callback to call.

*Memory.*  `memory a` is the header whose 32 bytes stand at address `a`.  It is `none` if
these bytes were never written as a header, or if a later header overwrote some of them.

*Callbacks.*  A callback is known by its identity.  What an allocate callback answers is up
to it, and is given with the call: the block and the context, or nothing if it returns
null.  `calls` records the calls made; the code does not read it.
-/

namespace ZsaSdk

/-- `allocation_source_t`.  The last two have no counter.  A C enumeration can hold any other
value as well. -/
inductive AllocationSource where
  | user
  | depth
  | color
  | imu
  | usbDepth
  | usbImu
  | comDepth
  | comImu
  | unknown (value : Int32)
deriving DecidableEq, Repr

/-- The source lies between `ALLOCATION_SOURCE_USER` and `ALLOCATION_SOURCE_USB_IMU`. -/
def AllocationSource.counted : AllocationSource → Bool
  | .user | .depth | .color | .imu | .usbDepth | .usbImu => true
  | .comDepth | .comImu | .unknown _ => false

/-- A non-null `zsa_memory_allocate_cb_t`. -/
inductive AllocateCb where
  | defaultAlloc
  | user (id : Nat)
deriving DecidableEq, Repr

/-- A non-null `zsa_memory_destroy_cb_t`. -/
inductive DestroyCb where
  | defaultFree
  | user (id : Nat)
deriving DecidableEq, Repr

/-- `allocation_context_t` -/
structure AllocationContext where
  source : AllocationSource
  free : DestroyCb
  freeContext : Nat
deriving DecidableEq, Repr

/-- A call of a callback, with what it answers. -/
inductive CallbackCall where
  | allocate (cb : AllocateCb) (size : Nat) (answer : Option (Nat × Nat))
  | free (cb : DestroyCb) (buffer context : Nat)
deriving DecidableEq, Repr

/-- The globals of `allocator.c`, and the headers in memory. -/
structure Allocator where
  alloc : AllocateCb
  free : DestroyCb
  /-- `g_allocated_image_count_user` and its five siblings. -/
  allocatedImageCount : AllocationSource → Int
  /-- `g_allocator_sessions` -/
  allocatorSessions : Int
  memory : Nat → Option AllocationContext
  calls : List CallbackCall

/-- `sizeof(allocation_context_t)` -/
def allocationContextSize : Nat := 32

/-- `alloc_size + sizeof(allocation_context_t)` as a `size_t`. -/
def requiredBytes (allocSize : UInt64) : UInt64 := allocSize + UInt64.ofNat allocationContextSize

/-- `allocator_alloc` gets past the checks of its arguments, and asks the callback. -/
def asksCallback (source : AllocationSource) (allocSize : UInt64) : Bool :=
  source.counted && allocSize != 0 && !(requiredBytes allocSize > 2147483647)

/-- `memcpy` of a header to an address. -/
def writeHeader (memory : Nat → Option AllocationContext) (fullBuffer : Nat)
    (context : AllocationContext) (a : Nat) : Option AllocationContext :=
  if a = fullBuffer then some context
  else if a < fullBuffer + allocationContextSize ∧ fullBuffer < a + allocationContextSize then none
  else memory a

namespace Allocator

/-- The globals before anything has run.  `allocator_global_init` sets the two callbacks. -/
def initial : Allocator where
  alloc := .defaultAlloc
  free := .defaultFree
  allocatedImageCount := fun _ => 0
  allocatorSessions := 0
  memory := fun _ => none
  calls := []

/-- `allocator_initialize` -/
def allocatorInitialize (g : Allocator) : Allocator :=
  { g with allocatorSessions := g.allocatorSessions + 1 }

/-- `allocator_deinitialize` -/
def allocatorDeinitialize (g : Allocator) : Allocator :=
  { g with allocatorSessions := g.allocatorSessions - 1 }

/-- `allocator_set_allocator` -/
def allocatorSetAllocator (g : Allocator) (allocate : Option AllocateCb)
    (free : Option DestroyCb) : Allocator × Result :=
  if allocate.isNone && free.isSome then (g, .failed)
  else if allocate.isSome && free.isNone then (g, .failed)
  else ({ g with alloc := allocate.getD .defaultAlloc, free := free.getD .defaultFree }, .succeeded)

/-- Add to the counter of a source. -/
def addCount (g : Allocator) (source : AllocationSource) (n : Int) : Allocator :=
  { g with
    allocatedImageCount := fun s =>
      if s = source then g.allocatedImageCount s + n else g.allocatedImageCount s }

/-- Call the allocate callback.  `default_alloc` sets the context to null whatever `malloc`
returns. -/
def callAlloc (g : Allocator) (size : Nat) (answer : Option (Nat × Nat)) :
    Allocator × Option (Nat × Nat) :=
  let answer := match g.alloc with
    | .defaultAlloc => answer.map fun block => (block.1, 0)
    | .user _ => answer
  ({ g with calls := g.calls ++ [.allocate g.alloc size answer] }, answer)

/-- `allocator_alloc`.  The counter is incremented before the callback is called. -/
def allocatorAlloc (g : Allocator) (source : AllocationSource) (allocSize : UInt64)
    (answer : Option (Nat × Nat)) : Allocator × Option Nat :=
  if source.counted = false then (g, none)
  else if allocSize = 0 then (g, none)
  else if requiredBytes allocSize > 2147483647 then (g, none)
  else
    let g := g.addCount source 1
    let (g, block) := g.callAlloc (requiredBytes allocSize).toNat answer
    match block with
    | none => (g, none)
    | some (fullBuffer, userContext) =>
        let memory := writeHeader g.memory fullBuffer ⟨source, g.free, userContext⟩
        ({ g with memory }, some (fullBuffer + allocationContextSize))

/-- `allocator_free`.  There is no result if the bytes in front of the buffer are not a
header; the test for a null buffer comes after they have been read. -/
def allocatorFree (g : Allocator) (buffer : Nat) : Option Allocator :=
  if buffer < allocationContextSize then none
  else
    let fullBuffer := buffer - allocationContextSize
    (g.memory fullBuffer).map fun context =>
      if context.source.counted = false then g
      else
        let g := g.addCount context.source (-1)
        { g with calls := g.calls ++ [.free context.free fullBuffer context.freeContext] }

/-- The sum of the six counters. -/
def totalCount (g : Allocator) : Int :=
  g.allocatedImageCount .user + g.allocatedImageCount .depth + g.allocatedImageCount .color +
    g.allocatedImageCount .imu + g.allocatedImageCount .usbDepth + g.allocatedImageCount .usbImu

/-- `allocator_test_for_leaks`: what it returns, and whether its assertions hold. -/
def allocatorTestForLeaks (g : Allocator) : Int × Bool :=
  if g.allocatorSessions ≠ 0 then (0, true)
  else
    (g.totalCount,
      g.allocatedImageCount .user == 0 && g.allocatedImageCount .color == 0 &&
        g.allocatedImageCount .depth == 0 && g.allocatedImageCount .imu == 0 &&
        g.allocatedImageCount .usbDepth == 0 && g.allocatedImageCount .usbImu == 0)

end Allocator

/-! ## Callers of the allocator

A run is a sequence of calls, one at a time.  The record of a run keeps the pair of
callbacks last registered, every buffer handed out with the pair and the answer it came
from, and which of them were given back.  Callers free live buffers only, and close only
sessions that are open.  An allocate callback never returns memory that is still in use. -/

/-- Two callbacks that were registered together. -/
structure CallbackPair where
  alloc : AllocateCb
  free : DestroyCb
deriving DecidableEq, Repr

/-- A buffer that was handed out: what was asked for, the pair registered at the time, and
what its allocate callback answered. -/
structure Allocation where
  source : AllocationSource
  allocSize : UInt64
  pair : CallbackPair
  fullBuffer : Nat
  context : Nat
deriving DecidableEq, Repr

namespace Allocation

/-- The address handed out. -/
def buffer (a : Allocation) : Nat := a.fullBuffer + allocationContextSize

/-- The free call that releases the buffer. -/
def release (a : Allocation) : CallbackCall := .free a.pair.free a.fullBuffer a.context

/-- The allocate call the buffer comes from. -/
def origin (a : Allocation) : CallbackCall :=
  .allocate a.pair.alloc (requiredBytes a.allocSize).toNat (some (a.fullBuffer, a.context))

/-- The block at `fullBuffer` with this many bytes has none in common with the block of `a`. -/
def apart (a : Allocation) (fullBuffer size : Nat) : Bool :=
  fullBuffer + size ≤ a.fullBuffer ||
    a.fullBuffer + (requiredBytes a.allocSize).toNat ≤ fullBuffer

end Allocation

/-- A call of the allocator.  Both callbacks of `allocator_set_allocator` may be null. -/
inductive AllocatorCall where
  | beginSession
  | endSession
  | setAllocator (allocate : Option AllocateCb) (free : Option DestroyCb)
  | alloc (source : AllocationSource) (allocSize : UInt64) (answer : Option (Nat × Nat))
  | free (buffer : Nat)
deriving DecidableEq, Repr

/-- The allocator and the record of the calls made so far. -/
structure AllocatorRun where
  globals : Allocator
  current : CallbackPair
  /-- The sessions opened and not yet closed. -/
  opened : Nat
  /-- Every buffer handed out, in order. -/
  returned : List Allocation
  live : List Allocation
  /-- The buffers given back, in order. -/
  freed : List Allocation
  /-- The sources of the calls whose allocate callback returned null. -/
  refused : List AllocationSource

namespace AllocatorRun

/-- Before any call. -/
def initial : AllocatorRun := ⟨.initial, ⟨.defaultAlloc, .defaultFree⟩, 0, [], [], [], []⟩

/-- Record a buffer that was handed out. -/
def handOut (s : AllocatorRun) (g : Allocator) (a : Allocation) : AllocatorRun :=
  { s with globals := g, returned := s.returned ++ [a], live := a :: s.live }

/-- The pair that `allocator_set_allocator` is to register. -/
def requestedPair (allocate : Option AllocateCb) (free : Option DestroyCb) : CallbackPair :=
  ⟨allocate.getD .defaultAlloc, free.getD .defaultFree⟩

/-- One call.  There is no result if the caller may not make it, or if what the callback
answers is memory in use. -/
def step (s : AllocatorRun) : AllocatorCall → Option AllocatorRun
  | .beginSession =>
      some { s with globals := s.globals.allocatorInitialize, opened := s.opened + 1 }
  | .endSession =>
      if s.opened = 0 then none
      else some { s with globals := s.globals.allocatorDeinitialize, opened := s.opened - 1 }
  | .setAllocator allocate free =>
      let (g, result) := s.globals.allocatorSetAllocator allocate free
      some { s with
        globals := g
        current := if result = .succeeded then requestedPair allocate free else s.current }
  | .alloc source allocSize answer =>
      let (g, buffer) := s.globals.allocatorAlloc source allocSize answer
      match buffer, answer with
      | some _, some (fullBuffer, context) =>
          if s.live.all (·.apart fullBuffer (requiredBytes allocSize).toNat) then
            let context := if s.current.alloc = .defaultAlloc then 0 else context
            some (s.handOut g ⟨source, allocSize, s.current, fullBuffer, context⟩)
          else none
      | _, _ =>
          some { s with
            globals := g
            refused :=
              if asksCallback source allocSize then s.refused ++ [source] else s.refused }
  | .free buffer =>
      match s.live.find? (·.buffer = buffer) with
      | none => none
      | some a =>
          (s.globals.allocatorFree buffer).map fun g =>
            { s with globals := g, live := s.live.erase a, freed := s.freed ++ [a] }

/-- A sequence of calls. -/
def run (s : AllocatorRun) (calls : List AllocatorCall) : Option AllocatorRun :=
  Steps.run step s calls

end AllocatorRun

end ZsaSdk
