import Mathlib.Data.List.Perm.Basic
import Mathlib.Algebra.Order.Ring.Nat
import ZsaSdk.Allocator.Model

/-!
# Accounting of the allocator

Six counters are to say how many buffers of each source are live.  `allocator_alloc`
increments the counter before it asks the allocate callback, and does not take it back if
the callback returns null, so each such call leaves its counter one too high for good
(`Sound.counts`).  In runs in which the header fits the block asked for, the counters are
exact precisely if no callback has returned null (`accounting_exact_iff`).

A size within 32 of `2 ^ 64` wraps around, and passes the check: the callback is asked for a block
that is too small, and the header is written past its end, over whatever lies there.  Runs in which
such a block is handed out are left out (`Fits`).

`Sound` is the invariant of the other runs.  It also holds what the pairing of callbacks rests
on: the header of every live buffer is still in memory as it was written, because the
blocks of live buffers are apart.
-/

namespace ZsaSdk

/-- The header fits the block, if the callback is asked for one and returns it: the sum does not
wrap around. -/
def AllocatorCall.Fits : AllocatorCall → Prop
  | .alloc source allocSize (some _) =>
      asksCallback source allocSize = true → allocSize.toNat + allocationContextSize < 2 ^ 64
  | _ => True

/-- The allocate callback is asked and returns null. -/
def AllocatorCall.Refused : AllocatorCall → Prop
  | .alloc source allocSize answer => asksCallback source allocSize = true ∧ answer = none
  | _ => False

/-! ## Sizes, headers and counters -/

theorem counted_of_asks {source : AllocationSource} {allocSize : UInt64}
    (h : asksCallback source allocSize = true) : source.counted = true := by
  cases hs : source.counted with
  | false => simp [asksCallback, hs] at h
  | true => rfl

theorem toNat_requiredBytes {allocSize : UInt64}
    (h : allocSize.toNat + allocationContextSize < 2 ^ 64) :
    (requiredBytes allocSize).toNat = allocSize.toNat + allocationContextSize := by
  have h32 : (UInt64.ofNat allocationContextSize).toNat = allocationContextSize := rfl
  rw [requiredBytes, UInt64.toNat_add, h32]
  exact Nat.mod_eq_of_lt h

theorem writeHeader_self (memory : Nat → Option AllocationContext) (b : Nat)
    (context : AllocationContext) : writeHeader memory b context b = some context :=
  if_pos rfl

/-- A header that lies apart from the one written stays. -/
theorem writeHeader_apart (memory : Nat → Option AllocationContext) {a b : Nat}
    (context : AllocationContext)
    (h : a + allocationContextSize ≤ b ∨ b + allocationContextSize ≤ a) :
    writeHeader memory b context a = memory a := by
  have h32 : allocationContextSize = 32 := rfl
  rw [writeHeader, if_neg (by omega), if_neg (by omega)]

namespace Allocator

theorem addCount_self (g : Allocator) (source : AllocationSource) (n : Int) :
    (g.addCount source n).allocatedImageCount source = g.allocatedImageCount source + n :=
  if_pos rfl

theorem addCount_ne (g : Allocator) {source other : AllocationSource} (n : Int)
    (h : other ≠ source) :
    (g.addCount source n).allocatedImageCount other = g.allocatedImageCount other := if_neg h

/-- What the allocate callback in force makes of a context. -/
def contextOf (g : Allocator) (context : Nat) : Nat :=
  if g.alloc = .defaultAlloc then 0 else context

theorem callAlloc_none (g : Allocator) (size : Nat) :
    g.callAlloc size none =
      ({ g with calls := g.calls ++ [.allocate g.alloc size none] }, none) := by
  cases h : g.alloc <;> simp [callAlloc, h]

theorem callAlloc_some (g : Allocator) (size fullBuffer context : Nat) :
    g.callAlloc size (some (fullBuffer, context)) =
      ({ g with
        calls := g.calls ++ [.allocate g.alloc size (some (fullBuffer, g.contextOf context))] },
        some (fullBuffer, g.contextOf context)) := by
  cases h : g.alloc <;> simp [callAlloc, contextOf, h]

/-- The checks of the arguments leave everything alone. -/
theorem allocatorAlloc_of_not_asks (g : Allocator) {source : AllocationSource}
    {allocSize : UInt64} (answer : Option (Nat × Nat))
    (h : asksCallback source allocSize = false) :
    g.allocatorAlloc source allocSize answer = (g, none) := by
  cases hs : source.counted with
  | false => simp [allocatorAlloc, hs]
  | true =>
      by_cases h0 : allocSize = 0
      · simp [allocatorAlloc, hs, h0]
      · have hgt : requiredBytes allocSize > 2147483647 := by
          simpa [asksCallback, hs, h0] using h
        simp [allocatorAlloc, hs, h0, hgt]

theorem allocatorAlloc_of_asks (g : Allocator) {source : AllocationSource} {allocSize : UInt64}
    (answer : Option (Nat × Nat)) (h : asksCallback source allocSize = true) :
    g.allocatorAlloc source allocSize answer =
      let r := (g.addCount source 1).callAlloc (requiredBytes allocSize).toNat answer
      match r.2 with
      | none => (r.1, none)
      | some (fullBuffer, userContext) =>
          ({ r.1 with memory := writeHeader r.1.memory fullBuffer ⟨source, r.1.free, userContext⟩ },
            some (fullBuffer + allocationContextSize)) := by
  simp only [asksCallback, Bool.and_eq_true, bne_iff_ne, Bool.not_eq_true',
    decide_eq_false_iff_not] at h
  obtain ⟨⟨hs, h0⟩, hle⟩ := h
  have hcounted : ¬ source.counted = false := by
    rw [hs]
    exact Bool.noConfusion
  exact (if_neg hcounted).trans ((if_neg h0).trans (if_neg hle))

/-- A callback that returns null leaves the counter incremented. -/
theorem allocatorAlloc_refused (g : Allocator) {source : AllocationSource} {allocSize : UInt64}
    (h : asksCallback source allocSize = true) :
    g.allocatorAlloc source allocSize none =
      ({ g.addCount source 1 with
        calls := g.calls ++ [.allocate g.alloc (requiredBytes allocSize).toNat none] }, none) := by
  rw [allocatorAlloc_of_asks g none h, callAlloc_none]
  rfl

theorem allocatorAlloc_answered (g : Allocator) {source : AllocationSource} {allocSize : UInt64}
    (fullBuffer context : Nat) (h : asksCallback source allocSize = true) :
    g.allocatorAlloc source allocSize (some (fullBuffer, context)) =
      ({ g.addCount source 1 with
        memory := writeHeader g.memory fullBuffer ⟨source, g.free, g.contextOf context⟩
        calls := g.calls ++ [.allocate g.alloc (requiredBytes allocSize).toNat
          (some (fullBuffer, g.contextOf context))] },
        some (fullBuffer + allocationContextSize)) := by
  rw [allocatorAlloc_of_asks g _ h, callAlloc_some]
  rfl

/-- The buffer handed out lies behind the header of the block answered. -/
theorem buffer_of_allocatorAlloc {g : Allocator} {source : AllocationSource} {allocSize : UInt64}
    {answer : Option (Nat × Nat)} {buffer : Nat}
    (h : (g.allocatorAlloc source allocSize answer).2 = some buffer) :
    answer.map (fun block => block.1 + allocationContextSize) = some buffer := by
  cases ha : asksCallback source allocSize with
  | false =>
      rw [allocatorAlloc_of_not_asks g answer ha] at h
      cases h
  | true =>
      cases answer with
      | none =>
          rw [allocatorAlloc_refused g ha] at h
          cases h
      | some block =>
          rw [allocatorAlloc_answered g block.1 block.2 ha] at h
          exact h

/-- Freeing a buffer with its header in place. -/
theorem allocatorFree_header (g : Allocator) {fullBuffer : Nat} {context : AllocationContext}
    (h : g.memory fullBuffer = some context) (hs : context.source.counted = true) :
    g.allocatorFree (fullBuffer + allocationContextSize) =
      some { g.addCount context.source (-1) with
        calls := g.calls ++ [.free context.free fullBuffer context.freeContext] } := by
  have hge : ¬ fullBuffer + allocationContextSize < allocationContextSize := by omega
  simp only [allocatorFree, hge, if_false, Nat.add_sub_cancel, h, Option.map_some, hs,
    Bool.true_eq_false]
  rfl

end Allocator

/-! ## What a call can do -/

namespace AllocatorRun

variable {s s' : AllocatorRun} {call : AllocatorCall}

/-- The outcomes of a call, each with what it requires. -/
inductive Stepped (s : AllocatorRun) : AllocatorCall → AllocatorRun → Prop where
  | began : Stepped s .beginSession
      { s with globals := s.globals.allocatorInitialize, opened := s.opened + 1 }
  | ended : s.opened ≠ 0 → Stepped s .endSession
      { s with globals := s.globals.allocatorDeinitialize, opened := s.opened - 1 }
  | rejected {allocate : Option AllocateCb} {free : Option DestroyCb} :
      allocate.isSome ≠ free.isSome → Stepped s (.setAllocator allocate free) s
  | registered {allocate : Option AllocateCb} {free : Option DestroyCb} :
      allocate.isSome = free.isSome → Stepped s (.setAllocator allocate free)
        { s with
          globals := { s.globals with
            alloc := (requestedPair allocate free).alloc
            free := (requestedPair allocate free).free }
          current := requestedPair allocate free }
  | unasked {source : AllocationSource} {allocSize : UInt64} {answer : Option (Nat × Nat)} :
      asksCallback source allocSize = false → Stepped s (.alloc source allocSize answer) s
  | refused {source : AllocationSource} {allocSize : UInt64} :
      asksCallback source allocSize = true → Stepped s (.alloc source allocSize none)
        { s with
          globals := { s.globals.addCount source 1 with
            calls := s.globals.calls ++
              [.allocate s.globals.alloc (requiredBytes allocSize).toNat none] }
          refused := s.refused ++ [source] }
  | handedOut {source : AllocationSource} {allocSize : UInt64} {fullBuffer context : Nat}
      {g : Allocator} :
      asksCallback source allocSize = true →
      (∀ a ∈ s.live, a.apart fullBuffer (requiredBytes allocSize).toNat = true) →
      s.globals.allocatorAlloc source allocSize (some (fullBuffer, context)) =
        (g, some (fullBuffer + allocationContextSize)) →
      Stepped s (.alloc source allocSize (some (fullBuffer, context)))
        (s.handOut g ⟨source, allocSize, s.current, fullBuffer,
          if s.current.alloc = .defaultAlloc then 0 else context⟩)
  | gaveBack {a : Allocation} {g : Allocator} : a ∈ s.live →
      s.globals.allocatorFree a.buffer = some g → Stepped s (.free a.buffer)
        { s with globals := g, live := s.live.erase a, freed := s.freed ++ [a] }

theorem stepped (h : s.step call = some s') : Stepped s call s' := by
  cases call with
  | beginSession => exact Option.some.inj h ▸ .began
  | endSession =>
      simp only [step] at h
      split at h
      · cases h
      next hopen => exact Option.some.inj h ▸ .ended hopen
  | setAllocator allocate free =>
      cases allocate <;> cases free <;>
        simp only [step, Allocator.allocatorSetAllocator, Option.some.injEq] at h <;> subst h
      · exact .registered rfl
      · exact .rejected (by simp)
      · exact .rejected (by simp)
      · exact .registered rfl
  | alloc source allocSize answer =>
      cases ha : asksCallback source allocSize with
      | false =>
          simp only [step, Allocator.allocatorAlloc_of_not_asks _ answer ha, ha,
            Bool.false_eq_true, if_false, Option.some.injEq] at h
          exact h ▸ .unasked ha
      | true =>
          cases answer with
          | none =>
              simp only [step, Allocator.allocatorAlloc_refused _ ha, ha, if_true,
                Option.some.injEq] at h
              exact h ▸ .refused ha
          | some block =>
              obtain ⟨fullBuffer, context⟩ := block
              have heq := s.globals.allocatorAlloc_answered fullBuffer context ha
              simp only [step, heq] at h
              obtain ⟨hall, h⟩ := Option.ite_none_right_eq_some.mp h
              exact Option.some.inj h ▸ .handedOut ha (List.all_eq_true.mp hall) heq
  | free buffer =>
      simp only [step] at h
      split at h
      · cases h
      next a hfind =>
          obtain ⟨g, hg, rfl⟩ := Option.map_eq_some_iff.mp h
          have hb : a.buffer = buffer := by simpa using List.find?_some hfind
          subst hb
          exact .gaveBack (List.mem_of_find?_eq_some hfind) hg

/-! ## The invariant -/

/-- What holds as long as every header fits its block. -/
structure Sound (s : AllocatorRun) : Prop where
  alloc : s.globals.alloc = s.current.alloc
  free : s.globals.free = s.current.free
  header : ∀ a ∈ s.live, s.globals.memory a.fullBuffer = some ⟨a.source, a.pair.free, a.context⟩
  counted : ∀ a ∈ s.live, a.source.counted = true
  size : ∀ a ∈ s.live, allocationContextSize ≤ (requiredBytes a.allocSize).toNat
  apart : s.live.Pairwise fun a b => b.apart a.fullBuffer (requiredBytes a.allocSize).toNat = true
  sessions : s.globals.allocatorSessions = s.opened
  refused : ∀ source ∈ s.refused, source.counted = true
  counts : ∀ source, s.globals.allocatedImageCount source =
    s.live.countP (·.source = source) + s.refused.count source

theorem sound_initial : Sound initial where
  alloc := rfl
  free := rfl
  header := nofun
  counted := nofun
  size := nofun
  apart := .nil
  sessions := rfl
  refused := nofun
  counts := fun _ => rfl

/-- A block apart from a live one leaves its header alone. -/
theorem Sound.header_handOut (h : Sound s) {a : Allocation} (ha : a ∈ s.live)
    {fullBuffer size : Nat} (context : AllocationContext) (hsize : allocationContextSize ≤ size)
    (hapart : a.apart fullBuffer size = true) :
    writeHeader s.globals.memory fullBuffer context a.fullBuffer =
      some ⟨a.source, a.pair.free, a.context⟩ := by
  rw [← h.header a ha]
  refine writeHeader_apart _ context ?_
  have hown := h.size a ha
  simp only [Allocation.apart, Bool.or_eq_true, decide_eq_true_eq] at hapart
  omega

theorem Sound.handOut (h : Sound s) {source : AllocationSource} {allocSize : UInt64}
    {fullBuffer context : Nat} {g : Allocator} (ha : asksCallback source allocSize = true)
    (hfit : allocSize.toNat + allocationContextSize < 2 ^ 64)
    (hapart : ∀ a ∈ s.live, a.apart fullBuffer (requiredBytes allocSize).toNat = true)
    (heq : s.globals.allocatorAlloc source allocSize (some (fullBuffer, context)) =
      (g, some (fullBuffer + allocationContextSize))) :
    Sound (s.handOut g ⟨source, allocSize, s.current, fullBuffer,
      if s.current.alloc = .defaultAlloc then 0 else context⟩) := by
  rw [Allocator.allocatorAlloc_answered _ _ _ ha] at heq
  obtain rfl := (Prod.mk.inj heq).1
  have hsize : allocationContextSize ≤ (requiredBytes allocSize).toNat := by
    rw [toNat_requiredBytes hfit]
    exact Nat.le_add_left _ _
  refine ⟨h.alloc, h.free, ?_, ?_, ?_, ?_, h.sessions, h.refused, ?_⟩
  · intro a hmem
    rcases List.mem_cons.mp hmem with rfl | hmem
    · show writeHeader _ fullBuffer _ fullBuffer = _
      rw [writeHeader_self, Allocator.contextOf, h.free, h.alloc]
    · exact h.header_handOut hmem _ hsize (hapart a hmem)
  · intro a hmem
    rcases List.mem_cons.mp hmem with rfl | hmem
    · exact counted_of_asks ha
    · exact h.counted a hmem
  · intro a hmem
    rcases List.mem_cons.mp hmem with rfl | hmem
    · exact hsize
    · exact h.size a hmem
  · exact List.pairwise_cons.mpr ⟨hapart, h.apart⟩
  · intro other
    have hcount := h.counts other
    by_cases hs : other = source
    · subst hs
      show (s.globals.addCount other 1).allocatedImageCount other = _
      rw [Allocator.addCount_self, hcount]
      simp only [AllocatorRun.handOut, List.countP_cons, decide_true, if_true]
      omega
    · show (s.globals.addCount source 1).allocatedImageCount other = _
      rw [Allocator.addCount_ne _ _ hs, hcount]
      simp [AllocatorRun.handOut, Ne.symm hs]

/-- A live buffer can be freed, and its own free callback is called with its own block. -/
theorem Sound.allocatorFree (h : Sound s) {a : Allocation} (ha : a ∈ s.live) :
    s.globals.allocatorFree a.buffer = some { s.globals.addCount a.source (-1) with
      calls := s.globals.calls ++ [a.release] } :=
  s.globals.allocatorFree_header (h.header a ha) (h.counted a ha)

theorem Sound.gaveBack (h : Sound s) {a : Allocation} {g : Allocator} (ha : a ∈ s.live)
    (hg : s.globals.allocatorFree a.buffer = some g) :
    Sound { s with globals := g, live := s.live.erase a, freed := s.freed ++ [a] } := by
  rw [h.allocatorFree ha] at hg
  obtain rfl := Option.some.inj hg
  have hsub : s.live.erase a ⊆ s.live := List.erase_subset
  refine ⟨h.alloc, h.free, fun b hb => h.header b (hsub hb), fun b hb => h.counted b (hsub hb),
    fun b hb => h.size b (hsub hb), h.apart.sublist List.erase_sublist, h.sessions, h.refused,
    ?_⟩
  intro other
  have hcount := h.counts other
  rw [(List.perm_cons_erase ha).countP_eq, List.countP_cons] at hcount
  by_cases hs : other = a.source
  · subst hs
    show (s.globals.addCount a.source (-1)).allocatedImageCount a.source = _
    rw [Allocator.addCount_self, hcount]
    simp only [decide_true, if_true]
    omega
  · show (s.globals.addCount a.source (-1)).allocatedImageCount other = _
    rw [Allocator.addCount_ne _ _ hs, hcount]
    simp [Ne.symm hs]

/-- A callback that returns null is counted all the same. -/
theorem Sound.refuse (h : Sound s) {source : AllocationSource} (hs : source.counted = true)
    (calls : List CallbackCall) :
    Sound { s with
      globals := { s.globals.addCount source 1 with calls }
      refused := s.refused ++ [source] } := by
  refine ⟨h.alloc, h.free, h.header, h.counted, h.size, h.apart, h.sessions, ?_, ?_⟩
  · intro other hmem
    rcases List.mem_append.mp hmem with hmem | hmem
    · exact h.refused other hmem
    · rw [List.mem_singleton.mp hmem]
      exact hs
  · intro other
    have hcount := h.counts other
    by_cases hne : other = source
    · subst hne
      show (s.globals.addCount other 1).allocatedImageCount other = _
      rw [Allocator.addCount_self, hcount]
      simp only [List.count_append, List.count_singleton_self]
      omega
    · show (s.globals.addCount source 1).allocatedImageCount other = _
      rw [Allocator.addCount_ne _ _ hne, hcount]
      simp [Ne.symm hne]

theorem Sound.step (h : Sound s) (hfit : call.Fits) (hstep : s.step call = some s') : Sound s' := by
  cases stepped hstep with
  | began =>
      refine ⟨h.alloc, h.free, h.header, h.counted, h.size, h.apart, ?_, h.refused, h.counts⟩
      show s.globals.allocatorSessions + 1 = _
      rw [h.sessions]
      rfl
  | ended hopen =>
      refine ⟨h.alloc, h.free, h.header, h.counted, h.size, h.apart, ?_, h.refused, h.counts⟩
      show s.globals.allocatorSessions - 1 = ((s.opened - 1 : Nat) : Int)
      rw [h.sessions]
      omega
  | rejected _ => exact h
  | registered _ =>
      exact ⟨rfl, rfl, h.header, h.counted, h.size, h.apart, h.sessions, h.refused, h.counts⟩
  | unasked _ => exact h
  | refused ha => exact h.refuse (counted_of_asks ha) _
  | handedOut ha hapart heq => exact h.handOut ha (hfit ha) hapart heq
  | gaveBack ha hg => exact h.gaveBack ha hg

theorem Sound.run (h : Sound s) (calls : List AllocatorCall) (hfit : ∀ call ∈ calls, call.Fits)
    (hrun : s.run calls = some s') : Sound s' :=
  Steps.run_invariant Sound AllocatorCall.Fits (fun _ _ _ hs hc hstep => Sound.step hs hc hstep)
    calls hfit h hrun

/-! ## The counters -/

/-- The counters say how many buffers of their source are live, and without an open session
`allocator_test_for_leaks` passes exactly if there is none. -/
structure Accounted (s : AllocatorRun) : Prop where
  counters : ∀ source, source.counted = true →
    s.globals.allocatedImageCount source = s.live.countP (·.source = source)
  leaks : s.opened = 0 → (s.globals.allocatorTestForLeaks = (0, true) ↔ s.live = [])

theorem allocatorTestForLeaks_iff {g : Allocator} (h : g.allocatorSessions = 0) :
    g.allocatorTestForLeaks = (0, true) ↔
      ∀ source, source.counted = true → g.allocatedImageCount source = 0 := by
  have heq : g.allocatorTestForLeaks = (g.totalCount, _) := if_neg (not_not.mpr h)
  rw [heq, Prod.mk.injEq]
  simp only [Bool.and_eq_true, beq_iff_eq]
  constructor
  · rintro ⟨-, ⟨⟨⟨⟨hu, hc⟩, hd⟩, hi⟩, hud⟩, hui⟩ source hs
    cases source with
    | user => exact hu
    | depth => exact hd
    | color => exact hc
    | imu => exact hi
    | usbDepth => exact hud
    | usbImu => exact hui
    | comDepth => cases hs
    | comImu => cases hs
    | unknown value => cases hs
  · intro h0
    have hu := h0 .user rfl
    have hd := h0 .depth rfl
    have hc := h0 .color rfl
    have hi := h0 .imu rfl
    have hud := h0 .usbDepth rfl
    have hui := h0 .usbImu rfl
    refine ⟨?_, ⟨⟨⟨⟨hu, hc⟩, hd⟩, hi⟩, hud⟩, hui⟩
    rw [Allocator.totalCount, hu, hd, hc, hi, hud, hui]
    rfl

/-- The counters are exact precisely if no callback has returned null. -/
theorem Sound.accounted_iff (h : Sound s) : s.Accounted ↔ s.refused = [] := by
  constructor
  · intro hacc
    rw [List.eq_nil_iff_forall_not_mem]
    intro source hmem
    have hexact := hacc.counters source (h.refused source hmem)
    have hcount := h.counts source
    have hpos := List.count_pos_iff.mpr hmem
    omega
  · intro hnil
    have hcounts : ∀ source, s.globals.allocatedImageCount source =
        s.live.countP (·.source = source) := by
      intro source
      rw [h.counts, hnil, List.count_nil]
      exact Int.add_zero _
    refine ⟨fun source _ => hcounts source, fun hopen => ?_⟩
    have hsessions : s.globals.allocatorSessions = 0 := by
      rw [h.sessions, hopen]
      rfl
    rw [allocatorTestForLeaks_iff hsessions]
    constructor
    · intro hzero
      rw [List.eq_nil_iff_forall_not_mem]
      intro a ha
      have hpos : 0 < s.live.countP (·.source = a.source) :=
        List.countP_pos_iff.mpr ⟨a, ha, decide_eq_true rfl⟩
      have ha0 := hzero a.source (h.counted a ha)
      rw [hcounts] at ha0
      omega
    · intro hlive source _
      rw [hcounts, hlive]
      rfl

theorem refused_step (h : s.step call = some s') :
    s'.refused = [] ↔ s.refused = [] ∧ ¬ call.Refused := by
  cases stepped h with
  | began => exact (and_iff_left id).symm
  | ended _ => exact (and_iff_left id).symm
  | rejected _ => exact (and_iff_left id).symm
  | registered _ => exact (and_iff_left id).symm
  | unasked ha =>
      refine (and_iff_left ?_).symm
      rintro ⟨hr, -⟩
      rw [ha] at hr
      cases hr
  | refused ha =>
      constructor
      · intro hnil
        exact absurd hnil (List.append_ne_nil_of_right_ne_nil _ (List.cons_ne_nil _ _))
      · intro hr
        exact absurd ⟨ha, rfl⟩ hr.2
  | handedOut _ _ _ => exact (and_iff_left fun hr => nomatch hr.2).symm
  | gaveBack _ _ => exact (and_iff_left id).symm

end AllocatorRun

/-- In every run in which the headers fit their blocks, the counters are exact and the leak
test is right precisely if no allocate callback has returned null. -/
theorem accounting_exact_iff (calls : List AllocatorCall) {s : AllocatorRun}
    (hrun : AllocatorRun.initial.run calls = some s) (hfit : ∀ call ∈ calls, call.Fits) :
    s.Accounted ↔ ∀ call ∈ calls, ¬ call.Refused := by
  rw [(AllocatorRun.sound_initial.run calls hfit hrun).accounted_iff]
  have hiff := Steps.run_iff_forall (fun _ _ _ h => AllocatorRun.refused_step h) calls hrun
  exact hiff.trans (and_iff_right rfl)

theorem accounting_exact_one_buffer : ∃ s, AllocatorRun.initial.run
      [.beginSession, .alloc .color 16 (some (1000, 5)), .free 1032, .endSession] = some s ∧
    s.returned.length = 1 ∧ s.Accounted := by
  obtain ⟨s, hs⟩ : ∃ s, AllocatorRun.initial.run
      [.beginSession, .alloc .color 16 (some (1000, 5)), .free 1032, .endSession] = some s :=
    ⟨_, rfl⟩
  refine ⟨s, hs, ?_, (accounting_exact_iff _ hs ?_).mpr ?_⟩
  · rw [← Option.some.inj hs]
    rfl
  · simp [AllocatorCall.Fits, allocationContextSize]
  · simp [AllocatorCall.Refused]

/-- `malloc` fails once.  No buffer is live and no session is open, yet the leak test fails. -/
theorem refused_allocation_stays_counted : ∃ s,
    AllocatorRun.initial.run [.alloc .color 16 none] = some s ∧ s.live = [] ∧ s.opened = 0 ∧
    s.globals.allocatedImageCount .color = 1 ∧ s.globals.allocatorTestForLeaks = (1, false) ∧
    ¬ s.Accounted := by
  refine ⟨_, rfl, rfl, rfl, rfl, rfl, ?_⟩
  intro h
  have hcount : (1 : Int) = 0 := h.counters .color rfl
  cases hcount

end ZsaSdk
