import Mathlib.Tactic.Abel
import Mathlib.Algebra.Order.Group.Multiset
import ZsaSdk.Capturesync.Start

/-!
# The references of the synchroniser

The ledgers of a world record every reference the synchroniser and its queues take,
drop or hand to the user.  `RefInv w x` says that they replay, and that the references
left are those of the queue entries, of the slots and of `x`, the captures a call holds
in a local variable.  A ledger that replays never drops a reference that is not owned,
so the invariant also excludes a release too many on any path.
-/

namespace ZsaSdk

open Ledger World

namespace World

variable {w : World FifoQueue} {k : Bool} {x : Multiset CaptureHandle}

/-! ## What is owned -/

/-- The captures of a stream. -/
def streamCaptures (w : World FifoQueue) (k : Bool) : Multiset CaptureHandle :=
  held (w.frame k).capture + (w.items k : Multiset CaptureHandle)

/-- The captures of the other stream and of `sync_queue`. -/
def otherCaptures (w : World FifoQueue) (k : Bool) : Multiset CaptureHandle :=
  w.streamCaptures (!k) + (w.sync.syncQueue.fifo.items : Multiset CaptureHandle)

/-- One reference for each queue entry and each slot. -/
def ownedCaptures (w : World FifoQueue) : Multiset CaptureHandle :=
  w.streamCaptures true + w.streamCaptures false +
    (w.sync.syncQueue.fifo.items : Multiset CaptureHandle)

/-- One reference for each slot image. -/
def ownedImages (w : World FifoQueue) : Multiset ImageHandle :=
  held (w.frame true).image + held (w.frame false).image

theorem ownedCaptures_eq (w : World FifoQueue) (k : Bool) :
    w.ownedCaptures = held (w.frame k).capture + (w.items k : Multiset CaptureHandle) +
      w.otherCaptures k := by
  cases k with
  | false =>
      simp only [ownedCaptures, otherCaptures, streamCaptures, Bool.not_false]
      abel
  | true =>
      simp only [ownedCaptures, otherCaptures, streamCaptures, Bool.not_true]
      abel

theorem ownedImages_eq (w : World FifoQueue) (k : Bool) :
    w.ownedImages = held (w.frame k).image + held (w.frame (!k)).image := by
  cases k with
  | false => exact add_comm _ _
  | true => rfl

theorem otherCaptures_setFrame (w : World FifoQueue) (k : Bool) (f : FrameInfo FifoQueue) :
    (w.setFrame k f).otherCaptures k = w.otherCaptures k := by
  simp only [otherCaptures, streamCaptures, items, frame_setFrame_not, syncQueue_setFrame]

/-- The ledgers replay, and leave what is owned and the references `x`. -/
structure RefInv (w : World FifoQueue) (x : Multiset CaptureHandle) : Prop where
  captures : Owns w.captureRefs (w.ownedCaptures + x)
  images : Owns w.imageRefs w.ownedImages

/-- Only the ledgers, the two streams and `sync_queue` matter. -/
theorem RefInv.congr {w' : World FifoQueue} (h : RefInv w x) (hc : w'.captureRefs = w.captureRefs)
    (hi : w'.imageRefs = w.imageRefs) (hf : ∀ k, w'.frame k = w.frame k)
    (hs : w'.sync.syncQueue = w.sync.syncQueue) : RefInv w' x where
  captures := by
    simp only [ownedCaptures, streamCaptures, items, hf, hs, hc]
    exact h.captures
  images := by
    simp only [ownedImages, hf, hi]
    exact h.images

/-- A slot and its queue are rewritten. -/
theorem RefInv.of_setFrame {f : FrameInfo FifoQueue}
    (hc : Owns w.captureRefs (held f.capture + (f.queue.fifo.items : Multiset CaptureHandle) +
      w.otherCaptures k + x))
    (hi : Owns w.imageRefs (held f.image + held (w.frame (!k)).image)) :
    RefInv (w.setFrame k f) x where
  captures := by
    rw [captureRefs_setFrame, ownedCaptures_eq _ k, otherCaptures_setFrame, items, frame_setFrame]
    exact hc
  images := by
    rw [imageRefs_setFrame, ownedImages_eq _ k, frame_setFrame, frame_setFrame_not]
    exact hi

/-! ## Queues -/

theorem RefInv.shutSyncQueue (h : RefInv w x) : RefInv (w.shutSyncQueue FifoQueue.disable) x where
  captures := by
    have hc : Owns w.captureRefs ((w.sync.syncQueue.fifo.items : Multiset CaptureHandle) +
        (w.streamCaptures true + w.streamCaptures false + x)) :=
      h.captures.congr (by rw [ownedCaptures]; abel)
    refine hc.releaseAll.congr ?_
    have hstream : ∀ j, (w.shutSyncQueue FifoQueue.disable).streamCaptures j = w.streamCaptures j :=
      fun j => by cases j <;> rfl
    have hempty : (w.shutSyncQueue FifoQueue.disable).sync.syncQueue.fifo.items = [] := rfl
    rw [ownedCaptures, hstream, hstream, hempty]
    simp
  images := h.images

theorem RefInv.shutFrameQueue (h : RefInv w x) (k : Bool) :
    RefInv (w.shutFrameQueue k FifoQueue.disable) x := by
  refine RefInv.of_setFrame ?_ ?_
  · have hc := h.captures
    rw [ownedCaptures_eq _ k] at hc
    have hc' : Owns w.captureRefs (((w.frame k).queue.fifo.items : Multiset CaptureHandle) +
        (held (w.frame k).capture + w.otherCaptures k + x)) := hc.congr (by rw [items]; abel)
    refine hc'.releaseAll.congr ?_
    have hother : (w.postCaptureRefs ((w.frame k).queue.disable).refs).otherCaptures k =
        w.otherCaptures k := by
      simp [otherCaptures, streamCaptures, items]
    rw [hother]
    simp [FifoQueue.disable]
  · have hi := h.images
    rw [ownedImages_eq _ k] at hi
    rw [frame_postCaptureRefs]
    exact hi

theorem RefInv.notifierMove (h : RefInv w x) (m : NotifierMove) : RefInv (w.notifierMove m) x := by
  cases m with
  | enter => exact h.congr rfl rfl (frame_congr rfl rfl) rfl
  | advance i =>
      simp only [World.notifierMove]
      cases w.notifiers[i]? with
      | none => exact h
      | some stage =>
          cases stage with
          | syncQueue => exact h.shutSyncQueue.congr rfl rfl (frame_congr rfl rfl) rfl
          | depthQueue =>
              exact (h.shutFrameQueue false).congr rfl rfl (frame_congr rfl rfl) rfl
          | colorQueue =>
              exact (h.shutFrameQueue true).congr rfl rfl (frame_congr rfl rfl) rfl

theorem RefInv.foldl_notifierMove (moves : List NotifierMove) :
    ∀ {w : World FifoQueue}, RefInv w x → RefInv (moves.foldl World.notifierMove w) x := by
  induction moves with
  | nil => intro w h; exact h
  | cons m moves ih =>
      intro w h
      exact ih (h.notifierMove m)

theorem RefInv.preempt (h : RefInv w x) : RefInv w.preempt x := by
  simp only [World.preempt]
  cases w.schedule with
  | nil => exact h
  | cons moves rest =>
      have h' : RefInv { w with schedule := rest } x :=
        h.congr rfl rfl (frame_congr rfl rfl) rfl
      exact RefInv.foldl_notifierMove moves h'

/-- The evicted capture and the captures after a push are the captures before it and the
new one. -/
theorem held_evicted_add (f : BoundedFifo CaptureHandle) (c : CaptureHandle) :
    held f.evicted + ((f.push c).items : Multiset CaptureHandle) =
      {c} + (f.items : Multiset CaptureHandle) := by
  have hlist : held f.evicted = (f.evicted.toList : Multiset CaptureHandle) := by
    cases f.evicted <;> rfl
  rw [hlist, Multiset.coe_add, BoundedFifo.evicted_append_push, ← Multiset.coe_add, add_comm]
  rfl

/-- A push takes its own reference, and drops the one of the capture it evicts. -/
theorem owns_push {ops : List (RefOp CaptureHandle)} {q : FifoQueue} {m : Multiset CaptureHandle}
    (h : Owns ops ((q.fifo.items : Multiset CaptureHandle) + m)) (c : CaptureHandle) :
    Owns (ops ++ (q.pushWDropped c false).refs)
      (((q.pushWDropped c false).queue.fifo.items : Multiset CaptureHandle) + m) := by
  cases he : q.enabled with
  | false =>
      simp only [FifoQueue.pushWDropped, he, List.append_nil]
      exact h
  | true =>
      simp only [FifoQueue.pushWDropped, he]
      rw [← List.append_assoc]
      cases hf : q.fifo.full with
      | false =>
          rw [BoundedFifo.evicted_of_not_full hf, releaseOf_none, List.append_nil,
            BoundedFifo.items_push_of_not_full hf]
          refine (h.acquire (a := c)).congr ?_
          rw [← Multiset.coe_add, ← Multiset.singleton_add, Multiset.coe_singleton]
          abel
      | true =>
          obtain ⟨e, l, hi, hev⟩ := BoundedFifo.exists_cons_of_full hf
          rw [hev, releaseOf_some, BoundedFifo.items_push_of_full hf, hi, List.tail_cons]
          have hr : Owns (ops ++ [.release e]) ((l : Multiset CaptureHandle) + m) := by
            refine Owns.release (h.congr ?_)
            rw [hi, ← Multiset.cons_coe, Multiset.cons_add]
          refine (hr.acquire (a := c)).congr ?_
          rw [← Multiset.coe_add, ← Multiset.singleton_add, Multiset.coe_singleton]
          abel

theorem RefInv.pushSyncQueue (h : RefInv w x) (p : Published) : RefInv (w.pushSyncQueue p) x := by
  have h' := h.preempt
  simp only [World.pushSyncQueue]
  generalize w.preempt = v at *
  have hc : Owns v.captureRefs ((v.sync.syncQueue.fifo.items : Multiset CaptureHandle) +
      (v.streamCaptures true + v.streamCaptures false + x)) :=
    h'.captures.congr (by rw [ownedCaptures]; abel)
  refine ⟨(owns_push hc p.capture).congr ?_, h'.images⟩
  show _ = v.streamCaptures true + v.streamCaptures false +
    ((v.sync.syncQueue.pushWDropped p.capture false).queue.fifo.items : Multiset CaptureHandle) + x
  abel

theorem RefInv.publishSlot (h : RefInv w x) (k : Bool) : RefInv (w.publishSlot k) x := by
  simp only [World.publishSlot]
  split
  · exact h
  · split
    · exact h
    · exact h.pushSyncQueue _

/-! ## Slots -/

theorem otherCaptures_refs (w : World FifoQueue) (k : Bool) (c : Option CaptureHandle)
    (i : Option ImageHandle) :
    ((w.captureDecRef c).imageDecRef i).otherCaptures k = w.otherCaptures k := by
  simp only [otherCaptures, streamCaptures, items, frame_imageDecRef, frame_captureDecRef]
  rfl

/-- A slot lets go of its capture and its image. -/
theorem RefInv.release (h : RefInv w x) (k : Bool) :
    Owns ((w.captureDecRef (w.frame k).capture).imageDecRef (w.frame k).image).captureRefs
        ((w.items k : Multiset CaptureHandle) + w.otherCaptures k + x) ∧
      Owns ((w.captureDecRef (w.frame k).capture).imageDecRef (w.frame k).image).imageRefs
        (held (w.frame (!k)).image) := by
  have hc := h.captures
  have hi := h.images
  rw [ownedCaptures_eq _ k] at hc
  rw [ownedImages_eq _ k] at hi
  refine ⟨?_, hi.releaseOf⟩
  have hc' : Owns w.captureRefs (held (w.frame k).capture +
      ((w.items k : Multiset CaptureHandle) + w.otherCaptures k + x)) := hc.congr (by abel)
  exact hc'.releaseOf

theorem RefInv.releaseSlot (h : RefInv w x) (k : Bool) : RefInv (w.releaseSlot k) x := by
  obtain ⟨hc, hi⟩ := h.release k
  refine RefInv.of_setFrame ?_ ?_
  · rw [otherCaptures_refs, held_none, zero_add]
    exact hc
  · rw [held_none, zero_add, frame_imageDecRef, frame_captureDecRef]
    exact hi

theorem RefInv.dropped (h : RefInv w x) (k b : Bool) : RefInv (w.dropped k b) x := by
  cases b with
  | false => exact h.releaseSlot k
  | true => exact (h.publishSlot k).releaseSlot k

/-- A slot that holds nothing is reset. -/
theorem RefInv.emptySlot (h : RefInv w x) (hc : (w.frame k).capture = none)
    (hi : (w.frame k).image = none) : RefInv (w.emptySlot k) x := by
  have hcap := h.captures
  have himg := h.images
  rw [ownedCaptures_eq _ k, hc] at hcap
  rw [ownedImages_eq _ k, hi] at himg
  exact RefInv.of_setFrame hcap himg

/-- A slot takes over the reference to a capture, and takes one to its image. -/
theorem RefInv.readTypedImage {c : CaptureHandle}
    (hc : Owns w.captureRefs ({c} + (w.items k : Multiset CaptureHandle) + w.otherCaptures k + x))
    (hi : Owns w.imageRefs (held (w.frame (!k)).image)) : RefInv (w.readTypedImage k c) x := by
  refine RefInv.of_setFrame ?_ ?_
  · have hother : (w.postImageRefs (acquireOf (w.heap.typedImage k c))).otherCaptures k =
        w.otherCaptures k := by
      simp only [otherCaptures, streamCaptures, items, frame_postImageRefs]
      rfl
    rw [hother]
    exact hc
  · rw [frame_postImageRefs]
    exact hi.acquireOf _

theorem RefInv.loadSlot (h : RefInv w x) (hc : (w.frame k).capture = none)
    (hi : (w.frame k).image = none) {c : CaptureHandle} {cs : List CaptureHandle}
    (hl : w.items k = c :: cs) : RefInv (w.loadSlot k c) x := by
  have hcap := h.captures
  have himg := h.images
  rw [ownedCaptures_eq _ k, hc, hl] at hcap
  rw [ownedImages_eq _ k, hi, held_none, zero_add] at himg
  have hpop : (w.frame k).queue.fifo.items = c :: cs := hl
  refine RefInv.readTypedImage ?_ ?_
  · rw [captureRefs_setFrame, otherCaptures_setFrame, items, frame_setFrame]
    refine hcap.congr ?_
    simp only [BoundedFifo.items_pop, hpop, List.tail_cons, held_none, ← Multiset.cons_coe,
      ← Multiset.singleton_add]
    abel
  · rw [imageRefs_setFrame, frame_setFrame_not]
    exact himg

/-- `drop_sample` neither leaks nor releases twice, whichever way it ends. -/
theorem RefInv.dropSample (h : RefInv w x) (hcore : Core w) (r : WaitResult) (k b : Bool) :
    RefInv (w.dropSample r k b).1 x := by
  have hd := h.dropped k b
  have hp := hd.preempt
  obtain ⟨v, -, hv⟩ := frame_dropped w k b
  have hc : ((w.dropped k b).frame k).capture = none := by rw [hv, frame_setFrame]
  have hi : ((w.dropped k b).frame k).image = none := by rw [hv, frame_setFrame]
  have hint := preempt_interfered (w.dropped k b)
  have hpc := (hint.capture k).trans hc
  have hpi := (hint.image k).trans hi
  rw [dropSample_eq w k r b ((hcore.dropped k b).preempt.typed k)]
  split
  · exact hd.emptySlot hc hi
  · split
    · exact hp.emptySlot hpc hpi
    · cases hl : (w.dropped k b).preempt.items k with
      | nil => exact hp.emptySlot hpc hpi
      | cons c cs => exact hp.loadSlot hpc hpi hl

/-! ## Accepting a capture -/

/-- A merge drops the reference the getter takes. -/
theorem RefInv.mergeCaptures (h : RefInv w x) (d c : CaptureHandle) :
    RefInv (w.mergeCaptures d c) x := by
  have hi : Owns (w.imageRefs ++ acquireOf (w.heap.typedImage true c) ++
      releaseOf (w.heap.typedImage true c)) w.ownedImages := (h.images.acquireOf _).releaseOf
  exact ⟨h.captures, hi⟩

theorem RefInv.loopBody {s : World FifoQueue × WaitResult} (h : RefInv s.1 x)
    (hg : loopGuard s = true) (hinv : LoopInv s) : RefInv (loopBody s).1 x := by
  obtain ⟨hr, ⟨d, hd⟩, ⟨c, hc⟩⟩ := loopGuard_iff.mp hg
  obtain ⟨w, r⟩ := s
  have hr' : r = .succeeded := hr
  have hc' : w.sync.color.capture = some c := hc
  have hd' : w.sync.depthIr.capture = some d := hd
  simp only [World.loopBody]
  cases syncWindow w.sync.depthDelayOffColorUsec w.sync.fpsPeriod w.sync.fps1QuarterPeriod
      w.sync.color.ts w.sync.depthIr.ts with
  | dropDepth => exact h.dropSample hinv.core r false true
  | dropColor => exact h.dropSample hinv.core r true true
  | merge =>
      simp only [hc', hd']
      generalize hp : (Published.merged d c (w.heap.typedImage true c)) = p
      have hcore := (hinv.core.mergeCaptures d (hinv.color.typed hc)).pushSyncQueue p
      have hdepth := (hinv.depth.mergeCaptures_depth d c).of_interfered
        (pushSyncQueue_interfered (w.mergeCaptures d c) p)
      have href := (h.mergeCaptures d c).pushSyncQueue p
      have hcore1 := (dropSample_inv (k := true) hcore hdepth r false
        (fun hf => by rw [hr'] at hf; cases hf)).1
      exact (href.dropSample hcore r true false).dropSample hcore1 _ false false

theorem RefInv.syncLoop (h : RefInv w x) (hcore : Core w) (hs : ∀ k, SlotInv w k) :
    RefInv w.syncLoop x := by
  have h0 : LoopInv (w, .succeeded) ∧ RefInv w x :=
    ⟨⟨hcore, hs true, hs false, fun hn => absurd rfl hn⟩, h⟩
  have hinv := Loop.run_invariant (fun s : World FifoQueue × WaitResult => LoopInv s ∧ RefInv s.1 x)
    (fun s hg hi => ⟨loopBody_inv hg hi.1, hi.2.loopBody hg hi.1⟩) w.loopFuel
    (w, WaitResult.succeeded) h0
  exact hinv.2

/-- A push to an internal queue takes a reference, and the evicted capture is in the hands
of the caller. -/
theorem RefInv.pushed (h : RefInv w x) (k : Bool) (c : CaptureHandle) :
    RefInv (w.pushed k c) (held (w.evicted k c) + x) := by
  cases ho : w.isOpen k with
  | false =>
      obtain ⟨hp, he⟩ := pushed_closed c ho
      rw [hp, he, held_none, zero_add]
      exact h
  | true =>
      have ho' : (w.frame k).queue.enabled = true := ho
      have hpush : (w.frame k).queue.pushWDropped c true =
          ⟨⟨(w.frame k).queue.fifo.push c, true⟩, (w.frame k).queue.fifo.evicted,
            [.acquire c]⟩ := by
        simp [FifoQueue.pushWDropped, ho']
      have hcap := h.captures
      have himg := h.images
      rw [ownedCaptures_eq _ k] at hcap
      rw [ownedImages_eq _ k] at himg
      rw [World.pushed, World.evicted, hpush]
      refine RefInv.of_setFrame ?_ ?_
      · refine (hcap.acquire (a := c)).congr ?_
        have hother : (w.postCaptureRefs [.acquire c]).otherCaptures k = w.otherCaptures k := by
          simp [otherCaptures, streamCaptures, items]
        rw [hother, ← Multiset.singleton_add]
        have hsum := held_evicted_add (w.frame k).queue.fifo c
        have hitems : w.items k = (w.frame k).queue.fifo.items := rfl
        calc {c} + (held (w.frame k).capture + (w.items k : Multiset CaptureHandle) +
              w.otherCaptures k + x)
            = ({c} + ((w.frame k).queue.fifo.items : Multiset CaptureHandle)) +
                (held (w.frame k).capture + w.otherCaptures k + x) := by rw [hitems]; abel
          _ = (held (w.frame k).queue.fifo.evicted +
                (((w.frame k).queue.fifo.push c).items : Multiset CaptureHandle)) +
                (held (w.frame k).capture + w.otherCaptures k + x) := by rw [hsum]
          _ = held (w.frame k).capture +
                (((w.frame k).queue.fifo.push c).items : Multiset CaptureHandle) +
                w.otherCaptures k + (held (w.frame k).queue.fifo.evicted + x) := by abel
      · rw [frame_postCaptureRefs]
        exact himg

theorem RefInv.storeCapture (h : RefInv w x) (hs : SlotInv w k) (c : CaptureHandle) :
    RefInv (w.storeCapture c k) x := by
  cases hc : (w.frame k).capture with
  | none =>
      rw [storeCapture_of_null c hc]
      have hswap : (w.readTypedImage k c).postCaptureRefs [.acquire c] =
          (w.postCaptureRefs [.acquire c]).readTypedImage k c := by
        cases k <;> rfl
      have hcap := h.captures
      have himg := h.images
      rw [ownedCaptures_eq _ k, hc, held_none, zero_add] at hcap
      rw [ownedImages_eq _ k, hs.null_iff.mp hc, held_none, zero_add] at himg
      rw [hswap]
      refine RefInv.readTypedImage ?_ ?_
      · have hother : (w.postCaptureRefs [.acquire c]).otherCaptures k = w.otherCaptures k := by
          simp [otherCaptures, streamCaptures, items]
        rw [hother, items, frame_postCaptureRefs]
        refine (hcap.acquire (a := c)).congr ?_
        rw [← Multiset.singleton_add]
        have hitems : w.items k = (w.frame k).queue.fifo.items := rfl
        rw [hitems]
        abel
      · rw [frame_postCaptureRefs]
        exact himg
  | some d =>
      rw [storeCapture_of_some c hc]
      have hd : (w.preempt.frame k).capture = some d := (preempt_interfered w).capture k |>.trans hc
      have hpush := h.preempt.pushed k c
      cases he : w.preempt.evicted k c with
      | none =>
          rw [he, held_none, zero_add] at hpush
          exact hpush
      | some e =>
          -- The evicted capture moves into the slot, with its reference.
          rw [he] at hpush
          have hd' : ((w.preempt.pushed k c).frame k).capture = some d := by
            rw [frame_pushed]
            exact hd
          obtain ⟨v, hv, hrep⟩ := replaceSample_eq e hd'
          have hpub := hpush.publishSlot k
          rw [← hv] at hpub
          have hvd : (v.frame k).capture = some d := by
            rw [hv, (publishSlot_interfered _ k).capture]
            exact hd'
          obtain ⟨hcr, hir⟩ := hpub.release k
          rw [hvd] at hcr hir
          simp only [hrep]
          refine RefInv.readTypedImage ?_ ?_
          · rw [otherCaptures_refs, items, frame_imageDecRef, frame_captureDecRef]
            refine hcr.congr ?_
            rw [held_some, items]
            abel
          · rw [frame_imageDecRef, frame_captureDecRef]
            exact hir

theorem RefInv.addLocked (h : RefInv w 0) (hrep : RepInv w) {c : CaptureHandle}
    (ht : w.heap.typedImage k c ≠ none) (ts : UInt64) : RefInv (w.addLocked c ts k) 0 := by
  have hstore : ∀ v : World FifoQueue, RefInv v 0 → RepInv v → v.heap.typedImage k c ≠ none →
      RefInv (v.storeCapture c k).syncLoop 0 := by
    intro v hv hr htv
    obtain ⟨hcore, hslot⟩ := storeCapture_inv hr.core hr.slot htv
    exact (hv.storeCapture (hr.slot k) c).syncLoop hcore hslot
  simp only [World.addLocked]
  split
  · exact h
  · split
    · exact h.pushSyncQueue _
    · split
      · split
        · exact h.congr rfl rfl (frame_congr rfl rfl) rfl
        · exact hstore _ (h.congr rfl rfl (frame_congr rfl rfl) rfl) (hrep.setWaiting false) ht
      · exact hstore w h hrep ht

theorem RefInv.clearSlot (h : RefInv w x)
    (hn : (w.frame k).capture = none ↔ (w.frame k).image = none) : RefInv (w.clearSlot k) x := by
  obtain ⟨hc, hi⟩ := h.release k
  rw [clearSlot_eq hn]
  refine RefInv.of_setFrame ?_ ?_
  · rw [otherCaptures_refs, held_none, zero_add]
    exact hc
  · rw [held_none, zero_add, frame_imageDecRef, frame_captureDecRef]
    exact hi

end World

/-! ## Entry points -/

variable {w : World FifoQueue}

theorem capturesyncAddCapture_refs (h : RefInv w 0) (hrep : RepInv w) (r : Result)
    (c : Option CaptureHandle) (k : Bool) : RefInv (capturesyncAddCapture w r c k) 0 := by
  simp only [capturesyncAddCapture]
  split
  · exact (h.shutSyncQueue.shutFrameQueue false).shutFrameQueue true
  · cases c with
    | none => exact h
    | some c =>
        simp only
        cases ht : w.heap.typedImage k c with
        | none => exact h
        | some i =>
            have hi : Owns (w.imageRefs ++ [.acquire i, .release i]) w.ownedImages :=
              h.images.append (by simp [replay, post])
            have hrefs : RefInv (w.postImageRefs [.acquire i, .release i]) 0 := ⟨h.captures, hi⟩
            have hrep' : RepInv (w.postImageRefs [.acquire i, .release i]) :=
              hrep.congr rfl rfl rfl rfl (frame_congr rfl rfl)
            refine hrefs.addLocked hrep' ?_ _
            rw [heap_postImageRefs, ht]
            exact Option.some_ne_none i

theorem capturesyncStart_refs (h : RefInv w 0) (config : DeviceConfiguration) :
    RefInv (capturesyncStart w config).1 0 := by
  simp only [capturesyncStart]
  split
  · exact ⟨h.captures, h.images⟩
  · exact ⟨h.captures, h.images⟩

theorem capturesyncStop_refs (h : RefInv w 0) (hrep : RepInv w) :
    RefInv (capturesyncStop w) 0 := by
  have hrun : RefInv { w with sync := { w.sync with running := false } } 0 :=
    h.congr rfl rfl (frame_congr rfl rfl) rfl
  have hshut : RefInv w.shutDown 0 :=
    ((hrun.preempt.shutFrameQueue true).preempt.shutFrameQueue false).preempt.shutSyncQueue
  have hslot : ∀ k, (w.shutDown.frame k).capture = none ↔ (w.shutDown.frame k).image = none := by
    intro k
    have hi := (shutDown_interfered w).1
    rw [hi.capture, hi.image]
    have hnull := (hrep.slot k).null_iff
    cases k <;> exact hnull
  have hcolor : RefInv (w.shutDown.clearSlot true) 0 := hshut.clearSlot (hslot true)
  have hkeep : (w.shutDown.clearSlot true).frame false = w.shutDown.frame false :=
    frame_clearSlot_not w.shutDown true
  exact hcolor.clearSlot (by rw [hkeep]; exact hslot false)

/-- A capture that is returned takes exactly one reference along. -/
theorem capturesyncGetCapture_refs (h : RefInv w 0) :
    RefInv (capturesyncGetCapture w).1 0 ∧
      (capturesyncGetCapture w).1.captureRefs =
        w.captureRefs ++ (capturesyncGetCapture w).2.2.toList.map .give ∧
      (capturesyncGetCapture w).1.imageRefs = w.imageRefs := by
  have hpop : QueueApi.queuePop w.sync.syncQueue = w.sync.syncQueue.pop := rfl
  simp only [capturesyncGetCapture, hpop]
  cases he : w.sync.syncQueue.enabled with
  | false =>
      simp only [FifoQueue.pop, he]
      refine ⟨?_, rfl, rfl⟩
      rw [postCaptureRefs_nil]
      exact h
  | true =>
      cases hi : w.sync.syncQueue.fifo.items with
      | nil =>
          simp only [FifoQueue.pop, he, hi]
          refine ⟨?_, rfl, rfl⟩
          rw [postCaptureRefs_nil]
          exact h
      | cons c cs =>
          simp only [FifoQueue.pop, he, hi]
          rw [postCaptureRefs_nil]
          refine ⟨⟨?_, h.images⟩, rfl, rfl⟩
          have hc : Owns w.captureRefs (c ::ₘ ((cs : Multiset CaptureHandle) +
              (w.streamCaptures true + w.streamCaptures false))) := by
            refine h.captures.congr ?_
            rw [ownedCaptures, hi, ← Multiset.cons_coe, ← Multiset.singleton_add,
              ← Multiset.singleton_add]
            abel
          refine hc.give.congr ?_
          show _ = w.streamCaptures true + w.streamCaptures false +
            (w.sync.syncQueue.fifo.pop.items : Multiset CaptureHandle) + 0
          rw [BoundedFifo.items_pop, hi, List.tail_cons]
          abel

theorem capturesyncCreate_refs {heap : Heap} {b : Bool}
    (h : capturesyncCreate FifoQueue heap b = some w) : RefInv w 0 := by
  obtain ⟨q, hq, hqi⟩ : ∃ q, (QueueApi.queueCreate queueDefaultSize : Option FifoQueue) = some q ∧
      q.fifo.items = [] := ⟨_, rfl, rfl⟩
  obtain ⟨p, hp, hpi⟩ : ∃ p, (QueueApi.queueCreate (queueDefaultSize / 2) : Option FifoQueue) =
      some p ∧ p.fifo.items = [] := ⟨_, rfl, rfl⟩
  simp only [capturesyncCreate, hq, hp, Option.bind_eq_bind, Option.bind_some, Option.pure_def,
    Option.some.injEq] at h
  subst h
  refine RefInv.shutSyncQueue (RefInv.shutFrameQueue (RefInv.shutFrameQueue ⟨?_, ?_⟩ true) false)
  · simp only [ownedCaptures, streamCaptures, items, frame, hqi, hpi]
    exact Owns.nil
  · exact Owns.nil

/-! ## Whole runs -/

theorem capturesyncCreate_quiet {heap : Heap} {b : Bool}
    (h : capturesyncCreate FifoQueue heap b = some w) : Quiet w := by
  have hw := Option.some.inj h
  exact ⟨by rw [← hw]; rfl, by rw [← hw]; rfl⟩

theorem card_ownedCaptures (w : World FifoQueue) :
    w.ownedCaptures.card = w.sync.color.queue.fifo.items.length +
      w.sync.depthIr.queue.fifo.items.length + w.sync.syncQueue.fifo.items.length +
      w.sync.color.capture.toList.length + w.sync.depthIr.capture.toList.length := by
  simp only [ownedCaptures, streamCaptures, items, frame, Multiset.card_add, Multiset.coe_card,
    card_held]
  omega

theorem card_ownedImages (w : World FifoQueue) :
    w.ownedImages.card =
      w.sync.color.image.toList.length + w.sync.depthIr.image.toList.length := by
  simp only [ownedImages, frame, Multiset.card_add, card_held]

theorem World.Quiet.clearSlot (h : Quiet w) (k : Bool) : Quiet (w.clearSlot k) := by
  cases hc : (w.frame k).capture <;> cases hi : (w.frame k).image <;>
    refine ⟨?_, ?_⟩ <;>
    simp [World.clearSlot, hc, hi, captureDecRef, imageDecRef, h.schedule, h.notifiers]

theorem World.Quiet.shutFrameQueue (h : Quiet w) (k : Bool) :
    Quiet (w.shutFrameQueue k FifoQueue.disable) := by
  have hrefs : Quiet (w.postCaptureRefs ((w.frame k).queue.disable).refs) :=
    ⟨h.schedule, h.notifiers⟩
  exact hrefs.setFrame k _

theorem World.Quiet.preempted (h : Quiet w) : Quiet w.preempt := by
  rw [h.preempt]
  exact h

theorem World.Quiet.stop (h : Quiet w) : Quiet (capturesyncStop w) := by
  have hrun : Quiet { w with sync := { w.sync with running := false } } := ⟨h.schedule, h.notifiers⟩
  have hframes := ((hrun.preempted.shutFrameQueue true).preempted.shutFrameQueue false).preempted
  have hshut : Quiet w.shutDown := ⟨hframes.schedule, hframes.notifiers⟩
  exact (hshut.clearSlot true).clearSlot false

/-- What holds between any two calls of any sequence of calls. -/
theorem callRun_refs (calls : List Call) : ∀ {w : World FifoQueue}, RepInv w → Quiet w →
    RefInv w 0 → RepInv (callRun w calls).1 ∧ Quiet (callRun w calls).1 ∧
      RefInv (callRun w calls).1 0 := by
  induction calls with
  | nil => intro w hrep hq href; exact ⟨hrep, hq, href⟩
  | cons call calls ih =>
      intro w hrep hq href
      cases call with
      | start config =>
          have hq' : Quiet (capturesyncStart w config).1 := by
            simp only [capturesyncStart]
            split <;> exact ⟨hq.schedule, hq.notifiers⟩
          exact ih (capturesyncStart_inv hrep hq.notifiers config) hq'
            (capturesyncStart_refs href config)
      | addCapture r c k =>
          exact ih (capturesyncAddCapture_inv hrep r c k) (session_addCapture hrep hq r c k).2
            (capturesyncAddCapture_refs href hrep r c k)
      | getCapture =>
          exact ih (capturesyncGetCapture_inv hrep) (session_getCapture hq).2.2
            (capturesyncGetCapture_refs href).1
      | stop => exact ih (capturesyncStop_inv hrep) hq.stop (capturesyncStop_refs href hrep)

/-- A destroyed synchroniser owns nothing. -/
theorem capturesyncDestroy_refs (hrep : RepInv w) (href : RefInv w 0) :
    Owns (capturesyncDestroy w).captureRefs 0 ∧ Owns (capturesyncDestroy w).imageRefs 0 := by
  have hstop := capturesyncStop_refs href hrep
  have hdestroy : RefInv (capturesyncDestroy w) 0 :=
    ((hstop.shutFrameQueue false).shutFrameQueue true).shutSyncQueue
  obtain ⟨hslots, -⟩ := capturesyncStop_empty w
  have hslot := (capturesyncStop_inv hrep).slot
  have himage : ∀ k, ((capturesyncStop w).frame k).image = none :=
    fun k => (hslot k).null_iff.mp (hslots k)
  generalize hs : capturesyncStop w = v at *
  have hd : capturesyncDestroy w = ((v.shutFrameQueue false QueueApi.queueDisable).shutFrameQueue
      true QueueApi.queueDisable).shutSyncQueue QueueApi.queueDisable := by
    rw [capturesyncDestroy, hs]
  have hcaps : (capturesyncDestroy w).ownedCaptures = 0 := by
    rw [hd]
    have hc : v.sync.color.capture = none := hslots true
    have hi : v.sync.depthIr.capture = none := hslots false
    show held v.sync.color.capture + 0 + (held v.sync.depthIr.capture + 0) + 0 = 0
    rw [hc, hi]
    rfl
  have himgs : (capturesyncDestroy w).ownedImages = 0 := by
    rw [hd]
    have hc : v.sync.color.image = none := himage true
    have hi : v.sync.depthIr.image = none := himage false
    show held v.sync.color.image + held v.sync.depthIr.image = 0
    rw [hc, hi]
    rfl
  refine ⟨?_, ?_⟩
  · have h := hdestroy.captures
    rw [hcaps, add_zero] at h
    exact h
  · have h := hdestroy.images
    rw [himgs] at h
    exact h

/-- Between two calls the synchroniser owns one capture reference for each queue entry and each
slot, and one image reference for each slot image.  A returned capture takes one reference
along, a destroyed synchroniser owns none, and at no point of a run is a capture or an image
dropped or handed over more often than it was acquired. -/
theorem references_conserved {heap : Heap} {disableSync : Bool} {w₀ : World QueueContext}
    (hcreate : capturesyncCreate QueueContext heap disableSync = some w₀) (calls : List Call) :
    let w := (callRun w₀ calls).1
    (∃ refs, Owns w.captureRefs refs ∧
      refs.card = w.sync.color.queue.contents.length + w.sync.depthIr.queue.contents.length +
        w.sync.syncQueue.contents.length + w.sync.color.capture.toList.length +
        w.sync.depthIr.capture.toList.length) ∧
    (∃ refs, Owns w.imageRefs refs ∧
      refs.card = w.sync.color.image.toList.length + w.sync.depthIr.image.toList.length) ∧
    (capturesyncGetCapture w).1.captureRefs =
      w.captureRefs ++ (capturesyncGetCapture w).2.2.toList.map .give ∧
    Owns (capturesyncDestroy w).captureRefs 0 ∧ Owns (capturesyncDestroy w).imageRefs 0 ∧
    (∀ ops rest c, (capturesyncDestroy w).captureRefs = ops ++ rest →
      ops.count (.release c) + ops.count (.give c) ≤ ops.count (.acquire c)) ∧
    (∀ ops rest i, (capturesyncDestroy w).imageRefs = ops ++ rest →
      ops.count (.release i) + ops.count (.give i) ≤ ops.count (.acquire i)) := by
  intro w
  have hcreate' : capturesyncCreate FifoQueue heap disableSync = some w₀.toFifo := by
    rw [capturesyncCreate_map ringHom, hcreate, Option.map_some]
    rfl
  have hrun : (callRun w₀.toFifo calls).1 = w.toFifo := by rw [callRun_ring]
  obtain ⟨hrep, -, href⟩ := callRun_refs calls (capturesyncCreate_inv hcreate')
    (capturesyncCreate_quiet hcreate') (capturesyncCreate_refs hcreate')
  rw [hrun] at hrep href
  obtain ⟨hcaps, himgs⟩ := capturesyncDestroy_refs hrep href
  have hdestroy : capturesyncDestroy w.toFifo = (capturesyncDestroy w).toFifo :=
    capturesyncDestroy_map ringHom w
  rw [hdestroy] at hcaps himgs
  refine ⟨⟨_, href.captures, ?_⟩, ⟨_, href.images, ?_⟩, ?_, hcaps, himgs, ?_, ?_⟩
  · rw [add_zero]
    exact card_ownedCaptures _
  · exact card_ownedImages _
  · have hget := (capturesyncGetCapture_refs href).2.1
    have hmap : capturesyncGetCapture w.toFifo = _ := capturesyncGetCapture_map ringHom w
    rw [hmap] at hget
    exact hget
  · intro ops rest c hops
    have howns : Owns (capturesyncDestroy w).captureRefs 0 := hcaps
    rw [hops] at howns
    exact howns.count_le_of_append c
  · intro ops rest i hops
    have howns : Owns (capturesyncDestroy w).imageRefs 0 := himgs
    rw [hops] at howns
    exact howns.count_le_of_append i

theorem references_conserved_merged_pair : ∃ w₀ : World QueueContext,
    capturesyncCreate QueueContext pairedHeap false = some w₀ ∧
      let w := (callRun w₀ [.start pairedConfiguration, .addCapture .succeeded (some ⟨1⟩) true,
        .addCapture .succeeded (some ⟨2⟩) false]).1
      w.sync.syncQueue.contents = [⟨2⟩] ∧
      (capturesyncGetCapture w).1.captureRefs = w.captureRefs ++ [.give ⟨2⟩] ∧
      Owns (capturesyncDestroy w).captureRefs 0 ∧ Owns (capturesyncDestroy w).imageRefs 0 := by
  obtain ⟨w₀, hw⟩ : ∃ w, capturesyncCreate QueueContext pairedHeap false = some w := ⟨_, rfl⟩
  obtain ⟨-, -, hget, hcaps, himgs, -⟩ := references_conserved hw [.start pairedConfiguration,
    .addCapture .succeeded (some ⟨1⟩) true, .addCapture .succeeded (some ⟨2⟩) false]
  refine ⟨w₀, hw, ?_, ?_, hcaps, himgs⟩
  · rw [← Option.some.inj hw]
    rfl
  · rw [hget, ← Option.some.inj hw]
    rfl

end ZsaSdk
