import ZsaSdk.Capturesync.Window

/-!
# The heads leave their slots

The window decides which heads an iteration takes.  A head that is taken gives way to the next
capture of its queue, and an empty slot means that there is none or that the queue was closed
meanwhile (`heads_leave`).  The pops of a merge share one result.  If the first of them fails, the
colour queue is closed.  The queues are always closed in the same order, so the depth queue is
closed too, and a second pop that is not even tried would have failed.
-/

namespace ZsaSdk

open World

/-! ## What an iteration does to a stream -/

/-- The decision takes the head off a stream. -/
def WindowDecision.takes : WindowDecision → Bool → Bool
  | .dropDepth, k => !k
  | .dropColor, k => k
  | .merge, _ => true

namespace World

variable {w w' : World FifoQueue} {k : Bool}

/-- The queue of a stream is as it was, or the other threads have closed it. -/
def QueueKept (w w' : World FifoQueue) (k : Bool) : Prop :=
  w'.items k = w.items k ∨ (w'.isOpen k = false ∧ w'.items k = [])

/-- The slot of a stream holds what its queue held next.  Only if the other threads have closed the
queue it is empty. -/
def HeadLeft (w w' : World FifoQueue) (k : Bool) : Prop :=
  (w'.frame k).capture = (w.items k).head? ∨ (w'.isOpen k = false ∧ (w'.frame k).capture = none)

theorem Interfered.queueKept (h : Interfered w w') (k : Bool) : QueueKept w w' k := by
  rcases h.queue k with hsame | hclosed
  · exact Or.inl (congrArg (fun q => q.fifo.items) hsame)
  · exact Or.inr hclosed

theorem QueueKept.headLeft {v : World FifoQueue} (hq : QueueKept w v k) (h : HeadLeft v w' k)
    (hclosed : v.isOpen k = false → w'.isOpen k = false) : HeadLeft w w' k := by
  rcases hq with hsame | ⟨hopen, hitems⟩
  · rw [HeadLeft, ← hsame]
    exact h
  · refine Or.inr ⟨hclosed hopen, ?_⟩
    rcases h with hnext | ⟨-, hnone⟩
    · rw [hnext, hitems]
      rfl
    · exact hnone

/-- `drop_sample` leaves the other stream alone, and opens no queue. -/
theorem dropSample_other (h : Core w) (r : WaitResult) (k b : Bool) :
    ((w.dropSample r k b).1.frame (!k)).capture = (w.frame (!k)).capture ∧
      QueueKept w (w.dropSample r k b).1 (!k) ∧
      ∀ j, w.isOpen j = false → (w.dropSample r k b).1.isOpen j = false := by
  obtain ⟨v, hv, hdropped⟩ := frame_dropped w k b
  have hframe : (w.dropped k b).frame (!k) = v.frame (!k) := by
    rw [hdropped, frame_setFrame_not, frame_imageDecRef, frame_captureDecRef]
  have hflag : ∀ j, (w.dropped k b).isOpen j = v.isOpen j := by
    intro j
    rw [hdropped]
    cases k <;> cases j <;> rfl
  -- What holds before the slot is refilled holds afterwards.
  have hrefilled : ∀ u u' : World FifoQueue, Interfered (w.dropped k b) u →
      u'.frame (!k) = u.frame (!k) → (∀ j, u'.isOpen j = u.isOpen j) →
      (u'.frame (!k)).capture = (w.frame (!k)).capture ∧ QueueKept w u' (!k) ∧
        ∀ j, w.isOpen j = false → u'.isOpen j = false := by
    intro u u' hu hsame hopen
    have hitems : u'.items (!k) = u.items (!k) := congrArg (fun f => f.queue.fifo.items) hsame
    refine ⟨?_, ?_, ?_⟩
    · rw [hsame, hu.capture, hframe]
      exact hv.capture (!k)
    · rw [QueueKept, hitems, hopen]
      rcases hu.queueKept (!k) with hkept | hclosed
      · rcases hv.queueKept (!k) with hkept' | ⟨hclosed, hnil⟩
        · refine Or.inl (hkept.trans (Eq.trans ?_ hkept'))
          exact congrArg (fun f => f.queue.fifo.items) hframe
        · refine Or.inr ⟨hu.isOpen_false ((hflag (!k)).trans hclosed), ?_⟩
          refine hkept.trans (Eq.trans ?_ hnil)
          exact congrArg (fun f => f.queue.fifo.items) hframe
      · exact Or.inr hclosed
    · intro j hj
      exact (hopen j).trans (hu.isOpen_false ((hflag j).trans (hv.isOpen_false hj)))
  have hempty : ∀ u : World FifoQueue, ∀ j, (u.emptySlot k).isOpen j = u.isOpen j := by
    intro u j
    cases k <;> cases j <;> rfl
  have hload : ∀ (u : World FifoQueue) (c : CaptureHandle) (j : Bool),
      (u.loadSlot k c).isOpen j = u.isOpen j := by
    intro u c j
    cases k <;> cases j <;> rfl
  have hp := preempt_interfered (w.dropped k b)
  rw [dropSample_eq w k r b ((h.dropped k b).preempt.typed k)]
  split
  · exact hrefilled _ _ (Interfered.refl _) (frame_setFrame_not _ k _) (hempty _)
  · split
    · exact hrefilled _ _ hp (frame_setFrame_not _ k _) (hempty _)
    · split
      · exact hrefilled _ _ hp (frame_setFrame_not _ k _) (hempty _)
      · next c _ _ => exact hrefilled _ _ hp (frame_loadSlot_not _ k c) (hload _ c)

/-- `drop_sample` takes the head off its stream.  A failure that was there before is passed on
without a look at the queue, which is closed then. -/
theorem dropSample_headLeft (h : Core w) {r : WaitResult} (hr : r = .failed → w.isOpen k = false)
    (b : Bool) : HeadLeft w (w.dropSample r k b).1 k := by
  have hclosed := (dropSample_other h r k b).2.2 k
  obtain ⟨v, hv, hdropped⟩ := frame_dropped w k b
  have hitems : (w.dropped k b).items k = v.items k := by
    rw [items, hdropped, frame_setFrame]
    rfl
  have hflag : (w.dropped k b).isOpen k = v.isOpen k := by
    rw [isOpen, hdropped, frame_setFrame]
    rfl
  have hp := preempt_interfered (w.dropped k b)
  have hnone : ∀ u : World FifoQueue, ((u.emptySlot k).frame k).capture = none := by
    intro u
    rw [emptySlot, frame_setFrame]
  rw [dropSample_eq w k r b ((h.dropped k b).preempt.typed k)] at hclosed ⊢
  split
  · next hf =>
    rw [if_pos hf] at hclosed
    exact Or.inr ⟨hclosed (hr hf), hnone _⟩
  · split
    · next ho =>
      have hempty : ((w.dropped k b).preempt.emptySlot k).isOpen k =
          (w.dropped k b).preempt.isOpen k := by
        rw [isOpen, emptySlot, frame_setFrame]
        rfl
      exact Or.inr ⟨hempty.trans ho, hnone _⟩
    · next ho =>
      -- The queue is still open, so nobody has taken anything out of it.
      have hkept : (w.dropped k b).preempt.items k = w.items k := by
        rcases hp.queueKept k with hsame | ⟨hc, -⟩
        · rcases hv.queueKept k with hsame' | ⟨hc, -⟩
          · exact hsame.trans (hitems.trans hsame')
          · exact absurd (hp.isOpen_false (hflag.trans hc)) ho
        · exact absurd hc ho
      rw [HeadLeft, ← hkept]
      split
      · next hi =>
        rw [hnone, hi]
        exact Or.inl rfl
      · next c cs hi =>
        rw [frame_loadSlot, hi]
        exact Or.inl rfl

/-- One iteration takes the heads off the streams that the decision says, and leaves the other slot
alone. -/
theorem loopBody_heads {s : World FifoQueue × WaitResult} (hg : loopGuard s = true)
    (h : LoopInv s) (k : Bool) :
    if s.1.decision.takes k then HeadLeft s.1 (loopBody s).1 k
    else ((loopBody s).1.frame k).capture = (s.1.frame k).capture := by
  obtain ⟨hr, ⟨d, hd⟩, ⟨c, hc⟩⟩ := loopGuard_iff.mp hg
  have hnot : ∀ j, s.2 = .failed → s.1.isOpen j = false := by
    intro j hf
    rw [hr] at hf
    cases hf
  rw [loopBody_eq hg]
  cases s.1.decision with
  | dropDepth =>
      cases k with
      | false => exact dropSample_headLeft h.core (hnot false) true
      | true => exact (dropSample_other h.core s.2 false true).1
  | dropColor =>
      cases k with
      | false => exact (dropSample_other h.core s.2 true true).1
      | true => exact dropSample_headLeft h.core (hnot true) true
  | merge =>
      have hc' : s.1.sync.color.capture = some c := hc
      have hd' : s.1.sync.depthIr.capture = some d := hd
      simp only [iteration, hc', hd', WindowDecision.takes, if_true]
      generalize hp : Published.merged d c (s.1.heap.typedImage true c) = p
      have hcore := (h.core.mergeCaptures d (h.color.typed hc)).pushSyncQueue p
      have hi := pushSyncQueue_interfered (s.1.mergeCaptures d c) p
      have hdepth := (h.depth.mergeCaptures_depth d c).of_interfered hi
      have hsame : ∀ j, QueueKept s.1 ((s.1.mergeCaptures d c).pushSyncQueue p) j := hi.queueKept
      have hfalse : ∀ j, s.2 = .failed →
          ((s.1.mergeCaptures d c).pushSyncQueue p).isOpen j = false := by
        intro j hf
        rw [hr] at hf
        cases hf
      generalize (s.1.mergeCaptures d c).pushSyncQueue p = v at hcore hdepth hsame hfalse ⊢
      obtain ⟨hcore₁, -, -, -, hfail⟩ := dropSample_inv (k := true) hcore hdepth s.2 false
        (fun hf => by rw [hr] at hf; cases hf)
      have hcolor := dropSample_headLeft hcore (hfalse true) false
      obtain ⟨-, hkept, hclosed⟩ := dropSample_other hcore s.2 true false
      generalize v.dropSample s.2 true false = t at hcore₁ hfail hcolor hkept hclosed ⊢
      -- A failure of the first pop means that both queues are closed.
      have hboth : t.2 = .failed → t.1.isOpen false = false := by
        intro hf
        rcases hfail hf with hf' | ho
        · rw [hr] at hf'
          cases hf'
        · exact hcore₁.order ho
      have hother := dropSample_other hcore₁ t.2 false false
      cases k with
      | false =>
          have hleft := dropSample_headLeft hcore₁ hboth false
          refine (hsame false).headLeft (QueueKept.headLeft hkept hleft (hother.2.2 false)) ?_
          exact fun ho => hother.2.2 false (hclosed false ho)
      | true =>
          refine (hsame true).headLeft ?_ fun ho => hother.2.2 true (hclosed true ho)
          have hslot : ((t.1.dropSample t.2 false false).1.frame true).capture =
              (t.1.frame true).capture := hother.1
          rw [HeadLeft, hslot]
          rcases hcolor with hnext | ⟨ho, hnone⟩
          · exact Or.inl hnext
          · exact Or.inr ⟨hother.2.2 true ho, hnone⟩

end World

/-! ## States of the loop -/

namespace World

variable {Q Q' : Type} [QueueApi Q] [QueueApi Q'] (h : QueueHom Q Q')

theorem lockedEntry_map (w : World Q) (c : CaptureHandle) (ts : UInt64) (k : Bool) :
    (w.map h.toFun).lockedEntry c ts k = (w.lockedEntry c ts k).map (World.map h.toFun) := by
  have hrun : (w.map h.toFun).sync.running = w.sync.running := rfl
  have hsync : (w.map h.toFun).sync.syncCaptures = w.sync.syncCaptures := rfl
  have hdis : (w.map h.toFun).sync.disableSync = w.sync.disableSync := rfl
  have hwait : (w.map h.toFun).sync.waitingForCleanDepthTs = w.sync.waitingForCleanDepthTs := rfl
  have hfps : (w.map h.toFun).sync.fpsPeriod = w.sync.fpsPeriod := rfl
  simp only [lockedEntry, hrun, hsync, hdis, hwait, hfps]
  split
  · rfl
  · split
    · rfl
    · split
      · split
        · rfl
        · exact congrArg some (storeCapture_map h
            { w with sync := { w.sync with waitingForCleanDepthTs := false } } c k)
      · exact congrArg some (storeCapture_map h w c k)

theorem loopEntry_map (w : World Q) (r : Result) (c : Option CaptureHandle) (k : Bool) :
    (w.map h.toFun).loopEntry r c k = (w.loopEntry r c k).map (World.map h.toFun) := by
  have hheap : (w.map h.toFun).heap = w.heap := rfl
  simp only [loopEntry, hheap]
  split
  · rfl
  · cases c with
    | none => rfl
    | some c =>
        simp only
        cases w.heap.typedImage k c with
        | none => rfl
        | some i =>
            exact lockedEntry_map h (w.postImageRefs [.acquire i, .release i]) c
              (w.heap.devTimestampUsec i) k

/-- The loop begins with the invariant. -/
theorem RepInv.lockedEntry {w v : World FifoQueue} (h : RepInv w) {c : CaptureHandle} {k : Bool}
    (ht : w.heap.typedImage k c ≠ none) {ts : UInt64} (hv : w.lockedEntry c ts k = some v) :
    LoopInv (v, .succeeded) := by
  have hstored : ∀ u : World FifoQueue, RepInv u → u.heap = w.heap →
      LoopInv (u.storeCapture c k, .succeeded) := by
    intro u hu hheap
    obtain ⟨hcore, hslot⟩ := storeCapture_inv (k := k) hu.core hu.slot (hheap ▸ ht)
    exact ⟨hcore, hslot true, hslot false, fun hs => absurd rfl hs⟩
  simp only [World.lockedEntry] at hv
  split at hv
  · cases hv
  split at hv
  · cases hv
  split at hv
  · split at hv
    · cases hv
    rw [← Option.some.inj hv]
    exact hstored _ (h.setWaiting false) rfl
  · rw [← Option.some.inj hv]
    exact hstored w h rfl

theorem RepInv.loopEntry {w v : World FifoQueue} (h : RepInv w) {r : Result}
    {c : Option CaptureHandle} {k : Bool} (hv : w.loopEntry r c k = some v) :
    LoopInv (v, .succeeded) := by
  simp only [World.loopEntry] at hv
  split at hv
  · cases hv
  cases c with
  | none => cases hv
  | some c =>
      simp only at hv
      cases hi : w.heap.typedImage k c with
      | none =>
          rw [hi] at hv
          cases hv
      | some i =>
          rw [hi] at hv
          have hrefs : RepInv (w.postImageRefs [.acquire i, .release i]) :=
            h.congr rfl rfl rfl rfl (frame_congr rfl rfl)
          refine hrefs.lockedEntry ?_ hv
          rw [heap_postImageRefs, hi]
          exact Option.some_ne_none i

end World

theorem InLoop.map {Q Q' : Type} [QueueApi Q] [QueueApi Q'] (h : QueueHom Q Q')
    {s : World Q × WaitResult} (hs : InLoop s) : InLoop (s.1.map h.toFun, s.2) := by
  induction hs with
  | @enter w v r c k hw hv =>
      refine InLoop.enter (hw.map h) (r := r) (c := c) (k := k) ?_
      rw [loopEntry_map, hv]
      rfl
  | @next s hs hg ih =>
      have hbody := ih.next ((loopGuard_map h s).trans hg)
      rw [loopBody_map] at hbody
      exact hbody

/-- The invariant holds whenever the condition of the loop is tested. -/
theorem InLoop.loopInv {s : World FifoQueue × WaitResult} (hs : InLoop s) : LoopInv s := by
  induction hs with
  | enter hw hv => exact hw.inv.loopEntry hv
  | next _ hg ih => exact loopBody_inv hg ih

/-- A head that is dropped or merged leaves its slot: it gives way to the next capture of its queue,
or the slot is empty because there is none or the other threads have closed the queue.  A head that
is neither stays. -/
theorem heads_leave {s : World QueueContext × WaitResult} (h : InLoop s) (hg : loopGuard s = true)
    (k : Bool) :
    if s.1.decision.takes k then HeadLeft s.1.toFifo (loopBody s).1.toFifo k
    else ((loopBody s).1.frame k).capture = (s.1.frame k).capture := by
  have hfifo := loopBody_heads ((loopGuard_map ringHom s).trans hg) (h.map ringHom).loopInv k
  have hbody : loopBody (s.1.map ringHom.toFun, s.2) =
      ((loopBody s).1.map ringHom.toFun, (loopBody s).2) := loopBody_map ringHom s
  have hframe : ∀ w : World QueueContext,
      ((w.map ringHom.toFun).frame k).capture = (w.frame k).capture := by
    intro w
    rw [frame_map]
    rfl
  rw [hbody, hframe, hframe] at hfifo
  exact hfifo

end ZsaSdk
