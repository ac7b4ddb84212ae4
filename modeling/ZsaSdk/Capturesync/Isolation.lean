import ZsaSdk.Capturesync.Start

/-!
# Sessions are isolated from each other

Two sessions that start on idle synchronisers and get the same captures behave the
same, whatever the synchronisers did before.  `Alike` relates two sessions that
differ only in captures neither of them has been given: their heaps agree on the
given captures, and everything else is equal.  Each call keeps the relation and
returns the same on both sides.
-/

namespace ZsaSdk

open Ledger World

/-- The captures a call hands over. -/
def SessionCall.given : SessionCall → List CaptureHandle
  | .addCapture .succeeded (some c) _ => [c]
  | _ => []

/-- The captures a sequence of calls hands over. -/
def givenCaptures (calls : List SessionCall) : List CaptureHandle :=
  calls.flatMap SessionCall.given

/-- The captures a push to `sync_queue` is made from. -/
def Published.parts : Published → List CaptureHandle
  | .alone _ c => [c]
  | .merged d c _ => [d, c]

theorem Published.capture_mem_parts (p : Published) : p.capture ∈ p.parts := by
  cases p with
  | alone k c => exact List.mem_singleton_self c
  | merged d c i => exact List.mem_cons_self

/-- Two heaps agree on a capture: it holds the same images, with the same
timestamps. -/
def Heap.Agree (h₁ h₂ : Heap) (c : CaptureHandle) : Prop :=
  h₁.captures c = h₂.captures c ∧ ∀ k, h₁.typedTs k c = h₂.typedTs k c

theorem Heap.Agree.typedImage {h₁ h₂ : Heap} {c : CaptureHandle} (h : h₁.Agree h₂ c) (k : Bool) :
    h₁.typedImage k c = h₂.typedImage k c := by
  simp only [Heap.typedImage]
  rw [h.1]

/-- Setting an image both heaps agree on. -/
theorem Heap.Agree.setColor {h₁ h₂ : Heap} {c d e : CaptureHandle} (hc : h₁.Agree h₂ c)
    (he : h₁.Agree h₂ e) :
    (h₁.captureSetColorImage d (h₁.typedImage true c)).Agree
      (h₂.captureSetColorImage d (h₂.typedImage true c)) e := by
  refine ⟨?_, ?_⟩
  · simp only [Heap.captureSetColorImage]
    rw [hc.typedImage true]
    by_cases hed : e = d
    · subst hed
      simp [he.1]
    · simp [hed, he.1]
  · intro k
    rw [Heap.typedTs_setColor, Heap.typedTs_setColor, hc.2 true, he.2 k]

/-! ## Sessions that differ only in what they have not been given -/

/-- The captures `S` are the ones given.  `p₁` and `p₂` were published before. -/
structure Alike (S : List CaptureHandle) (p₁ p₂ : List Published) (s₁ s₂ : Session) : Prop where
  heap : ∀ c ∈ S, s₁.heap.Agree s₂.heap c
  params : s₁.params = s₂.params
  stream : s₁.stream = s₂.stream
  syncQueue : s₁.syncQueue = s₂.syncQueue
  published : ∃ l, s₁.published = p₁ ++ l ∧ s₂.published = p₂ ++ l ∧ ∀ p ∈ l, p.parts ⊆ S
  held : ∀ k, (s₁.stream k).captures ⊆ S
  queued : s₁.syncQueue.fifo.items ⊆ S

namespace Alike

variable {S : List CaptureHandle} {p₁ p₂ : List Published} {s₁ s₂ : Session}

theorem setCaptures (h : Alike S p₁ p₂ s₁ s₂) (k : Bool) {l : List CaptureHandle} (hl : l ⊆ S) :
    Alike S p₁ p₂ (s₁.setCaptures k l) (s₂.setCaptures k l) where
  heap := h.heap
  params := h.params
  stream := by simp only [Session.setCaptures, h.stream]
  syncQueue := h.syncQueue
  published := h.published
  held j := by
    by_cases hj : j = k
    · subst hj
      rw [Session.captures_setCaptures]
      exact hl
    · rw [Session.stream_setCaptures_of_ne _ hj]
      exact h.held j
  queued := h.queued

theorem publish (h : Alike S p₁ p₂ s₁ s₂) {p : Published} (hp : p.parts ⊆ S) :
    Alike S p₁ p₂ (s₁.publish p) (s₂.publish p) where
  heap := h.heap
  params := h.params
  stream := h.stream
  syncQueue := by simp only [Session.publish, h.syncQueue]
  published := by
    obtain ⟨l, h₁, h₂, hl⟩ := h.published
    simp only [Session.publish, h.syncQueue]
    split
    · refine ⟨l ++ [p], by rw [h₁, List.append_assoc], by rw [h₂, List.append_assoc], ?_⟩
      intro x hx
      rcases List.mem_append.mp hx with hm | hm
      · exact hl x hm
      · rw [List.mem_singleton.mp hm]
        exact hp
    · exact ⟨l, h₁, h₂, hl⟩
  held := h.held
  queued := by
    intro c hc
    rcases List.mem_append.mp (items_pushWDropped_subset _ _ hc) with hm | hm
    · exact h.queued hm
    · rw [List.mem_singleton.mp hm]
      exact hp p.capture_mem_parts

theorem publishAlone (h : Alike S p₁ p₂ s₁ s₂) (k : Bool) {c : CaptureHandle} (hc : c ∈ S) :
    Alike S p₁ p₂ (s₁.publishAlone k c) (s₂.publishAlone k c) := by
  simp only [Session.publishAlone]
  rw [h.params]
  split
  · exact h
  · exact h.publish (List.cons_subset.mpr ⟨hc, List.nil_subset S⟩)

theorem merge (h : Alike S p₁ p₂ s₁ s₂) {c d : CaptureHandle} (hc : c ∈ S) (hd : d ∈ S) :
    Alike S p₁ p₂ (s₁.merge c d) (s₂.merge c d) := by
  have hset : Alike S p₁ p₂
      { s₁ with heap := s₁.heap.captureSetColorImage d (s₁.heap.typedImage true c) }
      { s₂ with heap := s₂.heap.captureSetColorImage d (s₂.heap.typedImage true c) } :=
    ⟨fun e he => (h.heap c hc).setColor (h.heap e he), h.params, h.stream, h.syncQueue,
      h.published, h.held, h.queued⟩
  simp only [Session.merge]
  rw [(h.heap c hc).typedImage true]
  rw [(h.heap c hc).typedImage true] at hset
  exact hset.publish (List.cons_subset.mpr ⟨hd, List.cons_subset.mpr ⟨hc, List.nil_subset S⟩⟩)

/-- One iteration looks at two heads that both sides have been given. -/
theorem body (h : Alike S p₁ p₂ s₁ s₂) : Alike S p₁ p₂ s₁.body s₂.body := by
  simp only [Session.body]
  rw [← h.stream]
  cases hcs : (s₁.stream true).captures with
  | nil => exact h
  | cons c cs =>
      cases hds : (s₁.stream false).captures with
      | nil => exact h
      | cons d ds =>
          have hcolor := h.held true
          have hdepth := h.held false
          rw [hcs, List.cons_subset] at hcolor
          rw [hds, List.cons_subset] at hdepth
          have hdec : s₁.decision c d = s₂.decision c d := by
            simp only [Session.decision]
            rw [h.params, (h.heap c hcolor.1).2 true, (h.heap d hdepth.1).2 false]
          simp only [hdec]
          cases s₂.decision c d with
          | dropDepth => exact (h.publishAlone false hdepth.1).setCaptures false hdepth.2
          | dropColor => exact (h.publishAlone true hcolor.1).setCaptures true hcolor.2
          | merge =>
              exact ((h.merge hcolor.1 hdepth.1).setCaptures true hcolor.2).setCaptures false
                hdepth.2

theorem loop (h : Alike S p₁ p₂ s₁ s₂) : Alike S p₁ p₂ s₁.loop s₂.loop := by
  have hsize : s₂.size = s₁.size := by simp only [Session.size, h.stream]
  simp only [Session.loop]
  rw [hsize]
  refine Loop.run_related (Alike S p₁ p₂) ?_ (fun _ _ hs => hs.body) s₁.size s₁ s₂ h
  intro t₁ t₂ ht
  simp only [Session.guard, ht.stream]

theorem store (h : Alike S p₁ p₂ s₁ s₂) {c : CaptureHandle} (hc : c ∈ S) (k : Bool) :
    Alike S p₁ p₂ (s₁.store c k) (s₂.store c k) := by
  have hheld := h.held k
  have hone : [c] ⊆ S := List.cons_subset.mpr ⟨hc, List.nil_subset S⟩
  simp only [Session.store]
  rw [← h.stream]
  cases hl : (s₁.stream k).captures with
  | nil => exact h.setCaptures k hone
  | cons d ds =>
      rw [hl, List.cons_subset] at hheld
      simp only
      split
      · exact h
      · split
        · exact (h.publishAlone k hheld.1).setCaptures k (List.append_subset.mpr ⟨hheld.2, hone⟩)
        · refine h.setCaptures k ?_
          rw [List.cons_append, List.cons_subset]
          exact ⟨hheld.1, List.append_subset.mpr ⟨hheld.2, hone⟩⟩

theorem setClean (h : Alike S p₁ p₂ s₁ s₂) : Alike S p₁ p₂ s₁.setClean s₂.setClean :=
  ⟨h.heap, by simp only [Session.setClean, h.params], h.stream, h.syncQueue, h.published, h.held,
    h.queued⟩

theorem accept (h : Alike S p₁ p₂ s₁ s₂) {c : CaptureHandle} (hc : c ∈ S) (k : Bool) :
    Alike S p₁ p₂ (s₁.accept c k) (s₂.accept c k) := by
  simp only [Session.accept]
  rw [h.params, (h.heap c hc).2 k]
  split
  · exact h
  · split
    · exact h.publish (List.cons_subset.mpr ⟨hc, List.nil_subset S⟩)
    · split
      · split
        · exact h
        · exact (h.setClean.store hc k).loop
      · exact (h.store hc k).loop

theorem fail (h : Alike S p₁ p₂ s₁ s₂) : Alike S p₁ p₂ s₁.fail s₂.fail where
  heap := h.heap
  params := h.params
  stream := by simp only [Session.fail, h.stream]
  syncQueue := by simp only [Session.fail, h.syncQueue]
  published := h.published
  held k := List.Subset.trans (List.take_subset _ _) (h.held k)
  queued := List.nil_subset _

theorem add (h : Alike S p₁ p₂ s₁ s₂) {r : Result} {c : Option CaptureHandle} {k : Bool}
    (hc : (SessionCall.addCapture r c k).given ⊆ S) :
    Alike S p₁ p₂ (s₁.add r c k) (s₂.add r c k) := by
  simp only [Session.add]
  cases r with
  | failed => exact h.fail
  | succeeded =>
      cases c with
      | none => exact h
      | some c =>
          have hmem : c ∈ S := hc (List.mem_singleton_self c)
          simp only [reduceCtorEq, if_false, (h.heap c hmem).typedImage k]
          split
          · exact h
          · exact h.accept hmem k

/-- One call keeps two sessions alike and returns the same, and returns no capture but
a given one. -/
theorem step (h : Alike S p₁ p₂ s₁ s₂) {call : SessionCall} (hc : call.given ⊆ S) :
    Alike S p₁ p₂ (s₁.step call).1 (s₂.step call).1 ∧ (s₁.step call).2 = (s₂.step call).2 ∧
      ∀ r c, (s₁.step call).2 = .got r (some c) → c ∈ S := by
  cases call with
  | addCapture r c k =>
      refine ⟨h.add hc, rfl, ?_⟩
      intro r' c' hgot
      cases hgot
  | getCapture =>
      obtain ⟨hmem, hsub⟩ := pop_mem s₁.syncQueue
      refine ⟨⟨h.heap, h.params, h.stream, ?_, h.published, h.held, ?_⟩, ?_, ?_⟩
      · simp only [Session.step, Session.get, h.syncQueue]
      · exact List.Subset.trans hsub h.queued
      · simp only [Session.step, Session.get, h.syncQueue]
      · intro r c hgot
        exact h.queued (hmem c (Reply.got.inj hgot).2)

theorem run {calls : List SessionCall} : ∀ {s₁ s₂ : Session}, Alike S p₁ p₂ s₁ s₂ →
    givenCaptures calls ⊆ S →
    Alike S p₁ p₂ (s₁.run calls).1 (s₂.run calls).1 ∧ (s₁.run calls).2 = (s₂.run calls).2 ∧
      ∀ r c, Reply.got r (some c) ∈ (s₁.run calls).2 → c ∈ S := by
  induction calls with
  | nil =>
      intro s₁ s₂ h _
      exact ⟨h, rfl, fun r c hm => by cases hm⟩
  | cons call calls ih =>
      intro s₁ s₂ h hS
      obtain ⟨hcall, hcalls⟩ := List.append_subset.mp hS
      obtain ⟨hstep, hreply, hgot⟩ := h.step hcall
      obtain ⟨hrun, hreplies, hgots⟩ := ih hstep hcalls
      refine ⟨hrun, congrArg₂ List.cons hreply hreplies, ?_⟩
      intro r c hm
      rcases List.mem_cons.mp hm with hm | hm
      · exact hgot r c hm.symm
      · exact hgots r c hm

end Alike

/-- Two idle synchronisers with the same `disable_sync`, whatever led to them, behave
the same in their next session: for the same calls, given captures that hold the same
images, they return the same and push the same to `sync_queue`.  Whatever they return or
push is made from captures that were given in this session. -/
theorem session_isolation {w₁ w₂ : World QueueContext} (h₁ : Idle w₁) (h₂ : Idle w₂)
    (hflag : w₁.sync.disableSync = w₂.sync.disableSync) {config : DeviceConfiguration}
    (hvalid : 0 < convertFpsToUint config.cameraFps) (calls : List SessionCall)
    (hheap : ∀ c ∈ givenCaptures calls, w₁.heap.Agree w₂.heap c) :
    (callRun w₁ (.start config :: calls.map SessionCall.toCall)).2 =
        (callRun w₂ (.start config :: calls.map SessionCall.toCall)).2 ∧
      (∃ pushed, (callRun w₁ (.start config :: calls.map SessionCall.toCall)).1.published =
          w₁.published ++ pushed ∧
        (callRun w₂ (.start config :: calls.map SessionCall.toCall)).1.published =
          w₂.published ++ pushed ∧
        ∀ p ∈ pushed, p.parts ⊆ givenCaptures calls) ∧
      ∀ r c, Reply.got r (some c) ∈
          (callRun w₁ (.start config :: calls.map SessionCall.toCall)).2 →
        c ∈ givenCaptures calls := by
  have hstart : ∀ w : World QueueContext, (capturesyncStart w config).2 = .succeeded := by
    intro w
    simp only [capturesyncStart, hvalid, if_true]
  obtain ⟨hs₁, hr₁⟩ := h₁.callRun_session hvalid calls
  obtain ⟨hs₂, hr₂⟩ := h₂.callRun_session hvalid calls
  have hbegin : Alike (givenCaptures calls) w₁.published w₂.published
      (Session.begin w₁.heap w₁.published w₁.sync.disableSync config)
      (Session.begin w₂.heap w₂.published w₂.sync.disableSync config) := by
    refine ⟨hheap, ?_, rfl, rfl, ⟨[], ?_, ?_, ?_⟩, fun _ => List.nil_subset _, List.nil_subset _⟩
    · simp only [Session.begin, hflag]
    · exact (List.append_nil _).symm
    · exact (List.append_nil _).symm
    · intro p hp
      cases hp
  obtain ⟨hrun, hreply, hgot⟩ := hbegin.run (List.Subset.refl _)
  rw [← hs₁, ← hs₂] at hrun
  refine ⟨?_, hrun.published, ?_⟩
  · have hcons : ∀ w : World QueueContext,
        (callRun w (.start config :: calls.map SessionCall.toCall)).2 =
          .started .succeeded ::
            (callRun (capturesyncStart w config).1 (calls.map SessionCall.toCall)).2 := by
      intro w
      rw [← hstart w]
      rfl
    rw [hcons, hcons, hr₁, hr₂, hreply]
  · intro r c hm
    have hm' : Reply.got r (some c) ∈ Reply.started (capturesyncStart w₁ config).2 ::
        (callRun (capturesyncStart w₁ config).1 (calls.map SessionCall.toCall)).2 := hm
    rcases List.mem_cons.mp hm' with hm' | hm'
    · cases hm'
    · rw [hr₁] at hm'
      exact hgot r c hm'

/-- The first session of a new synchroniser and the second one after a session that
held on to a capture. -/
theorem session_isolation_restart :
    ∃ w₁ w₂ : World QueueContext, Idle w₁ ∧ Idle w₂ ∧ w₂.sync.color.ts ≠ w₁.sync.color.ts ∧
      (callRun w₁ (.start pairedConfiguration ::
          [SessionCall.addCapture .succeeded (some ⟨2⟩) true,
            .addCapture .succeeded (some ⟨3⟩) false, .getCapture].map SessionCall.toCall)).2 =
        (callRun w₂ (.start pairedConfiguration ::
          [SessionCall.addCapture .succeeded (some ⟨2⟩) true,
            .addCapture .succeeded (some ⟨3⟩) false, .getCapture].map SessionCall.toCall)).2 := by
  obtain ⟨w, hw⟩ : ∃ w, capturesyncCreate QueueContext pairedHeap false = some w := ⟨_, rfl⟩
  have hv := Option.some.inj hw
  have hn : w.notifiers = [] := by rw [← hv]; rfl
  have hreach := (((Reachable.create hw).start pairedConfiguration hn).addCapture .succeeded
    (some ⟨1⟩) true)
  have h₁ : Idle w := ⟨by rw [← hv]; rfl, hn, Or.inl ⟨_, _, hw⟩⟩
  have h₂ : Idle (capturesyncStop (capturesyncAddCapture
      (capturesyncStart w pairedConfiguration).1 .succeeded (some ⟨1⟩) true)) :=
    ⟨by rw [← hv]; rfl, by rw [← hv]; rfl, Or.inr ⟨_, hreach, rfl⟩⟩
  refine ⟨w, _, h₁, h₂, ?_, ?_⟩
  · rw [← hv]
    decide
  · refine (session_isolation h₁ h₂ ?_ (by decide) _ ?_).1
    · rw [← hv]
      rfl
    · intro c _
      rw [← hv]
      exact ⟨rfl, fun _ => rfl⟩

end ZsaSdk
