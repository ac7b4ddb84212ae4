import ZsaSdk.Capturesync.Start

/-!
# What is pushed and what the queue holds

A push is noted in `published`, with the streams its captures come from.  In a session the
captures of these notes are what has left `sync_queue`, then what it holds, and a client gets
captures that have left it, in the order of the pushes.  A merge is noted with an image, which is
the colour image of the colour capture at that moment, and the depth capture holds it from then
on.  So as long as `sync_queue` is open the heap is that of the start, with the merges replayed.

A failed result closes the queues, but the loop still merges what is in the slots.  Such a merge
sets an image and pushes nothing.
-/

namespace ZsaSdk

open Ledger World

/-! ## Notes of pushes -/

/-- The heap after a push: a merge has set the image of its depth capture. -/
def Published.setImage (h : Heap) : Published → Heap
  | .alone _ _ => h
  | .merged d _ i => h.captureSetColorImage d i

/-- The heap after pushes. -/
def mergedHeap (h : Heap) (l : List Published) : Heap := l.foldl Published.setImage h

/-- The image a merge is noted with is the one that the colour capture has. -/
def Published.TakesImage (h : Heap) : Published → Prop
  | .alone _ _ => True
  | .merged _ c i => i = h.typedImage true c

/-- The capture that a client gets with a reply. -/
def Reply.capture : Reply → Option CaptureHandle
  | .got _ c => c
  | _ => none

theorem mergedHeap_concat (h : Heap) (l : List Published) (p : Published) :
    mergedHeap h (l ++ [p]) = p.setImage (mergedHeap h l) := List.foldl_concat ..

/-- A capture that is not merged into keeps its images. -/
theorem typedImage_mergedHeap {d : CaptureHandle} (k : Bool) (l : List Published) :
    ∀ h : Heap, (∀ c i, .merged d c i ∉ l) →
      (mergedHeap h l).typedImage k d = h.typedImage k d := by
  induction l with
  | nil => exact fun _ _ => rfl
  | cons p l ih =>
      intro h hd
      have hrest := ih (p.setImage h) fun c i hm => hd c i (List.mem_cons_of_mem _ hm)
      refine hrest.trans ?_
      cases p with
      | alone j c => rfl
      | merged e c i =>
          cases k with
          | false => exact Heap.typedImage_false_setColor h e d i
          | true =>
              have hne : d ≠ e := fun heq => hd c i (heq ▸ List.mem_cons_self)
              exact (Heap.typedImage_setColor h e d i).trans (if_neg hne)

/-! ## The queue -/

/-- A push puts its capture at the end, and may take one off the front. -/
theorem FifoQueue.items_pushWDropped {q : FifoQueue} (h : q.enabled = true) (c : CaptureHandle) :
    ∃ out, q.fifo.items ++ [c] = out ++ (q.pushWDropped c false).queue.fifo.items := by
  simp only [FifoQueue.pushWDropped, h]
  exact ⟨_, (q.fifo.evicted_append_push c).symm⟩

/-- A pop takes what it returns off the front. -/
theorem FifoQueue.items_pop (q : FifoQueue) :
    q.fifo.items = q.pop.capture.toList ++ q.pop.queue.fifo.items := by
  cases he : q.enabled with
  | false => simp [FifoQueue.pop, he]
  | true =>
      cases hi : q.fifo.items with
      | nil => simp [FifoQueue.pop, he, hi]
      | cons d ds => simp [FifoQueue.pop, he, hi]

/-! ## Sessions -/

/-- What `s` has pushed since a session began with the heap `h`, and what clients have got. -/
structure Pushed (h : Heap) (base pushed : List Published) (got : List CaptureHandle)
    (s : Session) : Prop where
  published : s.published = base ++ pushed
  queue : ∃ gone, pushed.map Published.capture = gone ++ s.syncQueue.fifo.items ∧
    got.Sublist gone
  images : ∀ pre p, pre ++ [p] <+: pushed → p.TakesImage (mergedHeap h pre)
  heap : s.syncQueue.enabled = true → s.heap = mergedHeap h pushed

namespace Pushed

variable {h : Heap} {base pushed : List Published} {got : List CaptureHandle} {s : Session}

/-- A push, of a heap that its merge has changed. -/
theorem push (hp : Pushed h base pushed got s) {p : Published} {heap : Heap}
    (hheap : heap = p.setImage s.heap) (himage : p.TakesImage s.heap) :
    ∃ pushed', Pushed h base pushed' got ({ s with heap }.publish p) := by
  cases he : s.syncQueue.enabled with
  | false =>
      have hpublished : ({ s with heap }.publish p).published = s.published := by
        simp [Session.publish, he]
      have hqueue : ({ s with heap }.publish p).syncQueue = s.syncQueue := by
        simp [Session.publish, FifoQueue.pushWDropped, he]
      refine ⟨pushed, hpublished.trans hp.published, ?_, hp.images, ?_⟩
      · rw [hqueue]
        exact hp.queue
      · intro henabled
        rw [hqueue, he] at henabled
        cases henabled
  | true =>
      have hpublished : ({ s with heap }.publish p).published = s.published ++ [p] := by
        simp [Session.publish, he]
      refine ⟨pushed ++ [p], ?_, ?_, ?_, ?_⟩
      · rw [hpublished, hp.published, List.append_assoc]
      · obtain ⟨gone, hgone, hgot⟩ := hp.queue
        obtain ⟨out, hout⟩ := FifoQueue.items_pushWDropped he p.capture
        refine ⟨gone ++ out, ?_, hgot.trans (List.sublist_append_left gone out)⟩
        rw [List.map_append, List.map_singleton, hgone, List.append_assoc, hout, List.append_assoc]
        rfl
      · intro pre q hprefix
        rcases List.prefix_concat_iff.mp hprefix with heq | hbefore
        · obtain ⟨rfl, hq⟩ := List.append_inj' heq rfl
          rw [List.singleton_inj.mp hq, ← hp.heap he]
          exact himage
        · exact hp.images pre q hbefore
      · intro _
        rw [mergedHeap_concat, ← hp.heap he]
        exact hheap

/-- The streams have no part in it. -/
theorem setCaptures (hp : Pushed h base pushed got s) (k : Bool) (l : List CaptureHandle) :
    Pushed h base pushed got (s.setCaptures k l) :=
  ⟨hp.published, hp.queue, hp.images, hp.heap⟩

theorem publishAlone (hp : Pushed h base pushed got s) (k : Bool) (c : CaptureHandle) :
    ∃ pushed', Pushed h base pushed' got (s.publishAlone k c) := by
  simp only [Session.publishAlone]
  split
  · exact ⟨pushed, hp⟩
  · exact hp.push (p := .alone k c) rfl trivial

theorem body (hp : Pushed h base pushed got s) :
    ∃ pushed', Pushed h base pushed' got s.body := by
  simp only [Session.body]
  split
  · next c cs d ds _ _ =>
    split
    · obtain ⟨pushed', halone⟩ := hp.publishAlone false d
      exact ⟨pushed', halone.setCaptures false ds⟩
    · obtain ⟨pushed', halone⟩ := hp.publishAlone true c
      exact ⟨pushed', halone.setCaptures true cs⟩
    · obtain ⟨pushed', hmerge⟩ := hp.push
        (p := .merged d c (s.heap.typedImage true c)) rfl rfl
      exact ⟨pushed', (hmerge.setCaptures true cs).setCaptures false ds⟩
  · exact ⟨pushed, hp⟩

theorem loop (hp : Pushed h base pushed got s) :
    ∃ pushed', Pushed h base pushed' got s.loop := by
  refine Loop.run_invariant (fun t => ∃ pushed', Pushed h base pushed' got t) ?_ s.size s
    ⟨pushed, hp⟩
  rintro t _ ⟨pushed', ht⟩
  exact ht.body

theorem store (hp : Pushed h base pushed got s) (c : CaptureHandle) (k : Bool) :
    ∃ pushed', Pushed h base pushed' got (s.store c k) := by
  simp only [Session.store]
  split
  · exact ⟨pushed, hp.setCaptures k [c]⟩
  · next d ds _ =>
    split
    · exact ⟨pushed, hp⟩
    · split
      · obtain ⟨pushed', halone⟩ := hp.publishAlone k d
        exact ⟨pushed', halone.setCaptures k (ds ++ [c])⟩
      · exact ⟨pushed, hp.setCaptures k (d :: ds ++ [c])⟩

theorem accept (hp : Pushed h base pushed got s) (c : CaptureHandle) (k : Bool) :
    ∃ pushed', Pushed h base pushed' got (s.accept c k) := by
  have hclean : Pushed h base pushed got s.setClean :=
    ⟨hp.published, hp.queue, hp.images, hp.heap⟩
  have hstore : ∀ t, Pushed h base pushed got t →
      ∃ pushed', Pushed h base pushed' got (t.store c k).loop := by
    intro t ht
    obtain ⟨pushed', hst⟩ := ht.store c k
    exact hst.loop
  simp only [Session.accept]
  split
  · exact ⟨pushed, hp⟩
  · split
    · exact hp.push (p := .alone k c) rfl trivial
    · split
      · split
        · exact ⟨pushed, hp⟩
        · exact hstore s.setClean hclean
      · exact hstore s hp

/-- A failed result empties the queue and closes it. -/
theorem fail (hp : Pushed h base pushed got s) : Pushed h base pushed got s.fail where
  published := hp.published
  queue := by
    obtain ⟨gone, hgone, hgot⟩ := hp.queue
    refine ⟨pushed.map Published.capture, (List.append_nil _).symm, hgot.trans ?_⟩
    rw [hgone]
    exact List.sublist_append_left gone _
  images := hp.images
  heap henabled := by cases henabled

/-- A client gets the head of the queue, if there is one. -/
theorem get (hp : Pushed h base pushed got s) :
    Pushed h base pushed (got ++ s.syncQueue.pop.capture.toList) s.get.1 where
  published := hp.published
  queue := by
    obtain ⟨gone, hgone, hgot⟩ := hp.queue
    refine ⟨gone ++ s.syncQueue.pop.capture.toList, ?_, hgot.append_right _⟩
    rw [hgone, List.append_assoc]
    exact congrArg (gone ++ ·) (FifoQueue.items_pop s.syncQueue)
  images := hp.images
  heap henabled := by
    have hsame : s.syncQueue.enabled = true := by
      rw [← henabled]
      simp only [Session.get, FifoQueue.pop]
      split <;> rfl
    exact hp.heap hsame

theorem step (hp : Pushed h base pushed got s) (call : SessionCall) :
    ∃ pushed', Pushed h base pushed' (got ++ (s.step call).2.capture.toList) (s.step call).1 := by
  cases call with
  | getCapture => exact ⟨pushed, hp.get⟩
  | addCapture r c k =>
      have hadd : ∃ pushed', Pushed h base pushed' got (s.add r c k) := by
        simp only [Session.add]
        split
        · exact ⟨pushed, hp.fail⟩
        · split
          · exact ⟨pushed, hp⟩
          · next c =>
            split
            · exact ⟨pushed, hp⟩
            · exact hp.accept c k
      obtain ⟨pushed', hdone⟩ := hadd
      refine ⟨pushed', ?_⟩
      rw [show got ++ (s.step (.addCapture r c k)).2.capture.toList = got from List.append_nil got]
      exact hdone

theorem run (calls : List SessionCall) :
    ∀ {s : Session} {pushed : List Published} {got : List CaptureHandle},
      Pushed h base pushed got s →
      ∃ pushed', Pushed h base pushed' (got ++ (s.run calls).2.filterMap Reply.capture)
        (s.run calls).1 := by
  induction calls with
  | nil =>
      intro s pushed got hp
      refine ⟨pushed, ?_⟩
      rw [Session.run, List.filterMap_nil, List.append_nil]
      exact hp
  | cons call calls ih =>
      intro s pushed got hp
      obtain ⟨pushed₁, hstep⟩ := hp.step call
      obtain ⟨pushed₂, hrun⟩ := ih hstep
      have hreplies : (s.run (call :: calls)).2.filterMap Reply.capture =
          (s.step call).2.capture.toList ++
            ((s.step call).1.run calls).2.filterMap Reply.capture := by
        rw [Session.run, List.filterMap_cons]
        cases (s.step call).2.capture <;> rfl
      refine ⟨pushed₂, ?_⟩
      rw [hreplies, ← List.append_assoc]
      exact hrun

end Pushed

/-- In a session, whatever the calls are: what is pushed is what has left `sync_queue`, then what it
holds.  Clients get some of what has left it, in the order of the pushes.  Every merge is noted with
the colour image that the colour capture has then, and as long as `sync_queue` is open each image is
where the last merge has put it. -/
theorem sync_queue_holds_pushed {w : World QueueContext} (h : Idle w)
    (config : DeviceConfiguration) (hvalid : 0 < convertFpsToUint config.cameraFps)
    (calls : List SessionCall) {w' : World QueueContext} {replies : List Reply}
    (hrun : callRun (capturesyncStart w config).1 (calls.map SessionCall.toCall) = (w', replies)) :
    ∃ pushed gone, w'.published = w.published ++ pushed ∧
      pushed.map Published.capture = gone ++ w'.sync.syncQueue.contents ∧
      (replies.filterMap Reply.capture).Sublist gone ∧
      (∀ pre p, pre ++ [p] <+: pushed → p.TakesImage (mergedHeap w.heap pre)) ∧
      (w'.sync.syncQueue.enabled = true → w'.heap = mergedHeap w.heap pushed) := by
  obtain ⟨hs, hr⟩ := h.callRun_session hvalid calls
  rw [hrun] at hs hr
  have hbegin : Pushed w.heap w.published [] []
      (Session.begin w.heap w.published w.sync.disableSync config) := by
    refine ⟨(List.append_nil _).symm, ⟨[], rfl, List.Sublist.refl _⟩, ?_, fun _ => rfl⟩
    intro pre p hprefix
    exact absurd (List.prefix_nil.mp hprefix) (List.append_ne_nil_of_right_ne_nil pre
      (List.cons_ne_nil p []))
  obtain ⟨pushed, hpushed⟩ := hbegin.run calls
  rw [← hs, ← hr, List.nil_append] at hpushed
  obtain ⟨gone, hgone, hgot⟩ := hpushed.queue
  exact ⟨pushed, gone, hpushed.published, hgone, hgot, hpushed.images, hpushed.heap⟩

/-- A depth capture that a merge has pushed holds the image of the colour capture until it is merged
again. -/
theorem merged_capture_holds_image {w : World QueueContext} (h : Idle w)
    (config : DeviceConfiguration) (hvalid : 0 < convertFpsToUint config.cameraFps)
    (calls : List SessionCall) {w' : World QueueContext}
    (hw' : w' = (callRun (capturesyncStart w config).1 (calls.map SessionCall.toCall)).1)
    (hopen : w'.sync.syncQueue.enabled = true) {pre post : List Published}
    {d c : CaptureHandle} {i : Option ImageHandle}
    (hpushed : w'.published = w.published ++ (pre ++ .merged d c i :: post))
    (hlast : ∀ c i, .merged d c i ∉ post) :
    i = (mergedHeap w.heap pre).typedImage true c ∧ w'.heap.typedImage true d = i := by
  obtain ⟨pushed, gone, hpublished, -, -, himages, hheap⟩ :=
    sync_queue_holds_pushed h config hvalid calls (Prod.ext hw'.symm rfl)
  obtain rfl := List.append_cancel_left (hpublished.symm.trans hpushed)
  have hprefix : pre ++ [.merged d c i] <+: pre ++ .merged d c i :: post :=
    ⟨post, List.append_assoc ..⟩
  refine ⟨himages pre _ hprefix, ?_⟩
  have hsplit : mergedHeap w.heap (pre ++ .merged d c i :: post) =
      mergedHeap ((mergedHeap w.heap pre).captureSetColorImage d i) post := List.foldl_append ..
  rw [hheap hopen, hsplit, typedImage_mergedHeap true post _ hlast, Heap.typedImage_setColor,
    if_pos rfl]

end ZsaSdk
