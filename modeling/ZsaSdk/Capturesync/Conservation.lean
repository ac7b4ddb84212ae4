import ZsaSdk.Capturesync.Start

/-!
# No capture is lost or duplicated

With `synchronized_images_only` off, every capture a stream accepts leaves it by
`sync_queue`, on its own or in a merge.  The history of a stream is what has left it
followed by what it holds.  Each iteration of the loop keeps the history of both
streams, whatever it drops or merges, and an accepted capture is appended to its
own history, also if it makes a full queue give up its oldest one.
-/

namespace ZsaSdk

open Ledger World

/-! ## What leaves a stream -/

/-- The capture a push to `sync_queue` takes from stream `k`. -/
def Published.taken (k : Bool) : Published → List CaptureHandle
  | .alone j c => if j = k then [c] else []
  | .merged d c _ => if k = true then [c] else [d]

/-- What has left stream `k`, in order. -/
def takenFrom (k : Bool) (l : List Published) : List CaptureHandle := l.flatMap (Published.taken k)

theorem takenFrom_append (k : Bool) (l l' : List Published) :
    takenFrom k (l ++ l') = takenFrom k l ++ takenFrom k l' := List.flatMap_append

theorem takenFrom_singleton (k : Bool) (p : Published) : takenFrom k [p] = p.taken k :=
  List.flatMap_singleton _ _

namespace Session

/-- What has left stream `k`, then what it holds. -/
def history (s : Session) (k : Bool) : List CaptureHandle :=
  takenFrom k s.published ++ (s.stream k).captures

/-- A running session that publishes everything. -/
structure Flowing (s : Session) : Prop where
  single : s.params.synchronizedImagesOnly = false
  running : s.params.running = true
  enabled : s.syncQueue.enabled = true
  isOpen : ∀ k, (s.stream k).isOpen = true
  typed : ∀ k, ∀ c ∈ (s.stream k).captures, s.heap.typedImage k c ≠ none

/-- `s'` is `s` after `new k` has been appended to the history of each stream `k`. -/
structure Flow (s s' : Session) (new : Bool → List CaptureHandle) : Prop where
  flowing : Flowing s'
  history : ∀ k, s'.history k = s.history k ++ new k
  pushed : ∃ l, s'.published = s.published ++ l
  params : s'.params = s.params
  typed : ∀ k c, s.heap.typedImage k c ≠ none → s'.heap.typedImage k c ≠ none
  depthTs : ∀ c, s'.heap.typedTs false c = s.heap.typedTs false c

theorem Flow.refl {s : Session} (h : Flowing s) : Flow s s (fun _ => []) :=
  ⟨h, fun _ => (List.append_nil _).symm, ⟨[], (List.append_nil _).symm⟩, rfl, fun _ _ h => h,
    fun _ => rfl⟩

theorem Flow.trans {s s' s'' : Session} {new new' : Bool → List CaptureHandle}
    (h : Flow s s' new) (h' : Flow s' s'' new') : Flow s s'' (fun k => new k ++ new' k) where
  flowing := h'.flowing
  history k := by rw [h'.history, h.history, List.append_assoc]
  pushed := by
    obtain ⟨l, hl⟩ := h.pushed
    obtain ⟨l', hl'⟩ := h'.pushed
    exact ⟨l ++ l', by rw [hl', hl, List.append_assoc]⟩
  params := h'.params.trans h.params
  typed k c hc := h'.typed k c (h.typed k c hc)
  depthTs c := (h'.depthTs c).trans (h.depthTs c)

variable {s : Session}

theorem published_publish (h : Flowing s) (p : Published) :
    (s.publish p).published = s.published ++ [p] := by
  simp [publish, h.enabled]

/-- Reading does not close the queue of the user. -/
theorem enabled_get (s : Session) : (s.step .getCapture).1.syncQueue.enabled =
    s.syncQueue.enabled := by
  simp only [step, get, FifoQueue.pop]
  split
  · rfl
  · rfl
  · rfl

theorem enabled_publish (s : Session) (p : Published) :
    (s.publish p).syncQueue.enabled = s.syncQueue.enabled := by
  cases he : s.syncQueue.enabled <;> simp [publish, FifoQueue.pushWDropped, he]

theorem Flowing.publish (h : Flowing s) (p : Published) : Flowing (s.publish p) :=
  ⟨h.single, h.running, (enabled_publish s p).trans h.enabled, h.isOpen, h.typed⟩

theorem Flowing.setCaptures (h : Flowing s) {k : Bool} {l : List CaptureHandle}
    (hl : ∀ c ∈ l, s.heap.typedImage k c ≠ none) : Flowing (s.setCaptures k l) where
  single := h.single
  running := h.running
  enabled := h.enabled
  isOpen j := by
    by_cases hj : j = k
    · subst hj
      simp only [Session.setCaptures, Function.update_self]
      exact h.isOpen j
    · rw [stream_setCaptures_of_ne _ hj]
      exact h.isOpen j
  typed j e he := by
    by_cases hj : j = k
    · subst hj
      rw [captures_setCaptures] at he
      exact hl e he
    · rw [stream_setCaptures_of_ne _ hj] at he
      exact h.typed j e he

/-- A stream takes the captures `new` at its end. -/
theorem flow_append (h : Flowing s) {k : Bool} (new : List CaptureHandle)
    (hnew : ∀ e ∈ new, s.heap.typedImage k e ≠ none) :
    Flow s (s.setCaptures k ((s.stream k).captures ++ new))
      (fun j => if j = k then new else []) := by
  refine ⟨h.setCaptures (List.forall_mem_append.mpr ⟨h.typed k, hnew⟩), ?_,
    ⟨[], (List.append_nil _).symm⟩, rfl, fun _ _ he => he, fun _ => rfl⟩
  intro j
  have hpub : (s.setCaptures k ((s.stream k).captures ++ new)).published = s.published := rfl
  simp only [history, hpub]
  by_cases hj : j = k
  · subst hj
    rw [captures_setCaptures, if_pos rfl, List.append_assoc]
  · rw [stream_setCaptures_of_ne _ hj, if_neg hj, List.append_nil]

/-- A stream gives up its head, on its own, and takes the captures `new` at its end. -/
theorem flow_publishAlone (h : Flowing s) {k : Bool} {c : CaptureHandle} {cs : List CaptureHandle}
    (new : List CaptureHandle) (hl : (s.stream k).captures = c :: cs)
    (hnew : ∀ e ∈ new, s.heap.typedImage k e ≠ none) :
    Flow s ((s.publishAlone k c).setCaptures k (cs ++ new))
      (fun j => if j = k then new else []) := by
  have halone : s.publishAlone k c = s.publish (.alone k c) := by
    simp [publishAlone, h.single]
  have hheld := h.typed k
  rw [hl, List.forall_mem_cons] at hheld
  have hpub : ((s.publish (.alone k c)).setCaptures k (cs ++ new)).published =
      s.published ++ [.alone k c] := published_publish h _
  rw [halone]
  refine ⟨(h.publish _).setCaptures (List.forall_mem_append.mpr ⟨hheld.2, hnew⟩), ?_, ⟨_, hpub⟩,
    rfl, fun _ _ he => he, fun _ => rfl⟩
  intro j
  simp only [history, hpub, takenFrom_append, takenFrom_singleton, Published.taken]
  by_cases hj : j = k
  · subst hj
    simp [captures_setCaptures, hl]
  · rw [stream_setCaptures_of_ne _ hj, if_neg (Ne.symm hj), if_neg hj, List.append_nil,
      List.append_nil]
    rfl

/-- A merge takes the heads of both streams. -/
theorem flow_merge (h : Flowing s) {c d : CaptureHandle} {cs ds : List CaptureHandle}
    (hc : (s.stream true).captures = c :: cs) (hd : (s.stream false).captures = d :: ds) :
    Flow s (((s.merge c d).setCaptures true cs).setCaptures false ds) (fun _ => []) := by
  have hcolor := h.typed true
  have hdepth := h.typed false
  rw [hc, List.forall_mem_cons] at hcolor
  rw [hd, List.forall_mem_cons] at hdepth
  have htyped : ∀ k e, s.heap.typedImage k e ≠ none →
      (s.heap.captureSetColorImage d (s.heap.typedImage true c)).typedImage k e ≠ none :=
    fun k e he => Heap.typedImage_setColor_ne_none d hcolor.1 he
  have hpub : (((s.merge c d).setCaptures true cs).setCaptures false ds).published =
      s.published ++ [.merged d c (s.heap.typedImage true c)] := by
    simp [merge, publish, setCaptures, h.enabled]
  have hset : Flowing { s with
      heap := s.heap.captureSetColorImage d (s.heap.typedImage true c) } :=
    ⟨h.single, h.running, h.enabled, h.isOpen, fun k e he => htyped k e (h.typed k e he)⟩
  refine ⟨?_, ?_, ⟨_, hpub⟩, rfl, htyped, ?_⟩
  · refine ((hset.publish _).setCaptures ?_).setCaptures ?_
    · exact fun e he => htyped true e (hcolor.2 e he)
    · exact fun e he => htyped false e (hdepth.2 e he)
  · intro k
    simp only [history, hpub, takenFrom_append, takenFrom_singleton, Published.taken]
    cases k with
    | false =>
        rw [captures_setCaptures, hd, if_neg Bool.false_ne_true]
        simp
    | true =>
        rw [stream_setCaptures_of_ne _ Bool.true_eq_false.mp, captures_setCaptures, hc, if_pos rfl]
        simp
  · intro e
    exact (Heap.typedTs_setColor s.heap d c e false).trans
      (if_neg (fun hx => Bool.false_ne_true hx.2))

/-- One iteration keeps both histories. -/
theorem flow_body (h : Flowing s) : Flow s s.body (fun _ => []) := by
  simp only [body]
  cases hc : (s.stream true).captures with
  | nil => exact Flow.refl h
  | cons c cs =>
      cases hd : (s.stream false).captures with
      | nil => exact Flow.refl h
      | cons d ds =>
          simp only
          cases s.decision c d with
          | dropDepth =>
              have hf := flow_publishAlone h [] hd (fun e he => by cases he)
              simpa using hf
          | dropColor =>
              have hf := flow_publishAlone h [] hc (fun e he => by cases he)
              simpa using hf
          | merge => exact flow_merge h hc hd

theorem flow_loop (h : Flowing s) : Flow s s.loop (fun _ => []) := by
  refine Loop.run_invariant (fun t => Flow s t (fun _ => [])) ?_ s.size s (Flow.refl h)
  intro t _ ht
  exact ht.trans (flow_body ht.flowing)

/-- An accepted capture ends up at the end of its history, also if the queue overflows. -/
theorem flow_store (h : Flowing s) {c : CaptureHandle} {k : Bool}
    (hc : s.heap.typedImage k c ≠ none) :
    Flow s (s.store c k) (fun j => if j = k then [c] else []) := by
  have hone : ∀ e ∈ [c], s.heap.typedImage k e ≠ none := by
    intro e he
    rw [List.mem_singleton.mp he]
    exact hc
  have happ := flow_append h [c] hone
  simp only [store]
  cases hl : (s.stream k).captures with
  | nil =>
      rw [hl] at happ
      exact happ
  | cons d ds =>
      rw [hl] at happ
      simp only [h.isOpen k, Bool.true_eq_false, if_false]
      split
      · exact flow_publishAlone h [c] hl hone
      · exact happ

end Session

/-! ## Runs -/

/-- The captures delivered to stream `k`, in order. -/
def SessionCall.delivered (k : Bool) : SessionCall → List CaptureHandle
  | .addCapture .succeeded (some c) j => if j = k then [c] else []
  | _ => []

/-- The captures a sequence of calls delivers to stream `k`. -/
def deliveredTo (k : Bool) (calls : List SessionCall) : List CaptureHandle :=
  calls.flatMap (SessionCall.delivered k)

/-- The call delivers a capture with its typed image, or reads one. -/
def SessionCall.Delivers (h : Heap) : SessionCall → Prop
  | .addCapture r c k => r = .succeeded ∧ ∃ d, c = some d ∧ h.typedImage k d ≠ none
  | .getCapture => True

/-- The captures a stream accepts of those delivered to it: all, but for the depth
captures that the start-up filter of a synchronising session turns away. -/
def accepted (p : Params) (h : Heap) (k : Bool) (l : List CaptureHandle) : List CaptureHandle :=
  if p.syncCaptures = true ∧ p.disableSync = false ∧ p.waitingForCleanDepthTs = true ∧
      k = false then
    l.dropWhile (fun c => decide (h.typedTs false c / p.fpsPeriod > 10))
  else l

namespace Session

variable {s : Session}

theorem accepted_color (p : Params) (h : Heap) (l : List CaptureHandle) : accepted p h true l = l :=
  if_neg (fun hx => Bool.true_eq_false.mp hx.2.2.2)

theorem accepted_nil (p : Params) (h : Heap) (k : Bool) : accepted p h k [] = [] := by
  simp only [accepted]
  split
  · rfl
  · rfl

/-- Once the filter is over everything is accepted. -/
theorem accepted_clean {p : Params} (h : Heap) (hw : p.waitingForCleanDepthTs = false) (k : Bool)
    (l : List CaptureHandle) : accepted p h k l = l :=
  if_neg fun hx => Bool.false_ne_true (hw.symm.trans hx.2.2.1)

theorem accepted_filtered {p : Params} (h : Heap) (hs : p.syncCaptures = true)
    (hd : p.disableSync = false) (hw : p.waitingForCleanDepthTs = true) (l : List CaptureHandle) :
    accepted p h false l =
      l.dropWhile (fun c => decide (h.typedTs false c / p.fpsPeriod > 10)) :=
  if_pos ⟨hs, hd, hw, rfl⟩

/-- The filter turns a capture away, and goes on filtering. -/
theorem accepted_cons_late {p : Params} (h : Heap) (hs : p.syncCaptures = true)
    (hd : p.disableSync = false) (hw : p.waitingForCleanDepthTs = true) {c : CaptureHandle}
    (hbig : h.typedTs false c / p.fpsPeriod > 10) (l : List CaptureHandle) :
    accepted p h false (c :: l) = accepted p h false l := by
  rw [accepted_filtered h hs hd hw, accepted_filtered h hs hd hw]
  exact List.dropWhile_cons_of_pos (decide_eq_true hbig)

/-- The filter lets a capture through, and everything after it. -/
theorem accepted_cons_early {p : Params} (h : Heap) (hs : p.syncCaptures = true)
    (hd : p.disableSync = false) (hw : p.waitingForCleanDepthTs = true) {c : CaptureHandle}
    (hsmall : ¬ h.typedTs false c / p.fpsPeriod > 10) (l : List CaptureHandle) :
    accepted p h false (c :: l) = c :: l := by
  rw [accepted_filtered h hs hd hw]
  exact List.dropWhile_cons_of_neg (mt of_decide_eq_true hsmall)

theorem accepted_congr (p : Params) {h h' : Heap}
    (hts : ∀ c, h'.typedTs false c = h.typedTs false c) (k : Bool) (l : List CaptureHandle) :
    accepted p h' k l = accepted p h k l := by
  simp only [accepted, hts]

/-- What holds of a session between two deliveries.  A session that passes its captures
through holds none. -/
structure Delivering (s : Session) : Prop where
  flowing : Flowing s
  passing : ¬ (s.params.syncCaptures = true ∧ s.params.disableSync = false) →
    ∀ k, (s.stream k).captures = []

/-- `s'` is `s` after `new` has been delivered to stream `k`: whatever is delivered later is
judged as before. -/
structure Delivered (s s' : Session) (new : Bool → List CaptureHandle) : Prop where
  delivering : Delivering s'
  pushed : ∃ l, s'.published = s.published ++ l
  typed : ∀ k c, s.heap.typedImage k c ≠ none → s'.heap.typedImage k c ≠ none
  history : ∀ k l, s'.history k ++ accepted s'.params s'.heap k l =
    s.history k ++ accepted s.params s.heap k (new k ++ l)

theorem delivered_pass (h : Delivering s) (c : CaptureHandle) (k : Bool)
    (hpass : ¬ (s.params.syncCaptures = true ∧ s.params.disableSync = false)) :
    Delivered s (s.publish (.alone k c)) (fun j => if k = j then [c] else []) := by
  have hall : ∀ (heap : Heap) (j : Bool) (l : List CaptureHandle),
      accepted s.params heap j l = l := by
    intro heap j l
    exact if_neg (fun hx => hpass ⟨hx.1, hx.2.1⟩)
  have hpub := published_publish h.flowing (.alone k c)
  refine ⟨⟨h.flowing.publish _, h.passing⟩, ⟨_, hpub⟩, fun _ _ he => he, ?_⟩
  intro j l
  have hcaps : ((s.publish (.alone k c)).stream j).captures = [] := h.passing hpass j
  have hparams : (s.publish (.alone k c)).params = s.params := rfl
  rw [hparams, hall, hall, history, history, hcaps, h.passing hpass j, hpub, takenFrom_append,
    takenFrom_singleton]
  simp [Published.taken]

/-- A capture that is stored, in a session whose filter has let the stream through. -/
theorem delivered_store (h : Flowing s) (hs : s.params.syncCaptures = true)
    (hd : s.params.disableSync = false) {c : CaptureHandle} {k : Bool}
    (hc : s.heap.typedImage k c ≠ none)
    (hclean : ¬ (k = false ∧ s.params.waitingForCleanDepthTs = true)) :
    Delivered s (s.store c k).loop (fun j => if k = j then [c] else []) := by
  have hflow := (flow_store h hc).trans (flow_loop (flow_store h hc).flowing)
  refine ⟨⟨hflow.flowing, ?_⟩, hflow.pushed, hflow.typed, ?_⟩
  · intro hpass
    rw [hflow.params] at hpass
    exact absurd ⟨hs, hd⟩ hpass
  · intro j l
    rw [hflow.params, accepted_congr _ hflow.depthTs, hflow.history]
    by_cases hj : j = k
    · subst hj
      have hid : ∀ l, accepted s.params s.heap j l = l := by
        intro l
        exact if_neg (fun hx => hclean ⟨hx.2.2.2, hx.2.2.1⟩)
      simp [hid]
    · simp [hj, Ne.symm hj]

/-- A delivered capture is appended to its history, unless the start-up filter turns it
away. -/
theorem delivered_accept (h : Delivering s) {c : CaptureHandle} {k : Bool}
    (hc : s.heap.typedImage k c ≠ none) :
    Delivered s (s.accept c k) (fun j => if k = j then [c] else []) := by
  by_cases hmode : s.params.syncCaptures = true ∧ s.params.disableSync = false
  · obtain ⟨hs, hd⟩ := hmode
    simp only [accept, h.flowing.running, hs, hd, Bool.true_eq_false, Bool.false_eq_true,
      decide_false, Bool.or_self, if_false]
    cases k with
    | true =>
        exact delivered_store h.flowing hs hd hc (fun hx => Bool.true_eq_false.mp hx.1)
    | false =>
        cases hw : s.params.waitingForCleanDepthTs with
        | false =>
            exact delivered_store h.flowing hs hd hc (fun hx => by rw [hw] at hx; cases hx.2)
        | true =>
            simp only [decide_true, Bool.and_self, if_true]
            split
            · next hbig =>
              refine ⟨h, ⟨[], (List.append_nil _).symm⟩, fun _ _ he => he, ?_⟩
              intro j l
              cases j with
              | true => rfl
              | false =>
                  rw [if_pos rfl, List.singleton_append, accepted_cons_late s.heap hs hd hw hbig]
            · next hsmall =>
              have hf : Flowing s.setClean := ⟨h.flowing.single, h.flowing.running,
                h.flowing.enabled, h.flowing.isOpen, h.flowing.typed⟩
              have hst := delivered_store (s := s.setClean) (c := c) (k := false) hf hs hd hc
                (fun hx => by cases hx.2)
              refine ⟨hst.delivering, hst.pushed, hst.typed, ?_⟩
              intro j l
              rw [hst.history]
              have hhist : s.setClean.history j = s.history j := rfl
              rw [accepted_clean _ rfl, hhist]
              cases j with
              | true => rw [accepted_color]
              | false =>
                  rw [if_pos rfl, List.singleton_append, accepted_cons_early s.heap hs hd hw hsmall]
  · have hpass : s.accept c k = s.publish (.alone k c) := by
      have hor : (decide (s.params.syncCaptures = false) ||
          decide (s.params.disableSync = true)) = true := by
        cases hs : s.params.syncCaptures <;> cases hd : s.params.disableSync <;> simp_all
      simp only [accept, h.flowing.running, Bool.true_eq_false, if_false, hor, if_true]
    rw [hpass]
    exact delivered_pass h c k hmode

theorem delivered_step (h : Delivering s) {call : SessionCall} (hc : call.Delivers s.heap) :
    Delivered s (s.step call).1 (fun k => call.delivered k) := by
  cases call with
  | addCapture r c k =>
      obtain ⟨rfl, d, rfl, ht⟩ := hc
      have hadd : (s.step (.addCapture .succeeded (some d) k)).1 = s.accept d k := by
        simp [step, add, ht]
      rw [hadd]
      exact delivered_accept h ht
  | getCapture =>
      have hflow : Flowing (s.step .getCapture).1 := ⟨h.flowing.single, h.flowing.running,
        (enabled_get s).trans h.flowing.enabled, h.flowing.isOpen, h.flowing.typed⟩
      exact ⟨⟨hflow, h.passing⟩, ⟨[], (List.append_nil _).symm⟩, fun _ _ he => he, fun _ _ => rfl⟩

theorem delivered_run (calls : List SessionCall) : ∀ {s : Session}, Delivering s →
    (∀ call ∈ calls, call.Delivers s.heap) →
    Delivered s (s.run calls).1 (fun k => deliveredTo k calls) := by
  induction calls with
  | nil =>
      intro s h _
      exact ⟨h, ⟨[], (List.append_nil _).symm⟩, fun _ _ he => he, fun _ _ => rfl⟩
  | cons call calls ih =>
      intro s h hcalls
      have hstep := delivered_step h (hcalls call List.mem_cons_self)
      have hrest : ∀ call' ∈ calls, call'.Delivers (s.step call).1.heap := by
        intro call' hm
        have hd := hcalls call' (List.mem_cons_of_mem _ hm)
        cases call' with
        | addCapture r c k =>
            obtain ⟨hr, d, hcd, ht⟩ := hd
            exact ⟨hr, d, hcd, hstep.typed k d ht⟩
        | getCapture => trivial
      have hrun := ih hstep.delivering hrest
      refine ⟨hrun.delivering, ?_, fun k c hc => hrun.typed k c (hstep.typed k c hc), ?_⟩
      · obtain ⟨l, hl⟩ := hstep.pushed
        obtain ⟨l', hl'⟩ := hrun.pushed
        exact ⟨l ++ l', by rw [run, hl', hl, List.append_assoc]⟩
      · intro k l
        have hall : deliveredTo k (call :: calls) = call.delivered k ++ deliveredTo k calls := rfl
        rw [hall, List.append_assoc, ← hstep.history, ← hrun.history]
        rfl

end Session

/-- A session that starts on an idle synchroniser and publishes everything. -/
theorem Session.delivering_begin (heap : Heap) (published : List Published) (disableSync : Bool)
    {config : DeviceConfiguration} (hsingle : config.synchronizedImagesOnly = false) :
    Delivering (Session.begin heap published disableSync config) := by
  refine ⟨⟨hsingle, rfl, rfl, fun _ => rfl, ?_⟩, fun _ _ => rfl⟩
  intro k c hc
  cases hc

/-- In a session without `synchronized_images_only`, whatever the order of the calls and
also if internal queues overflow: for each stream, the captures pushed to `sync_queue` on
their own or merged, then the one in the slot, then the ones in the internal queue, are the
accepted captures in the order of their arrival. -/
theorem no_capture_lost_or_duplicated {w : World QueueContext} (h : Idle w)
    (config : DeviceConfiguration) (hvalid : 0 < convertFpsToUint config.cameraFps)
    (hsingle : config.synchronizedImagesOnly = false) (calls : List SessionCall)
    (hcalls : ∀ call ∈ calls, call.Delivers w.heap) {w' : World QueueContext}
    (hw' : w' = (callRun (capturesyncStart w config).1 (calls.map SessionCall.toCall)).1) :
    ∃ pushed, w'.published = w.published ++ pushed ∧
      ∀ k, takenFrom k pushed ++ (w'.frame k).capture.toList ++ (w'.frame k).queue.contents =
        accepted (Session.startParams config w.sync.disableSync) w.heap k
          (deliveredTo k calls) := by
  obtain ⟨hs, -⟩ := h.callRun_session hvalid calls
  rw [← hw'] at hs
  have hrun := Session.delivered_run calls
    (Session.delivering_begin w.heap w.published w.sync.disableSync hsingle) hcalls
  rw [← hs] at hrun
  obtain ⟨pushed, hpub⟩ := hrun.pushed
  refine ⟨pushed, hpub, ?_⟩
  intro k
  have hist := hrun.history k []
  have hcaps : (w'.toFifo.session.stream k).captures =
      (w'.frame k).capture.toList ++ (w'.frame k).queue.contents := by
    cases k <;> rfl
  have hstart : (Session.begin w.heap w.published w.sync.disableSync config).history k =
      takenFrom k w.published := List.append_nil _
  rw [Session.accepted_nil, List.append_nil, List.append_nil, hstart, Session.history, hpub,
    hcaps] at hist
  have hbegin : (Session.begin w.heap w.published w.sync.disableSync config).published =
      w.published := rfl
  rw [hbegin, takenFrom_append, List.append_assoc] at hist
  rw [List.append_assoc]
  exact List.append_cancel_left hist

/-- A colour capture that waits for its depth capture, and a pair that has been pushed. -/
theorem no_capture_lost_or_duplicated_three :
    ∃ w w' : World QueueContext, ∃ pushed, Idle w ∧ w'.published = w.published ++ pushed ∧
      takenFrom true pushed ++ (w'.frame true).capture.toList ++
        (w'.frame true).queue.contents = [⟨1⟩, ⟨50⟩] ∧
      takenFrom false pushed ++ (w'.frame false).capture.toList ++
        (w'.frame false).queue.contents = [⟨2⟩] := by
  obtain ⟨w, hw⟩ : ∃ w, capturesyncCreate QueueContext pairedHeap false = some w := ⟨_, rfl⟩
  have hv := Option.some.inj hw
  have hidle : Idle w := ⟨by rw [← hv]; rfl, by rw [← hv]; rfl, Or.inl ⟨_, _, hw⟩⟩
  have hheap : w.heap = pairedHeap := by rw [← hv]; rfl
  have hdis : w.sync.disableSync = false := by rw [← hv]; rfl
  obtain ⟨pushed, hpub, hall⟩ := no_capture_lost_or_duplicated hidle pairedConfiguration
    (by decide) rfl
    [.addCapture .succeeded (some ⟨1⟩) true, .addCapture .succeeded (some ⟨2⟩) false,
      .addCapture .succeeded (some ⟨50⟩) true]
    (by
      rw [hheap]
      intro call hm
      simp only [List.mem_cons, List.not_mem_nil, or_false] at hm
      rcases hm with rfl | rfl | rfl <;> exact ⟨rfl, _, rfl, by decide⟩) rfl
  rw [hheap, hdis] at hall
  exact ⟨w, _, pushed, hidle, hpub, (hall true).trans (by decide), (hall false).trans (by decide)⟩

end ZsaSdk
