import ZsaSdk.Capturesync.Start

/-!
# Only pairs are delivered when only pairs are asked for

In a session with both sensors and `synchronized_images_only`, captures reach
`sync_queue` by a merge and in no other way: the pass-through branch is not taken,
and drops and evictions are not published.  So everything in the queue holds a
colour image and an infrared image whose timestamps pass the window test, also
after a later merge into the same capture.
-/

namespace ZsaSdk

open Ledger World

/-- A capture holds a colour image and an infrared image that were taken within one
window. -/
def Heap.Paired (h : Heap) (p : Params) (c : CaptureHandle) : Prop :=
  h.typedImage true c ≠ none ∧ h.typedImage false c ≠ none ∧
    syncWindow p.depthDelayOffColorUsec p.fpsPeriod p.fps1QuarterPeriod (h.typedTs true c)
      (h.typedTs false c) = .merge

/-- What a session that delivers only pairs keeps.  The parameters are those of the
start, except for the flag of the start-up filter. -/
structure PairInv (p : Params) (s : Session) : Prop where
  params : { s.params with waitingForCleanDepthTs := true } = p
  typed : ∀ k, ∀ c ∈ (s.stream k).captures, s.heap.typedImage k c ≠ none
  pairs : ∀ c ∈ s.syncQueue.fifo.items, s.heap.Paired p c

namespace PairInv

variable {p : Params} {s : Session}

theorem setCaptures (h : PairInv p s) (k : Bool) {l : List CaptureHandle}
    (hl : ∀ c ∈ l, s.heap.typedImage k c ≠ none) : PairInv p (s.setCaptures k l) where
  params := h.params
  typed j c hc := by
    by_cases hj : j = k
    · subst hj
      rw [Session.captures_setCaptures] at hc
      exact hl c hc
    · rw [Session.stream_setCaptures_of_ne _ hj] at hc
      exact h.typed j c hc
  pairs := h.pairs

theorem publishAlone (h : PairInv p s) (hsio : p.synchronizedImagesOnly = true) (k : Bool)
    (c : CaptureHandle) : s.publishAlone k c = s := by
  have hs : s.params.synchronizedImagesOnly = true := by
    rw [← h.params] at hsio
    exact hsio
  simp [Session.publishAlone, hs]

/-- After a merge the depth capture is a pair, and the other pairs are still pairs. -/
theorem paired_setColor {heap : Heap} {c d e : CaptureHandle}
    (hc : heap.typedImage true c ≠ none) (hd : heap.typedImage false d ≠ none)
    (hw : syncWindow p.depthDelayOffColorUsec p.fpsPeriod p.fps1QuarterPeriod
      (heap.typedTs true c) (heap.typedTs false d) = .merge) (he : e = d ∨ heap.Paired p e) :
    (heap.captureSetColorImage d (heap.typedImage true c)).Paired p e := by
  have hother : e ≠ d → heap.Paired p e := by
    intro hne
    rcases he with he | he
    · exact absurd he hne
    · exact he
  have hfalse : ∀ x, ¬ (x = d ∧ false = true) := fun x hx => Bool.false_ne_true hx.2
  simp only [Heap.Paired]
  rw [Heap.typedImage_setColor, Heap.typedImage_false_setColor, Heap.typedTs_setColor,
    Heap.typedTs_setColor, if_neg (hfalse e)]
  by_cases hed : e = d
  · subst hed
    simp only [if_true, and_self]
    exact ⟨hc, hd, hw⟩
  · rw [if_neg hed, if_neg (fun hx => hed hx.1)]
    exact hother hed

theorem merge (h : PairInv p s) {c d : CaptureHandle} (hc : s.heap.typedImage true c ≠ none)
    (hd : s.heap.typedImage false d ≠ none) (hw : s.decision c d = .merge) :
    PairInv p (s.merge c d) := by
  have hwin : syncWindow p.depthDelayOffColorUsec p.fpsPeriod p.fps1QuarterPeriod
      (s.heap.typedTs true c) (s.heap.typedTs false d) = .merge := by
    rw [← h.params]
    exact hw
  refine ⟨h.params, ?_, ?_⟩
  · intro k e he
    exact Heap.typedImage_setColor_ne_none d hc (h.typed k e he)
  · intro e he
    refine paired_setColor hc hd hwin ?_
    rcases List.mem_append.mp (items_pushWDropped_subset _ _ he) with hm | hm
    · exact Or.inr (h.pairs e hm)
    · exact Or.inl (List.mem_singleton.mp hm)

theorem body (h : PairInv p s) (hsio : p.synchronizedImagesOnly = true) : PairInv p s.body := by
  simp only [Session.body]
  cases hcs : (s.stream true).captures with
  | nil => exact h
  | cons c cs =>
      cases hds : (s.stream false).captures with
      | nil => exact h
      | cons d ds =>
          have hcolor := h.typed true
          have hdepth := h.typed false
          rw [hcs, List.forall_mem_cons] at hcolor
          rw [hds, List.forall_mem_cons] at hdepth
          simp only [h.publishAlone hsio]
          cases hdec : s.decision c d with
          | dropDepth => exact h.setCaptures false hdepth.2
          | dropColor => exact h.setCaptures true hcolor.2
          | merge =>
              refine ((h.merge hcolor.1 hdepth.1 hdec).setCaptures true ?_).setCaptures false ?_
              · intro e he
                exact Heap.typedImage_setColor_ne_none d hcolor.1 (hcolor.2 e he)
              · intro e he
                exact Heap.typedImage_setColor_ne_none d hcolor.1 (hdepth.2 e he)

theorem store (h : PairInv p s) (hsio : p.synchronizedImagesOnly = true) {c : CaptureHandle}
    {k : Bool} (hc : s.heap.typedImage k c ≠ none) : PairInv p (s.store c k) := by
  have hheld := h.typed k
  have hone : ∀ e ∈ [c], s.heap.typedImage k e ≠ none := by
    intro e he
    rw [List.mem_singleton.mp he]
    exact hc
  simp only [Session.store]
  cases hl : (s.stream k).captures with
  | nil => exact h.setCaptures k hone
  | cons d ds =>
      rw [hl, List.forall_mem_cons] at hheld
      simp only [h.publishAlone hsio]
      split
      · exact h
      · split
        · exact h.setCaptures k (List.forall_mem_append.mpr ⟨hheld.2, hone⟩)
        · exact h.setCaptures k (List.forall_mem_append.mpr
            ⟨List.forall_mem_cons.mpr hheld, hone⟩)

theorem loop (h : PairInv p s) (hsio : p.synchronizedImagesOnly = true) : PairInv p s.loop :=
  Loop.run_invariant (PairInv p) (fun _ _ hs => hs.body hsio) s.size s h

/-- A session with both sensors does not pass captures through. -/
theorem accept (h : PairInv p s) (hsio : p.synchronizedImagesOnly = true)
    (hsync : p.syncCaptures = true) (hdis : p.disableSync = false) {c : CaptureHandle} {k : Bool}
    (hc : s.heap.typedImage k c ≠ none) : PairInv p (s.accept c k) := by
  have hs : s.params.syncCaptures = true := by rw [← h.params] at hsync; exact hsync
  have hd : s.params.disableSync = false := by rw [← h.params] at hdis; exact hdis
  have hclean : PairInv p s.setClean := ⟨h.params, h.typed, h.pairs⟩
  simp only [Session.accept, hs, hd, Bool.true_eq_false, Bool.false_eq_true, decide_false,
    Bool.or_self, if_false]
  split
  · exact h
  · split
    · split
      · exact h
      · exact (hclean.store hsio hc).loop hsio
    · exact (h.store hsio hc).loop hsio

theorem step (h : PairInv p s) (hsio : p.synchronizedImagesOnly = true)
    (hsync : p.syncCaptures = true) (hdis : p.disableSync = false) (call : SessionCall) :
    PairInv p (s.step call).1 := by
  cases call with
  | addCapture r c k =>
      simp only [Session.step, Session.add]
      split
      · refine ⟨h.params, ?_, fun e he => by cases he⟩
        intro j e he
        exact h.typed j e (List.take_subset _ _ he)
      · cases c with
        | none => exact h
        | some c =>
            simp only
            split
            · exact h
            · next hc => exact h.accept hsio hsync hdis hc
  | getCapture =>
      exact ⟨h.params, h.typed, fun e he => h.pairs e ((pop_mem s.syncQueue).2 he)⟩

theorem run (hsio : p.synchronizedImagesOnly = true) (hsync : p.syncCaptures = true)
    (hdis : p.disableSync = false) (calls : List SessionCall) :
    ∀ {s : Session}, PairInv p s → PairInv p (s.run calls).1 := by
  induction calls with
  | nil => intro s h; exact h
  | cons call calls ih =>
      intro s h
      exact ih (h.step hsio hsync hdis call)

end PairInv

/-- In a session with both sensors that asks for synchronised images only, every
capture that `capturesync_get_capture` returns holds a colour image and an infrared
image, and their timestamps pass the window test of the session. -/
theorem only_pairs_returned {w : World QueueContext} (h : Idle w)
    (hdis : w.sync.disableSync = false) {config : DeviceConfiguration}
    (hvalid : 0 < convertFpsToUint config.cameraFps)
    (hsio : config.synchronizedImagesOnly = true) (hcolor : config.colorResolution ≠ .off)
    (hdepth : config.depthMode ≠ .off) (calls : List SessionCall) {v : World QueueContext}
    {c : Option CaptureHandle}
    (hget : capturesyncGetCapture
      (callRun (capturesyncStart w config).1 (calls.map SessionCall.toCall)).1 =
        (v, .succeeded, c)) :
    ∃ d ic id, c = some d ∧ v.heap.captures d = ⟨some ic, some id⟩ ∧
      syncWindow config.depthDelayOffColorUsec
        ((1 * 1000000) / convertFpsToUint config.cameraFps).toUInt64
        (((1 * 1000000) / convertFpsToUint config.cameraFps).toUInt64 / 4)
        (v.heap.devTimestampUsec ic) (v.heap.devTimestampUsec id) = .merge := by
  obtain ⟨hs, -⟩ := h.callRun_session hvalid calls
  have hbegin : PairInv (Session.startParams config w.sync.disableSync)
      (Session.begin w.heap w.published w.sync.disableSync config) := by
    refine ⟨rfl, ?_, ?_⟩
    · intro k c hc
      cases hc
    · intro c hc
      cases hc
  have hsync : (Session.startParams config w.sync.disableSync).syncCaptures = true := by
    simp [Session.startParams, hcolor, hdepth]
  have hinv := PairInv.run hsio hsync hdis calls hbegin
  rw [← hs] at hinv
  generalize (callRun (capturesyncStart w config).1 (calls.map SessionCall.toCall)).1 = u at *
  have hresult := capturesyncGetCapture_result u.toFifo
  rw [show capturesyncGetCapture u.toFifo = _ from capturesyncGetCapture_map ringHom u, hget]
    at hresult
  obtain ⟨hr, hc⟩ := Prod.mk.inj hresult
  obtain ⟨d, hd⟩ := pop_succeeded hr.symm
  have hheap : v.heap = u.heap := by
    rw [show v = _ from (congrArg Prod.fst hget).symm]
    simp only [capturesyncGetCapture]
    split <;> rfl
  have hpair : v.heap.Paired (Session.startParams config w.sync.disableSync) d := by
    rw [hheap]
    exact hinv.pairs d ((pop_mem u.toFifo.sync.syncQueue).1 d hd)
  obtain ⟨hcol, hir, hwin⟩ := hpair
  obtain ⟨ic, hic⟩ := Option.ne_none_iff_exists'.mp hcol
  obtain ⟨id, hid⟩ := Option.ne_none_iff_exists'.mp hir
  refine ⟨d, ic, id, hc.trans hd, ?_, ?_⟩
  · exact congrArg₂ CaptureContext.mk hic hid
  · rw [Heap.typedTs, Heap.typedTs, hic, hid] at hwin
    exact hwin

/-- Two captures that are a millisecond apart come back as one. -/
theorem only_pairs_returned_two :
    ∃ (w v : World QueueContext), Idle w ∧
      capturesyncGetCapture (callRun (capturesyncStart w
          { pairedConfiguration with synchronizedImagesOnly := true }).1
        ([.addCapture .succeeded (some ⟨2⟩) true, .addCapture .succeeded (some ⟨3⟩) false].map
          SessionCall.toCall)).1 = (v, .succeeded, some ⟨3⟩) ∧
      ∃ ic id, v.heap.captures ⟨3⟩ = ⟨some ic, some id⟩ := by
  obtain ⟨w, hw⟩ : ∃ w, capturesyncCreate QueueContext pairedHeap false = some w := ⟨_, rfl⟩
  have hv := Option.some.inj hw
  have hidle : Idle w := ⟨by rw [← hv]; rfl, by rw [← hv]; rfl, Or.inl ⟨_, _, hw⟩⟩
  obtain ⟨v, hget⟩ : ∃ v, capturesyncGetCapture (callRun (capturesyncStart w
      { pairedConfiguration with synchronizedImagesOnly := true }).1
      ([.addCapture .succeeded (some ⟨2⟩) true, .addCapture .succeeded (some ⟨3⟩) false].map
        SessionCall.toCall)).1 = (v, .succeeded, some ⟨3⟩) := by
    rw [← hv]
    exact ⟨_, rfl⟩
  obtain ⟨d, ic, id, hd, hpair, -⟩ := only_pairs_returned hidle (by rw [← hv]; rfl) (by decide) rfl
    (by decide) (by decide) _ hget
  rw [← Option.some.inj hd] at hpair
  exact ⟨w, v, hidle, hget, ic, id, hpair⟩

end ZsaSdk
