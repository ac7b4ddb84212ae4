import ZsaSdk.Capturesync.Conservation
import ZsaSdk.Lib.HeadMerge

/-!
# A session merges two lists

What a session with both sensors publishes is a function of the two lists it is
given, `mergeOutput`, which consumes the lists by their heads and looks at nothing but
the timestamps of these and the session's delay and period.  The order in which the
two lists are interleaved does not matter, as long as no internal queue overflows.

The invariant: what has been published is the output for the accepted captures so
far, and the streams hold what that merge left over.  Every delivery appends to one
of the lists, and `HeadMerge.run_append` says that going on with what was left gives
the output for the longer lists.

A colour capture is never a depth capture: `capturesync.h` asks for captures of a single
colour image on one side and of depth and infrared images on the other.  A merge sets
the colour image of a depth capture, and would change the timestamp of a colour capture
that is the same object.
-/

namespace ZsaSdk

open Ledger World

/-! ## The output as a function of the two lists -/

/-- Which of two heads leaves its list. -/
def windowChoice (p : Params) (h : Heap) (color depth : CaptureHandle) : HeadMerge.Choice :=
  match syncWindow p.depthDelayOffColorUsec p.fpsPeriod p.fps1QuarterPeriod
      (h.typedTs true color) (h.typedTs false depth) with
  | .dropColor => .left
  | .dropDepth => .right
  | .merge => .both

/-- What is published when heads leave their lists. -/
def emitted (p : Params) (h : Heap) :
    HeadMerge.Event CaptureHandle CaptureHandle → List Published
  | .left c => if p.synchronizedImagesOnly then [] else [.alone true c]
  | .right d => if p.synchronizedImagesOnly then [] else [.alone false d]
  | .both c d => [.merged d c (h.typedImage true c)]

/-- What is published for the colour captures `color` and the depth captures `depth`. -/
def mergeOutput (p : Params) (h : Heap) (color depth : List CaptureHandle) : List Published :=
  (HeadMerge.run (windowChoice p h) color depth).events.flatMap (emitted p h)

/-! ## The loop merges -/

namespace Session

/-- A running session whose colour captures are among `S`, seen from its start: the
parameters and the relevant part of the heap are those of the start. -/
structure Merging (S : List CaptureHandle) (h : Heap) (p : Params) (s : Session) : Prop where
  params : { s.params with waitingForCleanDepthTs := true } = p
  enabled : s.syncQueue.enabled = true
  isOpen : ∀ k, (s.stream k).isOpen = true
  color : ∀ c ∈ S, s.heap.typedImage true c = h.typedImage true c
  depth : ∀ d, s.heap.typedImage false d = h.typedImage false d
  stamps : s.heap.devTimestampUsec = h.devTimestampUsec
  colors : ∀ c ∈ (s.stream true).captures, c ∈ S
  depths : ∀ d ∈ (s.stream false).captures, d ∉ S

namespace Merging

variable {S : List CaptureHandle} {h : Heap} {p : Params} {s : Session}

theorem typedTs_eq {h h' : Heap} {k : Bool} {c : CaptureHandle}
    (hi : h'.typedImage k c = h.typedImage k c)
    (ht : h'.devTimestampUsec = h.devTimestampUsec) : h'.typedTs k c = h.typedTs k c := by
  simp only [Heap.typedTs]
  rw [hi]
  cases h.typedImage k c with
  | none => rfl
  | some i => exact congrFun ht i

theorem choice (hm : Merging S h p s) {c d : CaptureHandle} (hc : c ∈ S) :
    windowChoice p h c d = match s.decision c d with
      | .dropColor => .left
      | .dropDepth => .right
      | .merge => .both := by
  simp only [windowChoice, decision]
  rw [← hm.params, typedTs_eq (hm.color c hc) hm.stamps, typedTs_eq (hm.depth d) hm.stamps]

/-- The list of a stream becomes another one of captures of the same kind. -/
theorem setCaptures (hm : Merging S h p s) (k : Bool) {l : List CaptureHandle}
    (hl : ∀ c ∈ l, c ∈ S ↔ k = true) : Merging S h p (s.setCaptures k l) where
  params := hm.params
  enabled := hm.enabled
  isOpen j := by
    by_cases hj : j = k
    · subst hj
      simp only [Session.setCaptures, Function.update_self]
      exact hm.isOpen j
    · rw [stream_setCaptures_of_ne _ hj]
      exact hm.isOpen j
  color := hm.color
  depth := hm.depth
  stamps := hm.stamps
  colors c hc := by
    cases k with
    | true =>
        rw [captures_setCaptures] at hc
        exact (hl c hc).mpr rfl
    | false => exact hm.colors c hc
  depths d hd := by
    cases k with
    | true => exact hm.depths d hd
    | false =>
        rw [captures_setCaptures] at hd
        exact fun hS => Bool.false_ne_true ((hl d hd).mp hS)

/-- The captures of a stream are of its kind. -/
theorem kind (hm : Merging S h p s) (k : Bool) : ∀ c ∈ (s.stream k).captures, c ∈ S ↔ k = true := by
  intro c hc
  cases k with
  | true => exact ⟨fun _ => rfl, fun _ => hm.colors c hc⟩
  | false => exact ⟨fun hS => absurd hS (hm.depths c hc), fun hk => by cases hk⟩

theorem publish (hm : Merging S h p s) (x : Published) : Merging S h p (s.publish x) :=
  ⟨hm.params, (enabled_publish s x).trans hm.enabled, hm.isOpen, hm.color, hm.depth, hm.stamps,
    hm.colors, hm.depths⟩

theorem published_publish (hm : Merging S h p s) (x : Published) :
    (s.publish x).published = s.published ++ [x] := by
  simp [Session.publish, hm.enabled]

theorem single (hm : Merging S h p s) :
    s.params.synchronizedImagesOnly = p.synchronizedImagesOnly := by
  rw [← hm.params]

/-- A head that is dropped is published unless only pairs are wanted. -/
theorem publishAlone (hm : Merging S h p s) (k : Bool) (c : CaptureHandle) :
    Merging S h p (s.publishAlone k c) ∧ (s.publishAlone k c).published = s.published ++
      (if p.synchronizedImagesOnly then [] else [.alone k c]) ∧
      (s.publishAlone k c).stream = s.stream ∧ (s.publishAlone k c).params = s.params := by
  simp only [Session.publishAlone]
  rw [hm.single]
  split
  · exact ⟨hm, (List.append_nil _).symm, rfl, rfl⟩
  · exact ⟨hm.publish _, hm.published_publish _, rfl, rfl⟩

/-- A merge changes the image of a depth capture, which is no colour capture. -/
theorem merge (hm : Merging S h p s) {c d : CaptureHandle} (hc : c ∈ S) (hd : d ∉ S) :
    Merging S h p (s.merge c d) ∧
      (s.merge c d).published = s.published ++ [.merged d c (h.typedImage true c)] := by
  have hset : Merging S h p { s with
      heap := s.heap.captureSetColorImage d (s.heap.typedImage true c) } := by
    refine ⟨hm.params, hm.enabled, hm.isOpen, ?_, ?_, hm.stamps, hm.colors, hm.depths⟩
    · intro e he
      have hne : e ≠ d := fun heq => hd (heq ▸ he)
      rw [Heap.typedImage_setColor, if_neg hne]
      exact hm.color e he
    · intro e
      rw [Heap.typedImage_false_setColor]
      exact hm.depth e
  simp only [Session.merge]
  rw [hm.color c hc] at hset ⊢
  exact ⟨hset.publish _, hset.published_publish _⟩

end Merging

/-- `t` is `s` after the events of an outcome, with what the outcome left. -/
structure Consumed (S : List CaptureHandle) (h : Heap) (p : Params) (s t : Session)
    (o : HeadMerge.Outcome CaptureHandle CaptureHandle) : Prop where
  merging : Merging S h p t
  params : t.params = s.params
  published : t.published = s.published ++ o.events.flatMap (emitted p h)
  left : (t.stream true).captures = o.left
  right : (t.stream false).captures = o.right

variable {S : List CaptureHandle} {h : Heap} {p : Params} {s : Session}

/-- One event, then the events of an outcome. -/
theorem Consumed.cons {s' t : Session} {o : HeadMerge.Outcome CaptureHandle CaptureHandle}
    (hc : Consumed S h p s' t o) {e : HeadMerge.Event CaptureHandle CaptureHandle}
    (hp : s'.params = s.params) (hs : s'.published = s.published ++ emitted p h e) :
    Consumed S h p s t (o.cons e) where
  merging := hc.merging
  params := hc.params.trans hp
  published := by
    rw [hc.published, hs, List.append_assoc]
    rfl
  left := hc.left
  right := hc.right

/-- One iteration consumes one head or both, and publishes what the event says. -/
theorem Merging.body (hm : Merging S h p s) {c d : CaptureHandle} {cs ds : List CaptureHandle}
    (hc : (s.stream true).captures = c :: cs) (hd : (s.stream false).captures = d :: ds) :
    ∃ e, Merging S h p (Session.body s) ∧ (Session.body s).params = s.params ∧
      (Session.body s).published = s.published ++ emitted p h e ∧
      (Session.body s).size < s.size ∧
      HeadMerge.run (windowChoice p h) (c :: cs) (d :: ds) =
        (HeadMerge.run (windowChoice p h) ((Session.body s).stream true).captures
          ((Session.body s).stream false).captures).cons e := by
  have hcolor := hm.kind true
  have hdepth := hm.kind false
  rw [hc, List.forall_mem_cons] at hcolor
  rw [hd, List.forall_mem_cons] at hdepth
  have hcS : c ∈ S := hcolor.1.mpr rfl
  have hdS : d ∉ S := fun hS => Bool.false_ne_true (hdepth.1.mp hS)
  rw [HeadMerge.run_cons_cons, hm.choice hcS]
  simp only [Session.body, hc, hd]
  cases s.decision c d with
  | dropDepth =>
      obtain ⟨hpm, hpp, hps, hpa⟩ := hm.publishAlone false d
      refine ⟨.right d, hpm.setCaptures false hdepth.2, hpa, hpp, ?_, ?_⟩
      · simp only [size, stream_setCaptures_of_ne _ Bool.true_eq_false.mp, hps, hc, hd,
          captures_setCaptures, List.length_cons]
        omega
      · rw [stream_setCaptures_of_ne _ Bool.true_eq_false.mp, hps, hc, captures_setCaptures]
  | dropColor =>
      obtain ⟨hpm, hpp, hps, hpa⟩ := hm.publishAlone true c
      refine ⟨.left c, hpm.setCaptures true hcolor.2, hpa, hpp, ?_, ?_⟩
      · simp only [size, stream_setCaptures_of_ne _ Bool.false_ne_true, hps, hc, hd,
          captures_setCaptures, List.length_cons]
        omega
      · rw [stream_setCaptures_of_ne _ Bool.false_ne_true, hps, hd, captures_setCaptures]
  | merge =>
      obtain ⟨hpm, hpp⟩ := hm.merge hcS hdS
      refine ⟨.both c d, (hpm.setCaptures true hcolor.2).setCaptures false hdepth.2, rfl, hpp, ?_,
        ?_⟩
      · simp only [size, stream_setCaptures_of_ne _ Bool.true_eq_false.mp, hc, hd,
          captures_setCaptures, List.length_cons]
        omega
      · rw [stream_setCaptures_of_ne _ Bool.true_eq_false.mp, captures_setCaptures,
          captures_setCaptures]

/-- The loop consumes the two lists by their heads until one is empty. -/
theorem consumed_loop (n : Nat) : ∀ {s : Session}, Merging S h p s → s.size ≤ n →
    Consumed S h p s (Loop.run guard body n s)
      (HeadMerge.run (windowChoice p h) (s.stream true).captures (s.stream false).captures) := by
  induction n with
  | zero =>
      intro s hm hn
      have hsize : (s.stream true).captures.length + (s.stream false).captures.length = 0 :=
        Nat.le_zero.mp hn
      have hc := List.eq_nil_of_length_eq_zero (Nat.eq_zero_of_add_eq_zero_right hsize)
      have hd := List.eq_nil_of_length_eq_zero (Nat.eq_zero_of_add_eq_zero_left hsize)
      rw [Loop.run_zero, hc, hd]
      exact ⟨hm, rfl, (List.append_nil _).symm, hc, hd⟩
  | succ n ih =>
      intro s hm hn
      cases hc : (s.stream true).captures with
      | nil =>
          rw [Loop.run_false (by simp [guard, hc]), HeadMerge.run_nil_left]
          exact ⟨hm, rfl, (List.append_nil _).symm, hc, rfl⟩
      | cons c cs =>
          cases hd : (s.stream false).captures with
          | nil =>
              rw [Loop.run_false (by simp [guard, hd]), HeadMerge.run_nil_right]
              exact ⟨hm, rfl, (List.append_nil _).symm, hc, hd⟩
          | cons d ds =>
              obtain ⟨e, hbody, hparams, hpublished, hsize, hrun⟩ := hm.body hc hd
              rw [Loop.run_succ_true (by simp [guard, hc, hd]), hrun]
              exact (ih hbody (by omega)).cons hparams hpublished

/-! ## Deliveries -/

/-- The session has published the output for the captures accepted so far, and holds what
that merge left over.  `base` was published before. -/
structure Upto (S : List CaptureHandle) (h : Heap) (p : Params) (base : List Published)
    (color depth : List CaptureHandle) (s : Session) : Prop where
  merging : Merging S h p s
  published : s.published = base ++ mergeOutput p h color depth
  left : (s.stream true).captures = (HeadMerge.run (windowChoice p h) color depth).left
  right : (s.stream false).captures = (HeadMerge.run (windowChoice p h) color depth).right

variable {base : List Published} {color depth : List CaptureHandle}

/-- Going on with what was left gives the output for the longer lists. -/
theorem mergeOutput_append (p : Params) (h : Heap)
    (color depth color' depth' : List CaptureHandle) :
    mergeOutput p h (color ++ color') (depth ++ depth') = mergeOutput p h color depth ++
      mergeOutput p h ((HeadMerge.run (windowChoice p h) color depth).left ++ color')
        ((HeadMerge.run (windowChoice p h) color depth).right ++ depth') := by
  simp only [mergeOutput]
  rw [HeadMerge.run_append]
  exact List.flatMap_append

theorem Upto.store (hu : Upto S h p base color depth s) {c : CaptureHandle} {k : Bool}
    (hk : c ∈ S ↔ k = true) (hroom : (s.stream k).captures.length ≠ (s.stream k).capacity + 1) :
    Upto S h p base (color ++ if k = true then [c] else []) (depth ++ if k = false then [c] else [])
      (s.store c k).loop ∧ (s.store c k).loop.params = s.params := by
  have hstore : s.store c k = s.setCaptures k ((s.stream k).captures ++ [c]) := by
    simp only [Session.store]
    cases hl : (s.stream k).captures with
    | nil => rfl
    | cons d ds =>
        rw [hl, List.length_cons] at hroom
        have hne : ds.length ≠ (s.stream k).capacity := fun he => hroom (by rw [he])
        simp [hu.merging.isOpen k, hne]
  have hm : Merging S h p (s.store c k) := by
    rw [hstore]
    refine hu.merging.setCaptures k ?_
    intro e he
    rcases List.mem_append.mp he with hm | hm
    · exact hu.merging.kind k e hm
    · rw [List.mem_singleton.mp hm]
      exact hk
  have hcolor : ((s.store c k).stream true).captures =
      (HeadMerge.run (windowChoice p h) color depth).left ++ if k = true then [c] else [] := by
    rw [hstore, ← hu.left]
    cases k with
    | true => rw [captures_setCaptures]; rfl
    | false => rw [stream_setCaptures_of_ne _ Bool.true_eq_false.mp]; exact (List.append_nil _).symm
  have hdepth : ((s.store c k).stream false).captures =
      (HeadMerge.run (windowChoice p h) color depth).right ++ if k = false then [c] else [] := by
    rw [hstore, ← hu.right]
    cases k with
    | true => rw [stream_setCaptures_of_ne _ Bool.false_ne_true]; exact (List.append_nil _).symm
    | false => rw [captures_setCaptures]; rfl
  have hcon := consumed_loop (s.store c k).size hm (Nat.le_refl _)
  rw [hcolor, hdepth] at hcon
  have hpub : (s.store c k).published = s.published := by rw [hstore]; rfl
  have hpar : (s.store c k).params = s.params := by rw [hstore]; rfl
  refine ⟨⟨hcon.merging, ?_, ?_, ?_⟩, hcon.params.trans hpar⟩
  · rw [mergeOutput_append, ← List.append_assoc, ← hu.published, ← hpub]
    exact hcon.published
  · rw [HeadMerge.run_append]
    exact hcon.left
  · rw [HeadMerge.run_append]
    exact hcon.right

/-- A session that runs and synchronises. -/
structure Synchronising (p : Params) : Prop where
  running : p.running = true
  syncCaptures : p.syncCaptures = true
  disableSync : p.disableSync = false

/-- The end of the filter is not seen in what is published. -/
theorem Upto.setClean (hu : Upto S h p base color depth s) :
    Upto S h p base color depth s.setClean :=
  ⟨⟨hu.merging.params, hu.merging.enabled, hu.merging.isOpen, hu.merging.color, hu.merging.depth,
    hu.merging.stamps, hu.merging.colors, hu.merging.depths⟩, hu.published, hu.left, hu.right⟩

theorem Upto.get (hu : Upto S h p base color depth s) :
    Upto S h p base color depth (s.step .getCapture).1 :=
  ⟨⟨hu.merging.params, (enabled_get s).trans hu.merging.enabled, hu.merging.isOpen,
    hu.merging.color, hu.merging.depth, hu.merging.stamps, hu.merging.colors, hu.merging.depths⟩,
    hu.published, hu.left, hu.right⟩

/-- What is accepted of the captures delivered to the depth stream from now on. -/
theorem Upto.accept (hu : Upto S h p base color depth s) (hp : Synchronising p)
    {c : CaptureHandle} {k : Bool} (hk : c ∈ S ↔ k = true)
    (hroom : (s.stream k).captures.length ≠ (s.stream k).capacity + 1) :
    ∃ new, Upto S h p base (color ++ if k = true then [c] else []) (depth ++ new) (s.accept c k) ∧
      ∀ l, new ++ accepted (s.accept c k).params h false l =
        accepted s.params h false ((if k = false then [c] else []) ++ l) := by
  have hrun : s.params.running = true := by rw [← hp.running, ← hu.merging.params]
  have hs : s.params.syncCaptures = true := by rw [← hp.syncCaptures, ← hu.merging.params]
  have hd : s.params.disableSync = false := by rw [← hp.disableSync, ← hu.merging.params]
  have hts : ∀ d, s.heap.typedTs false d = h.typedTs false d :=
    fun d => Merging.typedTs_eq (hu.merging.depth d) hu.merging.stamps
  simp only [Session.accept, hrun, hs, hd, Bool.true_eq_false, Bool.false_eq_true, decide_false,
    Bool.or_self, if_false]
  cases k with
  | true =>
      obtain ⟨hst, hpar⟩ := hu.store hk hroom
      simp only [Bool.true_eq_false, decide_false, Bool.false_and, Bool.false_eq_true, if_false]
      refine ⟨[], hst, fun l => ?_⟩
      rw [hpar]
      rfl
  | false =>
      cases hw : s.params.waitingForCleanDepthTs with
      | false =>
          obtain ⟨hst, hpar⟩ := hu.store hk hroom
          simp only [Bool.and_false, Bool.false_eq_true, if_false]
          refine ⟨[c], hst, ?_⟩
          intro l
          rw [hpar, accepted_clean h hw, accepted_clean h hw]
          rfl
      | true =>
          simp only [decide_true, Bool.and_self, if_true, hts c]
          by_cases hbig : h.typedTs false c / s.params.fpsPeriod > 10
          · simp only [hbig, if_true]
            refine ⟨[], ?_, ?_⟩
            · rw [if_neg Bool.false_ne_true, List.append_nil, List.append_nil]
              exact hu
            · intro l
              exact (accepted_cons_late h hs hd hw hbig l).symm
          · simp only [hbig, if_false]
            obtain ⟨hst, hpar⟩ := hu.setClean.store hk hroom
            refine ⟨[c], hst, ?_⟩
            intro l
            rw [hpar, accepted_clean h rfl]
            exact (accepted_cons_early h hs hd hw hbig l).symm

/-- No call finds the internal queue of its stream full. -/
def NoOverflow (s : Session) (calls : List SessionCall) : Prop :=
  ∀ pre c k post, calls = pre ++ .addCapture .succeeded (some c) k :: post →
    ((s.run pre).1.stream k).captures.length ≠ ((s.run pre).1.stream k).capacity + 1

theorem NoOverflow.tail {call : SessionCall} {calls : List SessionCall}
    (hn : NoOverflow s (call :: calls)) : NoOverflow (s.step call).1 calls := by
  intro pre c k post he
  exact hn (call :: pre) c k post (by rw [he]; rfl)

theorem Upto.run (hp : Synchronising p) (calls : List SessionCall) :
    ∀ {s : Session} {color depth : List CaptureHandle}, Upto S h p base color depth s →
    (∀ call ∈ calls, call.Delivers h) → (∀ c ∈ deliveredTo true calls, c ∈ S) →
    (∀ d ∈ deliveredTo false calls, d ∉ S) → NoOverflow s calls →
    Upto S h p base (color ++ deliveredTo true calls)
      (depth ++ accepted s.params h false (deliveredTo false calls)) (s.run calls).1 := by
  induction calls with
  | nil =>
      intro s color depth hu _ _ _ _
      show Upto S h p base (color ++ []) (depth ++ accepted s.params h false []) s
      rw [accepted_nil, List.append_nil, List.append_nil]
      exact hu
  | cons call calls ih =>
      intro s color depth hu hcalls hcolor hdepth hroom
      have hall : ∀ k, deliveredTo k (call :: calls) = call.delivered k ++ deliveredTo k calls :=
        fun _ => rfl
      rw [hall] at hcolor hdepth
      obtain ⟨hhead, hrest⟩ := List.forall_mem_cons.mp hcalls
      have hcs := (List.forall_mem_append.mp hcolor).2
      have hds := (List.forall_mem_append.mp hdepth).2
      rw [hall, hall]
      cases call with
      | getCapture => exact ih hu.get hrest hcs hds hroom.tail
      | addCapture r c k =>
          obtain ⟨rfl, d, rfl, ht⟩ := hhead
          have hkind : d ∈ S ↔ k = true := by
            cases k with
            | true =>
                exact ⟨fun _ => rfl, fun _ => hcolor d (List.mem_append_left _
                  (List.mem_singleton_self d))⟩
            | false =>
                exact ⟨fun hS => absurd hS (hdepth d (List.mem_append_left _
                  (List.mem_singleton_self d))), fun hk => by cases hk⟩
          have htyped : s.heap.typedImage k d ≠ none := by
            cases k with
            | true => rw [hu.merging.color d (hkind.mpr rfl)]; exact ht
            | false => rw [hu.merging.depth d]; exact ht
          have hadd : (s.step (.addCapture .succeeded (some d) k)).1 = s.accept d k := by
            simp [step, add, htyped]
          obtain ⟨new, hacc, hnew⟩ := hu.accept hp hkind (hroom [] d k calls rfl)
          have htail := hroom.tail
          rw [hadd] at htail
          have hrun := ih hacc hrest hcs hds htail
          rw [List.append_assoc, List.append_assoc, hnew] at hrun
          have hstep : (s.run (.addCapture .succeeded (some d) k :: calls)).1 =
              ((s.accept d k).run calls).1 := by
            rw [Session.run, hadd]
          rw [hstep]
          exact hrun

end Session

/-- A stream whose internal queue is not full has room. -/
theorem World.room_of_not_full {w : World QueueContext} {k : Bool}
    (h : (w.frame k).queue.isQueueFull = false) :
    (w.toFifo.session.stream k).captures.length ≠ (w.toFifo.session.stream k).capacity + 1 := by
  have hcaps : (w.toFifo.session.stream k).captures =
      (w.frame k).capture.toList ++ (w.frame k).queue.contents := by
    cases k <;> rfl
  have hcap : (w.toFifo.session.stream k).capacity = (w.frame k).queue.depth - 1 := by
    cases k <;> rfl
  have hlt := (w.frame k).queue.length_contents_lt
  have hone := (w.frame k).queue.one_lt_depth
  intro heq
  have hfull : (w.frame k).queue.isQueueFull = true := by
    rw [QueueContext.isQueueFull_iff]
    rw [hcaps, hcap, List.length_append] at heq
    have hslot : (w.frame k).capture.toList.length ≤ 1 := by
      cases (w.frame k).capture <;> simp
    omega
  rw [h] at hfull
  cases hfull

/-- In a session with both sensors, whatever the interleaving of the two streams and of
reads, and if no internal queue is full when a capture is delivered: what is pushed to
`sync_queue` is the output for the colour captures and the depth captures, less the depth
captures the start-up filter turns away. -/
theorem session_merges_two_lists {w : World QueueContext} (h : Idle w)
    (hdis : w.sync.disableSync = false) (config : DeviceConfiguration)
    (hvalid : 0 < convertFpsToUint config.cameraFps) (hcolor : config.colorResolution ≠ .off)
    (hdepth : config.depthMode ≠ .off) (calls : List SessionCall)
    (hcalls : ∀ call ∈ calls, call.Delivers w.heap)
    (hkinds : ∀ c ∈ deliveredTo true calls, c ∉ deliveredTo false calls)
    (hroom : ∀ pre c k post, calls = pre ++ .addCapture .succeeded (some c) k :: post →
      ((callRun (capturesyncStart w config).1 (pre.map SessionCall.toCall)).1.frame
        k).queue.isQueueFull = false) :
    (callRun (capturesyncStart w config).1 (calls.map SessionCall.toCall)).1.published =
      w.published ++ mergeOutput (Session.startParams config false) w.heap (deliveredTo true calls)
        ((deliveredTo false calls).dropWhile fun d =>
          decide (w.heap.typedTs false d / (Session.startParams config false).fpsPeriod > 10)) := by
  obtain ⟨hs, -⟩ := h.callRun_session hvalid calls
  rw [hdis] at hs
  have hsync : (Session.startParams config false).syncCaptures = true := by
    simp [Session.startParams, hcolor, hdepth]
  have hbegin : Session.Upto (deliveredTo true calls) w.heap (Session.startParams config false)
      w.published [] [] (Session.begin w.heap w.published false config) := by
    refine ⟨⟨rfl, rfl, fun _ => rfl, fun _ _ => rfl, fun _ => rfl, rfl, ?_, ?_⟩, ?_, rfl, rfl⟩
    · intro c hc
      cases hc
    · intro d hd
      cases hd
    · exact (List.append_nil _).symm
  have hno : Session.NoOverflow (Session.begin w.heap w.published false config) calls := by
    intro pre c k post he
    have hpre := (h.callRun_session hvalid pre).1
    rw [hdis] at hpre
    rw [← hpre]
    exact World.room_of_not_full (hroom pre c k post he)
  have hrun := hbegin.run ⟨rfl, hsync, rfl⟩ calls hcalls (fun c hc => hc)
    (fun d hd hc => hkinds d hc hd) hno
  rw [← hs, List.nil_append, List.nil_append] at hrun
  have hfilter := Session.accepted_filtered (p := Session.startParams config false) w.heap hsync
    rfl rfl (deliveredTo false calls)
  have hout := hrun.published
  rw [show accepted (Session.begin w.heap w.published false config).params w.heap false
    (deliveredTo false calls) = _ from hfilter] at hout
  exact hout

/-- Colour captures first or depth captures first: the pair at 1 and 2 ms is merged, and
the colour capture at 50 ms waits. -/
theorem session_merges_two_lists_pair :
    ∃ w : World QueueContext, Idle w ∧
      (callRun (capturesyncStart w pairedConfiguration).1
        ([SessionCall.addCapture .succeeded (some ⟨1⟩) true,
          .addCapture .succeeded (some ⟨50⟩) true,
          .addCapture .succeeded (some ⟨2⟩) false].map SessionCall.toCall)).1.published =
        w.published ++ [.merged ⟨2⟩ ⟨1⟩ (some ⟨2⟩)] := by
  obtain ⟨w, hw⟩ : ∃ w, capturesyncCreate QueueContext pairedHeap false = some w := ⟨_, rfl⟩
  have hv := Option.some.inj hw
  have hidle : Idle w := ⟨by rw [← hv]; rfl, by rw [← hv]; rfl, Or.inl ⟨_, _, hw⟩⟩
  have hheap : w.heap = pairedHeap := by rw [← hv]; rfl
  have hout := session_merges_two_lists hidle (by rw [← hv]; rfl) pairedConfiguration (by decide)
    (by decide) (by decide)
    [.addCapture .succeeded (some ⟨1⟩) true, .addCapture .succeeded (some ⟨50⟩) true,
      .addCapture .succeeded (some ⟨2⟩) false]
    (by
      rw [hheap]
      intro call hm
      simp only [List.mem_cons, List.not_mem_nil, or_false] at hm
      rcases hm with rfl | rfl | rfl <;> exact ⟨rfl, _, rfl, by decide⟩)
    (by decide)
    (by
      intro pre c k post he
      rw [← hv]
      rcases pre with _ | ⟨a, _ | ⟨b, _ | ⟨d, pre⟩⟩⟩
      · cases k <;> rfl
      · obtain ⟨rfl, -⟩ := List.cons.inj he
        cases k <;> rfl
      · obtain ⟨rfl, hrest⟩ := List.cons.inj he
        obtain ⟨rfl, -⟩ := List.cons.inj hrest
        cases k <;> rfl
      · simp at he)
  rw [hheap] at hout
  exact ⟨w, hidle, hout.trans (congrArg (w.published ++ ·) (by decide))⟩

end ZsaSdk
