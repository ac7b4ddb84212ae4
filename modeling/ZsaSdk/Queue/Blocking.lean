import ZsaSdk.Queue.Threads

/-!
# Blocking pops

A thread that wakes up in `queue_pop` with `COND_OK` takes the head of the ring, once,
and reports success whether there was a head or not.  The code asserts that there is
one unless the queue is being shut down.

The assertion, and with it the promise that a successful pop brings a capture, depends
on who gets the lock between the post and the wake-up.  It holds along a run exactly if
no thread is told `COND_OK` while the ring of the enabled queue is empty
(`pops_bring_captures_iff`).  A second consumer can take the capture first
(`woken_pop_finds_nothing`).  With one consumer and no spurious wake-up the ring is
never found empty (`single_consumer_finds_data`).
-/

namespace ZsaSdk

open Ledger

/-- `capturesync_get_capture`, from the return of `queue_pop` on: its result, and what
`*capture` holds, which was `out` before the call. -/
def capturesyncGetCaptureReturn (out : Option CaptureHandle) (wresult : WaitResult)
    (captureHandle : Option CaptureHandle) : WaitResult × Option CaptureHandle :=
  if wresult = .succeeded then (wresult, captureHandle) else (wresult, out)

namespace SharedQueue

variable {s s' : SharedQueue} {t : Nat}

/-- Every call that has succeeded has brought a capture, and no assertion has failed. -/
structure BringsCaptures (s : SharedQueue) : Prop where
  popped : ∀ t c, (t, .popped .succeeded c) ∈ s.returns → c ≠ none
  got : ∀ t wresult c out, (t, .popped wresult c) ∈ s.returns →
    (capturesyncGetCaptureReturn out wresult c).1 = .succeeded →
    (capturesyncGetCaptureReturn out wresult c).2 ≠ none
  asserted : s.asserted = true

/-- If the thread is about to find `COND_OK`, the ring is not empty or the queue is
disabled. -/
def WakeFindsData (s : SharedQueue) (a : Action) : Prop :=
  a = .resume .ok → s.queue.isQueueEmpty = false ∨ s.queue.enabled = false

/-- `WakeFindsData` before every step of a run. -/
def WakesFindData (s : SharedQueue) (as : List (Nat × Action)) : Prop :=
  Steps.Along (fun s ta => s.step ta.1 ta.2) (fun s ta => s.WakeFindsData ta.2) s as

/-! ## One step -/

theorem bringsCaptures_iff : s.BringsCaptures ↔
    (∀ t, (t, .popped .succeeded none) ∉ s.returns) ∧ s.asserted = true := by
  constructor
  · intro h
    exact ⟨fun t hmem => h.popped t none hmem rfl, h.asserted⟩
  · rintro ⟨hnot, hassert⟩
    have hpopped : ∀ t c, (t, .popped .succeeded c) ∈ s.returns → c ≠ none := by
      rintro t c hmem rfl
      exact hnot t hmem
    refine ⟨hpopped, ?_, hassert⟩
    intro t wresult c out hmem hsucc
    cases wresult with
    | succeeded => exact hpopped t c hmem
    | failed => cases hsucc
    | timeout => cases hsucc

theorem bringsCaptures_congr (hr : s'.returns = s.returns) (ha : s'.asserted = s.asserted) :
    s'.BringsCaptures ↔ s.BringsCaptures := by
  rw [bringsCaptures_iff, bringsCaptures_iff, hr, ha]

theorem bringsCaptures_return {r : Return} {b : Bool} (hr : s'.returns = s.returns ++ [(t, r)])
    (ha : s'.asserted = (s.asserted && b)) :
    s'.BringsCaptures ↔ s.BringsCaptures ∧ r ≠ .popped .succeeded none ∧ b = true := by
  rw [bringsCaptures_iff, bringsCaptures_iff, hr, ha, Bool.and_eq_true]
  constructor
  · rintro ⟨hnot, hassert, hb⟩
    refine ⟨⟨fun u hmem => hnot u (List.mem_append_left _ hmem), hassert⟩, ?_, hb⟩
    rintro rfl
    exact hnot t (List.mem_append_right _ (List.mem_singleton_self _))
  · rintro ⟨⟨hnot, hassert⟩, hr, hb⟩
    refine ⟨?_, hassert, hb⟩
    intro u hmem
    rcases List.mem_append.mp hmem with hmem | hmem
    · exact hnot u hmem
    · exact hr (Prod.mk.inj (List.mem_singleton.mp hmem)).2.symm

/-- A step keeps the promise exactly if it does not wake a thread in vain. -/
theorem bringsCaptures_step {a : Action} (h : s.step t a = some s') :
    s'.BringsCaptures ↔ s.BringsCaptures ∧ s.WakeFindsData a := by
  -- A step that returns anything but a success without a capture.
  have hreturn : ∀ {v : SharedQueue} {r : Return} {a : Action}, a ≠ .resume .ok →
      r ≠ .popped .succeeded none → v.returns = s.returns ++ [(t, r)] →
      v.asserted = s.asserted → (v.BringsCaptures ↔ s.BringsCaptures ∧ s.WakeFindsData a) := by
    intro v r a ha hr hret hassert
    have hiff := bringsCaptures_return (b := true) hret (by rw [hassert, Bool.and_true])
    rw [hiff]
    exact ⟨fun hb => ⟨hb.1, fun e => absurd e ha⟩, fun hb => ⟨hb.1, hr, rfl⟩⟩
  have hkeep : ∀ {v : SharedQueue} {a : Action}, a ≠ .resume .ok → v.returns = s.returns →
      v.asserted = s.asserted → (v.BringsCaptures ↔ s.BringsCaptures ∧ s.WakeFindsData a) := by
    intro v a ha hret hassert
    rw [bringsCaptures_congr hret hassert]
    exact ⟨fun hb => ⟨hb, fun e => absurd e ha⟩, fun hb => hb.1⟩
  cases stepped h with
  | @popReturned waitInMs r _ hr =>
      refine hreturn (by simp) ?_ rfl rfl
      intro e
      obtain ⟨hw, hc⟩ := Return.popped.inj e
      exact (queuePopEnter_returned hr).2.2 hw hc
  | popWaits _ _ => exact hkeep (by simp) rfl rfl
  | @resumed waitInMs posted condResult _ _ =>
      have hiff : BringsCaptures { s.popReturn t (queuePopResume s.queue condResult) with
          asserted := s.asserted && popAssertion s.queue condResult } ↔ _ :=
        bringsCaptures_return (s := s) rfl rfl
      rw [hiff, popAssertion_iff, WakeFindsData, Action.resume.injEq]
      refine and_congr_right fun _ => ⟨fun hb => hb.2, fun hb => ⟨?_, hb⟩⟩
      intro e
      obtain ⟨hw, hc⟩ := Return.popped.inj e
      obtain ⟨hok, hempty, hen⟩ := (queuePopResume_empty_iff s.queue condResult).mp ⟨hw, hc⟩
      rcases hb hok with hne | hdis
      · rw [hempty] at hne; cases hne
      · rw [hen] at hdis; cases hdis
  | pushed _ _ _ => exact hreturn (by simp) (by simp) rfl rfl
  | refused _ _ => exact hreturn (by simp) (by simp) rfl rfl
  | marked _ => exact hkeep (by simp) rfl rfl
  | disableWaits _ _ _ _ => exact hkeep (by simp) rfl rfl
  | disableReturns _ _ _ => exact hreturn (by simp) (by simp) rfl rfl
  | retryWaits _ _ _ => exact hkeep (by simp) rfl rfl
  | retryReturns _ _ => exact hreturn (by simp) (by simp) rfl rfl
  | enabled _ => exact hkeep (by simp) rfl rfl

/-! ## Whole runs -/

theorem bringsCaptures_run (as : List (Nat × Action)) (h : s.run as = some s') :
    s'.BringsCaptures ↔ s.BringsCaptures ∧ s.WakesFindData as :=
  Steps.run_iff (fun _ _ _ hstep => bringsCaptures_step hstep) as h

theorem bringsCaptures_fresh (q : QueueContext) (n : Nat) : (fresh q n).BringsCaptures :=
  bringsCaptures_iff.mpr ⟨fun _ => List.not_mem_nil, rfl⟩

end SharedQueue

/-- In every run, on any queue and with any number of threads: each successful
`queue_pop` and `capturesync_get_capture` has brought a capture and the assertion after
the wait has held, exactly if no thread was told `COND_OK` while the queue was enabled
and its ring empty. -/
theorem pops_bring_captures_iff (q : QueueContext) (n : Nat) (as : List (Nat × Action))
    {s : SharedQueue} (hrun : (SharedQueue.fresh q n).run as = some s) :
    s.BringsCaptures ↔ (SharedQueue.fresh q n).WakesFindData as := by
  rw [SharedQueue.bringsCaptures_run as hrun]
  exact and_iff_right (SharedQueue.bringsCaptures_fresh q n)

/-- The queue of `queue_create` with a depth of 1, enabled. -/
def smallQueue : QueueContext := queueEnable ((queueCreate 1).get rfl)

theorem pops_bring_captures_one_consumer : ∃ s, (SharedQueue.fresh smallQueue 2).run
      [(0, .pop (-1)), (1, .push ⟨7⟩ false [0]), (0, .resume .ok)] = some s ∧
    s.returns = [(1, .pushed none), (0, .popped .succeeded (some ⟨7⟩))] ∧ s.BringsCaptures := by
  obtain ⟨s, hs⟩ : ∃ s, (SharedQueue.fresh smallQueue 2).run
      [(0, .pop (-1)), (1, .push ⟨7⟩ false [0]), (0, .resume .ok)] = some s := ⟨_, rfl⟩
  have hiff := pops_bring_captures_iff smallQueue 2 _ hs
  refine ⟨s, hs, ?_, hiff.mpr ⟨nofun, fun s₁ h₁ => ⟨nofun, fun s₂ h₂ => ⟨fun _ => Or.inl ?_, ?_⟩⟩⟩⟩
  · rw [← Option.some.inj hs]
    rfl
  · obtain rfl := Option.some.inj h₁
    obtain rfl := Option.some.inj h₂
    rfl
  · exact fun _ _ => trivial

/-- Thread 0 waits, thread 1 pushes a capture and wakes it, and thread 2 takes the capture
before thread 0 has the lock back. -/
theorem woken_pop_finds_nothing : ∃ s₁ s₂, (SharedQueue.fresh smallQueue 3).run
      [(0, .pop (-1)), (1, .push ⟨7⟩ false [0]), (2, .pop 0)] = some s₁ ∧
    s₁.threads[0]? = some (.waiting (-1) true) ∧ s₁.queue.enabled = true ∧
    s₁.step 0 (.resume .ok) = some s₂ ∧ s₂.queue.enabled = true ∧
    (0, .popped .succeeded none) ∈ s₂.returns ∧ s₂.asserted = false ∧ ¬ s₂.BringsCaptures := by
  refine ⟨_, _, rfl, rfl, rfl, rfl, rfl, ?_, rfl, fun h => Bool.false_ne_true h.asserted⟩
  exact List.mem_append_right _ (List.mem_singleton_self _)

/-! ## One consumer -/

namespace SharedQueue

variable {s s' : SharedQueue} {t u : Nat}

/-- Only thread `t` pops, it finds `COND_OK` only after a post, and nobody enables the
queue. -/
structure ConsumerStep (t : Nat) (s : SharedQueue) (u : Nat) (a : Action) : Prop where
  consumer : ∀ waitInMs, a = .pop waitInMs → u = t
  posted : a = .resume .ok → ∃ waitInMs, s.threads[u]? = some (.waiting waitInMs true)
  not_enable : a ≠ .enable

/-- `ConsumerStep` before every step of a run. -/
def OneConsumer (s : SharedQueue) (t : Nat) (as : List (Nat × Action)) : Prop :=
  Steps.Along (fun s ta => s.step ta.1 ta.2) (fun s ta => ConsumerStep t s ta.1 ta.2) s as

/-- Only `t` waits, a thread that sleeps has disabled the queue, and a post that has
reached `t` on an enabled queue has left an entry for it. -/
structure Served (t : Nat) (s : SharedQueue) : Prop where
  alone : ∀ (u : Nat) waitInMs b, s.threads[u]? = some (.waiting waitInMs b) → u = t
  shutting : ∀ u : Nat, s.threads[u]? = some .asleep → s.queue.enabled = false
  entry : s.queue.enabled = true → ∀ waitInMs,
    s.threads[t]? = some (.waiting waitInMs true) → s.queue.isQueueEmpty = false

theorem getElem?_set_cases {threads : List Thread} {x y : Thread}
    (h : (threads.set t x)[u]? = some y) : (u = t ∧ y = x) ∨ (u ≠ t ∧ threads[u]? = some y) := by
  rw [List.getElem?_set] at h
  by_cases hu : t = u
  · rw [if_pos hu, Option.ite_none_right_eq_some, Option.some.injEq] at h
    exact Or.inl ⟨hu.symm, h.2.symm⟩
  · rw [if_neg hu] at h
    exact Or.inr ⟨Ne.symm hu, h⟩

/-- A thread is set to a state in which it neither waits nor sleeps. -/
theorem Served.set (h : Served t s) {x : Thread} (hw : x.isWaiting = false) (hx : x ≠ .asleep)
    (ht : s'.threads = s.threads.set u x) (he : s'.queue.enabled = s.queue.enabled)
    (hentry : s'.queue.enabled = true → u ≠ t → ∀ waitInMs,
      s.threads[t]? = some (.waiting waitInMs true) → s'.queue.isQueueEmpty = false) :
    Served t s' where
  alone := by
    intro v waitInMs b hv
    rw [ht] at hv
    obtain ⟨-, rfl⟩ | ⟨-, hv⟩ := getElem?_set_cases hv
    · cases hw
    · exact h.alone v waitInMs b hv
  shutting := by
    intro v hv
    rw [ht] at hv
    rw [he]
    obtain ⟨-, rfl⟩ | ⟨-, hv⟩ := getElem?_set_cases hv
    · exact absurd rfl hx
    · exact h.shutting v hv
  entry := by
    intro hen waitInMs hv
    rw [ht] at hv
    obtain ⟨-, rfl⟩ | ⟨hne, hv⟩ := getElem?_set_cases hv
    · cases hw
    · exact hentry hen (Ne.symm hne) waitInMs hv

/-- On a disabled queue only the first part matters. -/
theorem Served.of_disabled
    (halone : ∀ (u : Nat) waitInMs b, s.threads[u]? = some (.waiting waitInMs b) → u = t)
    (hen : s.queue.enabled = false) : Served t s := by
  refine ⟨halone, fun _ _ => hen, fun h => ?_⟩
  rw [hen] at h
  cases h

/-- A post does not make another thread wait. -/
theorem alone_post {threads threads' : List Thread} {woken : List Nat}
    (halone : ∀ (u : Nat) waitInMs b, threads[u]? = some (.waiting waitInMs b) → u = t)
    (h : conditionPost threads woken = some threads') :
    ∀ (u : Nat) waitInMs b, threads'[u]? = some (.waiting waitInMs b) → u = t := by
  intro u waitInMs b hu
  obtain ⟨old, hold, hcase⟩ := conditionPost_cases h hu
  cases old with
  | waiting w b' => exact halone u w b' hold
  | idle => rcases hcase with hcase | hcase <;> cases hcase
  | stopping => rcases hcase with hcase | hcase <;> cases hcase
  | asleep => rcases hcase with hcase | hcase <;> cases hcase

theorem alone_set {threads : List Thread} {x : Thread} (hw : x.isWaiting = false)
    (halone : ∀ (u : Nat) waitInMs b, threads[u]? = some (.waiting waitInMs b) → u = t) :
    ∀ (v : Nat) waitInMs b, (threads.set u x)[v]? = some (.waiting waitInMs b) → v = t := by
  intro v waitInMs b hv
  obtain ⟨-, rfl⟩ | ⟨-, hv⟩ := getElem?_set_cases hv
  · cases hw
  · exact halone v waitInMs b hv

theorem Served.step {a : Action} (h : Served t s) (hc : ConsumerStep t s u a)
    (hstep : s.step u a = some s') : Served t s' := by
  have hself : ∀ {v : SharedQueue}, u = t → v.queue.enabled = true → u ≠ t → ∀ waitInMs,
      s.threads[t]? = some (.waiting waitInMs true) → v.queue.isQueueEmpty = false :=
    fun hu _ hne => absurd hu hne
  cases stepped hstep with
  | popReturned _ hr =>
      exact h.set rfl (by simp) rfl (queuePopEnter_returned hr).1 (hself (hc.consumer _ rfl))
  | @popWaits waitInMs q _ hr =>
      obtain rfl := hc.consumer _ rfl
      obtain ⟨-, rfl⟩ := queuePopEnter_waiting hr
      refine ⟨?_, ?_, ?_⟩
      · intro v w b hv
        obtain ⟨rfl, -⟩ | ⟨-, hv⟩ := getElem?_set_cases hv
        · rfl
        · exact h.alone v w b hv
      · intro v hv
        obtain ⟨-, hv⟩ | ⟨-, hv⟩ := getElem?_set_cases hv
        · cases hv
        · exact h.shutting v hv
      · intro _ w hv
        obtain ⟨-, hv⟩ | ⟨hne, -⟩ := getElem?_set_cases hv
        · cases hv
        · exact absurd rfl hne
  | resumed hw _ =>
      exact h.set rfl (by simp) rfl (queuePopResume_queue _ _).1 (hself (h.alone u _ _ hw))
  | @pushed c b woken threads _ he hp =>
      have hflag := (queuePushWDropped_flags s.queue c b).1
      refine ⟨alone_post h.alone hp, ?_, ?_⟩
      · intro v hv
        obtain ⟨old, hold, hcase⟩ := conditionPost_cases hp hv
        have hasleep : old = .asleep := by
          cases old <;> rcases hcase with hcase | hcase <;> cases hcase <;> rfl
        exact hflag.trans (h.shutting v (hasleep ▸ hold))
      · intro _ _ _
        rw [Bool.eq_false_iff]
        exact fun hnil => contents_queuePushWDropped he c b
          ((QueueContext.isQueueEmpty_iff _).mp hnil)
  | refused _ _ => exact ⟨h.alone, h.shutting, h.entry⟩
  | marked _ => exact h.set rfl (by simp) rfl rfl fun hq _ => h.entry hq
  | disableWaits _ _ _ hp => exact .of_disabled (alone_post (alone_set rfl h.alone) hp) rfl
  | disableReturns _ _ _ =>
      exact .of_disabled (alone_set rfl h.alone) (queueDrain_spec _).2.2.2.1
  | retryWaits ht _ hp =>
      exact .of_disabled (alone_post (alone_set rfl h.alone) hp) (h.shutting u ht)
  | retryReturns ht _ =>
      exact .of_disabled (alone_set rfl h.alone)
        ((queueDrain_spec _).2.2.2.1.trans (h.shutting u ht))
  | enabled _ => exact absurd rfl hc.not_enable

theorem Served.wakeFindsData {a : Action} (h : Served t s) (hc : ConsumerStep t s u a) :
    s.WakeFindsData a := by
  intro ha
  obtain ⟨w, hw⟩ := hc.posted ha
  obtain rfl := h.alone u w true hw
  cases he : s.queue.enabled with
  | false => exact Or.inr rfl
  | true => exact Or.inl (h.entry he w hw)

theorem Served.run (h : Served t s) (as : List (Nat × Action)) (hone : s.OneConsumer t as) :
    s.WakesFindData as :=
  Steps.Along.mono (fun _ _ _ hs hc hstep => Served.step hs hc hstep)
    (fun _ _ hs hc => Served.wakeFindsData hs hc) as h hone

theorem served_fresh (q : QueueContext) (n : Nat) : Served t (fresh q n) := by
  have hidle : ∀ {u : Nat} {x : Thread}, (fresh q n).threads[u]? = some x → x = .idle :=
    fun hx => List.eq_of_mem_replicate (List.mem_of_getElem? hx)
  refine ⟨fun u w b hw => ?_, fun u hu => ?_, fun _ w hw => ?_⟩
  · cases hidle hw
  · cases hidle hu
  · cases hidle hw

end SharedQueue

/-- With one consumer, no spurious wake-up and no `queue_enable`, every successful pop
brings a capture and the assertion holds. -/
theorem single_consumer_finds_data (q : QueueContext) (n t : Nat) (as : List (Nat × Action))
    {s : SharedQueue} (hrun : (SharedQueue.fresh q n).run as = some s)
    (hone : (SharedQueue.fresh q n).OneConsumer t as) : s.BringsCaptures :=
  (SharedQueue.bringsCaptures_run as hrun).mpr
    ⟨SharedQueue.bringsCaptures_fresh q n, (SharedQueue.served_fresh q n).run as hone⟩

end ZsaSdk
