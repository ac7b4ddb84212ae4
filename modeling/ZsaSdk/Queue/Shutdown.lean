import Mathlib.Algebra.Order.Ring.Nat
import ZsaSdk.Queue.Threads

/-!
# Shutting a queue down

`queue_disable` clears `enabled`, then waits until no thread is inside a pop, and drains
the ring.  While it sleeps every other thread may go on: threads push, enter a pop, time
out or wake up, and other threads may disable the queue as well.

`Counted` says that `queue_pop_blocked` is the number of threads inside a pop; it holds in
every run.  `Shrinks s out s'` says what a disabled queue can do between `s` and `s'`, if
nobody enables it: the calls that returned meanwhile are `out`, pops among them failed,
and captures only left the ring, each with one release.  The two together give
`queue_shutdown_clean`; that a sleeping `queue_disable` can always get to its end is
`queue_shutdown_completes`.
-/

namespace ZsaSdk

open Ledger

namespace SharedQueue

variable {s s' : SharedQueue} {t u n : Nat} {a : Action}

/-- Thread `t` is between the increment and the decrement of `queue_pop_blocked`. -/
def waits (s : SharedQueue) (t : Nat) : Bool := s.threads[t]?.any Thread.isWaiting

/-- The number of threads between the increment and the decrement. -/
def waitingCount (s : SharedQueue) : Nat := s.threads.countP Thread.isWaiting

/-! ## Counting the threads inside a pop -/

theorem queuePopBlocked_queueCreate {depth : UInt32} {q : QueueContext}
    (h : queueCreate depth = some q) : q.queuePopBlocked = 0 := by
  simp only [queueCreate] at h
  split at h
  · cases h
  · split at h
    · cases h
    · cases h
      rfl

theorem countP_isWaiting_set {threads : List Thread} {x y : Thread} (h : threads[t]? = some x) :
    (threads.set t y).countP Thread.isWaiting + (if x.isWaiting then 1 else 0) =
      threads.countP Thread.isWaiting + (if y.isWaiting then 1 else 0) := by
  obtain ⟨ht, hx⟩ := List.getElem?_eq_some_iff.mp h
  rw [List.countP_set ht, hx]
  cases hw : x.isWaiting with
  | false => simp
  | true =>
      have hpos : 0 < threads.countP Thread.isWaiting :=
        List.countP_pos_iff.mpr ⟨x, List.mem_of_getElem? h, hw⟩
      simp only [if_true]
      omega

theorem countP_isWaiting_keep {threads : List Thread} {x y : Thread} (h : threads[t]? = some x)
    (hx : x.isWaiting = false) (hy : y.isWaiting = false) :
    (threads.set t y).countP Thread.isWaiting = threads.countP Thread.isWaiting := by
  have hset := countP_isWaiting_set (y := y) h
  simpa [hx, hy] using hset

theorem countP_isWaiting_post {threads threads' : List Thread} {woken : List Nat}
    (h : conditionPost threads woken = some threads') :
    threads'.countP Thread.isWaiting = threads.countP Thread.isWaiting := by
  have hcount : ∀ l : List Thread,
      l.countP Thread.isWaiting = (l.map Thread.isWaiting).countP id := fun l => by
    rw [List.countP_map]
    rfl
  rw [hcount, hcount, conditionPost_isWaiting h]

theorem length_post {threads threads' : List Thread} {woken : List Nat}
    (h : conditionPost threads woken = some threads') : threads'.length = threads.length := by
  simpa using congrArg List.length (conditionPost_isWaiting h)

/-- There are `n` threads, and `queue_pop_blocked` counts those inside a pop. -/
structure Counted (n : Nat) (s : SharedQueue) : Prop where
  length : s.threads.length = n
  blocked : s.queue.queuePopBlocked = UInt32.ofNat s.waitingCount

theorem Counted.fresh {q : QueueContext} (h : q.queuePopBlocked = 0) (n : Nat) :
    Counted n (fresh q n) := by
  refine ⟨List.length_replicate, ?_⟩
  have hcount : (SharedQueue.fresh q n).waitingCount = 0 := by
    rw [waitingCount, List.countP_eq_zero]
    intro x hx
    rw [List.eq_of_mem_replicate hx]
    exact Bool.false_ne_true
  rw [hcount]
  exact h

theorem ofNat_succ_sub_one (k : Nat) : UInt32.ofNat (k + 1) - 1 = UInt32.ofNat k := by
  rw [UInt32.ofNat_add]
  exact UInt32.add_sub_cancel _ _

theorem Counted.step (h : Counted n s) (hstep : s.step t a = some s') : Counted n s' := by
  have hlen : ∀ x : Thread, (s.threads.set t x).length = n := fun x => by
    rw [List.length_set, h.length]
  have hblocked : s.queue.queuePopBlocked = UInt32.ofNat (s.threads.countP Thread.isWaiting) :=
    h.blocked
  -- A step of a thread that is inside no pop, neither before nor after it.
  have hkeep : ∀ {v : SharedQueue} {x y : Thread}, s.threads[t]? = some x → x.isWaiting = false →
      y.isWaiting = false → v.threads = s.threads.set t y →
      v.queue.queuePopBlocked = s.queue.queuePopBlocked → Counted n v := by
    intro v x y hx hxw hyw hv hb
    refine ⟨by rw [hv, hlen], ?_⟩
    rw [hb, hblocked, waitingCount, hv, countP_isWaiting_keep hx hxw hyw]
  have hsleep : ∀ {v : SharedQueue} {x : Thread} {woken : List Nat}, s.threads[t]? = some x →
      x.isWaiting = false → conditionPost (s.threads.set t .asleep) woken = some v.threads →
      v.queue.queuePopBlocked = s.queue.queuePopBlocked → Counted n v := by
    intro v x woken hx hxw hp hb
    refine ⟨by rw [length_post hp, hlen], ?_⟩
    rw [hb, hblocked, waitingCount, countP_isWaiting_post hp, countP_isWaiting_keep hx hxw rfl]
  cases stepped hstep with
  | popReturned ht hr => exact hkeep ht rfl rfl rfl (queuePopEnter_returned hr).2.1
  | @popWaits waitInMs q ht hr =>
      obtain ⟨-, rfl⟩ := queuePopEnter_waiting hr
      have hcount : (s.threads.set t (.waiting waitInMs false)).countP Thread.isWaiting =
          s.threads.countP Thread.isWaiting + 1 := countP_isWaiting_set ht
      refine ⟨hlen _, ?_⟩
      rw [waitingCount, hcount, UInt32.ofNat_add, ← hblocked]
      rfl
  | @resumed waitInMs posted condResult ht _ =>
      have hcount : (s.threads.set t .idle).countP Thread.isWaiting + 1 =
          s.threads.countP Thread.isWaiting := countP_isWaiting_set ht
      refine ⟨hlen _, ?_⟩
      show (queuePopResume s.queue condResult).queue.queuePopBlocked =
        UInt32.ofNat ((s.threads.set t .idle).countP Thread.isWaiting)
      rw [(queuePopResume_queue s.queue condResult).2, hblocked, ← hcount, ofNat_succ_sub_one]
  | pushed ht _ hp =>
      refine ⟨(length_post hp).trans h.length, ?_⟩
      rw [waitingCount, countP_isWaiting_post hp, ← hblocked]
      exact (queuePushWDropped_flags _ _ _).2
  | refused _ _ => exact ⟨h.length, h.blocked⟩
  | marked ht => exact hkeep ht rfl rfl rfl rfl
  | disableWaits ht hw _ hp => exact hsleep ht hw hp rfl
  | disableReturns ht hw _ => exact hkeep ht hw rfl rfl (queueDrain_spec _).2.2.2.2
  | retryWaits ht _ hp => exact hsleep ht rfl hp rfl
  | retryReturns ht _ => exact hkeep ht rfl rfl rfl (queueDrain_spec _).2.2.2.2
  | enabled _ => exact ⟨h.length, h.blocked⟩

theorem Counted.run (h : Counted n s) (as : List (Nat × Action)) (hrun : s.run as = some s') :
    Counted n s' :=
  Steps.run_invariant (Counted n) (fun _ => True) (fun _ _ _ hs _ hstep => Counted.step hs hstep) as
    (fun _ _ => trivial) h hrun

/-- With fewer than `2 ^ 32` threads the counter does not wrap around. -/
theorem Counted.toNat_blocked (h : Counted n s) (hfew : n < 2 ^ 32) :
    s.queue.queuePopBlocked.toNat = s.waitingCount := by
  have hle : s.waitingCount ≤ n := h.length ▸ List.countP_le_length
  rw [h.blocked]
  exact Nat.mod_eq_of_lt (Nat.lt_of_le_of_lt hle hfew)

/-! ## A disabled queue -/

/-- What happens between `s` and `s'` if the queue is disabled and stays so: the calls
that return are `out`.  Once a `queue_disable` has returned, the ring is empty and no
thread is inside a pop. -/
structure Shrinks (s : SharedQueue) (out : List (Nat × Return)) (s' : SharedQueue) : Prop where
  disabled : s'.queue.enabled = false
  returns : s'.returns = s.returns ++ out
  failed : ∀ t wresult c, (t, .popped wresult c) ∈ out → wresult = .failed ∧ c = none
  released : ∃ taken : List CaptureHandle, s'.refs = s.refs ++ taken.map .release ∧
    s.queue.contents = taken ++ s'.queue.contents
  waitingCount_le : s'.waitingCount ≤ s.waitingCount
  left : ∀ t, s.waits t = true → s'.waits t = true ∨ (t, .popped .failed none) ∈ out
  closed : ∀ t, (t, .disabled) ∈ out → s'.queue.contents = [] ∧ s'.waitingCount = 0

theorem Shrinks.refl (h : s.queue.enabled = false) : Shrinks s [] s where
  disabled := h
  returns := (List.append_nil _).symm
  failed := nofun
  released := ⟨[], (List.append_nil _).symm, rfl⟩
  waitingCount_le := Nat.le_refl _
  left := fun _ ht => Or.inl ht
  closed := nofun

theorem Shrinks.trans {v : SharedQueue} {out out' : List (Nat × Return)} (h : Shrinks s out v)
    (h' : Shrinks v out' s') : Shrinks s (out ++ out') s' where
  disabled := h'.disabled
  returns := by rw [h'.returns, h.returns, List.append_assoc]
  failed := by
    intro t wresult c hmem
    rcases List.mem_append.mp hmem with hmem | hmem
    · exact h.failed t wresult c hmem
    · exact h'.failed t wresult c hmem
  released := by
    obtain ⟨taken, hrefs, hcontents⟩ := h.released
    obtain ⟨taken', hrefs', hcontents'⟩ := h'.released
    refine ⟨taken ++ taken', ?_, ?_⟩
    · rw [hrefs', hrefs, List.map_append, List.append_assoc]
    · rw [hcontents, hcontents', List.append_assoc]
  waitingCount_le := Nat.le_trans h'.waitingCount_le h.waitingCount_le
  left := by
    intro t ht
    rcases h.left t ht with ht | ht
    · rcases h'.left t ht with ht | ht
      · exact Or.inl ht
      · exact Or.inr (List.mem_append_right _ ht)
    · exact Or.inr (List.mem_append_left _ ht)
  closed := by
    intro t hmem
    rcases List.mem_append.mp hmem with hmem | hmem
    · -- What is closed stays closed.
      obtain ⟨hnil, hzero⟩ := h.closed t hmem
      obtain ⟨taken, -, hcontents⟩ := h'.released
      rw [hnil] at hcontents
      exact ⟨(List.append_eq_nil_iff.mp hcontents.symm).2,
        Nat.le_zero.mp (hzero ▸ h'.waitingCount_le)⟩
    · exact h'.closed t hmem

theorem waits_set {x y : Thread} (hx : s.threads[t]? = some x)
    (hs : s'.threads = s.threads.set t y) (hw : x.isWaiting = true → y.isWaiting = true) :
    s.waits u = true → s'.waits u = true := by
  intro hu
  rw [waits, hs, List.getElem?_set]
  by_cases htu : t = u
  · subst htu
    rw [waits, hx] at hu
    obtain ⟨ht, -⟩ := List.getElem?_eq_some_iff.mp hx
    rw [if_pos rfl, if_pos ht]
    exact hw hu
  · rw [if_neg htu]
    exact hu

theorem waits_post {threads : List Thread} {woken : List Nat}
    (h : conditionPost threads woken = some s'.threads) :
    s'.waits u = threads[u]?.any Thread.isWaiting := by
  have hmap := congrArg (fun l : List Bool => l[u]?) (conditionPost_isWaiting h)
  simp only [List.getElem?_map] at hmap
  have hany : ∀ o : Option Thread, o.any Thread.isWaiting = (o.map Thread.isWaiting).any id :=
    fun o => by cases o <;> rfl
  rw [waits, hany, hany, hmap]

/-- A step that touches neither the ring nor the ledger and lets no thread into or out of
a pop. -/
theorem Shrinks.of_frame {out : List (Nat × Return)} (he : s'.queue.enabled = false)
    (hret : s'.returns = s.returns ++ out) (hrefs : s'.refs = s.refs)
    (hc : s'.queue.contents = s.queue.contents) (hcount : s'.waitingCount = s.waitingCount)
    (hw : ∀ u, s.waits u = true → s'.waits u = true)
    (hout : ∀ u r, (u, r) ∈ out → r = .popped .failed none ∨ r = .pushed none) :
    Shrinks s out s' where
  disabled := he
  returns := hret
  failed := by
    intro u wresult c hmem
    rcases hout u _ hmem with hr | hr
    · exact Return.popped.inj hr
    · cases hr
  released := ⟨[], by rw [hrefs, List.map_nil, List.append_nil], by rw [hc, List.nil_append]⟩
  waitingCount_le := Nat.le_of_eq hcount
  left := fun u hu => Or.inl (hw u hu)
  closed := by
    intro u hmem
    rcases hout u _ hmem with hr | hr <;> cases hr

/-- A thread posts and goes to sleep in `queue_disable`. -/
theorem Shrinks.sleep {x : Thread} {woken : List Nat} (hx : s.threads[t]? = some x)
    (hw : x.isWaiting = false)
    (hp : conditionPost (s.threads.set t .asleep) woken = some s'.threads)
    (he : s'.queue.enabled = false) (hc : s'.queue.contents = s.queue.contents)
    (hret : s'.returns = s.returns) (hrefs : s'.refs = s.refs) : Shrinks s [] s' := by
  refine .of_frame he (by rw [hret, List.append_nil]) hrefs hc ?_ ?_ nofun
  · rw [waitingCount, countP_isWaiting_post hp, countP_isWaiting_keep hx hw rfl]
    rfl
  · intro u hu
    have hset : ∀ v : SharedQueue, v.threads = s.threads.set t .asleep → v.waits u = true :=
      fun v hv => waits_set hx hv (fun h => absurd h (by rw [hw]; exact Bool.false_ne_true)) hu
    rw [waits_post hp]
    exact hset { s with threads := s.threads.set t .asleep } rfl

/-- A `queue_disable` finds no thread inside a pop and drains the ring `q`. -/
theorem Shrinks.drain {x : Thread} {q : QueueContext} (hx : s.threads[t]? = some x)
    (hw : x.isWaiting = false) (hzero : s.waitingCount = 0) (he : q.enabled = false)
    (hc : q.contents = s.queue.contents) :
    Shrinks s [(t, .disabled)] (s.disableReturn t (queueDrain q)) := by
  obtain ⟨hrefs, hnil, -, hen, -⟩ := queueDrain_spec q
  have hcount : (s.disableReturn t (queueDrain q)).waitingCount = 0 :=
    (countP_isWaiting_keep hx hw rfl).trans hzero
  refine ⟨hen.trans he, rfl, ?_, ⟨s.queue.contents, ?_, ?_⟩, ?_, ?_, fun _ _ => ⟨hnil, hcount⟩⟩
  · intro u wresult c hmem
    cases List.mem_singleton.mp hmem
  · rw [← hc, ← hrefs]
    rfl
  · exact (List.append_nil _).symm.trans (congrArg (s.queue.contents ++ ·) hnil.symm)
  · rw [hcount]
    exact Nat.zero_le _
  · intro u hu
    exact Or.inl (waits_set hx rfl (fun h => absurd h (by rw [hw]; exact Bool.false_ne_true)) hu)

/-- A waiting thread of a disabled queue goes on: it releases what it takes, and fails. -/
theorem Shrinks.resume {waitInMs : Int32} {posted : Bool} {condResult : CondResult}
    (he : s.queue.enabled = false) (ht : s.threads[t]? = some (.waiting waitInMs posted))
    (hq : s'.queue = (queuePopResume s.queue condResult).queue)
    (hthreads : s'.threads = s.threads.set t .idle)
    (hrefs : s'.refs = s.refs ++ (queuePopResume s.queue condResult).refs)
    (hret : s'.returns = s.returns ++ [(t, .popped .failed none)]) :
    Shrinks s [(t, .popped .failed none)] s' := by
  obtain ⟨taken, q', hr, hcontents⟩ := queuePopResume_disabled he condResult
  have hen := (queuePopResume_queue s.queue condResult).1
  rw [hr] at hq hrefs hen
  have hcount : (s.threads.set t .idle).countP Thread.isWaiting + 1 =
      s.threads.countP Thread.isWaiting := countP_isWaiting_set ht
  refine ⟨by rw [hq, hen, he], hret, ?_, ⟨taken, hrefs, by rw [hq]; exact hcontents⟩, ?_, ?_, ?_⟩
  · intro u wresult c hmem
    cases List.mem_singleton.mp hmem
    exact ⟨rfl, rfl⟩
  · rw [waitingCount, hthreads]
    exact Nat.le_of_succ_le (Nat.le_of_eq hcount)
  · intro u hu
    by_cases htu : t = u
    · subst htu
      exact Or.inr (List.mem_singleton_self _)
    · refine Or.inl ?_
      rw [waits, hthreads, List.getElem?_set_ne htu]
      exact hu
  · intro u hmem
    cases List.mem_singleton.mp hmem

theorem Counted.waitingCount_eq_zero (h : Counted n s) (hfew : n < 2 ^ 32)
    (hb : s.queue.queuePopBlocked = 0) : s.waitingCount = 0 := by
  rw [← h.toNat_blocked hfew, hb]
  rfl

/-- The first stretch of `queue_disable`, on any queue. -/
theorem Counted.shrinks_disable (h : Counted n s) (hfew : n < 2 ^ 32) {woken : List Nat}
    (hstep : s.step t (.disable woken) = some s') : ∃ out, Shrinks s out s' := by
  cases stepped hstep with
  | disableWaits ht hw _ hp => exact ⟨[], .sleep ht hw hp rfl rfl rfl rfl⟩
  | disableReturns ht hw hb => exact ⟨_, .drain ht hw (h.waitingCount_eq_zero hfew hb) rfl rfl⟩

/-- Every step of a disabled queue. -/
theorem Counted.shrinks_step (h : Counted n s) (hfew : n < 2 ^ 32) (he : s.queue.enabled = false)
    (ha : a ≠ .enable) (hstep : s.step t a = some s') : ∃ out, Shrinks s out s' := by
  cases stepped hstep with
  | @popReturned waitInMs r ht hr =>
      rw [queuePopEnter_disabled he] at hr
      cases hr
      refine ⟨[(t, .popped .failed none)], .of_frame he rfl (List.append_nil _) rfl
        (countP_isWaiting_keep ht rfl rfl) (fun u hu => waits_set ht rfl nofun hu) ?_⟩
      intro u r hmem
      cases List.mem_singleton.mp hmem
      exact Or.inl rfl
  | popWaits _ hr =>
      rw [(queuePopEnter_waiting hr).1] at he
      cases he
  | @resumed waitInMs posted condResult ht _ =>
      obtain ⟨taken, q', hr, -⟩ := queuePopResume_disabled he condResult
      exact ⟨_, .resume he ht rfl rfl rfl (by rw [hr]; rfl)⟩
  | pushed _ he' _ =>
      rw [he'] at he
      cases he
  | refused ht _ =>
      refine ⟨[(t, .pushed none)], .of_frame he rfl (List.append_nil _) rfl rfl (fun u hu => hu) ?_⟩
      intro u r hmem
      cases List.mem_singleton.mp hmem
      exact Or.inr rfl
  | marked ht =>
      exact ⟨[], .of_frame he (List.append_nil _).symm rfl rfl (countP_isWaiting_keep ht rfl rfl)
        (fun u hu => waits_set ht rfl nofun hu) nofun⟩
  | disableWaits _ _ _ _ => exact h.shrinks_disable hfew hstep
  | disableReturns _ _ _ => exact h.shrinks_disable hfew hstep
  | retryWaits ht _ hp => exact ⟨[], .sleep ht rfl hp he rfl rfl rfl⟩
  | retryReturns ht hb => exact ⟨_, .drain ht rfl (h.waitingCount_eq_zero hfew hb) he rfl⟩
  | enabled _ => exact absurd rfl ha

theorem Counted.shrinks_run (h : Counted n s) (hfew : n < 2 ^ 32) (he : s.queue.enabled = false)
    (as : List (Nat × Action)) (hno : ∀ t, (t, .enable) ∉ as) (hrun : s.run as = some s') :
    ∃ out, Shrinks s out s' := by
  -- The invariant of the run: what has happened since `s` is a shrinking.
  have hinv : Counted n s' ∧ ∃ out, Shrinks s out s' := by
    refine Steps.run_invariant (fun v => Counted n v ∧ ∃ out, Shrinks s out v)
      (fun ta => ta.2 ≠ .enable) ?_ as ?_ ⟨h, [], .refl he⟩ hrun
    · rintro v ⟨t, a⟩ w ⟨hv, out, hout⟩ ha hstep
      obtain ⟨out', hout'⟩ := hv.shrinks_step hfew hout.disabled ha hstep
      exact ⟨hv.step hstep, out ++ out', hout.trans hout'⟩
    · rintro ⟨t, a⟩ hmem rfl
      exact hno t hmem
  exact hinv.2

theorem waits_of_count_zero (h : s.waitingCount = 0) (t : Nat) : s.waits t = false := by
  rw [waits]
  cases ht : s.threads[t]? with
  | none => rfl
  | some x =>
      have hx := List.countP_eq_zero.mp h x (List.mem_of_getElem? ht)
      exact Bool.eq_false_iff.mpr hx

/-! ## Progress -/

/-- A post that wakes every blocked thread. -/
theorem conditionPost_all (threads : List Thread) : ∃ woken threads',
    conditionPost threads woken = some threads' := by
  refine ⟨(List.range threads.length).filter fun i => threads[i]?.any Thread.isBlocked, _,
    if_pos ?_⟩
  rw [Bool.and_eq_true, Bool.or_eq_true]
  refine ⟨List.all_eq_true.mpr fun i hi => (List.mem_filter.mp hi).2, ?_⟩
  cases hb : threads.any Thread.isBlocked with
  | false => exact Or.inr rfl
  | true =>
      obtain ⟨x, hx, hxb⟩ := List.any_eq_true.mp hb
      obtain ⟨i, hi⟩ := List.getElem?_of_mem hx
      have hmem : i ∈ (List.range threads.length).filter fun i =>
          threads[i]?.any Thread.isBlocked := by
        refine List.mem_filter.mpr ⟨List.mem_range.mpr (List.getElem?_eq_some_iff.mp hi).1, ?_⟩
        rw [hi]
        exact hxb
      refine Or.inl ?_
      rw [Bool.not_eq_true', List.isEmpty_eq_false_iff]
      exact List.ne_nil_of_mem hmem

/-- A waiting thread can go on. -/
theorem step_resume {waitInMs : Int32} {posted : Bool}
    (ht : s.threads[t]? = some (.waiting waitInMs posted)) :
    ∃ s', s.step t (.resume .ok) = some s' ∧ s'.threads = s.threads.set t .idle := by
  refine ⟨{ s.popReturn t (queuePopResume s.queue .ok) with
    asserted := s.asserted && popAssertion s.queue .ok }, ?_, rfl⟩
  simp [step, ht, conditionWaitReturns]

/-- A thread that sleeps in `queue_disable` while others are inside a pop posts again, and one
of them leaves. -/
theorem Counted.wake (h : Counted n s) (hfew : n < 2 ^ 32) (ht : s.threads[t]? = some .asleep)
    {k : Nat} (hk : s.waitingCount = k + 1) :
    ∃ woken u s', s.run [(t, .retry woken), (u, .resume .ok)] = some s' ∧
      s'.threads[t]? = some .asleep ∧ s'.waitingCount = k := by
  have hb : s.queue.queuePopBlocked ≠ 0 := by
    intro hb
    rw [h.waitingCount_eq_zero hfew hb] at hk
    cases hk
  obtain ⟨woken, threads, hp⟩ := conditionPost_all (s.threads.set t .asleep)
  have hretry : s.step t (.retry woken) = some { s with threads } := by
    simp [SharedQueue.step, ht, disableLoop, hb, hp]
  have hcount : threads.countP Thread.isWaiting = k + 1 := by
    rw [countP_isWaiting_post hp, countP_isWaiting_keep ht rfl rfl]
    exact hk
  have hasleep : threads[t]? = some .asleep := by
    have hlt := (List.getElem?_eq_some_iff.mp ht).1
    rw [conditionPost_getElem? hp, List.getElem?_set_self hlt, Option.map_some]
    split <;> rfl
  obtain ⟨x, hx, hxw⟩ : ∃ x ∈ threads, x.isWaiting = true := by
    refine List.countP_pos_iff.mp ?_
    rw [hcount]
    exact Nat.succ_pos k
  obtain ⟨u, hu⟩ := List.getElem?_of_mem hx
  cases x with
  | idle => cases hxw
  | stopping => cases hxw
  | asleep => cases hxw
  | waiting waitInMs posted =>
      obtain ⟨v, hresume, hthreads⟩ := step_resume (s := { s with threads }) hu
      have hne : u ≠ t := by
        rintro rfl
        rw [hasleep] at hu
        cases hu
      refine ⟨woken, u, v, ?_, ?_, ?_⟩
      · simp [SharedQueue.run, Steps.run, hretry, hresume]
      · rw [hthreads, List.getElem?_set_ne hne, hasleep]
      · have hset : (threads.set u .idle).countP Thread.isWaiting + 1 =
            threads.countP Thread.isWaiting := countP_isWaiting_set hu
        rw [waitingCount, hthreads]
        exact Nat.succ.inj (hset.trans hcount)

/-- A thread that sleeps in `queue_disable` can be brought to its return. -/
theorem Counted.completes (hfew : n < 2 ^ 32) (k : Nat) : ∀ {s : SharedQueue}, Counted n s →
    s.threads[t]? = some .asleep → s.waitingCount = k →
    ∃ as s', (∀ u, (u, .enable) ∉ as) ∧ s.run as = some s' ∧
      s'.returns.getLast? = some (t, .disabled) := by
  induction k with
  | zero =>
      intro s h ht hk
      have hb : s.queue.queuePopBlocked = 0 := by
        rw [h.blocked, hk]
        rfl
      refine ⟨[(t, .retry [])], s.disableReturn t (queueDrain s.queue), by simp, ?_, ?_⟩
      · simp [SharedQueue.run, Steps.run, SharedQueue.step, ht, disableLoop, hb]
      · exact List.getLast?_concat
  | succ k ih =>
      intro s h ht hk
      obtain ⟨woken, u, v, hv, hasleep, hless⟩ := h.wake hfew ht hk
      obtain ⟨as, s', hno, hrun, hlast⟩ := ih (h.run _ hv) hasleep hless
      refine ⟨[(t, .retry woken), (u, .resume .ok)] ++ as, s', ?_, ?_, hlast⟩
      · intro w hw
        rcases List.mem_append.mp hw with hw | hw
        · simp at hw
        · exact hno w hw
      · exact (Steps.run_append _ as s).trans (Option.bind_eq_some_iff.mpr ⟨v, hv, hrun⟩)

end SharedQueue

/-- In every run `queue_pop_blocked` is the number of threads between its increment and its
decrement.  From the first stretch of a `queue_disable` on, until the next `queue_enable`:
every pop that returns has failed without a capture, and captures only leave the ring, each
with one release.  Once the `queue_disable` has returned, the ring is empty, no thread is
inside a pop, and every thread that was inside one has come back. -/
theorem queue_shutdown_clean {depth : UInt32} {q : QueueContext}
    (hcreate : queueCreate depth = some q) {n : Nat} (hfew : n < 2 ^ 32)
    {before : List (Nat × Action)} {s₁ : SharedQueue}
    (hbefore : (SharedQueue.fresh q n).run before = some s₁) :
    s₁.queue.queuePopBlocked.toNat = s₁.waitingCount ∧
    ∀ (d : Nat) (woken : List Nat) (after : List (Nat × Action)) (s : SharedQueue),
      s₁.run ((d, .disable woken) :: after) = some s → (∀ t, (t, .enable) ∉ after) →
      ∃ out, s.returns = s₁.returns ++ out ∧
        (∀ t wresult c, (t, .popped wresult c) ∈ out → wresult = .failed ∧ c = none) ∧
        (∃ taken : List CaptureHandle, s.refs = s₁.refs ++ taken.map .release ∧
          s₁.queue.contents = taken ++ s.queue.contents) ∧
        ((d, .disabled) ∈ out →
          s.queue.contents = [] ∧ s.queue.queuePopBlocked = 0 ∧ (∀ t, s.waits t = false) ∧
          (∀ t, s₁.waits t = true → (t, .popped .failed none) ∈ out) ∧
          s.refs = s₁.refs ++ s₁.queue.contents.map .release) := by
  have hq : q.queuePopBlocked = 0 := SharedQueue.queuePopBlocked_queueCreate hcreate
  have hcounted := (SharedQueue.Counted.fresh hq n).run before hbefore
  refine ⟨hcounted.toNat_blocked hfew, ?_⟩
  intro d woken after s hrun hno
  obtain ⟨s₂, hstep, hrest⟩ := Steps.run_cons hrun
  obtain ⟨out₁, h₁⟩ := hcounted.shrinks_disable hfew hstep
  obtain ⟨out₂, h₂⟩ := (hcounted.step hstep).shrinks_run hfew h₁.disabled after hno hrest
  have h := h₁.trans h₂
  have hend : SharedQueue.Counted n s := (hcounted.step hstep).run after hrest
  refine ⟨out₁ ++ out₂, h.returns, h.failed, h.released, ?_⟩
  intro hmem
  obtain ⟨hnil, hzero⟩ := h.closed d hmem
  have hnone : ∀ t, s.waits t = false := fun t => SharedQueue.waits_of_count_zero hzero t
  refine ⟨hnil, ?_, hnone, ?_, ?_⟩
  · rw [hend.blocked, hzero]
    rfl
  · intro t ht
    rcases h.left t ht with hw | hout
    · rw [hnone t] at hw
      cases hw
    · exact hout
  · obtain ⟨taken, hrefs, hcontents⟩ := h.released
    rw [hnil, List.append_nil] at hcontents
    rw [hrefs, hcontents]

/-- A waiting thread has been woken by a push when the queue is disabled.  It takes the
capture, releases it and fails. -/
theorem queue_shutdown_clean_woken : ∃ q s₁ s, queueCreate 2 = some q ∧
    (SharedQueue.fresh q 3).run
      [(1, .enable), (0, .pop (-1)), (2, .push ⟨7⟩ false [0])] = some s₁ ∧
    s₁.waits 0 = true ∧ s₁.queue.contents = [⟨7⟩] ∧
    s₁.run [(1, .disable []), (0, .resume .ok), (1, .retry []), (2, .push ⟨8⟩ false [])] = some s ∧
    s.queue.contents = [] ∧ s.queue.queuePopBlocked = 0 ∧
    (0, .popped .failed none) ∈ s.returns ∧ s.refs = s₁.refs ++ [.release ⟨7⟩] := by
  obtain ⟨q, hq⟩ : ∃ q, queueCreate 2 = some q := ⟨_, rfl⟩
  obtain ⟨s₁, h₁⟩ : ∃ s₁, (SharedQueue.fresh q 3).run
      [(1, .enable), (0, .pop (-1)), (2, .push ⟨7⟩ false [0])] = some s₁ := by
    rw [← Option.some.inj hq]
    exact ⟨_, rfl⟩
  have hs₁ : s₁.waits 0 = true ∧ s₁.queue.contents = [⟨7⟩] ∧ s₁.returns.length = 1 := by
    obtain rfl := Option.some.inj hq
    obtain rfl := Option.some.inj h₁
    exact ⟨rfl, rfl, rfl⟩
  obtain ⟨s, h⟩ : ∃ s, s₁.run
      [(1, .disable []), (0, .resume .ok), (1, .retry []), (2, .push ⟨8⟩ false [])] = some s := by
    obtain rfl := Option.some.inj hq
    obtain rfl := Option.some.inj h₁
    exact ⟨_, rfl⟩
  obtain ⟨out, hout, -, -, hclosed⟩ :=
    (queue_shutdown_clean hq (by decide) h₁).2 1 [] _ s h (by simp)
  have hmem : (1, .disabled) ∈ out := by
    have hdrop : out = s.returns.drop 1 := by
      rw [hout, ← hs₁.2.2, List.drop_left]
    rw [hdrop]
    obtain rfl := Option.some.inj hq
    obtain rfl := Option.some.inj h₁
    obtain rfl := Option.some.inj h
    exact List.mem_of_getElem? (i := 1) rfl
  obtain ⟨hnil, hb, -, hleft, hrefs⟩ := hclosed hmem
  refine ⟨q, s₁, s, hq, h₁, hs₁.1, hs₁.2.1, h, hnil, hb, ?_, ?_⟩
  · rw [hout]
    exact List.mem_append_right _ (hleft 0 hs₁.1)
  · rw [hrefs, hs₁.2.1]
    rfl

/-- From every state of a run in which a thread sleeps in `queue_disable`, the run can go on
so that its call returns. -/
theorem queue_shutdown_completes {depth : UInt32} {q : QueueContext}
    (hcreate : queueCreate depth = some q) {n : Nat} (hfew : n < 2 ^ 32)
    {before : List (Nat × Action)} {s : SharedQueue} {d : Nat}
    (hbefore : (SharedQueue.fresh q n).run before = some s)
    (hasleep : s.threads[d]? = some .asleep) :
    ∃ after s', (∀ t, (t, .enable) ∉ after) ∧ s.run after = some s' ∧
      s'.returns.getLast? = some (d, .disabled) := by
  have hq : q.queuePopBlocked = 0 := SharedQueue.queuePopBlocked_queueCreate hcreate
  exact ((SharedQueue.Counted.fresh hq n).run before hbefore).completes hfew _ hasleep rfl

end ZsaSdk
