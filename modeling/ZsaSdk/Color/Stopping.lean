import ZsaSdk.Color.Streaming

/-!
# The end of a stop

A thread in `Stop` waits for `m_mutex`, then, without it, for the transfers of the stream and for
the thread that calls the callback.  None of these waits is for ever, with one exception: a `Start`
whose first transfer cannot be submitted waits in `uvc_stream_stop` for transfers that nobody frees,
and keeps `m_mutex`.

`work` is how many steps the calls that are under way have left, the steps of the transfers of a
stream that is being closed among them.  `StreamOk` says of the transfers what is needed: in a
stream that `Start` has left, some have been submitted.  In a stream that `Start` is closing, none
has been (`Hangs`).
-/

namespace ZsaSdk

open StreamTransfers (TransfersOk RunsBefore SomeSubmitted NoneSubmitted Begun)

namespace ReaderSystem

variable {n : Nat} {s s' : ReaderSystem} {label : Label}

/-- A `Start` has submitted no transfer, and waits for all of them. -/
def Hangs (s : ReaderSystem) : Prop := s.starter = some .failed ∨ s.starter = some .closing

/-- `Start` submits the first transfer of its stream, and libusb refuses it. -/
def FirstSubmissionFails (s : ReaderSystem) (label : Label) : Prop :=
  label = .submit false ∧ s.starter = some .submitting ∧
    ∃ stream, s.stream = some stream ∧ stream.transfers.phase = .starting 0

/-! ## The transfers -/

/-- What holds of the transfers of a stream, depending on where `Start` is. -/
structure StreamOk (n : Nat) (starter : Option StartPhase) (t : StreamTransfers) : Prop where
  ok : TransfersOk n t
  runs : RunsBefore t
  submitting : starter = some .submitting → t.phase = .starting 0 ∨ SomeSubmitted t
  begun : starter = none → SomeSubmitted t ∧ ∀ k, t.phase ≠ .starting k
  hangs : starter = some .failed ∨ starter = some .closing → NoneSubmitted t

def StreamsOk (n : Nat) (s : ReaderSystem) : Prop :=
  ∀ stream, s.stream = some stream → StreamOk n s.starter stream.transfers

/-- Without a thread in `Start`, a stream that runs has been started. -/
theorem StreamOk.started {t : StreamTransfers} (h : StreamOk n none t)
    (hrunning : t.running = true) : t.phase = .started :=
  (h.runs.mp hrunning).resolve_left fun ⟨k, hk⟩ => (h.begun rfl).2 k hk

/-- Nothing else submits the transfers of a stream. -/
theorem StreamOk.step {starter : Option StartPhase} {t t' : StreamTransfers}
    {l : StreamTransfers.Label} (h : StreamOk n starter t) (hne : ∀ ok, l ≠ .submit ok)
    (hstep : t.step l = some t') : StreamOk n starter t' where
  ok := StreamTransfers.step_ok h.ok hstep
  runs := StreamTransfers.runsBefore_step h.runs hstep
  submitting hstarter :=
    (h.submitting hstarter).imp (StreamTransfers.starting_step hne hstep 0).mpr
      fun hsome => StreamTransfers.someSubmitted_step h.ok hsome hstep
  begun hstarter :=
    ⟨StreamTransfers.someSubmitted_step h.ok (h.begun hstarter).1 hstep,
      fun k hk => (h.begun hstarter).2 k ((StreamTransfers.starting_step hne hstep k).mp hk)⟩
  hangs hstarter := StreamTransfers.noneSubmitted_step (h.hangs hstarter) hstep

/-- The first transfer decides. -/
theorem StreamOk.submit {t t' : StreamTransfers} {ok : Bool} (h : StreamOk n (some .submitting) t)
    (hstep : t.step (.submit ok) = some t') :
    StreamOk n (some (if t.phase == StreamPhase.starting 0 && !ok then .failed else .submitting))
      t' := by
  have hok := StreamTransfers.step_ok h.ok hstep
  have hruns := StreamTransfers.runsBefore_step h.runs hstep
  cases StreamTransfers.step_effect hstep with
  | submitted i hphase =>
      refine ⟨hok, hruns, fun _ => .inr ⟨i, .submitted, ?_, by simp⟩, by simp, by simp⟩
      exact List.getElem?_set_self (h.ok.length.symm ▸ h.ok.next i hphase)
  | refused hphase =>
      have hall : ∀ (j : Nat) (x : UvcTransfer), t.transfers[j]? = some x → x = .allocated :=
        fun j x hx => (h.ok.starting 0 hphase j x hx).mpr (Nat.zero_le j)
      have hlength : 0 < t.transfers.length := h.ok.length.symm ▸ h.ok.next 0 hphase
      exact ⟨hok, hruns, by simp [hphase], by simp, fun _ => ⟨by simp, hall, by simp, hlength⟩⟩
  | partly i hphase hi =>
      have hsome : SomeSubmitted t :=
        (h.submitting rfl).resolve_left (by simp [hphase, hi])
      refine ⟨hok, hruns, fun _ => .inr ?_, by simp, by simp [hphase, hi]⟩
      exact StreamTransfers.someSubmitted_step h.ok hsome hstep
  | moved _ _ _ _ hlabel | freed _ _ _ hlabel => exact absurd rfl (hlabel ok)

/-- Other steps leave the transfers as they are. -/
theorem StreamsOk.keep (h : StreamsOk n s) (hstarter : s'.starter = s.starter)
    (hstream : ∀ stream', s'.stream = some stream' → ∃ stream, s.stream = some stream ∧
      stream'.transfers = stream.transfers) : StreamsOk n s' := by
  intro stream' hsome
  obtain ⟨stream, hold, heq⟩ := hstream stream' hsome
  rw [hstarter, heq]
  exact h stream hold

theorem StreamsOk.setCaller (h : StreamsOk n s) {stream : UvcStreamHandle}
    (hstream : s.stream = some stream) (caller : UserCaller) :
    StreamsOk n (s.setCaller stream caller) := by
  refine h.keep rfl fun stream' hsome => ⟨stream, hstream, ?_⟩
  obtain rfl := Option.some.inj hsome
  rfl

theorem stream_releaseAll {stream : UvcStreamHandle} (h : s.releaseAll.stream = some stream) :
    s.stream = some stream := by
  simp only [releaseAll] at h
  split at h
  · cases h
  · exact h

/-- `Init` is about the reader only. -/
theorem init_keeps (s : ReaderSystem) (o : UvcCameraReader.InitOutcome) :
    (s.init o).1.starter = s.starter ∧
      ∀ stream, (s.init o).1.stream = some stream → s.stream = some stream := by
  simp only [init]
  split
  · exact ⟨rfl, fun _ hsome => hsome⟩
  · split
    · exact ⟨rfl, fun _ hsome => stream_releaseAll hsome⟩
    · split
      · exact ⟨rfl, fun _ hsome => stream_releaseAll (stream_releaseAll hsome :)⟩
      · split
        · exact ⟨rfl, fun _ hsome => stream_releaseAll (stream_releaseAll hsome :)⟩
        · exact ⟨rfl, fun _ hsome => stream_releaseAll hsome⟩

/-- Handling a frame is about the reader only. -/
theorem handleFrame_keeps (s : ReaderSystem) (id : Nat) (delivers needsDecoder : Bool) :
    (s.handleFrame id delivers needsDecoder).starter = s.starter ∧
      (s.handleFrame id delivers needsDecoder).waiting = s.waiting ∧
      (s.handleFrame id delivers needsDecoder).stoppers = s.stoppers := by
  have hdecoder : s.takeDecoder.starter = s.starter ∧ s.takeDecoder.waiting = s.waiting ∧
      s.takeDecoder.stoppers = s.stoppers := by
    simp only [takeDecoder]
    split
    · exact ⟨rfl, rfl, rfl⟩
    · exact ⟨rfl, rfl, rfl⟩
  simp only [handleFrame]
  split
  · cases needsDecoder with
    | false => cases delivers <;> exact ⟨rfl, rfl, rfl⟩
    | true => cases delivers <;> exact hdecoder
  · exact ⟨rfl, rfl, rfl⟩

/-- What becomes of the stream and of the lock when a thread gets it. -/
theorem enter_cases (s : ReaderSystem) (c : ReaderCall) :
    ((s.enter n c).starter = some .submitting ∧
        (s.enter n c).stream = some ⟨s.serial, .initial n, .waiting⟩ ∧
        (s.enter n c).waiting = s.waiting ∧ (s.enter n c).stoppers = s.stoppers ∧
        s.stream = none ∧ c ≠ .stop) ∨
      ((s.enter n c).starter = s.starter ∧ (s.enter n c).stream = s.stream ∧
        (s.enter n c).waiting = s.waiting ∧ ((s.enter n c).stoppers = s.stoppers ∨
          c = .stop ∧ (s.enter n c).stoppers = s.stoppers ++ [.unlocked])) := by
  cases c with
  | start width height imageFormat callback o =>
      cases callback with
      | none => exact .inr ⟨rfl, rfl, rfl, .inl rfl⟩
      | some callback =>
          simp only [enter, start]
          split
          · exact .inr ⟨rfl, rfl, rfl, .inl rfl⟩
          next reader hr =>
            obtain ⟨-, ho, -⟩ := UvcCameraReader.start_opens hr
            simp only [Bool.and_eq_true, Option.isNone_iff_eq_none] at ho
            exact .inl ⟨rfl, rfl, rfl, rfl, ho.2, by simp⟩
  | stop =>
      simp only [enter, stop]
      split
      · exact .inr ⟨rfl, rfl, rfl, .inr ⟨trivial, rfl⟩⟩
      · exact .inr ⟨rfl, rfl, rfl, .inl rfl⟩

theorem starter_arrive (s : ReaderSystem) (c : ReaderCall) :
    (s.arrive c).starter = s.starter ∧ (s.arrive c).stream = s.stream ∧
      (s.arrive c).stoppers = s.stoppers ∧ s.waiting <+: (s.arrive c).waiting := by
  cases c with
  | start width height imageFormat callback o =>
      cases callback with
      | none => exact ⟨rfl, rfl, rfl, List.prefix_rfl⟩
      | some callback => exact ⟨rfl, rfl, rfl, List.prefix_append _ _⟩
  | stop => exact ⟨rfl, rfl, rfl, List.prefix_append _ _⟩

theorem streamsOk_step (hn : 0 < n) (h : StreamsOk n s) (hstep : s.step n label = some s') :
    StreamsOk n s' := by
  cases step_effect hstep with
  | init o =>
      obtain ⟨hstarter, hstream⟩ := init_keeps s o
      exact h.keep hstarter fun stream hsome => ⟨stream, hstream stream hsome, rfl⟩
  | call c =>
      obtain ⟨hstarter, hstream, -⟩ := starter_arrive s c
      exact h.keep hstarter fun stream hsome => ⟨stream, hstream.symm.trans hsome, rfl⟩
  | lock i c =>
      obtain ⟨hstarter, hstream, -⟩ | ⟨hstarter, hstream, -⟩ :=
        enter_cases (n := n) { s with waiting := s.waiting.eraseIdx i } c
      · intro stream hsome
        rw [hstream] at hsome
        obtain rfl := Option.some.inj hsome
        rw [hstarter]
        exact ⟨StreamTransfers.initial_ok hn, StreamTransfers.initial_runs n, fun _ => .inl rfl,
          by simp, by simp⟩
      · exact h.keep hstarter fun stream hsome => ⟨stream, hstream.symm.trans hsome, rfl⟩
  | submitted ok stream transfers hstarter hstream htransfers =>
      have hok := h stream hstream
      rw [hstarter] at hok
      intro stream' hsome
      obtain rfl := Option.some.inj hsome
      exact hok.submit htransfers
  | started stream hstarter hstream hphase =>
      have hok := h stream hstream
      intro stream' hsome
      obtain rfl := Option.some.inj (hstream.symm.trans hsome)
      refine ⟨hok.ok, hok.runs, by simp [ReaderSystem.started], fun _ => ⟨?_, by simp [hphase]⟩,
        by simp [ReaderSystem.started]⟩
      exact (hok.submitting hstarter).resolve_left (by simp [hphase])
  | closing stream transfers hstarter hstream htransfers =>
      have hok : StreamOk n s.starter transfers := (h stream hstream).step (by simp) htransfers
      intro stream' hsome
      obtain rfl := Option.some.inj hsome
      exact ⟨hok.ok, hok.runs, by simp, by simp, fun _ => hok.hangs (.inl hstarter)⟩
  | failed =>
      intro stream hsome
      cases hsome
  | transfer _ stream transfers hsubmit _ hstream htransfers =>
      intro stream' hsome
      obtain rfl := Option.some.inj hsome
      exact (h stream hstream).step hsubmit htransfers
  | nothingToStop => exact h.keep rfl fun stream hsome => ⟨stream, hsome, rfl⟩
  | stopping _ stream transfers _ hstream htransfers =>
      intro stream' hsome
      obtain rfl := Option.some.inj hsome
      exact (h stream hstream).step (by simp) htransfers
  | closed =>
      exact h.keep rfl fun stream hsome => ⟨stream, (Option.filter_eq_some_iff.mp hsome).1, rfl⟩
  | shutdown => exact h.keep rfl fun stream hsome => ⟨stream, stream_releaseAll hsome, rfl⟩
  | taken _ hstream => exact h.setCaller hstream .calling
  | entered delivers needsDecoder stream hstream =>
      refine h.keep (handleFrame_keeps s stream.id delivers needsDecoder).1 fun stream' hsome => ?_
      obtain rfl := Option.some.inj hsome
      exact ⟨stream, hstream, rfl⟩
  | left _ hstream => exact h.setCaller hstream .waiting
  | ended _ hstream => exact h.setCaller hstream .ended

theorem run_streamsOk {labels : List Label} (hn : 0 < n) (h : StreamsOk n s)
    (hrun : Steps.run (step n) s labels = some s') : StreamsOk n s' :=
  Steps.run_invariant (StreamsOk n) (fun _ => True)
    (fun _ _ _ hok _ hstep => streamsOk_step hn hok hstep) labels (fun _ _ => trivial) h hrun

theorem initial_streamsOk (n : Nat) : StreamsOk n initial := by
  intro stream hsome
  cases hsome

/-! ## A start that hangs -/

theorem Hangs.exists_phase (h : Hangs s) : ∃ phase, s.starter = some phase :=
  h.elim (fun hf => ⟨_, hf⟩) fun hc => ⟨_, hc⟩

/-- A `Start` that has submitted no transfer does not return. -/
theorem StreamsOk.not_closable (hs : StreamsOk n s) {stream : UvcStreamHandle}
    (hstarter : s.starter = some .closing) (hstream : s.stream = some stream) :
    closable stream ≠ true := by
  simp only [closable, Bool.and_eq_true, beq_iff_eq, ne_eq]
  rintro ⟨hstopped, -⟩
  exact ((hs stream hstream).hangs (.inr hstarter)).notStopped hstopped

/-- `Start` hangs from the moment at which its first transfer is refused. -/
theorem hangs_step (hs : StreamsOk n s) (hstep : s.step n label = some s') :
    ¬ Hangs s' ↔ ¬ Hangs s ∧ ¬ FirstSubmissionFails s label := by
  -- Most steps submit no transfer, and leave `Start` where it is.
  have hsame : (∀ ok, label ≠ .submit ok) → s'.starter = s.starter →
      (¬ Hangs s' ↔ ¬ Hangs s ∧ ¬ FirstSubmissionFails s label) := by
    intro hlabel hstarter
    rw [Hangs, hstarter]
    exact ⟨fun h => ⟨h, fun hfails => hlabel false hfails.1⟩, And.left⟩
  cases step_effect hstep with
  | init o => exact hsame (by simp) (init_keeps s o).1
  | call c => exact hsame (by simp) (starter_arrive s c).1
  | lock i c hfree =>
      simp only [mutexFree, Bool.and_eq_true, Option.isNone_iff_eq_none] at hfree
      obtain ⟨hstarter, -⟩ | ⟨hstarter, -⟩ :=
        enter_cases (n := n) { s with waiting := s.waiting.eraseIdx i } c
      · refine iff_of_true ?_ ⟨by simp [Hangs, hfree.1], by simp [FirstSubmissionFails]⟩
        rw [Hangs, hstarter]
        simp
      · exact hsame (by simp) hstarter
  | submitted ok stream _ hstarter hstream =>
      by_cases hfirst : stream.transfers.phase = .starting 0
      · cases ok with
        | true => simp [Hangs, FirstSubmissionFails, hstarter]
        | false => simp [Hangs, FirstSubmissionFails, hstarter, hstream, hfirst]
      · simp [Hangs, FirstSubmissionFails, hstarter, hstream, hfirst]
  | started _ hstarter => simp [Hangs, FirstSubmissionFails, hstarter, ReaderSystem.started]
  | closing _ _ hstarter => simp [Hangs, hstarter]
  | failed _ hstarter hstream hclosable =>
      exact absurd hclosable (hs.not_closable hstarter hstream)
  | entered delivers needsDecoder stream =>
      exact hsame (by simp) (handleFrame_keeps s stream.id delivers needsDecoder).1
  | transfer | nothingToStop | stopping | closed | shutdown | taken | left | ended =>
      exact hsame (by simp) rfl

/-- While `Start` hangs, nobody gets the lock. -/
theorem waiting_of_hangs (h : Hangs s) (hstep : s.step n label = some s') :
    s.waiting <+: s'.waiting := by
  obtain ⟨phase, hphase⟩ := h.exists_phase
  cases step_effect hstep with
  | init o hcall => exact absurd (.inr (.inl (by simp [hphase]))) hcall
  | call c => exact (starter_arrive s c).2.2.2
  | lock i c hfree => simp [mutexFree, hphase] at hfree
  | entered delivers needsDecoder stream =>
      exact (handleFrame_keeps s stream.id delivers needsDecoder).2.1.symm ▸ List.prefix_rfl
  | submitted | started | closing | failed | transfer | nothingToStop | stopping | closed
  | shutdown | taken | left | ended => exact List.prefix_rfl

/-! ## The steps that are left -/

/-- How many steps the thread of the stream has left, if no frame is taken. -/
def callerWork : UserCaller → Nat
  | .ended => 0
  | .waiting => 1
  | .inside => 2
  | .calling => 3

/-- How many steps `Start` has left, besides those of the transfers. -/
def startWork : StartPhase → Nat
  | .closing => 1
  | .submitting | .failed => 2

/-- The same for `Stop`. -/
def stopWork : StopPhase → Nat
  | .closing _ => 1
  | .unlocked => 2

/-- How many transfers are not submitted yet. -/
def submitsLeft (t : StreamTransfers) : Nat :=
  match t.phase with
  | .starting next => t.transfers.length - next
  | _ => 0

/-- How many steps the transfers have left until the stream is closed. -/
def transfersWork (t : StreamTransfers) : Nat :=
  submitsLeft t + if t.running then 4 * t.transfers.length + 3 else t.closingWork

def streamWork (stream : UvcStreamHandle) : Nat :=
  callerWork stream.caller + transfersWork stream.transfers

/-- How many steps a call has left that waits for the lock.  A `Start` may open a stream. -/
def callWork (n : Nat) : ReaderCall → Nat
  | .start .. => 5 * n + 7
  | .stop => 3

/-- The steps that are left until every call that is under way has returned. -/
def work (n : Nat) (s : ReaderSystem) : Nat :=
  (s.waiting.map (callWork n)).sum + s.starter.elim 0 startWork + (s.stoppers.map stopWork).sum +
    s.stream.elim 0 streamWork

/-- The steps of the calls that are under way, of the callback thread, and of libusb. -/
def Label.underWay : Label → Bool
  | .init _ | .call _ | .shutdown | .takeFrame => false
  | _ => true

/-- The same, without the transfers of a stream that still runs. -/
def completes (s : ReaderSystem) : Label → Bool
  | .transfer _ => s.stream.all fun stream => !stream.transfers.running
  | label => label.underWay

theorem submitsLeft_congr {t t' : StreamTransfers}
    (hphase : ∀ k, t'.phase = .starting k ↔ t.phase = .starting k)
    (hlength : t'.transfers.length = t.transfers.length) : submitsLeft t' = submitsLeft t := by
  cases ht : t.phase with
  | starting k => simp only [submitsLeft, ht, (hphase k).mpr ht, hlength]
  | started | cancelling | waiting | stopped =>
      have hnot : ∀ k, t'.phase ≠ .starting k := fun k hk => by
        have hk' := (hphase k).mp hk
        rw [ht] at hk'
        cases hk'
      cases ht' : t'.phase with
      | starting k => exact absurd ht' (hnot k)
      | started | cancelling | waiting | stopped => simp only [submitsLeft, ht, ht']

theorem transfersWork_submit {t t' : StreamTransfers} {starter : Option StartPhase} {ok : Bool}
    (h : StreamOk n starter t) (hstep : t.step (.submit ok) = some t') :
    transfersWork t' < transfersWork t := by
  have hlt : ∀ {i : Nat}, t.phase = .starting i → i < t.transfers.length :=
    fun hphase => h.ok.length.symm ▸ h.ok.next _ hphase
  have hrunning : ∀ {i : Nat}, t.phase = .starting i → t.running = true :=
    fun hphase => h.runs.mpr (.inl ⟨_, hphase⟩)
  cases StreamTransfers.step_effect hstep with
  | submitted i hphase =>
      have hi := hlt hphase
      simp only [transfersWork, submitsLeft, StreamTransfers.advance, StreamTransfers.setTransfer,
        List.length_set, hphase, hrunning hphase, if_true]
      split
      next heq =>
        split at heq
        · cases heq
          omega
        · cases heq
      · omega
  | refused hphase =>
      have hi := hlt hphase
      simp only [transfersWork, submitsLeft, hphase, hrunning hphase, if_true]
      omega
  | partly i hphase =>
      have hi := hlt hphase
      have hlength : (t.freeFrom i).transfers.length = t.transfers.length := by
        simp only [StreamTransfers.freeFrom, List.length_append, List.length_take,
          List.length_replicate]
        omega
      have hrunning' : (t.freeFrom i).running = true := hrunning hphase
      simp only [transfersWork, submitsLeft, hphase, hrunning', hrunning hphase, hlength, if_true]
      omega
  | moved _ _ _ _ hlabel | freed _ _ _ hlabel => exact absurd rfl (hlabel ok)

theorem transfersWork_stop {t t' : StreamTransfers} {starter : Option StartPhase}
    (h : StreamOk n starter t) (hstep : t.step .stop = some t') :
    transfersWork t' < transfersWork t := by
  have hwork := StreamTransfers.closingWork_stop hstep
  obtain ⟨hphase, rfl⟩ := StreamTransfers.stop_step hstep
  have hrunning : t.running = true := h.runs.mpr (.inr hphase)
  simp only [transfersWork, submitsLeft, hphase, hrunning, if_true, Bool.false_eq_true, if_false]
  omega

/-- A stream that runs may go on for ever; one that is being closed may not. -/
theorem transfersWork_step {t t' : StreamTransfers} {starter : Option StartPhase}
    {l : StreamTransfers.Label} (h : StreamOk n starter t) (hne : ∀ ok, l ≠ .submit ok)
    (hstop : l ≠ .stop) (hstep : t.step l = some t') :
    transfersWork t' + (if t.running then 0 else 1) ≤ transfersWork t := by
  have hlength : t'.transfers.length = t.transfers.length :=
    (StreamTransfers.step_ok h.ok hstep).length.trans h.ok.length.symm
  have hsubmits := submitsLeft_congr (StreamTransfers.starting_step hne hstep) hlength
  have hrunning := StreamTransfers.running_step hstop hstep
  cases hr : t.running with
  | true =>
      simp only [transfersWork, hsubmits, hrunning, hr, hlength, if_true]
      omega
  | false =>
      have hlt := (StreamTransfers.closingWork_step h.runs hr hstep).1
      simp only [transfersWork, hsubmits, hrunning, hr, Bool.false_eq_true, if_false]
      omega

/-- The lock goes to a thread that has waited for it. -/
theorem work_enter {i : Nat} {c : ReaderCall} (hc : s.waiting[i]? = some c)
    (hstarter : s.starter = none) :
    ({ s with waiting := s.waiting.eraseIdx i }.enter n c).work n < s.work n := by
  have hsum := Slots.sum_map_eraseIdx (callWork n) hc
  have hcases := enter_cases (n := n) { s with waiting := s.waiting.eraseIdx i } c
  generalize ({ s with waiting := s.waiting.eraseIdx i } : ReaderSystem).enter n c = v at hcases ⊢
  obtain ⟨hstarter', hstream', hwaiting', hstoppers', hnone, hne⟩ |
    ⟨hstarter', hstream', hwaiting', hstoppers'⟩ := hcases
  · have hcall : callWork n c = 5 * n + 7 := by
      cases c with
      | start => rfl
      | stop => exact absurd rfl hne
    have hinitial : streamWork ⟨s.serial, .initial n, .waiting⟩ = 5 * n + 4 := by
      simp only [streamWork, callerWork, transfersWork, submitsLeft, StreamTransfers.initial,
        List.length_replicate, if_true]
      omega
    simp only at hnone
    simp only [work, hstarter', hstream', hwaiting', hstoppers', hstarter, hnone, Option.elim,
      startWork, hinitial]
    omega
  · have hwork : (v.stoppers.map stopWork).sum <
        (s.stoppers.map stopWork).sum + callWork n c := by
      rcases hstoppers' with hsame | ⟨rfl, hnew⟩
      · rw [hsame]
        cases c with
        | start => exact Nat.lt_add_of_pos_right (Nat.succ_pos _)
        | stop => exact Nat.lt_add_of_pos_right (Nat.succ_pos _)
      · rw [hnew, List.map_append, List.sum_append]
        exact Nat.add_lt_add_left (Nat.lt_succ_self 2) _
    simp only [work, hstarter', hstream', hwaiting']
    omega

/-- No step that is under way makes more of them necessary, and all but those of the transfers of a
stream that runs lead closer to the end. -/
theorem work_step (hs : StreamsOk n s) (hlabel : label.underWay = true)
    (hstep : s.step n label = some s') :
    s'.work n + (if s.completes label then 1 else 0) ≤ s.work n := by
  cases step_effect hstep with
  | init | call | shutdown | taken => cases hlabel
  | lock i c hfree hc =>
      simp only [mutexFree, Bool.and_eq_true, Option.isNone_iff_eq_none] at hfree
      exact work_enter hc hfree.1
  | submitted ok stream transfers hstarter hstream htransfers =>
      have hlt := transfersWork_submit (hs stream hstream) htransfers
      have hsubmitting : startWork .submitting = 2 := rfl
      have hphase : startWork (if stream.transfers.phase == StreamPhase.starting 0 && !ok then
          .failed else .submitting) = 2 := by
        split <;> rfl
      simp only [work, completes, Label.underWay, hstarter, hstream, Option.elim, hphase,
        streamWork, hsubmitting, if_true]
      omega
  | started stream hstarter =>
      simp only [work, completes, Label.underWay, ReaderSystem.started, hstarter, Option.elim,
        startWork, if_true]
      omega
  | closing stream transfers hstarter hstream htransfers =>
      have hlt := transfersWork_stop (hs stream hstream) htransfers
      simp only [work, completes, Label.underWay, hstarter, hstream, Option.elim, streamWork,
        startWork, if_true]
      omega
  | failed _ hstarter hstream hclosable =>
      exact absurd hclosable (hs.not_closable hstarter hstream)
  | transfer l stream transfers hsubmit hstop hstream htransfers =>
      have hle := transfersWork_step (hs stream hstream) hsubmit hstop htransfers
      cases hr : stream.transfers.running with
      | true =>
          simp only [work, completes, hstream, Option.elim, streamWork, Option.all_some, hr,
            Bool.not_true, Bool.false_eq_true, if_false, if_true] at hle ⊢
          omega
      | false =>
          simp only [work, completes, hstream, Option.elim, streamWork, Option.all_some, hr,
            Bool.not_false, Bool.false_eq_true, if_false, if_true] at hle ⊢
          omega
  | nothingToStop i hi =>
      have hsum := Slots.sum_map_eraseIdx stopWork hi
      simp only [work, completes, Label.underWay, if_true, stopWork] at hsum ⊢
      omega
  | stopping i stream transfers hi hstream htransfers =>
      have hsum := Slots.sum_map_set stopWork (.closing stream.id) hi
      have hlt := transfersWork_stop (hs stream hstream) htransfers
      simp only [work, completes, Label.underWay, hstream, Option.elim, streamWork, if_true,
        stopWork] at hsum ⊢
      omega
  | closed i id hi =>
      have hsum := Slots.sum_map_eraseIdx stopWork hi
      have hle : (s.stream.filter fun stream => stream.id != id).elim 0 streamWork ≤
          s.stream.elim 0 streamWork := by
        cases s.stream with
        | none => exact Nat.le_refl 0
        | some stream =>
            rw [Option.filter_some]
            split
            · exact Nat.le_refl _
            · exact Nat.zero_le _
      simp only [work, completes, Label.underWay, dropStream, if_true, stopWork] at hsum ⊢
      omega
  | entered delivers needsDecoder stream hstream _ hcaller =>
      obtain ⟨hstarter, hwaiting, hstoppers⟩ :=
        handleFrame_keeps s stream.id delivers needsDecoder
      simp only [work, completes, Label.underWay, setCaller, hstarter, hwaiting, hstoppers,
        hstream, Option.elim, streamWork, hcaller, callerWork, if_true]
      omega
  | left stream hstream hcaller | ended stream hstream _ hcaller =>
      simp only [work, completes, Label.underWay, setCaller, hstream, Option.elim, streamWork,
        hcaller, callerWork, if_true]
      omega

/-! ## Progress -/

/-- The step of a stream is one of the reader. -/
theorem exists_stepTransfers {stream : UvcStreamHandle} {l : StreamTransfers.Label}
    (hstream : s.stream = some stream) (h : (stream.transfers.step l).isSome = true) :
    (s.stepTransfers l).isSome = true := by
  rw [stepTransfers, hstream, Option.bind_some, Option.isSome_map]
  exact h

/-- The lock goes to a thread that waits for it. -/
theorem exists_lock (hfree : s.mutexFree = true) (hwaiting : s.waiting ≠ []) :
    ∃ label, s.completes label = true ∧ (s.step n label).isSome = true := by
  obtain ⟨c, cs, hcs⟩ := List.exists_cons_of_ne_nil hwaiting
  exact ⟨.lock 0, rfl, by simp [step, hfree, hcs]⟩

/-- A thread that closes the stream of a session can go on, or another one can, for which it
waits. -/
theorem exists_closing {stream : UvcStreamHandle} {id : Nat} (hstarter : s.starter = none)
    (hstoppers : s.stoppers = [.closing id]) (hstream : s.stream = some stream)
    (hrunning : stream.transfers.running = false) (h : StreamOk n none stream.transfers) :
    ∃ label, s.completes label = true ∧ (s.step n label).isSome = true := by
  have hcompletes : ∀ l, s.completes (.transfer l) = true := fun l => by
    simp [completes, hstream, hrunning]
  obtain ⟨hsome, hstarting⟩ := h.begun rfl
  cases hphase : stream.transfers.phase with
  | starting k => exact absurd hphase (hstarting k)
  | started =>
      rw [h.runs.mpr (.inr hphase)] at hrunning
      cases hrunning
  | cancelling i =>
      refine ⟨.transfer (.cancel false), hcompletes _, ?_⟩
      refine exists_stepTransfers (l := .cancel false) hstream ?_
      simp only [StreamTransfers.step, hphase]
      split <;> rfl
  | waiting =>
      have hbegun : Begun n stream.transfers := ⟨h.ok, h.runs, hsome⟩
      obtain ⟨l, hl⟩ := hbegun.exists_step hphase
      refine ⟨.transfer l, hcompletes l, ?_⟩
      cases l with
      | submit ok => simp [StreamTransfers.step, hphase] at hl
      | stop => simp [StreamTransfers.step, hphase] at hl
      | complete i retry => exact exists_stepTransfers (l := .complete i retry) hstream hl
      | callback i => exact exists_stepTransfers (l := .callback i) hstream hl
      | resubmit i ok => exact exists_stepTransfers (l := .resubmit i ok) hstream hl
      | cancel fails => exact exists_stepTransfers (l := .cancel fails) hstream hl
      | wake => exact exists_stepTransfers (l := .wake) hstream hl
  | stopped =>
      cases hcaller : stream.caller with
      | waiting => exact ⟨.endCaller, rfl, by simp [step, hstream, hrunning, hcaller]⟩
      | calling =>
          exact ⟨.enterCallback false false, rfl, by simp [step, hstream, hstarter, hcaller]⟩
      | inside => exact ⟨.leaveCallback, rfl, by simp [step, hstream, hcaller]⟩
      | ended =>
          exact ⟨.closed 0, rfl, by simp [step, hstoppers, hstream, closable, hphase, hcaller]⟩

/-- As long as a call is under way, and no `Start` hangs, one of the threads can go on. -/
theorem exists_completing (h : ReaderOk s) (hs : StreamsOk n s) (hhangs : ¬ Hangs s)
    (hcall : s.InCall) : ∃ label, s.completes label = true ∧ (s.step n label).isSome = true := by
  cases h.phase with
  | idle _ starter stoppers stream =>
      have hwaiting : s.waiting ≠ [] := by simpa [InCall, starter, stoppers] using hcall
      exact exists_lock (by simp [mutexFree, starter, stream]) hwaiting
  | starting phase _ starter _ stream hstream _ _ _ _ runs =>
      obtain rfl : phase = .submitting := by
        cases phase with
        | submitting => rfl
        | failed => exact absurd (.inl starter) hhangs
        | closing => exact absurd (.inr starter) hhangs
      have hok := hs stream hstream
      obtain ⟨k, hk⟩ | hstarted := hok.runs.mp (runs (by simp)).running
      · refine ⟨.submit true, rfl, ?_⟩
        simp [step, starter, hstream, stepTransfers, StreamTransfers.step, hk]
      · exact ⟨.startReturns, rfl, by simp [step, starter, hstream, hstarted]⟩
  | streaming _ starter stoppers stream hstream =>
      have hwaiting : s.waiting ≠ [] := by simpa [InCall, starter, stoppers] using hcall
      by_cases hcaller : stream.caller = .inside
      · exact ⟨.leaveCallback, rfl, by simp [step, hstream, hcaller]⟩
      · exact exists_lock (by simp [mutexFree, starter, hstream, hcaller]) hwaiting
  | unlocked _ starter stoppers stream hstream _ _ runs =>
      have hok := hs stream hstream
      rw [starter] at hok
      have hstarted := hok.started runs.running
      refine ⟨.stopStreaming 0, rfl, ?_⟩
      simp [step, stoppers, hstream, stepTransfers, StreamTransfers.step, hstarted]
  | closing _ starter id stoppers stream hstream _ _ _ stopped =>
      have hok := hs stream hstream
      rw [starter] at hok
      exact exists_closing starter stoppers hstream stopped hok

/-! ## Main result -/

/-- `Stop` returns unless a `Start` hangs.

If libusb has never refused the first transfer of a stream, the steps of the calls that are under
way are bounded in number, whatever else libusb does, in whatever order; as long as a call has not
returned, one of these steps can be made; and when all have returned, a stream is open exactly if
the reader is streaming.  If libusb has refused the first transfer of a stream, the `Start` that
submitted it never returns, and no call that waits for the lock or comes later ever gets it. -/
theorem reader_stop_completes {labels : List Label} (hn : 0 < n)
    (h : Steps.run (step n) initial labels = some s) :
    (Steps.Along (step n) (fun s label => ¬ FirstSubmissionFails s label) initial labels →
      ∀ more t, (∀ label ∈ more, label.underWay = true) → Steps.run (step n) s more = some t →
        Steps.count (step n) completes s more + t.work n ≤ s.work n ∧
        (Steps.Along (step n) (fun s label => ¬ FirstSubmissionFails s label) s more →
          (t.InCall → ∃ label, t.completes label = true ∧ (t.step n label).isSome = true) ∧
          (¬ t.InCall → (t.stream ≠ none ↔ t.reader.streaming = true)))) ∧
    (¬ Steps.Along (step n) (fun s label => ¬ FirstSubmissionFails s label) initial labels →
      ∀ more t, Steps.run (step n) s more = some t →
        t.starter ≠ none ∧ t.stoppers = [] ∧ s.waiting <+: t.waiting) := by
  have hhangs : ∀ {v t : ReaderSystem} {more : List Label}, StreamsOk n v →
      Steps.run (step n) v more = some t →
        (¬ Hangs t ↔ ¬ Hangs v ∧
          Steps.Along (step n) (fun s label => ¬ FirstSubmissionFails s label) v more) :=
    fun hv hrun => Steps.run_iff_of_invariant (J := fun s => ¬ Hangs s)
      (fun _ _ _ hok hstep => streamsOk_step hn hok hstep)
      (fun _ _ _ hok hstep => hangs_step hok hstep) _ hv hrun
  have hok := run_ok h
  have hs := run_streamsOk hn (initial_streamsOk n) h
  have hinitial : ¬ Hangs initial := by simp [Hangs, initial]
  constructor
  · intro halong more t hmore hrun
    refine ⟨Steps.run_count_le (StreamsOk n) (fun label => label.underWay = true) completes
      (work n)
      (fun _ _ _ hv hlabel hstep => ⟨streamsOk_step hn hv hstep, work_step hv hlabel hstep⟩)
      more hmore hs hrun, fun halong' => ?_⟩
    have hs' : ¬ Hangs s := (hhangs (initial_streamsOk n) h).mpr ⟨hinitial, halong⟩
    have ht : ¬ Hangs t := (hhangs hs hrun).mpr ⟨hs', halong'⟩
    have htok : ReaderOk t := Steps.run_invariant ReaderOk (fun _ => True)
      (fun _ _ _ hok _ hstep => step_ok hok hstep) more (fun _ _ => trivial) hok hrun
    refine ⟨exists_completing htok (run_streamsOk hn hs hrun) ht, fun hcall => ?_⟩
    cases hstreaming : t.reader.streaming with
    | false => simp [(htok.phase.stream_eq_none hcall hstreaming).2.2.1]
    | true =>
        obtain ⟨stream, _, hstream, _⟩ := htok.phase.of_streaming hstreaming
        simp [hstream]
  · intro halong more t hrun
    have hs' : Hangs s := by
      by_contra hnot
      exact halong ((hhangs (initial_streamsOk n) h).mp hnot).2
    -- A start that hangs keeps the lock.
    have hkeeps := Steps.run_invariant
      (fun v => ReaderOk v ∧ StreamsOk n v ∧ Hangs v ∧ s.waiting <+: v.waiting) (fun _ => True)
      (fun v label v' hv _ hstep => ⟨step_ok hv.1 hstep, streamsOk_step hn hv.2.1 hstep,
        by_contra fun hnot => ((hangs_step hv.2.1 hstep).mp hnot).1 hv.2.2.1,
        hv.2.2.2.trans (waiting_of_hangs hv.2.2.1 hstep)⟩)
      more (fun _ _ => trivial) ⟨hok, hs, hs', List.prefix_rfl⟩ hrun
    obtain ⟨htok, -, ht, hwaiting⟩ := hkeeps
    obtain ⟨phase, hphase⟩ := ht.exists_phase
    obtain ⟨-, -, -, -, -, -, -, -, hstoppers⟩ := htok.phase.of_starter hphase
    exact ⟨by simp [hphase], hstoppers, hwaiting⟩

/-! ## Two runs

The first is that of `busyLabels`, with the end of `Stop`.  In the second, the first transfer is
refused while another thread waits in `Stop`. -/

def hangLabels : List Label :=
  [.init ⟨true, true, true⟩, .call (.start 1280 720 .colorNv12 (some 7) ⟨true, true⟩), .lock 0,
    .call .stop, .submit false]

theorem reader_stop_completes_busy :
    (∃ s t, Steps.run (step 2) initial busyLabels = some s ∧
      Steps.run (step 2) s stopLabels = some t ∧ s.work 2 = 16 ∧
      Steps.count (step 2) completes s stopLabels = 12 ∧ 12 + t.work 2 ≤ s.work 2) ∧
    ∃ s, Steps.run (step 2) initial hangLabels = some s ∧
      ∀ more t, Steps.run (step 2) s more = some t →
        t.starter ≠ none ∧ t.stoppers = [] ∧ [.stop] <+: t.waiting := by
  constructor
  · obtain ⟨s, t, hs, ht, hwork, hcount⟩ : ∃ s t,
        Steps.run (step 2) initial busyLabels = some s ∧
        Steps.run (step 2) s stopLabels = some t ∧ s.work 2 = 16 ∧
        Steps.count (step 2) completes s stopLabels = 12 := ⟨_, _, rfl, rfl, rfl, rfl⟩
    have hlabels : ∀ label ∈ busyLabels, label ≠ .submit false := by decide
    have hnot : ∀ label ∈ busyLabels, ∀ s : ReaderSystem, ¬ FirstSubmissionFails s label :=
      fun label hlabel _ hfails => hlabels label hlabel hfails.1
    have halong : Steps.Along (step 2) (fun s label => ¬ FirstSubmissionFails s label) initial
        busyLabels := Steps.Along.of_forall hnot
    have hle := ((reader_stop_completes Nat.two_pos hs).1 halong stopLabels t (by decide) ht).1
    exact ⟨s, t, hs, ht, hwork, hcount, hcount ▸ hle⟩
  · obtain ⟨s, hs, hwaiting⟩ : ∃ s, Steps.run (step 2) initial hangLabels = some s ∧
        s.waiting = [.stop] := ⟨_, rfl, rfl⟩
    have hfails : ¬ Steps.Along (step 2) (fun s label => ¬ FirstSubmissionFails s label) initial
        hangLabels := fun h =>
      ((((h.2 _ rfl).2 _ rfl).2 _ rfl).2 _ rfl).1 ⟨rfl, rfl, _, rfl, rfl⟩
    refine ⟨s, hs, fun more t hrun => ?_⟩
    have hkeeps := (reader_stop_completes Nat.two_pos hs).2 hfails more t hrun
    rwa [hwaiting] at hkeeps

end ReaderSystem

end ZsaSdk
