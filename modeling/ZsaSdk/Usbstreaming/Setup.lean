import ZsaSdk.Usbstreaming.Transfers

/-!
# Setting up a stream

The thread of a stream submits transfers until it has eight of them, or until one more would
not fit into the pool, and then goes on to serve them.  An iteration that succeeds adds a
transfer to the list, with a new image; the transfer is in flight, unless the submission failed
and it is not the first (`Filled`).

The pool counter starts at the size of one transfer and is compared with the limit before each
iteration, so that what is in flight stays below the limit.  But if the limit does not exceed
the size of one transfer there is no iteration at all.  Nothing has failed then, and the thread
serves a stream without a transfer.
-/

namespace ZsaSdk

namespace UsbStream

/-- The transfer counts once if it is in flight. -/
def inFlightOne : Option LibusbTransfer → Nat
  | some bulkTransfer => if bulkTransfer.inFlight then 1 else 0
  | none => 0

/-- The bytes of the transfer if it is in flight. -/
def inFlightLength : Option LibusbTransfer → Nat
  | some bulkTransfer => if bulkTransfer.inFlight then bulkTransfer.length else 0
  | none => 0

/-- The number of transfers in flight. -/
def inFlightCount (u : UsbStream) : Nat := Table.total inFlightOne u.transfers

/-- The total size of the transfers in flight. -/
def inFlightBytes (u : UsbStream) : Nat := Table.total inFlightLength u.transfers

end UsbStream

/-- What the set-up of a stream promises to the loop that serves it. -/
structure StreamThread.SetupPromise (t : StreamThread) : Prop where
  some_in_flight : 1 ≤ t.stream.inFlightCount
  at_most : t.stream.inFlightCount ≤ usbCmdMaxXfrCount
  /-- Each transfer in flight has an image of the size of the stream, and stands in the list. -/
  owned : ∀ b bulkTransfer, Table.lookup t.stream.transfers b = some bulkTransfer →
    bulkTransfer.inFlight = true → ∃ i d im, t.stream.InFlight i d b im ∧
      Table.lookup t.stream.images im = some t.stream.streamSize
  /-- No two of them share an image or an entry of the list. -/
  apart : ∀ i d b im i' d' b' im', t.stream.InFlight i d b im → t.stream.InFlight i' d' b' im' →
    b ≠ b' → i ≠ i' ∧ im ≠ im'
  pool : t.stream.inFlightBytes < t.maxXfrPool

namespace UsbStream

variable {u : UsbStream} {i j : Nat}

/-- The stream after an iteration that succeeds. -/
def withSubmission (u : UsbStream) (i : Nat) (submitted : Bool) : UsbStream :=
  { u.withTransfer i with
    transfers := u.transfers ++ [some ⟨some u.data.length, some u.images.length, u.streamSize,
      submitted, false⟩] }

/-- An iteration that succeeds leaves a transfer, submitted or not, and the first is submitted. -/
theorem setupTransfer_succeeded {o : SetupOutcome} {u' : UsbStream}
    (h : u.setupTransfer i o = (u', .succeeded)) :
    u' = u.withSubmission i o.submitOk ∧ (i = 0 → o.submitOk = true) := by
  simp only [setupTransfer] at h
  split at h
  · cases h
  split at h
  · cases h
  split at h
  · cases h
  split at h
  · cases h
  next hfirst =>
  refine ⟨?_, fun hi => ?_⟩
  · rw [← (Prod.mk.inj h).1]
    simp [withSubmission, withTransfer, setData, setTransfer]
  · cases hsubmit : o.submitOk with
    | true => rfl
    | false => exact absurd ⟨hsubmit, hi⟩ hfirst

/-- The first `i` entries of the list are filled, in order, and nothing else is allocated. -/
structure Filled (u : UsbStream) (i : Nat) : Prop where
  data_length : u.data.length = i
  transfers_length : u.transfers.length = i
  images_length : u.images.length = i
  list_length : u.transferList.length = usbCmdMaxXfrCount
  data : ∀ j, j < i → Table.lookup u.data j = some ⟨some j, some j, j⟩
  transfers : ∀ j, j < i → ∃ submitted,
    Table.lookup u.transfers j = some ⟨some j, some j, u.streamSize, submitted, false⟩
  images : ∀ j, j < i → Table.lookup u.images j = some u.streamSize
  listed : ∀ j, j < i → u.transferList[j]? = some (some j)
  count_le : u.inFlightCount ≤ i
  count_pos : 0 < i → 1 ≤ u.inFlightCount
  bytes : u.inFlightBytes = u.inFlightCount * u.streamSize

theorem Filled.withSubmission (h : Filled u i) (hi : i < usbCmdMaxXfrCount) {submitted : Bool}
    (hfirst : i = 0 → submitted = true) : Filled (u.withSubmission i submitted) (i + 1) := by
  have hcount : (u.withSubmission i submitted).inFlightCount =
      (if submitted then 1 else 0) + u.inFlightCount := Table.total_append _ _ _
  have hbytes : (u.withSubmission i submitted).inFlightBytes =
      (if submitted then u.streamSize else 0) + u.inFlightBytes := Table.total_append _ _ _
  have hsize : (u.withSubmission i submitted).streamSize = u.streamSize := rfl
  refine ⟨?_, ?_, ?_, ?_, ?_, ?_, ?_, ?_, ?_, ?_, ?_⟩
  · exact List.length_append.trans (congrArg (· + 1) h.data_length)
  · exact List.length_append.trans (congrArg (· + 1) h.transfers_length)
  · exact List.length_append.trans (congrArg (· + 1) h.images_length)
  · exact List.length_set.trans h.list_length
  · intro j hj
    obtain ⟨y, hy, rfl⟩ := Table.lookup_append_of_lt (P := fun j y => y = ⟨some j, some j, j⟩)
      (x := ⟨some u.transfers.length, some u.images.length, i⟩) h.data_length
      (fun j hj => ⟨_, h.data j hj, rfl⟩) (by rw [h.transfers_length, h.images_length]) hj
    exact hy
  · intro j hj
    obtain ⟨y, hy, b, rfl⟩ := Table.lookup_append_of_lt
      (P := fun j y => ∃ b, y = ⟨some j, some j, u.streamSize, b, false⟩)
      (x := ⟨some u.data.length, some u.images.length, u.streamSize, submitted, false⟩)
      h.transfers_length (fun j hj => (h.transfers j hj).elim fun b hb => ⟨_, hb, b, rfl⟩)
      ⟨submitted, by rw [h.data_length, h.images_length]⟩ hj
    exact ⟨b, hy⟩
  · intro j hj
    obtain ⟨y, hy, rfl⟩ := Table.lookup_append_of_lt (P := fun _ y => y = u.streamSize)
      (x := u.streamSize) h.images_length (fun j hj => ⟨_, h.images j hj, rfl⟩) rfl hj
    exact hy
  · intro j hj
    show (u.transferList.set i (some u.data.length))[j]? = some (some j)
    by_cases hji : j = i
    · rw [hji, List.getElem?_set_self (by rw [h.list_length]; exact hi), h.data_length]
    · rw [List.getElem?_set_ne (Ne.symm hji)]
      exact h.listed j (by omega)
  · have hle := h.count_le
    rw [hcount]
    split
    · omega
    · omega
  · intro _
    rw [hcount]
    cases submitted with
    | true => exact Nat.le_add_right 1 _
    | false =>
        have hpos : 0 < i := Nat.pos_of_ne_zero fun h0 => Bool.false_ne_true (hfirst h0)
        have hone := h.count_pos hpos
        omega
  · rw [hcount, hbytes, hsize, h.bytes, Nat.add_mul]
    cases submitted with
    | true => rw [if_pos rfl, if_pos rfl, Nat.one_mul]
    | false => rw [if_neg Bool.false_ne_true, if_neg Bool.false_ne_true, Nat.zero_mul]

/-- The flag does not matter. -/
theorem Filled.clearFlag (h : Filled u i) : Filled { u with streamGoing := false } i :=
  ⟨h.data_length, h.transfers_length, h.images_length, h.list_length, h.data, h.transfers,
    h.images, h.listed, h.count_le, h.count_pos, h.bytes⟩

end UsbStream

namespace StreamThread

variable {streamSize maxXfrPool : Nat} {t t' : StreamThread} {i xferPool : Nat}

/-- In the set-up loop: the pool counter is one transfer ahead of the list, and the list was
within the limit before the last iteration. -/
structure SettingUp (streamSize maxXfrPool : Nat) (t : StreamThread) (i xferPool : Nat) :
    Prop where
  size : t.stream.streamSize = streamSize
  limit : t.maxXfrPool = maxXfrPool
  filled : t.stream.Filled i
  le : i ≤ usbCmdMaxXfrCount
  counter : xferPool = (i + 1) * t.stream.streamSize
  within : 0 < i → i * t.stream.streamSize < t.maxXfrPool
  result : t.result = .succeeded

/-- Wherever the thread is in the set-up loop, the invariant of the loop holds. -/
def SetupOk (streamSize maxXfrPool : Nat) (t : StreamThread) : Prop :=
  ∀ i xferPool, t.phase = .setup i xferPool → SettingUp streamSize maxXfrPool t i xferPool

theorem setupOk_start (streamSize maxXfrPool : Nat) (callback : Bool) :
    SetupOk streamSize maxXfrPool (start streamSize maxXfrPool callback) := by
  intro i xferPool hphase
  simp only [start] at hphase ⊢
  split at hphase
  · simp only [leaveSetup] at hphase
    cases hphase
  next hsize =>
  rw [if_neg hsize]
  cases hphase
  have hempty : ∀ {P : Nat → Prop} (j : Nat), j < 0 → P j :=
    fun j hj => absurd hj (Nat.not_lt_zero j)
  have hpos : ∀ {P : Prop}, 0 < 0 → P := fun h => absurd h (Nat.lt_irrefl 0)
  refine ⟨rfl, rfl, ⟨rfl, rfl, rfl, List.length_replicate, hempty, hempty, hempty, hempty,
    Nat.le_refl 0, hpos, ?_⟩, Nat.zero_le _, ?_, hpos, rfl⟩
  · exact (Nat.zero_mul _).symm
  · exact (Nat.one_mul _).symm

/-- An iteration of the loop. -/
theorem SettingUp.setup (h : SettingUp streamSize maxXfrPool t i xferPool)
    (hcond : t.setupCondition i xferPool = true) {o : SetupOutcome} {u : UsbStream}
    (hset : t.stream.setupTransfer i o = (u, .succeeded)) :
    SettingUp streamSize maxXfrPool
      { t with stream := u, phase := .setup (i + 1) (xferPool + u.streamSize) } (i + 1)
      (xferPool + u.streamSize) := by
  obtain ⟨rfl, hfirst⟩ := UsbStream.setupTransfer_succeeded hset
  simp only [setupCondition, Bool.and_eq_true, decide_eq_true_eq] at hcond
  have hsize : (t.stream.withSubmission i o.submitOk).streamSize = t.stream.streamSize := rfl
  refine ⟨h.size, h.limit, h.filled.withSubmission hcond.1 hfirst, hcond.1, ?_, fun _ => ?_,
    h.result⟩
  · rw [h.counter, hsize, Nat.add_mul (i + 1) 1, Nat.one_mul]
  · show (i + 1) * t.stream.streamSize < t.maxXfrPool
    rw [← h.counter]
    exact hcond.2

theorem leaveSetup_phase_ne (t : StreamThread) (j p : Nat) : t.leaveSetup.phase ≠ .setup j p := by
  show (if t.result = .succeeded then Phase.serving else Phase.cancel 0) ≠ .setup j p
  split <;> nofun

/-- How an iteration ends: with one transfer more, or with a failure outside of the loop. -/
theorem step_setup {o : SetupOutcome} (hstep : t.step (.setup o) = some t') :
    ∃ i xferPool, t.phase = .setup i xferPool ∧ t.setupCondition i xferPool = true ∧
      ((∃ u, t.stream.setupTransfer i o = (u, .succeeded) ∧
        t' = { t with stream := u, phase := .setup (i + 1) (xferPool + u.streamSize) }) ∨
      ∃ u, t' = { t with stream := u, result := .failed }.leaveSetup) := by
  simp only [StreamThread.step] at hstep
  split at hstep
  · next i xferPool hphase =>
    split at hstep
    · next hcond =>
      split at hstep
      · next u hset =>
        exact ⟨i, xferPool, hphase, hcond, .inl ⟨u, hset, (Option.some.inj hstep).symm⟩⟩
      · next u _ => exact ⟨i, xferPool, hphase, hcond, .inr ⟨u, (Option.some.inj hstep).symm⟩⟩
    · cases hstep
  · cases hstep

/-- A callback does not change the phase. -/
theorem phase_of_completion {b : Nat} {c : Completion}
    (hstep : t.step (.completion b c) = some t') :
    t'.phase = t.phase ∧ ∀ j p, t.phase ≠ .setup j p := by
  simp only [StreamThread.step] at hstep
  split at hstep
  · next hphase =>
    obtain ⟨bulkTransfer, -, hstep⟩ := Option.bind_eq_some_iff.mp hstep
    split at hstep
    · obtain ⟨u, -, rfl⟩ := Option.map_eq_some_iff.mp hstep
      refine ⟨rfl, fun j p hp => ?_⟩
      cases hphase.symm.trans hp
    · cases hstep
  · next n hphase =>
    obtain ⟨bulkTransfer, -, hstep⟩ := Option.bind_eq_some_iff.mp hstep
    split at hstep
    · obtain ⟨u, -, rfl⟩ := Option.map_eq_some_iff.mp hstep
      refine ⟨rfl, fun j p hp => ?_⟩
      cases hphase.symm.trans hp
    · cases hstep
  · cases hstep

/-- A cancellation leads to a later phase. -/
theorem phase_of_cancel (hstep : t.step .cancel = some t') (j p : Nat) :
    t'.phase ≠ .setup j p := by
  simp only [StreamThread.step] at hstep
  split at hstep
  · split at hstep
    · split at hstep
      · obtain ⟨b, -, hstep⟩ := Option.bind_eq_some_iff.mp hstep
        obtain ⟨u, -, rfl⟩ := Option.map_eq_some_iff.mp hstep
        rintro ⟨⟩
      · obtain rfl := Option.some.inj hstep
        rintro ⟨⟩
    · obtain rfl := Option.some.inj hstep
      rintro ⟨⟩
  · cases hstep

/-- The loop is entered at the start only: a step ends in it if it is an iteration, or if it
leaves the phase alone. -/
theorem step_to_setup {a : StreamStep} (hstep : t.step a = some t') (ha : ∀ o, a ≠ .setup o)
    (hstop : a ≠ .stop) (j p : Nat) : t'.phase ≠ .setup j p := by
  cases a with
  | setup o => exact absurd rfl (ha o)
  | stop => exact absurd rfl hstop
  | setupDone =>
      simp only [StreamThread.step] at hstep
      split at hstep
      · split at hstep
        · cases hstep
        · obtain rfl := Option.some.inj hstep
          exact leaveSetup_phase_ne t j p
      · cases hstep
  | test =>
      simp only [StreamThread.step] at hstep
      split at hstep
      · obtain rfl := Option.some.inj hstep
        show (if t.stream.streamGoing then Phase.handling else Phase.cancel 0) ≠ .setup j p
        split
        · rintro ⟨⟩
        · rintro ⟨⟩
      · cases hstep
  | completion b c =>
      obtain ⟨hsame, hne⟩ := phase_of_completion hstep
      rw [hsame]
      exact hne j p
  | handled err =>
      simp only [StreamThread.step] at hstep
      split at hstep
      · obtain rfl := Option.some.inj hstep
        rintro ⟨⟩
      · obtain rfl := Option.some.inj hstep
        rintro ⟨⟩
      · cases hstep
  | cancel => exact phase_of_cancel hstep j p

theorem SetupOk.step (h : SetupOk streamSize maxXfrPool t) {a : StreamStep}
    (hstep : t.step a = some t') : SetupOk streamSize maxXfrPool t' := by
  intro j p hphase'
  cases a with
  | setup o =>
      obtain ⟨i, xferPool, hphase, hcond, ⟨u, hset, rfl⟩ | ⟨u, rfl⟩⟩ := step_setup hstep
      · obtain ⟨rfl, rfl⟩ := Phase.setup.inj hphase'
        exact (h i xferPool hphase).setup hcond hset
      · exact absurd hphase' (leaveSetup_phase_ne _ j p)
  | stop =>
      obtain rfl := Option.some.inj hstep
      obtain ⟨hsize, hlimit, hfilled, hle, hcounter, hwithin, hresult⟩ := h j p hphase'
      exact ⟨hsize, hlimit, hfilled.clearFlag, hle, hcounter, hwithin, hresult⟩
  | setupDone | test | completion b c | handled err | cancel =>
      exact absurd hphase' (step_to_setup hstep nofun nofun j p)

/-- The servicing loop is entered from the set-up loop when its condition is false. -/
theorem step_enters_serving (hphase : t.phase = .setup i xferPool) {a : StreamStep}
    (hstep : t.step a = some t') (hserving : t'.phase = .serving) :
    t.setupCondition i xferPool = false ∧ t' = t.leaveSetup := by
  cases a with
  | setup o =>
      obtain ⟨_, _, -, -, ⟨u, -, rfl⟩ | ⟨u, rfl⟩⟩ := step_setup hstep
      · cases hserving
      · cases hserving
  | setupDone =>
      simp only [StreamThread.step, hphase] at hstep
      split at hstep
      · cases hstep
      · next hcond => exact ⟨Bool.not_eq_true _ ▸ hcond, (Option.some.inj hstep).symm⟩
  | stop =>
      obtain rfl := Option.some.inj hstep
      cases hphase.symm.trans hserving
  | test => simp only [StreamThread.step, hphase, reduceCtorEq] at hstep
  | completion b c => simp only [StreamThread.step, hphase, reduceCtorEq] at hstep
  | handled err => simp only [StreamThread.step, hphase, reduceCtorEq] at hstep
  | cancel => simp only [StreamThread.step, hphase, reduceCtorEq] at hstep

/-- A list with at least one entry keeps the promise. -/
theorem SettingUp.promise (h : SettingUp streamSize maxXfrPool t i xferPool) (hpos : 0 < i) :
    SetupPromise t.leaveSetup := by
  -- Everything about a transfer in flight has the same index.
  have hindex : ∀ {j d b im}, t.stream.InFlight j d b im → j = d ∧ b = d ∧ im = d := by
    intro j d b im hin
    have hlt : d < i := h.filled.data_length ▸ Table.lt_of_lookup hin.data
    have heq := TransferData.mk.inj (Option.some.inj (hin.data.symm.trans (h.filled.data d hlt)))
    exact ⟨heq.2.2, Option.some.inj heq.1, Option.some.inj heq.2.1⟩
  refine ⟨h.filled.count_pos hpos, Nat.le_trans h.filled.count_le h.le, ?_, ?_, ?_⟩
  · intro b bulkTransfer hb hflight
    have hlt : b < i := h.filled.transfers_length ▸ Table.lt_of_lookup hb
    obtain ⟨submitted, hb'⟩ := h.filled.transfers b hlt
    obtain rfl := Option.some.inj (hb.symm.trans hb')
    obtain rfl : submitted = true := hflight
    exact ⟨b, b, b, ⟨h.filled.data b hlt, ⟨_, _, hb'⟩, ⟨_, h.filled.images b hlt⟩,
      h.filled.listed b hlt⟩, h.filled.images b hlt⟩
  · intro j d b im j' d' b' im' hin hin' hne
    obtain ⟨rfl, rfl, rfl⟩ := hindex hin
    obtain ⟨rfl, rfl, rfl⟩ := hindex hin'
    exact ⟨hne, hne⟩
  · show t.stream.inFlightBytes < t.maxXfrPool
    rw [h.filled.bytes]
    exact Nat.lt_of_le_of_lt (Nat.mul_le_mul_right _ h.filled.count_le) (h.within hpos)

/-- With room for one transfer, the loop runs at least once. -/
theorem SettingUp.pos (h : SettingUp streamSize maxXfrPool t i xferPool)
    (hcond : t.setupCondition i xferPool = false) (hroom : streamSize < maxXfrPool) : 0 < i := by
  refine Nat.pos_of_ne_zero fun h0 => ?_
  have hcounter := h.counter
  rw [h0, Nat.zero_add, Nat.one_mul, h.size] at hcounter
  simp [setupCondition, h0, hcounter, h.limit, hroom, usbCmdMaxXfrCount] at hcond

end StreamThread

/-- Whenever the thread enters the loop that serves a stream, the set-up has kept its promise,
precisely if the pool has room for more than one transfer's size. -/
theorem setup_promise_iff {streamSize : Nat} (hsize : 1 ≤ streamSize ∧ streamSize ≤ int32Max)
    (maxXfrPool : Nat) (callback : Bool) :
    (∀ steps t i xferPool a t', (StreamThread.start streamSize maxXfrPool callback).run steps =
        some t → t.phase = .setup i xferPool → t.step a = some t' → t'.phase = .serving →
      t'.SetupPromise) ↔ streamSize < maxXfrPool := by
  have hstart : StreamThread.start streamSize maxXfrPool callback =
      { stream := ⟨true, streamSize, callback, List.replicate usbCmdMaxXfrCount none, [], [], [],
          []⟩
        maxXfrPool
        phase := .setup 0 streamSize
        result := .succeeded } := by
    rw [StreamThread.start, if_neg (Nat.not_lt.mpr hsize.2)]
  constructor
  · intro h
    by_contra hroom
    -- The loop is left before the first iteration.
    have hdone : (StreamThread.start streamSize maxXfrPool callback).step .setupDone =
        some (StreamThread.start streamSize maxXfrPool callback).leaveSetup := by
      rw [hstart]
      simp [StreamThread.step, StreamThread.setupCondition, hroom]
    have hpromise := h [] _ 0 streamSize .setupDone _ rfl (by rw [hstart]) hdone
      (by rw [hstart]; rfl)
    have hnone : (StreamThread.start streamSize maxXfrPool
        callback).leaveSetup.stream.inFlightCount = 0 := by
      rw [hstart]
      rfl
    have hone := hpromise.some_in_flight
    omega
  · intro hroom steps t i xferPool a t' hrun hphase hstep hserving
    have hok := Steps.run_invariant (StreamThread.SetupOk streamSize maxXfrPool) (fun _ => True)
      (fun _ _ _ h _ hstep => h.step hstep) steps (fun _ _ => trivial)
      (StreamThread.setupOk_start streamSize maxXfrPool callback) hrun
    have hsetting := hok i xferPool hphase
    obtain ⟨hcond, rfl⟩ := StreamThread.step_enters_serving hphase hstep hserving
    exact hsetting.promise (hsetting.pos hcond hroom)

/-- Three megabytes at a time, with the default pool. -/
theorem setup_promise_default_pool :
    1 ≤ 3000000 ∧ 3000000 ≤ int32Max ∧
    ∀ steps t i xferPool a t', (StreamThread.start 3000000 usbCmdMaxXfrPool true).run steps =
        some t → t.phase = .setup i xferPool → t.step a = some t' → t'.phase = .serving →
      t'.SetupPromise :=
  ⟨by decide, by decide, (setup_promise_iff ⟨by decide, by decide⟩ usbCmdMaxXfrPool true).mpr
    (by decide)⟩

/-- A stream of ten megabytes at a time is served without a transfer. -/
theorem oversized_stream_serves_nothing :
    (StreamThread.start 10000000 usbCmdMaxXfrPool true).phase = .setup 0 10000000 ∧
    ∃ t', (StreamThread.start 10000000 usbCmdMaxXfrPool true).step .setupDone = some t' ∧
      t'.phase = .serving ∧ t'.result = .succeeded ∧ t'.stream.inFlightCount = 0 ∧
      ¬ t'.SetupPromise := by
  refine ⟨rfl, _, rfl, rfl, rfl, rfl, fun h => ?_⟩
  exact absurd h.some_in_flight (by decide)

end ZsaSdk
