import Mathlib.Data.List.Nodup
import ZsaSdk.Lib.Slots
import ZsaSdk.Lib.Steps

/-!
# Transfers of a video stream

How `uvc_stream_start` submits the transfers of a stream, how `_uvc_stream_callback` submits them
again or frees them, and how `uvc_stream_stop` cancels them and waits until all are freed.  There
are `LIBUVC_NUM_TRANSFER_BUFS` of them; here the number is a parameter.

*libusb.*  A transfer that has been submitted ends some time, and then its callback is called.
A transfer that libusb does not have cannot be cancelled: the answer is `LIBUSB_ERROR_NOT_FOUND`.
A transfer that it has may fail to be cancelled for another reason; then `uvc_stream_stop` frees it
at once.

*Lock.*  `cb_mutex` is held from the first cancellation until `uvc_stream_stop` waits, and whenever
the callback frees a transfer.

*The thread of the frame callback.*  When the transfers are freed, `uvc_stream_stop` joins the
thread that calls the frame callback.  This is not part of the model; the phase `stopped` is the end
of the wait for the transfers.

`frees` records the transfers that have been freed; the code does not read it.
-/

namespace ZsaSdk

/-- Where a transfer is. -/
inductive UvcTransfer where
  /-- It has not been submitted. -/
  | allocated
  /-- libusb has it. -/
  | submitted
  /-- It has ended, with a status that the callback tries again or not. -/
  | due (retry : Bool)
  /-- The callback has found the stream running, and submits the transfer again. -/
  | resubmitting
  | freed
  /-- It was freed while libusb had it, so the callback will be called with it. -/
  | freedInUse
deriving DecidableEq, Repr

/-- The entry of `strmh->transfers` is null. -/
def UvcTransfer.isNull : UvcTransfer → Bool
  | .freed | .freedInUse => true
  | _ => false

/-- Where `uvc_stream_start` and `uvc_stream_stop` are. -/
inductive StreamPhase where
  /-- `uvc_stream_start` submits the transfer `next`. -/
  | starting (next : Nat)
  | started
  /-- `uvc_stream_stop` cancels the transfer `next`. -/
  | cancelling (next : Nat)
  /-- `uvc_stream_stop` waits until all transfers are freed. -/
  | waiting
  | stopped
deriving DecidableEq, Repr

/-- The transfers of a stream. -/
structure StreamTransfers where
  transfers : List UvcTransfer
  running : Bool
  phase : StreamPhase
  frees : List Nat
deriving DecidableEq, Repr

namespace StreamTransfers

/-- A stream whose transfers have been allocated. -/
def initial (n : Nat) : StreamTransfers := ⟨List.replicate n .allocated, true, .starting 0, []⟩

/-- A step of the thread that starts or stops the stream, of libusb, or of the callback. -/
inductive Label where
  | submit (ok : Bool)
  /-- A transfer ends. -/
  | complete (i : Nat) (retry : Bool)
  /-- The callback, up to the submission or to its end. -/
  | callback (i : Nat)
  | resubmit (i : Nat) (ok : Bool)
  | stop
  /-- libusb is asked to cancel the next transfer, and fails if it has it. -/
  | cancel (fails : Bool)
  /-- `uvc_stream_stop` finds that all transfers are freed. -/
  | wake
deriving DecidableEq, Repr

/-- `cb_mutex` is free. -/
def mutexFree (s : StreamTransfers) : Bool :=
  match s.phase with
  | .cancelling _ => false
  | _ => true

def setTransfer (s : StreamTransfers) (i : Nat) (x : UvcTransfer) : StreamTransfers :=
  { s with transfers := s.transfers.set i x }

/-- Free a transfer. -/
def free (s : StreamTransfers) (i : Nat) (x : UvcTransfer) : StreamTransfers :=
  { s.setTransfer i x with frees := s.frees ++ [i] }

/-- Free the transfers from `i` on, none of which has been submitted. -/
def freeFrom (s : StreamTransfers) (i : Nat) : StreamTransfers :=
  { s with
    transfers := s.transfers.take i ++ List.replicate (s.transfers.length - i) .freed
    frees := s.frees ++ List.range' i (s.transfers.length - i) }

/-- The loop of `uvc_stream_start` or `uvc_stream_stop` after its entry `i`. -/
def advance (s : StreamTransfers) (i : Nat) (next : Nat → StreamPhase) (done : StreamPhase) :
    StreamTransfers :=
  { s with phase := if i + 1 < s.transfers.length then next (i + 1) else done }

/-- The callback frees a transfer, with the lock. -/
def callbackFrees (s : StreamTransfers) (i : Nat) : Option StreamTransfers :=
  if s.mutexFree then some (s.free i .freed) else none

/-- One step, if it is possible. -/
def step (s : StreamTransfers) : Label → Option StreamTransfers
  | .submit ok =>
      match s.phase with
      | .starting i =>
          if ok then some ((s.setTransfer i .submitted).advance i .starting .started)
          -- Without any transfer under way, `uvc_stream_start` fails and frees nothing.
          else if i = 0 then some { s with phase := .started }
          else some { s.freeFrom i with phase := .started }
      | _ => none
  | .complete i retry =>
      match s.transfers[i]? with
      | some .submitted => some (s.setTransfer i (.due retry))
      | _ => none
  | .callback i =>
      match s.transfers[i]? with
      | some (.due retry) =>
          if retry && s.running then some (s.setTransfer i .resubmitting) else s.callbackFrees i
      | _ => none
  | .resubmit i ok =>
      match s.transfers[i]? with
      | some .resubmitting => if ok then some (s.setTransfer i .submitted) else s.callbackFrees i
      | _ => none
  | .stop =>
      match s.phase with
      | .started => some { s with running := false, phase := .cancelling 0 }
      | _ => none
  | .cancel fails =>
      match s.phase with
      | .cancelling i =>
          match s.transfers[i]? with
          | some .submitted =>
              some ((if fails then s.free i .freedInUse else s).advance i .cancelling .waiting)
          | _ => some (s.advance i .cancelling .waiting)
      | _ => none
  | .wake =>
      match s.phase with
      | .waiting =>
          if s.transfers.all UvcTransfer.isNull then some { s with phase := .stopped } else none
      | _ => none

/-- libusb has the next transfer and fails to cancel it. -/
def CancelFails (s : StreamTransfers) (label : Label) : Prop :=
  label = .cancel true ∧ ∃ i, s.phase = .cancelling i ∧ s.transfers[i]? = some .submitted

/-! ## What a step can do -/

end StreamTransfers

/-- How many steps a transfer has left, once the stream is not running any more. -/
def UvcTransfer.work : UvcTransfer → Nat
  | .resubmitting => 3
  | .submitted => 2
  | .due _ => 1
  | .allocated | .freed | .freedInUse => 0

/-- How many steps of `uvc_stream_stop` a phase has left, for so many transfers. -/
def StreamPhase.closingWork (n : Nat) : StreamPhase → Nat
  | .cancelling next => n - next + 2
  | .waiting => 1
  | .starting _ | .started | .stopped => 0

namespace StreamTransfers

/-- The ways in which a step can change the state. -/
inductive Effect (s : StreamTransfers) : Label → StreamTransfers → Prop where
  | submitted (i : Nat) (hphase : s.phase = .starting i) :
      Effect s (.submit true) ((s.setTransfer i .submitted).advance i .starting .started)
  | refused (hphase : s.phase = .starting 0) : Effect s (.submit false) { s with phase := .started }
  | partly (i : Nat) (hphase : s.phase = .starting i) (hi : i ≠ 0) :
      Effect s (.submit false) { s.freeFrom i with phase := .started }
  | moved (label : Label) (i : Nat) (x y : UvcTransfer) (hlabel : ∀ ok, label ≠ .submit ok)
      (hx : s.transfers[i]? = some x) (hxnull : x.isNull = false) (hxalloc : x ≠ .allocated)
      (hynull : y.isNull = false) (hyalloc : y ≠ .allocated)
      (hwork : s.running = false → y.work < x.work) : Effect s label (s.setTransfer i y)
  | freed (label : Label) (i : Nat) (x : UvcTransfer) (hlabel : ∀ ok, label ≠ .submit ok)
      (hx : s.transfers[i]? = some x) (hxnull : x.isNull = false) (hxalloc : x ≠ .allocated)
      (hwork : 0 < x.work) : Effect s label (s.free i .freed)
  | stop (hphase : s.phase = .started) :
      Effect s .stop { s with running := false, phase := .cancelling 0 }
  | cancelled (fails : Bool) (i : Nat) (hphase : s.phase = .cancelling i)
      (hcancel : ¬ CancelFails s (.cancel fails)) :
      Effect s (.cancel fails) (s.advance i .cancelling .waiting)
  | lost (i : Nat) (hphase : s.phase = .cancelling i) (hx : s.transfers[i]? = some .submitted) :
      Effect s (.cancel true) ((s.free i .freedInUse).advance i .cancelling .waiting)
  | woken (hphase : s.phase = .waiting) (hall : s.transfers.all UvcTransfer.isNull = true) :
      Effect s .wake { s with phase := .stopped }

variable {s s' : StreamTransfers} {label : Label}

theorem callbackFrees_effect {i : Nat} {x : UvcTransfer} (hlabel : ∀ ok, label ≠ .submit ok)
    (hx : s.transfers[i]? = some x) (hxnull : x.isNull = false) (hxalloc : x ≠ .allocated)
    (hwork : 0 < x.work) (h : s.callbackFrees i = some s') : Effect s label s' := by
  simp only [callbackFrees, Option.ite_none_right_eq_some, Option.some.injEq] at h
  obtain ⟨-, rfl⟩ := h
  exact .freed label i x hlabel hx hxnull hxalloc hwork

theorem step_effect (h : s.step label = some s') : Effect s label s' := by
  cases label with
  | submit ok =>
      simp only [step] at h
      split at h
      next i hphase =>
        cases ok with
        | true =>
            obtain rfl := Option.some.inj h
            exact .submitted i hphase
        | false =>
            rw [if_neg Bool.false_ne_true] at h
            split at h
            next hi =>
              obtain rfl := Option.some.inj h
              exact .refused (hi ▸ hphase)
            next hi =>
              obtain rfl := Option.some.inj h
              exact .partly i hphase hi
      · cases h
  | complete i retry =>
      simp only [step] at h
      split at h
      next hx =>
        obtain rfl := Option.some.inj h
        exact .moved _ i _ _ (by simp) hx rfl (by simp) rfl (by simp)
          (fun _ => by simp [UvcTransfer.work])
      · cases h
  | callback i =>
      simp only [step] at h
      split at h
      next retry hx =>
        split at h
        next hretry =>
          simp only [Bool.and_eq_true] at hretry
          obtain rfl := Option.some.inj h
          refine .moved _ i _ _ (by simp) hx rfl (by simp) rfl (by simp) fun hrunning => ?_
          rw [hretry.2] at hrunning
          cases hrunning
        · exact callbackFrees_effect (by simp) hx rfl (by simp) (by simp [UvcTransfer.work]) h
      · cases h
  | resubmit i ok =>
      simp only [step] at h
      split at h
      next hx =>
        cases ok with
        | true =>
            obtain rfl := Option.some.inj h
            exact .moved _ i _ _ (by simp) hx rfl (by simp) rfl (by simp)
              (fun _ => by simp [UvcTransfer.work])
        | false =>
            exact callbackFrees_effect (by simp) hx rfl (by simp) (by simp [UvcTransfer.work]) h
      · cases h
  | stop =>
      simp only [step] at h
      split at h
      next hphase =>
        obtain rfl := Option.some.inj h
        exact .stop hphase
      · cases h
  | cancel fails =>
      simp only [step] at h
      split at h
      next i hphase =>
        split at h
        next hx =>
          obtain rfl := Option.some.inj h
          cases fails with
          | true => exact .lost i hphase hx
          | false => exact .cancelled false i hphase (by simp [CancelFails])
        next hx =>
          obtain rfl := Option.some.inj h
          refine .cancelled fails i hphase ?_
          rintro ⟨-, j, hj, hsubmitted⟩
          rw [hphase] at hj
          cases hj
          exact hx hsubmitted
      · cases h
  | wake =>
      simp only [step] at h
      split at h
      next hphase =>
        simp only [Option.ite_none_right_eq_some, Option.some.injEq] at h
        obtain ⟨hall, rfl⟩ := h
        exact .woken hphase hall
      · cases h

/-- Only `uvc_stream_stop` makes the stream stop running. -/
theorem running_step (hne : label ≠ .stop) (h : s.step label = some s') :
    s'.running = s.running := by
  cases step_effect h with
  | stop => exact absurd rfl hne
  | submitted | refused | partly | moved | freed | cancelled | lost | woken => rfl

theorem stop_step (h : s.step .stop = some s') :
    s.phase = .started ∧ s' = { s with running := false, phase := .cancelling 0 } := by
  simp only [step] at h
  split at h
  next hphase => exact ⟨hphase, (Option.some.inj h).symm⟩
  · cases h

/-- Only `uvc_stream_start` moves on from one transfer to submit to the next. -/
theorem starting_step (hne : ∀ ok, label ≠ .submit ok) (h : s.step label = some s') (k : Nat) :
    s'.phase = .starting k ↔ s.phase = .starting k := by
  have hadvance : ∀ {t : StreamTransfers} {i : Nat}, s.phase = .cancelling i →
      ((t.advance i .cancelling .waiting).phase = .starting k ↔ s.phase = .starting k) := by
    intro t i hphase
    refine iff_of_false ?_ (by simp [hphase])
    simp only [advance]
    split <;> simp
  cases step_effect h with
  | submitted => exact absurd rfl (hne true)
  | refused | partly => exact absurd rfl (hne false)
  | moved | freed => exact Iff.rfl
  | stop hphase | woken hphase => simp [hphase]
  | cancelled fails i hphase | lost i hphase => exact hadvance hphase

/-! ## What holds between two steps -/

/-- Every transfer that is not there any more was freed, once; a transfer that has not been
submitted is one that `uvc_stream_start` has yet to submit, unless it could submit none. -/
structure TransfersOk (n : Nat) (s : StreamTransfers) : Prop where
  length : s.transfers.length = n
  nodup : s.frees.Nodup
  frees : ∀ i, i ∈ s.frees ↔ ∃ x, s.transfers[i]? = some x ∧ x.isNull = true
  next : ∀ k, s.phase = .starting k → k < n
  starting : ∀ k, s.phase = .starting k →
    ∀ (j : Nat) (x : UvcTransfer), s.transfers[j]? = some x → (x = .allocated ↔ k ≤ j)
  started : (∀ k, s.phase ≠ .starting k) →
    (∀ (j : Nat) (x : UvcTransfer), s.transfers[j]? = some x → x ≠ .allocated) ∨
      ∀ (j : Nat) (x : UvcTransfer), s.transfers[j]? = some x → x = .allocated
  stopped : s.phase = .stopped →
    ∀ (j : Nat) (x : UvcTransfer), s.transfers[j]? = some x → x.isNull = true

theorem initial_ok {n : Nat} (hn : 0 < n) : TransfersOk n (initial n) where
  length := List.length_replicate
  nodup := List.nodup_nil
  frees := by
    intro i
    simp only [initial, List.not_mem_nil, false_iff]
    rintro ⟨x, hx, hnull⟩
    rw [List.getElem?_replicate] at hx
    split at hx
    · rw [← Option.some.inj hx] at hnull
      cases hnull
    · cases hx
  next := by
    intro k hk
    cases hk
    exact hn
  starting := by
    intro k hk j x hx
    cases hk
    simp only [initial, List.getElem?_replicate] at hx
    split at hx
    · simp [← Option.some.inj hx]
    · cases hx
  started := fun h => absurd rfl (h 0)
  stopped := by simp [initial]

/-- A transfer that is there moves on. -/
theorem TransfersOk.frees_setTransfer {n i : Nat} {x y : UvcTransfer} (h : TransfersOk n s)
    (hx : s.transfers[i]? = some x) (hxnull : x.isNull = false) (hynull : y.isNull = false)
    (j : Nat) :
    j ∈ s.frees ↔ ∃ z, (s.transfers.set i y)[j]? = some z ∧ z.isNull = true := by
  rw [h.frees]
  constructor
  · rintro ⟨z, hz, hnull⟩
    have hne : i ≠ j := by
      rintro rfl
      rw [hx] at hz
      rw [← Option.some.inj hz, hxnull] at hnull
      cases hnull
    exact ⟨z, by rwa [List.getElem?_set_ne hne], hnull⟩
  · rintro ⟨z, hz, hnull⟩
    obtain ⟨-, rfl⟩ | ⟨-, hz⟩ := Slots.getElem?_set_cases hz
    · rw [hynull] at hnull
      cases hnull
    · exact ⟨z, hz, hnull⟩

/-- A transfer that is there is freed. -/
theorem TransfersOk.frees_free {n i : Nat} {x y : UvcTransfer} (h : TransfersOk n s)
    (hx : s.transfers[i]? = some x) (hxnull : x.isNull = false) (hynull : y.isNull = true) :
    (s.frees ++ [i]).Nodup ∧
      ∀ j, j ∈ s.frees ++ [i] ↔ ∃ z, (s.transfers.set i y)[j]? = some z ∧ z.isNull = true := by
  have hi : i ∉ s.frees := by
    rw [h.frees]
    rintro ⟨z, hz, hnull⟩
    rw [hx] at hz
    rw [← Option.some.inj hz, hxnull] at hnull
    cases hnull
  refine ⟨?_, fun j => ?_⟩
  · rw [List.nodup_append]
    refine ⟨h.nodup, List.nodup_singleton i, fun a ha b hb => ?_⟩
    rw [List.mem_singleton.mp hb]
    rintro rfl
    exact hi ha
  · rw [List.mem_append, List.mem_singleton]
    by_cases hj : j = i
    · subst hj
      simp only [or_true, true_iff]
      exact ⟨y, Slots.getElem?_set_of_some hx y, hynull⟩
    · rw [List.getElem?_set_ne (Ne.symm hj), ← h.frees]
      simp [hj]

theorem getElem?_freeFrom (s : StreamTransfers) (i j : Nat) :
    (s.freeFrom i).transfers[j]? = if j < i then s.transfers[j]?
      else if j < s.transfers.length then some .freed else none := by
  simp only [freeFrom, List.getElem?_append, List.length_take, List.getElem?_take,
    List.getElem?_replicate]
  by_cases hji : j < i
  · by_cases hlength : j < s.transfers.length
    · rw [if_pos (by omega), if_pos hji, if_pos hji]
    · rw [if_neg (by omega), if_neg (by omega), if_pos hji,
        List.getElem?_eq_none (Nat.le_of_not_lt hlength)]
  · by_cases hlength : j < s.transfers.length
    · rw [if_neg (by omega), if_pos (by omega), if_neg hji, if_pos hlength]
    · rw [if_neg (by omega), if_neg (by omega), if_neg hji, if_neg hlength]

/-- The transfers that have not been submitted are freed. -/
theorem TransfersOk.frees_freeFrom {n i : Nat} (h : TransfersOk n s)
    (hphase : s.phase = .starting i) :
    (s.freeFrom i).frees.Nodup ∧ ∀ j, j ∈ (s.freeFrom i).frees ↔
      ∃ z, (s.freeFrom i).transfers[j]? = some z ∧ z.isNull = true := by
  have hbefore : ∀ j ∈ s.frees, j < i := by
    intro j hj
    obtain ⟨x, hx, hnull⟩ := (h.frees j).mp hj
    by_contra hle
    rw [(h.starting i hphase j x hx).mpr (Nat.le_of_not_lt hle)] at hnull
    cases hnull
  refine ⟨?_, fun j => ?_⟩
  · simp only [freeFrom, List.nodup_append]
    refine ⟨h.nodup, List.nodup_range', fun a ha b hb => ?_⟩
    have hlt := hbefore a ha
    have hle := (List.mem_range'_1.mp hb).1
    omega
  · rw [getElem?_freeFrom]
    simp only [freeFrom, List.mem_append, List.mem_range'_1]
    by_cases hji : j < i
    · rw [if_pos hji, ← h.frees]
      exact or_iff_left fun hrange => by omega
    · rw [if_neg hji]
      by_cases hlength : j < s.transfers.length
      · rw [if_pos hlength]
        exact iff_of_true (.inr (by omega)) ⟨.freed, rfl, rfl⟩
      · rw [if_neg hlength]
        refine iff_of_false ?_ (by simp)
        rintro (hmem | hrange)
        · exact hji (hbefore j hmem)
        · omega

/-! The phase after an entry of a loop. -/

theorem advance_starting (s : StreamTransfers) (i k : Nat) :
    (s.advance i .starting .started).phase = .starting k ↔
      i + 1 < s.transfers.length ∧ k = i + 1 := by
  simp only [advance]
  split
  next h => simp [h, eq_comm]
  next h => simp [h]

theorem advance_starting_ne_stopped (s : StreamTransfers) (i : Nat) :
    (s.advance i .starting .started).phase ≠ .stopped := by
  simp only [advance]
  split <;> simp

theorem advance_cancelling_ne_starting (s : StreamTransfers) (i k : Nat) :
    (s.advance i .cancelling .waiting).phase ≠ .starting k := by
  simp only [advance]
  split <;> simp

theorem advance_cancelling_ne_stopped (s : StreamTransfers) (i : Nat) :
    (s.advance i .cancelling .waiting).phase ≠ .stopped := by
  simp only [advance]
  split <;> simp

/-- A transfer that has been submitted has another state. -/
theorem TransfersOk.set_starting {n i : Nat} {x y : UvcTransfer} (h : TransfersOk n s)
    (hx : s.transfers[i]? = some x) (hxalloc : x ≠ .allocated) (hyalloc : y ≠ .allocated) (k : Nat)
    (hk : s.phase = .starting k) (j : Nat) (z : UvcTransfer)
    (hz : (s.transfers.set i y)[j]? = some z) : z = .allocated ↔ k ≤ j := by
  obtain ⟨rfl, rfl⟩ | ⟨-, hz⟩ := Slots.getElem?_set_cases hz
  · have hbefore : ¬ k ≤ j := fun hle => hxalloc ((h.starting k hk j x hx).mpr hle)
    exact iff_of_false hyalloc hbefore
  · exact h.starting k hk j z hz

theorem TransfersOk.set_started {n i : Nat} {x y : UvcTransfer} (h : TransfersOk n s)
    (hx : s.transfers[i]? = some x) (hxalloc : x ≠ .allocated) (hyalloc : y ≠ .allocated)
    (hphase : ∀ k, s.phase ≠ .starting k) (j : Nat) (z : UvcTransfer)
    (hz : (s.transfers.set i y)[j]? = some z) : z ≠ .allocated := by
  have hall : ∀ (j : Nat) (x : UvcTransfer), s.transfers[j]? = some x → x ≠ .allocated :=
    (h.started hphase).resolve_right fun hall => hxalloc (hall i x hx)
  obtain ⟨-, rfl⟩ | ⟨-, hz⟩ := Slots.getElem?_set_cases hz
  · exact hyalloc
  · exact hall j z hz

/-- The wait does not end while a transfer is there. -/
theorem TransfersOk.not_stopped {n i : Nat} {x : UvcTransfer} (h : TransfersOk n s)
    (hx : s.transfers[i]? = some x) (hxnull : x.isNull = false) : s.phase ≠ .stopped := by
  intro hphase
  have hnull := h.stopped hphase i x hx
  rw [hxnull] at hnull
  cases hnull

theorem step_ok {n : Nat} (h : TransfersOk n s) (hstep : s.step label = some s') :
    TransfersOk n s' := by
  cases step_effect hstep with
  | submitted i hphase =>
      have hi : i < s.transfers.length := h.length ▸ h.next i hphase
      have hx : s.transfers[i]? = some .allocated := by
        rw [List.getElem?_eq_getElem hi]
        exact congrArg some ((h.starting i hphase i _ (List.getElem?_eq_getElem hi)).mpr
          (Nat.le_refl i))
      have hlength : (s.setTransfer i .submitted).transfers.length = s.transfers.length :=
        List.length_set
      -- From the next transfer on, none has been submitted.
      have hrest : ∀ (j : Nat) (z : UvcTransfer), (s.transfers.set i .submitted)[j]? = some z →
          (z = .allocated ↔ i + 1 ≤ j) := by
        intro j z hz
        obtain ⟨rfl, rfl⟩ | ⟨hne, hz⟩ := Slots.getElem?_set_cases hz
        · simp
        · rw [h.starting i hphase j z hz]
          omega
      refine ⟨hlength.trans h.length, h.nodup, h.frees_setTransfer hx rfl rfl, ?_, ?_, ?_,
        fun hk => (advance_starting_ne_stopped _ _ hk).elim⟩
      · intro k hk
        obtain ⟨hlt, rfl⟩ := (advance_starting ..).mp hk
        rwa [hlength, h.length] at hlt
      · intro k hk
        obtain ⟨-, rfl⟩ := (advance_starting ..).mp hk
        exact hrest
      · intro hk
        have hlast : ¬ i + 1 < s.transfers.length := by
          rw [← hlength]
          exact fun hlt => hk (i + 1) ((advance_starting ..).mpr ⟨hlt, rfl⟩)
        refine .inl fun j z hz hz' => ?_
        have hj := (hrest j z hz).mp hz'
        have hlt := (List.getElem?_eq_some_iff.mp hz).1
        have hlt' : j < s.transfers.length := hlength ▸ hlt
        omega
  | refused hphase =>
      refine ⟨h.length, h.nodup, h.frees, by simp, by simp, fun _ => .inr ?_, by simp⟩
      exact fun j x hx => (h.starting 0 hphase j x hx).mpr (Nat.zero_le j)
  | partly i hphase hi =>
      obtain ⟨hnodup, hfrees⟩ := h.frees_freeFrom hphase
      have hilt : i < s.transfers.length := h.length ▸ h.next i hphase
      have hlength : (s.freeFrom i).transfers.length = s.transfers.length := by
        simp only [freeFrom, List.length_append, List.length_take, List.length_replicate]
        omega
      refine ⟨hlength.trans h.length, hnodup, hfrees, by simp, by simp, fun _ => .inl ?_, by simp⟩
      intro j z hz
      simp only at hz
      rw [getElem?_freeFrom] at hz
      split at hz
      next hj =>
        intro hz'
        have hle := (h.starting i hphase j z hz).mp hz'
        omega
      · split at hz
        · rw [← Option.some.inj hz]
          simp
        · cases hz
  | moved _ i x y _ hx hxnull hxalloc hynull hyalloc _ =>
      refine ⟨List.length_set.trans h.length, h.nodup, h.frees_setTransfer hx hxnull hynull, h.next,
        h.set_starting hx hxalloc hyalloc, ?_, ?_⟩
      · exact fun hphase => .inl (h.set_started hx hxalloc hyalloc hphase)
      · exact fun hphase => absurd hphase (h.not_stopped hx hxnull)
  | freed _ i x _ hx hxnull hxalloc _ =>
      obtain ⟨hnodup, hfrees⟩ := h.frees_free (y := .freed) hx hxnull rfl
      refine ⟨List.length_set.trans h.length, hnodup, hfrees, h.next,
        h.set_starting hx hxalloc (by simp), ?_, ?_⟩
      · exact fun hphase => .inl (h.set_started hx hxalloc (by simp) hphase)
      · exact fun hphase => absurd hphase (h.not_stopped hx hxnull)
  | stop hphase =>
      exact ⟨h.length, h.nodup, h.frees, by simp, by simp, fun _ => h.started (by simp [hphase]),
        by simp⟩
  | cancelled fails i hphase _ =>
      exact ⟨h.length, h.nodup, h.frees,
        fun k hk => (advance_cancelling_ne_starting _ _ k hk).elim,
        fun k hk => (advance_cancelling_ne_starting _ _ k hk).elim,
        fun _ => h.started (by simp [hphase]),
        fun hk => (advance_cancelling_ne_stopped _ _ hk).elim⟩
  | lost i hphase hx =>
      obtain ⟨hnodup, hfrees⟩ := h.frees_free (y := .freedInUse) hx rfl rfl
      exact ⟨List.length_set.trans h.length, hnodup, hfrees,
        fun k hk => (advance_cancelling_ne_starting _ _ k hk).elim,
        fun k hk => (advance_cancelling_ne_starting _ _ k hk).elim,
        fun _ => .inl (h.set_started hx (by simp) (by simp) (by simp [hphase])),
        fun hk => (advance_cancelling_ne_stopped _ _ hk).elim⟩
  | woken hphase hall =>
      refine ⟨h.length, h.nodup, h.frees, by simp, by simp,
        fun _ => h.started (by simp [hphase]), ?_⟩
      intro _ j x hx
      exact List.all_eq_true.mp hall x (List.mem_of_getElem? hx)

theorem run_ok {n : Nat} {labels : List Label} (h : TransfersOk n s)
    (hrun : Steps.run step s labels = some s') : TransfersOk n s' :=
  Steps.run_invariant (TransfersOk n) (fun _ => True)
    (fun _ _ _ hok _ hstep => step_ok hok hstep) labels (fun _ _ => trivial) h hrun

/-! ## Freed once -/

/-- No transfer has been freed that libusb still has. -/
def NoneInUse (s : StreamTransfers) : Prop :=
  ∀ (j : Nat) (x : UvcTransfer), s.transfers[j]? = some x → x ≠ .freedInUse

theorem NoneInUse.set {i : Nat} {y : UvcTransfer} (h : NoneInUse s) (hy : y ≠ .freedInUse) (j : Nat)
    (z : UvcTransfer) (hz : (s.transfers.set i y)[j]? = some z) : z ≠ .freedInUse := by
  obtain ⟨-, rfl⟩ | ⟨-, hz⟩ := Slots.getElem?_set_cases hz
  · exact hy
  · exact h j z hz

theorem noneInUse_step (h : NoneInUse s) (hcancel : ¬ CancelFails s label)
    (hstep : s.step label = some s') : NoneInUse s' := by
  cases step_effect hstep with
  | submitted i hphase => exact h.set (by simp)
  | refused hphase => exact h
  | partly i hphase hi =>
      intro j z hz
      simp only at hz
      rw [getElem?_freeFrom] at hz
      split at hz
      · exact h j z hz
      · split at hz
        · rw [← Option.some.inj hz]
          simp
        · cases hz
  | moved _ i x y _ hx hxnull _ hynull =>
      refine h.set ?_
      rintro rfl
      cases hynull
  | freed _ i x => exact h.set (by simp)
  | stop hphase => exact h
  | cancelled fails i hphase _ => exact h
  | lost i hphase hx => exact absurd ⟨rfl, i, hphase, hx⟩ hcancel
  | woken hphase hall => exact h

/-- A cancellation that fails leaves a freed transfer with libusb. -/
theorem exists_lost (h : CancelFails s label) :
    ∃ s', s.step label = some s' ∧ ¬ NoneInUse s' := by
  obtain ⟨rfl, i, hphase, hx⟩ := h
  refine ⟨(s.free i .freedInUse).advance i .cancelling .waiting, by simp [step, hphase, hx], ?_⟩
  exact fun hnone => hnone i .freedInUse (Slots.getElem?_set_of_some hx _) rfl

/-- The wait of `uvc_stream_stop` ends when every transfer has been freed, and no transfer is ever
freed twice.  A transfer is freed while libusb has it, so that its callback is called with freed
memory, exactly if libusb fails to cancel one that it has. -/
theorem transfers_freed_once {n : Nat} {labels : List Label} (hn : 0 < n)
    (hrun : Steps.run step (initial n) labels = some s) :
    s.frees.Nodup ∧ (s.phase = .stopped → s.frees.Perm (List.range n)) ∧
      (Steps.Always step NoneInUse (initial n) labels ↔
        Steps.Along step (fun s label => ¬ CancelFails s label) (initial n) labels) := by
  have hok := run_ok (initial_ok hn) hrun
  refine ⟨hok.nodup, fun hstopped => ?_, ?_⟩
  · refine (List.perm_ext_iff_of_nodup hok.nodup List.nodup_range).mpr fun i => ?_
    rw [hok.frees, List.mem_range]
    constructor
    · rintro ⟨x, hx, -⟩
      exact hok.length ▸ (List.getElem?_eq_some_iff.mp hx).1
    · intro hi
      have hi' : i < s.transfers.length := hok.length.symm ▸ hi
      have hx : s.transfers[i]? = some s.transfers[i] := List.getElem?_eq_getElem hi'
      exact ⟨_, hx, hok.stopped hstopped i _ hx⟩
  · refine Steps.always_iff_along (I := fun _ => True) (fun _ _ _ _ _ => trivial)
      (fun t label _ hnone => ?_) labels trivial ?_
    · constructor
      · intro h hcancel
        obtain ⟨t', hstep, hlost⟩ := exists_lost hcancel
        exact hlost (h t' hstep)
      · exact fun hcancel t' hstep => noneInUse_step hnone hcancel hstep
    · intro j x hx
      simp only [initial, List.getElem?_replicate] at hx
      split at hx
      · rw [← Option.some.inj hx]
        simp
      · cases hx

/-! ## Returning -/

/-- `uvc_stream_stop` has cleared `running` and waits, or has waited. -/
structure Stopping (n : Nat) (s : StreamTransfers) : Prop where
  ok : TransfersOk n s
  running : s.running = false
  phase : s.phase = .waiting ∨ s.phase = .stopped

/-- The stream runs until `uvc_stream_stop` begins. -/
def RunsBefore (s : StreamTransfers) : Prop :=
  s.running = true ↔ (∃ k, s.phase = .starting k) ∨ s.phase = .started

theorem RunsBefore.of_cancelling {i : Nat} (h : RunsBefore s) (hphase : s.phase = .cancelling i) :
    s.running ≠ true := by
  intro hrunning
  obtain ⟨k, hk⟩ | hk := h.mp hrunning
  · rw [hphase] at hk
    cases hk
  · rw [hphase] at hk
    cases hk

theorem advance_cancelling_ne_started (s : StreamTransfers) (i : Nat) :
    (s.advance i .cancelling .waiting).phase ≠ .started := by
  simp only [advance]
  split <;> simp

theorem runsBefore_step (h : RunsBefore s) (hstep : s.step label = some s') : RunsBefore s' := by
  -- The loop of `uvc_stream_stop` does not lead back.
  have hcancelled : ∀ {t : StreamTransfers} {i : Nat}, s.running ≠ true → t.running = s.running →
      RunsBefore (t.advance i .cancelling .waiting) := by
    intro t i hrunning heq
    refine iff_of_false (fun hr => hrunning (heq ▸ hr)) ?_
    rintro (⟨k, hk⟩ | hk)
    · exact advance_cancelling_ne_starting t i k hk
    · exact advance_cancelling_ne_started t i hk
  cases step_effect hstep with
  | submitted i hphase =>
      refine iff_of_true (h.mpr (.inl ⟨i, hphase⟩)) ?_
      simp only [advance]
      split
      · exact .inl ⟨_, rfl⟩
      · exact .inr rfl
  | refused hphase => exact iff_of_true (h.mpr (.inl ⟨0, hphase⟩)) (.inr rfl)
  | partly i hphase hi => exact iff_of_true (h.mpr (.inl ⟨i, hphase⟩)) (.inr rfl)
  | moved => exact h
  | freed => exact h
  | stop hphase => exact iff_of_false Bool.false_ne_true (by simp)
  | cancelled fails i hphase _ => exact hcancelled (h.of_cancelling hphase) rfl
  | lost i hphase hx => exact hcancelled (h.of_cancelling hphase) rfl
  | woken hphase hall =>
      refine iff_of_false ?_ (by simp)
      intro hrunning
      obtain ⟨k, hk⟩ | hk := h.mp hrunning
      · rw [hphase] at hk
        cases hk
      · rw [hphase] at hk
        cases hk

theorem initial_runs (n : Nat) : RunsBefore (initial n) := iff_of_true rfl (.inl ⟨0, rfl⟩)

/-- How many steps are left until the wait of `uvc_stream_stop` ends. -/
def work (s : StreamTransfers) : Nat :=
  (s.transfers.map UvcTransfer.work).sum + if s.phase = .waiting then 1 else 0

/-- While `uvc_stream_stop` waits, every step leads closer to its end. -/
theorem work_step {n : Nat} (h : Stopping n s) (hstep : s.step label = some s') :
    Stopping n s' ∧ s'.work < s.work := by
  have hok := step_ok h.ok hstep
  have hstarting : ∀ k, s.phase ≠ .starting k := by
    intro k hk
    obtain hphase | hphase := h.phase
    · rw [hk] at hphase
      cases hphase
    · rw [hk] at hphase
      cases hphase
  have hcancelling : ∀ k, s.phase ≠ .cancelling k := by
    intro k hk
    obtain hphase | hphase := h.phase
    · rw [hk] at hphase
      cases hphase
    · rw [hk] at hphase
      cases hphase
  cases step_effect hstep with
  | submitted i hphase => exact absurd hphase (hstarting i)
  | refused hphase => exact absurd hphase (hstarting 0)
  | partly i hphase => exact absurd hphase (hstarting i)
  | cancelled fails i hphase => exact absurd hphase (hcancelling i)
  | lost i hphase => exact absurd hphase (hcancelling i)
  | stop hphase =>
      obtain hwaiting | hstopped := h.phase
      · rw [hphase] at hwaiting
        cases hwaiting
      · rw [hphase] at hstopped
        cases hstopped
  | moved _ i x y _ hx _ _ _ _ hwork =>
      have hsum := Slots.sum_map_set UvcTransfer.work y hx
      have hlt := hwork h.running
      exact ⟨⟨hok, h.running, h.phase⟩, Nat.add_lt_add_right (by simp only [setTransfer]; omega) _⟩
  | freed _ i x _ hx _ _ hwork =>
      have hsum := Slots.sum_map_set UvcTransfer.work .freed hx
      have hzero : UvcTransfer.work .freed = 0 := rfl
      exact ⟨⟨hok, h.running, h.phase⟩,
        Nat.add_lt_add_right (by simp only [free, setTransfer]; omega) _⟩
  | woken hphase hall =>
      refine ⟨⟨hok, h.running, .inr rfl⟩, ?_⟩
      simp [work, hphase]

/-- While `uvc_stream_stop` waits for transfers that have been submitted, there is a step. -/
theorem exists_step (h : s.phase = .waiting)
    (hsubmitted : ∀ (j : Nat) (x : UvcTransfer), s.transfers[j]? = some x → x ≠ .allocated) :
    ∃ label, (s.step label).isSome = true := by
  by_cases hall : s.transfers.all UvcTransfer.isNull = true
  · exact ⟨.wake, by simp [step, h, hall]⟩
  · rw [List.all_eq_true] at hall
    obtain ⟨x, hx⟩ := not_forall.mp hall
    obtain ⟨hmem, hnull⟩ := Classical.not_imp.mp hx
    obtain ⟨j, hj⟩ := List.getElem?_of_mem hmem
    cases x with
    | allocated => exact absurd rfl (hsubmitted j _ hj)
    | submitted => exact ⟨.complete j true, by simp [step, hj]⟩
    | due retry =>
        refine ⟨.callback j, ?_⟩
        simp only [step, hj, callbackFrees, mutexFree, h]
        split <;> rfl
    | resubmitting => exact ⟨.resubmit j true, by simp [step, hj]⟩
    | freed => exact absurd rfl hnull
    | freedInUse => exact absurd rfl hnull

/-- The first transfer could not be submitted. -/
structure NoneSubmitted (s : StreamTransfers) : Prop where
  phase : ∀ k, s.phase ≠ .starting k
  transfers : ∀ (j : Nat) (x : UvcTransfer), s.transfers[j]? = some x → x = .allocated
  notStopped : s.phase ≠ .stopped
  length : 0 < s.transfers.length

theorem noneSubmitted_step (h : NoneSubmitted s) (hstep : s.step label = some s') :
    NoneSubmitted s' := by
  cases step_effect hstep with
  | submitted i hphase => exact absurd hphase (h.phase i)
  | refused hphase => exact absurd hphase (h.phase 0)
  | partly i hphase => exact absurd hphase (h.phase i)
  | moved _ i x y _ hx _ hxalloc => exact absurd (h.transfers i x hx) hxalloc
  | freed _ i x _ hx _ hxalloc => exact absurd (h.transfers i x hx) hxalloc
  | stop hphase => exact ⟨by simp, h.transfers, by simp, h.length⟩
  | cancelled fails i hphase _ =>
      exact ⟨advance_cancelling_ne_starting _ _, h.transfers, advance_cancelling_ne_stopped _ _,
        h.length⟩
  | lost i hphase hx => cases h.transfers i _ hx
  | woken hphase hall =>
      obtain ⟨x, hx⟩ : ∃ x, s.transfers[0]? = some x := ⟨_, List.getElem?_eq_getElem h.length⟩
      have hnull := List.all_eq_true.mp hall x (List.mem_of_getElem? hx)
      rw [h.transfers 0 _ hx] at hnull
      cases hnull

/-- A transfer has been submitted. -/
def SomeSubmitted (s : StreamTransfers) : Prop :=
  ∃ (j : Nat) (x : UvcTransfer), s.transfers[j]? = some x ∧ x ≠ .allocated

theorem SomeSubmitted.set {i : Nat} {y : UvcTransfer} (h : SomeSubmitted s) (hy : y ≠ .allocated) :
    ∃ (j : Nat) (x : UvcTransfer), (s.transfers.set i y)[j]? = some x ∧ x ≠ .allocated := by
  obtain ⟨j, x, hx, hne⟩ := h
  by_cases hij : i = j
  · subst hij
    exact ⟨i, y, Slots.getElem?_set_of_some hx y, hy⟩
  · exact ⟨j, x, (List.getElem?_set_ne hij).trans hx, hne⟩

theorem someSubmitted_step {n : Nat} (hok : TransfersOk n s) (h : SomeSubmitted s)
    (hstep : s.step label = some s') : SomeSubmitted s' := by
  cases step_effect hstep with
  | submitted i hphase => exact h.set (by simp)
  | refused hphase =>
      obtain ⟨j, x, hx, hne⟩ := h
      exact absurd ((hok.starting 0 hphase j x hx).mpr (Nat.zero_le j)) hne
  | partly i hphase hi =>
      obtain ⟨j, x, hx, hne⟩ := h
      have hji : j < i := by
        by_contra hle
        exact hne ((hok.starting i hphase j x hx).mpr (Nat.le_of_not_lt hle))
      refine ⟨j, x, ?_, hne⟩
      simp only
      rw [getElem?_freeFrom, if_pos hji, hx]
  | moved _ i x y _ _ _ _ _ hyalloc => exact h.set hyalloc
  | freed _ i x => exact h.set (by simp)
  | stop hphase => exact h
  | cancelled fails i hphase _ => exact h
  | lost i hphase hx => exact h.set (by simp)
  | woken hphase hall => exact h

/-- What holds of a stream whose first transfer could be submitted. -/
structure Begun (n : Nat) (s : StreamTransfers) : Prop where
  ok : TransfersOk n s
  runs : RunsBefore s
  submitted : SomeSubmitted s

theorem Begun.run {n : Nat} {labels : List Label} (h : Begun n s)
    (hrun : Steps.run step s labels = some s') : Begun n s' := by
  refine Steps.run_invariant (Begun n) (fun _ => True) ?_ labels (fun _ _ => trivial) h hrun
  intro t label t' h _ hstep
  exact ⟨step_ok h.ok hstep, runsBefore_step h.runs hstep,
    someSubmitted_step h.ok h.submitted hstep⟩

theorem Begun.stopping {n : Nat} (h : Begun n s) (hwaiting : s.phase = .waiting) :
    Stopping n s := by
  refine ⟨h.ok, ?_, .inl hwaiting⟩
  cases hrunning : s.running with
  | false => rfl
  | true =>
      obtain ⟨k, hk⟩ | hk := h.runs.mp hrunning
      · rw [hwaiting] at hk
        cases hk
      · rw [hwaiting] at hk
        cases hk

theorem Begun.exists_step {n : Nat} (h : Begun n s) (hwaiting : s.phase = .waiting) :
    ∃ label, (s.step label).isSome = true := by
  obtain ⟨j, x, hx, hne⟩ := h.submitted
  exact StreamTransfers.exists_step hwaiting ((h.ok.started (by simp [hwaiting])).resolve_right
    fun hall => hne (hall j x hx))

theorem NoneSubmitted.run {labels : List Label} (h : NoneSubmitted s)
    (hrun : Steps.run step s labels = some s') : NoneSubmitted s' :=
  Steps.run_invariant NoneSubmitted (fun _ => True)
    (fun _ _ _ h _ hstep => noneSubmitted_step h hstep) labels (fun _ _ => trivial) h hrun

/-- The wait of `uvc_stream_stop` ends precisely if the first transfer could be submitted.  If it
could, every step leads closer to the end and there is one as long as `uvc_stream_stop` waits; if
not, it waits for transfers that nobody frees. -/
theorem stream_stop_returns_iff {n : Nat} {ok : Bool} {labels : List Label} (hn : 0 < n)
    (hrun : Steps.run step (initial n) (.submit ok :: labels) = some s)
    (hwaiting : s.phase = .waiting) :
    (ok = true → ∀ more t, Steps.run step s more = some t → more.length + t.work ≤ s.work ∧
      (t.phase = .waiting → ∃ label, (t.step label).isSome = true)) ∧
    (ok = false → ∀ more t, Steps.run step s more = some t → t.phase ≠ .stopped) := by
  obtain ⟨first, hfirst, hrest⟩ := Steps.run_cons hrun
  have hok := step_ok (initial_ok hn) hfirst
  constructor
  · rintro rfl more t hmore
    have hsome : SomeSubmitted first := by
      obtain rfl := Option.some.inj hfirst
      refine ⟨0, .submitted, ?_, by simp⟩
      exact Slots.getElem?_set_of_some (List.getElem?_replicate_of_lt hn) _
    have hbegun : Begun n first := ⟨hok, runsBefore_step (initial_runs n) hfirst, hsome⟩
    have hs := hbegun.run hrest
    exact ⟨Steps.run_length_le (Stopping n) (fun _ => True) work
      (fun _ _ _ h _ hstep => work_step h hstep) more (fun _ _ => trivial) (hs.stopping hwaiting)
      hmore, (hs.run hmore).exists_step⟩
  · rintro rfl more t hmore
    have hnone : NoneSubmitted first := by
      obtain rfl := Option.some.inj hfirst
      refine ⟨by simp, fun j x hx => ?_, by simp, by simpa [initial] using hn⟩
      simp only [initial, List.getElem?_replicate] at hx
      split at hx
      · exact (Option.some.inj hx).symm
      · cases hx
    exact ((hnone.run hrest).run hmore).notStopped

/-! ## The steps of a stop

The wait is the second part of `uvc_stream_stop`.  From its first cancellation on, too, every step
leads closer to the end. -/

/-- How many steps are left until the wait ends, once the stream is not running any more. -/
def closingWork (s : StreamTransfers) : Nat :=
  (s.transfers.map UvcTransfer.work).sum + s.phase.closingWork s.transfers.length

theorem closingWork_advance (s : StreamTransfers) (i : Nat) :
    (s.advance i .cancelling .waiting).phase.closingWork s.transfers.length <
      StreamPhase.closingWork s.transfers.length (.cancelling i) := by
  simp only [advance]
  split
  · simp only [StreamPhase.closingWork]
    omega
  · simp only [StreamPhase.closingWork]
    omega

theorem closingWork_step (h : RunsBefore s) (hrunning : s.running = false)
    (hstep : s.step label = some s') : s'.closingWork < s.closingWork ∧ s'.running = false := by
  have hended : ∀ k, s.phase ≠ .starting k := by
    intro k hk
    rw [h.mpr (.inl ⟨k, hk⟩)] at hrunning
    cases hrunning
  cases step_effect hstep with
  | submitted i hphase => exact absurd hphase (hended i)
  | refused hphase => exact absurd hphase (hended 0)
  | partly i hphase => exact absurd hphase (hended i)
  | stop hphase =>
      rw [h.mpr (.inr hphase)] at hrunning
      cases hrunning
  | moved _ i x y _ hx _ _ _ _ hwork =>
      have hsum := Slots.sum_map_set UvcTransfer.work y hx
      have hlt := hwork hrunning
      refine ⟨?_, hrunning⟩
      simp only [closingWork, setTransfer, List.length_set]
      omega
  | freed _ i x _ hx _ _ hwork =>
      have hsum := Slots.sum_map_set UvcTransfer.work .freed hx
      have hzero : UvcTransfer.work .freed = 0 := rfl
      refine ⟨?_, hrunning⟩
      simp only [closingWork, free, setTransfer, List.length_set]
      omega
  | cancelled fails i hphase =>
      have hadvance := closingWork_advance s i
      rw [← hphase] at hadvance
      exact ⟨Nat.add_lt_add_left hadvance _, hrunning⟩
  | lost i hphase hx =>
      have hsum := Slots.sum_map_set UvcTransfer.work .freedInUse hx
      have hzero : UvcTransfer.work .freedInUse = 0 := rfl
      have hadvance := closingWork_advance (s.free i .freedInUse) i
      have hlength : (s.free i .freedInUse).transfers.length = s.transfers.length :=
        List.length_set
      rw [hlength, ← hphase] at hadvance
      have hsum' : ((s.free i .freedInUse).transfers.map UvcTransfer.work).sum ≤
          (s.transfers.map UvcTransfer.work).sum := by
        simp only [free, setTransfer]
        omega
      refine ⟨?_, hrunning⟩
      simp only [closingWork]
      have hlength' : ((s.free i .freedInUse).advance i .cancelling .waiting).transfers.length =
          s.transfers.length := hlength
      rw [hlength']
      exact Nat.add_lt_add_of_le_of_lt hsum' hadvance
  | woken hphase hall =>
      refine ⟨?_, hrunning⟩
      simp [closingWork, hphase, StreamPhase.closingWork]

/-- What a stop has before it. -/
theorem closingWork_stop (hstep : s.step .stop = some s') :
    s'.closingWork ≤ 4 * s.transfers.length + 2 := by
  obtain ⟨-, rfl⟩ := stop_step hstep
  have hsum : ∀ l : List UvcTransfer, (l.map UvcTransfer.work).sum ≤ 3 * l.length := by
    intro l
    induction l with
    | nil => exact Nat.le_refl 0
    | cons x l ih =>
        have hx : x.work ≤ 3 := by cases x <;> simp [UvcTransfer.work]
        rw [List.map_cons, List.sum_cons, List.length_cons]
        omega
  have hle := hsum s.transfers
  simp only [closingWork, StreamPhase.closingWork]
  omega

/-! ## A run

A transfer is about to be submitted again when the stream is stopped: libusb does not have it when
it is cancelled, and it comes back once more. -/

/-- Two transfers, up to the point where `uvc_stream_stop` waits. -/
def lateLabels : List Label :=
  [.submit true, .submit true, .complete 0 true, .callback 0, .stop, .cancel false, .cancel false]

/-- What happens while it waits. -/
def lateCompletion : List Label :=
  [.resubmit 0 true, .complete 1 false, .callback 1, .complete 0 true, .callback 0, .wake]

theorem transfers_freed_once_late :
    ∃ s, Steps.run step (initial 2) (lateLabels ++ lateCompletion) = some s ∧
      s.frees = [1, 0] ∧ s.phase = .stopped ∧ s.frees.Nodup ∧
      (s.phase = .stopped → s.frees.Perm (List.range 2)) ∧
      (Steps.Always step NoneInUse (initial 2) (lateLabels ++ lateCompletion) ↔
        Steps.Along step (fun s label => ¬ CancelFails s label) (initial 2)
          (lateLabels ++ lateCompletion)) :=
  ⟨_, rfl, rfl, rfl, transfers_freed_once Nat.two_pos rfl⟩

theorem stream_stop_returns_iff_late :
    ∃ s, Steps.run step (initial 2) lateLabels = some s ∧ s.phase = .waiting ∧ s.work = 6 ∧
      (true = true → ∀ more t, Steps.run step s more = some t → more.length + t.work ≤ s.work ∧
        (t.phase = .waiting → ∃ label, (t.step label).isSome = true)) ∧
      (true = false → ∀ more t, Steps.run step s more = some t → t.phase ≠ .stopped) :=
  ⟨_, rfl, rfl, rfl,
    @stream_stop_returns_iff _ 2 true (lateLabels.drop 1) Nat.two_pos rfl rfl⟩

end StreamTransfers

end ZsaSdk
