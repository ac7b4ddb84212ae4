import ZsaSdk.Usbstreaming.Model

/-!
# Stream threads

`usb_cmd_stream_start` and `usb_cmd_stream_stop`, with the threads they create.  Of a thread
only the stage matters here (`stage`): what the thread does in `StreamThread` is a move of its
stage, or leaves stage and flag alone (`step_stage`).

*Calls.*  The two functions run under the lock of the context, so they are steps of their own.
`usb_cmd_stream_stop` keeps the lock while it waits for the thread to exit: it is entered in
one step and returns in another.  `ThreadAPI_Create` stores a handle only if it succeeds.

*The flag.*  `usb_cmd_stream_start` looks at `stream_going`, and an error of the event handling
clears it with the thread not joined.  A start that comes then creates a second thread, and the
handle of the first is lost.  That no other step goes wrong is `single_stream_thread_iff`, and
`joined_iff_stopped_before_start` reads its condition off the order of the events.

`overwritten` and `leftAlive` are there for the statements, and the code does not have them.
-/

namespace ZsaSdk

/-- Where a stream thread is. -/
inductive ThreadStage where
  | settingUp
  | serving
  | leaving
  | exited
deriving DecidableEq, Repr

/-- A move of a stream thread. -/
inductive ThreadMove where
  | setupSucceeded
  | setupFailed
  /-- The event handling returns an error, and the thread clears `stream_going`. -/
  | eventError
  /-- The thread finds `stream_going` false. -/
  | observeStopped
  | exit
deriving DecidableEq, Repr

/-- The stage and the flag after a move. -/
def ThreadStage.next (streamGoing : Bool) : ThreadStage → ThreadMove → Option (ThreadStage × Bool)
  | .settingUp, .setupSucceeded => some (.serving, streamGoing)
  | .settingUp, .setupFailed => some (.leaving, streamGoing)
  | .serving, .eventError => some (.serving, false)
  | .serving, .observeStopped => if streamGoing then none else some (.leaving, false)
  | .leaving, .exit => some (.exited, streamGoing)
  | _, _ => none

/-- The stage of a point of `usb_cmd_lib_usb_thread`. -/
def Phase.stage : Phase → ThreadStage
  | .setup _ _ => .settingUp
  | .serving | .handling => .serving
  | .cancel _ | .cancelling _ => .leaving
  | .finished => .exited

/-! ## The stage of a thread -/

namespace UsbStream

variable {u u' : UsbStream} {b d : Nat} {c : Completion}

theorem streamGoing_imageDecRef {i : Nat} (h : u.imageDecRef i = some u') :
    u'.streamGoing = u.streamGoing := by
  obtain ⟨_, -, rfl⟩ := Option.map_eq_some_iff.mp h
  rfl

theorem streamGoing_imageSetSize {size : Nat} {image : Option Nat}
    (h : u.imageSetSize size image = some u') : u'.streamGoing = u.streamGoing := by
  cases image with
  | none =>
      cases h
      rfl
  | some i =>
      obtain ⟨_, -, rfl⟩ := Option.map_eq_some_iff.mp h
      rfl

theorem streamGoing_usbCmdReleaseXfr (h : u.usbCmdReleaseXfr b = some u') :
    u'.streamGoing = u.streamGoing := by
  obtain ⟨d, -, h⟩ := Option.bind_eq_some_iff.mp h
  obtain ⟨transfer, -, h⟩ := Option.bind_eq_some_iff.mp h
  obtain ⟨v, hv, rfl⟩ := Option.map_eq_some_iff.mp h
  have hgoing : v.streamGoing = (if u.transferList[transfer.listIndex]? = some (some d) then
      { u with transferList := u.transferList.set transfer.listIndex none }
      else u).streamGoing := by
    cases himage : transfer.image with
    | none =>
        rw [himage] at hv
        exact congrArg streamGoing (Option.some.inj hv).symm
    | some i =>
        rw [himage] at hv
        exact streamGoing_imageDecRef hv
  refine hgoing.trans ?_
  split <;> rfl

/-- A delivery, where there is one. -/
theorem streamGoing_delivery {p : Prop} [Decidable p] {size : Nat} {image : Option Nat}
    {result : Result} (h : (if p then (u.imageSetSize size image).map fun u =>
      u.deliver result image else some u) = some u') : u'.streamGoing = u.streamGoing := by
  split at h
  · obtain ⟨v, hv, rfl⟩ := Option.map_eq_some_iff.mp h
    show v.streamGoing = _
    exact streamGoing_imageSetSize hv
  · cases h
    rfl

theorem streamGoing_failTransfer (h : u.failTransfer b d c = some u') :
    u'.streamGoing = u.streamGoing := by
  obtain ⟨transfer, -, h⟩ := Option.bind_eq_some_iff.mp h
  obtain ⟨v, hv, h⟩ := Option.bind_eq_some_iff.mp h
  exact (streamGoing_usbCmdReleaseXfr h).trans (streamGoing_delivery hv)

theorem streamGoing_resubmit {transfer : TransferData} {r : UsbStream × Bool}
    (h : u.resubmit b d transfer c = some r) : r.1.streamGoing = u.streamGoing := by
  simp only [resubmit] at h
  split at h
  · split at h
    · cases h
      rfl
    · obtain ⟨v, hv, rfl⟩ := Option.map_eq_some_iff.mp h
      show v.streamGoing = _
      rw [streamGoing_imageDecRef hv]
      rfl
  · cases h
    rfl

theorem streamGoing_completeTransfer {transfer : TransferData} {r : UsbStream × Bool}
    (h : u.completeTransfer b d transfer c = some r) : r.1.streamGoing = u.streamGoing := by
  simp only [completeTransfer] at h
  split at h
  · cases h
    rfl
  split at h
  · cases h
    rfl
  split at h
  · obtain ⟨v, hv, h⟩ := Option.bind_eq_some_iff.mp h
    obtain ⟨w, hw, hv⟩ := Option.bind_eq_some_iff.mp hv
    rw [streamGoing_resubmit h, streamGoing_imageDecRef hv, streamGoing_delivery hw]
  · cases h
    rfl

/-- The callback does not write the flag. -/
theorem streamGoing_usbCmdLibusbCb (h : u.usbCmdLibusbCb b c = some u') :
    u'.streamGoing = (u.streamGoing && !c.stopped) := by
  obtain ⟨d, -, h⟩ := Option.bind_eq_some_iff.mp h
  obtain ⟨r, hr, h⟩ := Option.bind_eq_some_iff.mp h
  obtain ⟨transfer, -, hr⟩ := Option.bind_eq_some_iff.mp hr
  rw [← streamGoing_completeTransfer hr]
  dsimp only at h
  split at h
  · cases h
    rfl
  · exact streamGoing_failTransfer h

theorem streamGoing_setupTransfer (u : UsbStream) (i : Nat) (o : SetupOutcome) :
    (u.setupTransfer i o).1.streamGoing = u.streamGoing := by
  simp only [setupTransfer]
  repeat' split
  all_goals rfl

end UsbStream

namespace StreamThread

variable {t t' : StreamThread} {a : StreamStep}

/-- The stage of the thread makes a move, or stage and flag stay as they are. -/
def StageMoved (t t' : StreamThread) : Prop :=
  (t'.phase.stage = t.phase.stage ∧ t'.stream.streamGoing = t.stream.streamGoing) ∨
    ∃ move, t.phase.stage.next t.stream.streamGoing move =
      some (t'.phase.stage, t'.stream.streamGoing)

theorem StageMoved.stay (hphase : t'.phase.stage = t.phase.stage)
    (hgoing : t'.stream.streamGoing = t.stream.streamGoing) : StageMoved t t' :=
  Or.inl ⟨hphase, hgoing⟩

/-- The end of the set-up, with whatever result. -/
theorem StageMoved.leaveSetup {v : StreamThread} (hphase : t.phase.stage = .settingUp)
    (hgoing : v.stream.streamGoing = t.stream.streamGoing) : StageMoved t v.leaveSetup := by
  refine Or.inr ?_
  rw [hphase]
  simp only [StreamThread.leaveSetup, hgoing]
  split
  · exact ⟨.setupSucceeded, rfl⟩
  · exact ⟨.setupFailed, rfl⟩

theorem setup_stageMoved {o : SetupOutcome} (hstep : t.step (.setup o) = some t') :
    StageMoved t t' := by
  simp only [step] at hstep
  split at hstep
  · rename_i i xferPool hp
    have hphase : t.phase.stage = .settingUp := congrArg Phase.stage hp
    have hgoing := UsbStream.streamGoing_setupTransfer t.stream i o
    split at hstep
    · split at hstep
      · rename_i stream heq
        cases hstep
        rw [heq] at hgoing
        exact .stay hphase.symm hgoing
      · rename_i stream heq
        cases hstep
        rw [heq] at hgoing
        exact .leaveSetup hphase hgoing
    · cases hstep
  · cases hstep

theorem setupDone_stageMoved (hstep : t.step .setupDone = some t') : StageMoved t t' := by
  simp only [step] at hstep
  split at hstep
  · rename_i i xferPool hp
    split at hstep
    · cases hstep
    · cases hstep
      exact .leaveSetup (congrArg Phase.stage hp) rfl
  · cases hstep

theorem test_stageMoved (hstep : t.step .test = some t') : StageMoved t t' := by
  simp only [step] at hstep
  split at hstep
  · rename_i hp
    cases hstep
    cases hgoing : t.stream.streamGoing with
    | true => exact .stay (by simp [hp, Phase.stage]) rfl
    | false => exact Or.inr ⟨.observeStopped, by simp [hp, hgoing, Phase.stage, ThreadStage.next]⟩
  · cases hstep

theorem completion_stageMoved {b : Nat} {c : Completion} (hstopped : c.stopped = false)
    (hstep : t.step (.completion b c) = some t') : StageMoved t t' := by
  have hcb : ∀ {l : LibusbTransfer}, ((t.stream.setTransfer b (some l)).usbCmdLibusbCb b c).map
      (fun stream => { t with stream }) = some t' → StageMoved t t' := by
    intro l h
    obtain ⟨u', hu', rfl⟩ := Option.map_eq_some_iff.mp h
    have hgoing := UsbStream.streamGoing_usbCmdLibusbCb hu'
    rw [hstopped, Bool.not_false, Bool.and_true] at hgoing
    exact .stay rfl hgoing
  simp only [step] at hstep
  split at hstep
  · obtain ⟨l, -, hstep⟩ := Option.bind_eq_some_iff.mp hstep
    split at hstep
    · exact hcb hstep
    · cases hstep
  · obtain ⟨l, -, hstep⟩ := Option.bind_eq_some_iff.mp hstep
    split at hstep
    · exact hcb hstep
    · cases hstep
  · cases hstep

theorem handled_stageMoved {err : Bool} (hstep : t.step (.handled err) = some t') :
    StageMoved t t' := by
  simp only [step] at hstep
  split at hstep
  · rename_i hp
    cases hstep
    cases err with
    | true => exact Or.inr ⟨.eventError, by simp [hp, Phase.stage, ThreadStage.next, eventError]⟩
    | false => exact .stay (congrArg Phase.stage hp).symm rfl
  · rename_i i hp
    cases hstep
    cases err with
    | true => exact .stay (congrArg Phase.stage hp).symm (by simp [eventError])
    | false => exact .stay (congrArg Phase.stage hp).symm rfl
  · cases hstep

theorem cancel_stageMoved (hstep : t.step .cancel = some t') : StageMoved t t' := by
  simp only [step] at hstep
  split at hstep
  · rename_i i hp
    have hphase : t.phase.stage = .leaving := congrArg Phase.stage hp
    split at hstep
    · split at hstep
      · obtain ⟨b, -, hstep⟩ := Option.bind_eq_some_iff.mp hstep
        obtain ⟨u', hu', rfl⟩ := Option.map_eq_some_iff.mp hstep
        obtain ⟨l, -, rfl⟩ := Option.map_eq_some_iff.mp hu'
        refine .stay hphase.symm ?_
        dsimp only
        split <;> rfl
      · cases hstep
        exact .stay hphase.symm rfl
    · cases hstep
      exact Or.inr ⟨.exit, by rw [hphase]; rfl⟩
  · cases hstep

/-- A step of the thread is a move of its stage, or leaves stage and flag alone. -/
theorem step_stage (hstep : t.step a = some t') (hstop : a ≠ .stop)
    (hstopped : ∀ b c, a = .completion b c → c.stopped = false) : StageMoved t t' := by
  cases a with
  | setup o => exact setup_stageMoved hstep
  | setupDone => exact setupDone_stageMoved hstep
  | test => exact test_stageMoved hstep
  | completion b c => exact completion_stageMoved (hstopped b c rfl) hstep
  | handled err => exact handled_stageMoved hstep
  | cancel => exact cancel_stageMoved hstep
  | stop => exact absurd rfl hstop

end StreamThread

/-! ## Starting and stopping -/

/-- The stream threads of a context, and what the two functions read and write. -/
structure StreamControl where
  streamGoing : Bool
  streamHandle : Option Nat
  /-- Every thread that has been created. -/
  threads : List ThreadStage
  /-- `usb_cmd_stream_stop` is waiting, with the lock. -/
  joining : Bool
  /-- The handle of a thread that had not been joined was overwritten. -/
  overwritten : Bool
  /-- `usb_cmd_stream_stop` has returned with a thread alive. -/
  leftAlive : Bool
deriving DecidableEq, Repr

/-- A step of a caller, or of a thread. -/
inductive ControlStep where
  | start (payloadSize : Nat) (created : Bool)
  | stop
  | stopReturn
  | thread (i : Nat) (move : ThreadMove)
deriving DecidableEq, Repr

namespace StreamControl

def initial : StreamControl := ⟨false, none, [], false, false, false⟩

/-- Some thread has not exited. -/
def anyAlive (s : StreamControl) : Bool := s.threads.any (· ≠ .exited)

/-- `usb_cmd_stream_start`, with the lock. -/
def usbCmdStreamStart (s : StreamControl) (created : Bool) : StreamControl :=
  if s.streamGoing then s
  else if created then
    { s with
      streamGoing := true
      streamHandle := some s.threads.length
      threads := s.threads ++ [.settingUp]
      overwritten := s.overwritten || s.streamHandle.isSome }
  else s

/-- `usb_cmd_stream_stop` returns. -/
def stopReturned (s : StreamControl) : StreamControl :=
  { s with
    streamHandle := none
    joining := false
    leftAlive := s.leftAlive || s.anyAlive }

/-- `usb_cmd_stream_stop`, up to the point where it waits for the thread. -/
def usbCmdStreamStop (s : StreamControl) : StreamControl :=
  let s := { s with streamGoing := false }
  match s.streamHandle with
  | none => s.stopReturned
  | some _ => { s with joining := true }

/-- One step.  A call that needs the lock waits while a thread is being joined. -/
def step (s : StreamControl) : ControlStep → Option StreamControl
  | .start payloadSize created =>
      if payloadSize = 0 then some s
      else if s.joining then none
      else some (s.usbCmdStreamStart created)
  | .stop => if s.joining then none else some s.usbCmdStreamStop
  | .stopReturn =>
      if s.joining then
        s.streamHandle.bind fun h =>
          if s.threads[h]? = some .exited then some s.stopReturned else none
      else none
  | .thread i move =>
      s.threads[i]?.bind fun stage =>
        (stage.next s.streamGoing move).map fun r =>
          { s with threads := s.threads.set i r.1, streamGoing := r.2 }

/-- The steps of callers and threads, in the order in which they happen. -/
def run (s : StreamControl) (steps : List ControlStep) : Option StreamControl :=
  Steps.run step s steps

/-- At most one thread is alive, no handle was lost, and no call of `usb_cmd_stream_stop` has
left a thread behind. -/
structure Safe (s : StreamControl) : Prop where
  single : ∀ (i j : Nat) (a b : ThreadStage), s.threads[i]? = some a → s.threads[j]? = some b →
    a ≠ .exited → b ≠ .exited → i = j
  kept : s.overwritten = false
  stopped : s.leftAlive = false

/-- A call of `usb_cmd_stream_start` that creates a thread finds no handle. -/
def Joined (s : StreamControl) : ControlStep → Prop
  | .start payloadSize created => payloadSize ≠ 0 → s.streamGoing = false → created = true →
      s.streamHandle = none
  | _ => True

/-! ## Runs -/

variable {s s' : StreamControl} {a : ControlStep}

/-- The ways in which a step can change the state. -/
inductive Effect (s : StreamControl) : ControlStep → StreamControl → Prop where
  | created (payloadSize : Nat) (hsize : payloadSize ≠ 0) (hjoining : s.joining = false)
      (hgoing : s.streamGoing = false) :
      Effect s (.start payloadSize true) { s with
        streamGoing := true
        streamHandle := some s.threads.length
        threads := s.threads ++ [.settingUp]
        overwritten := s.overwritten || s.streamHandle.isSome }
  | refused (payloadSize : Nat) (created : Bool)
      (hrefused : payloadSize ≠ 0 → s.joining = false ∧ (s.streamGoing = true ∨ created = false)) :
      Effect s (.start payloadSize created) s
  | nothingToStop (hjoining : s.joining = false) (hhandle : s.streamHandle = none) :
      Effect s .stop { s with streamGoing := false }.stopReturned
  | stopping (i : Nat) (hjoining : s.joining = false) (hhandle : s.streamHandle = some i) :
      Effect s .stop { s with streamGoing := false, joining := true }
  | joined (i : Nat) (hjoining : s.joining = true) (hhandle : s.streamHandle = some i)
      (hexited : s.threads[i]? = some .exited) : Effect s .stopReturn s.stopReturned
  | moved (i : Nat) (move : ThreadMove) (stage : ThreadStage) (r : ThreadStage × Bool)
      (hi : s.threads[i]? = some stage) (hr : stage.next s.streamGoing move = some r) :
      Effect s (.thread i move) { s with threads := s.threads.set i r.1, streamGoing := r.2 }

theorem step_effect (hstep : step s a = some s') : Effect s a s' := by
  cases a with
  | start payloadSize created =>
      simp only [step] at hstep
      split at hstep
      next hsize =>
        obtain rfl := Option.some.inj hstep
        exact .refused payloadSize created fun hne => absurd hsize hne
      next hsize =>
        split at hstep
        · cases hstep
        next hjoining =>
          have hjoining' : s.joining = false := Bool.eq_false_iff.mpr hjoining
          obtain rfl := Option.some.inj hstep
          simp only [usbCmdStreamStart]
          cases hgoing : s.streamGoing with
          | true => exact .refused payloadSize created fun _ => ⟨hjoining', .inl hgoing⟩
          | false =>
              cases created with
              | true => exact .created payloadSize hsize hjoining' hgoing
              | false => exact .refused payloadSize false fun _ => ⟨hjoining', .inr rfl⟩
  | stop =>
      simp only [step] at hstep
      split at hstep
      · cases hstep
      next hjoining =>
        have hjoining' : s.joining = false := Bool.eq_false_iff.mpr hjoining
        obtain rfl := Option.some.inj hstep
        cases hhandle : s.streamHandle with
        | none =>
            simp only [usbCmdStreamStop, hhandle]
            exact .nothingToStop hjoining' hhandle
        | some i =>
            have heq : s.usbCmdStreamStop = { s with streamGoing := false, joining := true } := by
              simp only [usbCmdStreamStop, hhandle]
            rw [heq]
            exact .stopping i hjoining' hhandle
  | stopReturn =>
      simp only [step] at hstep
      split at hstep
      next hjoining =>
        obtain ⟨i, hhandle, hstep⟩ := Option.bind_eq_some_iff.mp hstep
        split at hstep
        next hexited =>
          obtain rfl := Option.some.inj hstep
          exact .joined i hjoining hhandle hexited
        · cases hstep
      · cases hstep
  | thread i move =>
      obtain ⟨stage, hi, hmove⟩ := Option.bind_eq_some_iff.mp hstep
      obtain ⟨r, hr, rfl⟩ := Option.map_eq_some_iff.mp hmove
      exact .moved i move stage r hi hr

/-- As long as no handle is lost, the thread that is alive is the one of the handle. -/
structure Sound (s : StreamControl) : Prop where
  alive : ∀ (i : Nat) (stage : ThreadStage), s.threads[i]? = some stage → stage ≠ .exited →
    s.streamHandle = some i
  stopped : s.leftAlive = false

theorem Sound.safe (h : Sound s) (hkept : s.overwritten = false) : Safe s := by
  refine ⟨?_, hkept, h.stopped⟩
  intro i j a b hi hj ha hb
  exact Option.some.inj ((h.alive i a hi ha).symm.trans (h.alive j b hj hb))

/-- The thread of the handle has exited, and no other is alive. -/
theorem Sound.stopReturned (h : Sound s) (hexited : ∀ i, s.streamHandle = some i →
    s.threads[i]? = some .exited) : Sound s.stopReturned := by
  have hdead : ∀ (i : Nat) (stage : ThreadStage), s.threads[i]? = some stage → stage = .exited := by
    intro i stage hi
    by_contra hne
    have heq := hexited i (h.alive i stage hi hne)
    exact hne (Option.some.inj (hi.symm.trans heq))
  constructor
  · intro i stage hi hne
    exact absurd (hdead i stage hi) hne
  · have hnone : s.anyAlive = false := by
      rw [anyAlive, List.any_eq_false]
      intro stage hmem
      obtain ⟨i, hi⟩ := List.mem_iff_getElem?.mp hmem
      simp [hdead i stage hi]
    simp only [StreamControl.stopReturned, h.stopped, hnone, Bool.or_false]

theorem next_exited {going : Bool} {move : ThreadMove} :
    ThreadStage.exited.next going move = none := by
  cases move <;> rfl

theorem Sound.thread (h : Sound s) {i : Nat} {stage : ThreadStage} {move : ThreadMove}
    {r : ThreadStage × Bool} (hi : s.threads[i]? = some stage)
    (hr : stage.next s.streamGoing move = some r) :
    Sound { s with threads := s.threads.set i r.1, streamGoing := r.2 } := by
  refine ⟨fun j stage' hj hne => ?_, h.stopped⟩
  by_cases hij : i = j
  · subst hij
    refine h.alive i stage hi ?_
    rintro rfl
    rw [next_exited] at hr
    cases hr
  · rw [List.getElem?_set_ne hij] at hj
    exact h.alive j stage' hj hne

/-- The new thread is the one of the handle. -/
theorem Sound.created (h : Sound s) (hnone : s.streamHandle = none) :
    Sound { s with
      streamGoing := true
      streamHandle := some s.threads.length
      threads := s.threads ++ [.settingUp]
      overwritten := s.overwritten || s.streamHandle.isSome } := by
  refine ⟨fun i stage hi hne => ?_, h.stopped⟩
  rw [List.getElem?_append] at hi
  split at hi
  · have hhandle := h.alive i stage hi hne
    rw [hnone] at hhandle
    cases hhandle
  · have hlt := (List.getElem?_eq_some_iff.mp hi).1
    rw [List.length_singleton] at hlt
    exact congrArg some (by omega)

/-- One step keeps the invariant if it loses no handle. -/
theorem Sound.step (h : Sound s) (hjoined : Joined s a) (hstep : step s a = some s') :
    Sound s' := by
  cases step_effect hstep with
  | created payloadSize hsize _ hgoing => exact h.created (hjoined hsize hgoing rfl)
  | refused => exact h
  | nothingToStop _ hhandle =>
      have h' : Sound { s with streamGoing := false } := ⟨h.alive, h.stopped⟩
      exact h'.stopReturned fun i hi => absurd (hhandle.symm.trans hi) nofun
  | stopping => exact ⟨h.alive, h.stopped⟩
  | joined i _ hhandle hexited =>
      refine h.stopReturned fun j hj => ?_
      rw [← Option.some.inj (hhandle.symm.trans hj)]
      exact hexited
  | moved i move stage r hi hr => exact h.thread hi hr

/-- A handle is lost exactly by a start that finds one. -/
theorem overwritten_step (hstep : step s a = some s') :
    s'.overwritten = false ↔ s.overwritten = false ∧ Joined s a := by
  cases step_effect hstep with
  | created payloadSize hsize _ hgoing => simp [Joined, hsize, hgoing]
  | refused payloadSize created hrefused =>
      refine (and_iff_left ?_).symm
      rintro hsize hgoing rfl
      obtain hgoing' | hcreated := (hrefused hsize).2
      · rw [hgoing] at hgoing'
        cases hgoing'
      · cases hcreated
  | nothingToStop | stopping | joined | moved => exact (and_iff_left trivial).symm

end StreamControl

/-- In every run: at most one thread is alive, no handle is lost and `usb_cmd_stream_stop`
leaves no thread behind, precisely if every call of `usb_cmd_stream_start` that creates a
thread finds the one before it joined. -/
theorem single_stream_thread_iff {steps : List ControlStep} {s : StreamControl}
    (hrun : StreamControl.initial.run steps = some s) :
    s.Safe ↔ Steps.Along StreamControl.step StreamControl.Joined .initial steps := by
  have hkept := Steps.run_iff (J := fun s : StreamControl => s.overwritten = false)
    (fun _ _ _ hstep => StreamControl.overwritten_step hstep) steps hrun
  have hsound : s.overwritten = false → s.Sound := by
    refine Steps.run_invariant (fun s => s.overwritten = false → s.Sound) (fun _ => True) ?_ steps
      (fun _ _ => trivial) (fun _ => ⟨nofun, rfl⟩) hrun
    intro s a s' hs _ hstep hfalse
    obtain ⟨hfalse', hjoined⟩ := (StreamControl.overwritten_step hstep).mp hfalse
    exact (hs hfalse').step hjoined hstep
  constructor
  · exact fun hsafe => (hkept.mp hsafe.kept).2
  · intro halong
    have hfalse := hkept.mpr ⟨rfl, halong⟩
    exact (hsound hfalse).safe hfalse

/-- A thread that ends with an error is joined before the next one starts. -/
theorem single_stream_thread_restarted :
    ∃ s, StreamControl.initial.run
        [.start 1 true, .thread 0 .setupSucceeded, .thread 0 .eventError,
          .thread 0 .observeStopped, .thread 0 .exit, .stop, .stopReturn, .start 1 true] = some s ∧
      s.Safe ∧ s.threads = [.exited, .settingUp] := by
  obtain ⟨s, hs⟩ : ∃ s, StreamControl.initial.run
        [.start 1 true, .thread 0 .setupSucceeded, .thread 0 .eventError,
          .thread 0 .observeStopped, .thread 0 .exit, .stop, .stopReturn, .start 1 true] =
      some s := ⟨_, rfl⟩
  refine ⟨s, hs, (single_stream_thread_iff hs).mpr ?_, ?_⟩
  swap
  · rw [← Option.some.inj hs]
    rfl
  exact .cons rfl (fun _ _ _ => rfl) (.cons rfl trivial (.cons rfl trivial (.cons rfl trivial
    (.cons rfl trivial (.cons rfl trivial (.cons rfl trivial
    (.cons rfl (fun _ _ _ => rfl) trivial)))))))

/-- The stream is started again after an error of the event handling: two threads are alive,
and the handle of the first is lost. -/
theorem second_thread_after_event_error :
    ∃ s, StreamControl.initial.run
        [.start 1 true, .thread 0 .setupSucceeded, .thread 0 .eventError, .start 1 true] = some s ∧
      s.threads = [.serving, .settingUp] ∧ s.streamHandle = some 1 ∧ s.overwritten = true ∧
      ¬ s.Safe := by
  refine ⟨_, rfl, rfl, rfl, rfl, fun hsafe => ?_⟩
  exact absurd (hsafe.single 0 1 .serving .settingUp rfl rfl nofun nofun) nofun

/-! ## The condition as events -/

/-- The call creates a thread, unless the flag says that a stream is going. -/
def ControlStep.creates : ControlStep → Bool
  | .start payloadSize created => payloadSize != 0 && created
  | _ => false

/-- Whether the event handling has reported an error that no stop has followed yet. -/
def ControlStep.failedAfter (failed : Bool) : ControlStep → Bool
  | .thread _ .eventError => true
  | .stop | .stopReturn => false
  | _ => failed

/-- No call creates a thread between an error of the event handling and the stop that joins the
thread. -/
def StoppedBeforeStart (failed : Bool) : List ControlStep → Prop
  | [] => True
  | a :: steps =>
      (failed = true → a.creates = false) ∧ StoppedBeforeStart (a.failedAfter failed) steps

namespace StreamControl

/-- What the events say about the flag and the handle. -/
structure Tracks (failed : Bool) (s : StreamControl) : Prop where
  sound : Sound s
  joining : s.joining = true → s.streamGoing = false ∧ s.streamHandle ≠ none
  idle : s.streamHandle = none → s.streamGoing = false ∧ failed = false
  held : s.joining = false → s.streamHandle ≠ none → (s.streamGoing = false ↔ failed = true)

variable {failed : Bool}

/-- In such a state a handle is lost by a start that comes after an error. -/
theorem Tracks.joined_iff (h : Tracks failed s) (hstep : step s a = some s') :
    Joined s a ↔ (failed = true → a.creates = false) := by
  cases a with
  | start payloadSize created =>
      by_cases hsize : payloadSize = 0
      · simp [Joined, ControlStep.creates, hsize]
      · have hjoining : s.joining = false := by
          cases step_effect hstep with
          | created _ _ hjoining => exact hjoining
          | refused _ _ hrefused => exact (hrefused hsize).1
        simp only [Joined, ControlStep.creates, bne_iff_ne.mpr hsize, Bool.true_and]
        by_cases hhandle : s.streamHandle = none
        · have hfalse := (h.idle hhandle).2
          simp [hhandle, hfalse]
        · rw [← h.held hjoining hhandle]
          cases created with
          | true => simp [hsize, hhandle]
          | false => simp
  | stop => simp [Joined, ControlStep.creates]
  | stopReturn => simp [Joined, ControlStep.creates]
  | thread i move => simp [Joined, ControlStep.creates]

/-- Only an error of the event handling changes the flag. -/
theorem next_flag {going : Bool} {stage : ThreadStage} {move : ThreadMove}
    {r : ThreadStage × Bool} (h : stage.next going move = some r) :
    r.2 = if move = .eventError then false else going := by
  simp only [ThreadStage.next] at h
  split at h
  · cases h
    rfl
  · cases h
    rfl
  · cases h
    rfl
  · split at h
    · cases h
    next hgoing =>
      cases h
      exact (Bool.eq_false_iff.mpr hgoing).symm
  · cases h
    rfl
  · cases h

theorem Tracks.step (h : Tracks failed s) (hjoined : Joined s a) (hstep : step s a = some s') :
    Tracks (a.failedAfter failed) s' := by
  have hsound := h.sound.step hjoined hstep
  cases step_effect hstep with
  | created payloadSize hsize hjoining hgoing =>
      have hfailed : failed = false := (h.idle (hjoined hsize hgoing rfl)).2
      refine ⟨hsound, fun hj => ?_, (fun hnone => by cases hnone), fun _ _ => ?_⟩
      · rw [hjoining] at hj
        cases hj
      · simp [ControlStep.failedAfter, hfailed]
  | refused => exact h
  | nothingToStop =>
      exact ⟨hsound, (fun hj => by cases hj), fun _ => ⟨rfl, rfl⟩, fun _ hne => absurd rfl hne⟩
  | stopping i _ hhandle =>
      have hsome : s.streamHandle ≠ none := hhandle ▸ Option.some_ne_none i
      exact ⟨hsound, fun _ => ⟨rfl, hsome⟩, fun hnone => absurd hnone hsome,
        (fun hj => by cases hj)⟩
  | joined i hjoining =>
      exact ⟨hsound, (fun hj => by cases hj), fun _ => ⟨(h.joining hjoining).1, rfl⟩,
        fun _ hne => absurd rfl hne⟩
  | moved i move stage r hi hr =>
      have hflag := next_flag hr
      -- A thread that moves is alive, and its handle is there.
      have hhandle : s.streamHandle ≠ none := by
        have halive : stage ≠ .exited := by
          rintro rfl
          rw [next_exited] at hr
          cases hr
        rw [h.sound.alive i stage hi halive]
        exact Option.some_ne_none i
      refine ⟨hsound, fun hj => ⟨?_, hhandle⟩, fun hnone => absurd hnone hhandle, fun hj _ => ?_⟩
      · rw [hflag, (h.joining hj).1]
        exact ite_self false
      · show r.2 = false ↔ (ControlStep.thread i move).failedAfter failed = true
        rw [hflag]
        cases move with
        | eventError => exact ⟨fun _ => rfl, fun _ => rfl⟩
        | setupSucceeded | setupFailed | observeStopped | exit => exact h.held hj hhandle

/-- Every start that creates a thread finds the one before it joined, precisely if none comes
between an error of the event handling and the stop that joins the thread. -/
theorem Tracks.along_iff (steps : List ControlStep) :
    ∀ {failed : Bool} {s s' : StreamControl}, Tracks failed s → run s steps = some s' →
      (Steps.Along StreamControl.step Joined s steps ↔ StoppedBeforeStart failed steps) := by
  induction steps with
  | nil => exact fun _ _ => Iff.rfl
  | cons a steps ih =>
      intro failed s s' h hrun
      obtain ⟨v, hv, hrest⟩ := Steps.run_cons hrun
      simp only [Steps.Along, StoppedBeforeStart, ← h.joined_iff hv]
      refine and_congr_right fun hjoined => ?_
      rw [← ih (h.step hjoined hv) hrest]
      constructor
      · exact fun halong => halong v hv
      · intro halong u hu
        rw [hv] at hu
        exact Option.some.inj hu ▸ halong

end StreamControl

/-- The condition on the starts of a run, as events: no start comes between an error of the event
handling and the stop that joins the thread. -/
theorem joined_iff_stopped_before_start {steps : List ControlStep} {s : StreamControl}
    (hrun : StreamControl.initial.run steps = some s) :
    Steps.Along StreamControl.step StreamControl.Joined .initial steps ↔
      StoppedBeforeStart false steps := by
  have hinitial : StreamControl.Tracks false .initial := by
    refine ⟨⟨?_, rfl⟩, (fun hj => by cases hj), fun _ => ⟨rfl, rfl⟩,
      fun _ hne => absurd rfl hne⟩
    intro i stage hi
    cases hi
  exact hinitial.along_iff steps hrun

end ZsaSdk
