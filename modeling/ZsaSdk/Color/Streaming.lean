import ZsaSdk.Color.Reader

/-!
# Sessions of the camera reader

What holds of a reader whatever its threads do, in whatever order.

`ReaderPhase` lists the five situations a reader can be in: without a stream, with a thread in
`uvc_start_streaming`, streaming, and with one thread in `Stop` that has not yet called
`uvc_stop_streaming` or waits in it.  There is no other one, in which a session is open while
another thread is still about to close the stream before it: libuvc refuses a new stream until the
old one is gone, so a `Start` that comes too early fails.  From this the events of a reader are
those of sessions that follow one another (`reader_sessions`), and its resources are given back in
the right order (`reader_resources`).
-/

namespace ZsaSdk

open Ledger

namespace UvcCameraReader

variable {r r' : UvcCameraReader} {width height : UInt32} {imageFormat : ImageFormat}
  {o : StartOutcome}

/-- A start that fails leaves the reader as initialised and as started as it was. -/
theorem start_failed_keeps (h : r.start width height imageFormat o = (r', .failed)) :
    r'.initialized = r.initialized ∧ r'.streaming = r.streaming ∧
      (r.streaming = true → r'.callback = r.callback) := by
  simp only [start] at h
  split at h
  · cases h
    exact ⟨rfl, rfl, fun _ => rfl⟩
  · split at h
    · cases h
      exact ⟨rfl, rfl, fun _ => rfl⟩
    next hs =>
      split at h
      · cases h
        exact ⟨rfl, rfl, fun _ => rfl⟩
      · split at h
        · cases h
          exact ⟨rfl, rfl, fun hs' => absurd hs' hs⟩
        · split at h
          · cases h
            exact ⟨rfl, rfl, fun hs' => absurd hs' hs⟩
          · cases h

/-- A start succeeds only if libuvc has opened a stream. -/
theorem start_opens (h : r.start width height imageFormat o = (r', .succeeded)) :
    r.initialized = true ∧ o.startStreamingOk = true ∧ r'.initialized = true ∧
      r'.streaming = true ∧ r'.callback = true := by
  simp only [start] at h
  split at h
  · cases h
  next hinit =>
    have hinit' : r.initialized = true := by simpa using hinit
    split at h
    · cases h
    · split at h
      · cases h
      · split at h
        · cases h
        · split at h
          · cases h
          next hok =>
            cases h
            exact ⟨hinit', by simpa using hok, hinit', rfl, rfl⟩

end UvcCameraReader

namespace ReaderSystem

variable {n : Nat} {s s' : ReaderSystem}

/-! ## What a step does -/

/-- The ways in which a step can change the reader. -/
inductive Effect (n : Nat) (s : ReaderSystem) : Label → ReaderSystem → Prop where
  | init (o : UvcCameraReader.InitOutcome) (hcall : ¬ s.InCall) :
      Effect n s (.init o) (s.init o).1
  | call (c : ReaderCall) : Effect n s (.call c) (s.arrive c)
  | lock (i : Nat) (c : ReaderCall) (hfree : s.mutexFree = true) (hc : s.waiting[i]? = some c) :
      Effect n s (.lock i) ({ s with waiting := s.waiting.eraseIdx i }.enter n c)
  | submitted (ok : Bool) (stream : UvcStreamHandle) (transfers : StreamTransfers)
      (hstarter : s.starter = some .submitting) (hstream : s.stream = some stream)
      (htransfers : stream.transfers.step (.submit ok) = some transfers) :
      Effect n s (.submit ok) { s with
        stream := some { stream with transfers }
        starter := some (if stream.transfers.phase == StreamPhase.starting 0 && !ok then .failed
          else .submitting) }
  | started (stream : UvcStreamHandle) (hstarter : s.starter = some .submitting)
      (hstream : s.stream = some stream) (hphase : stream.transfers.phase = .started) :
      Effect n s .startReturns (s.started stream)
  | closing (stream : UvcStreamHandle) (transfers : StreamTransfers)
      (hstarter : s.starter = some .failed) (hstream : s.stream = some stream)
      (htransfers : stream.transfers.step .stop = some transfers) :
      Effect n s .closeFailed { s with
        stream := some { stream with transfers }
        starter := some .closing }
  | failed (stream : UvcStreamHandle) (hstarter : s.starter = some .closing)
      (hstream : s.stream = some stream) (hclosable : closable stream = true) :
      Effect n s .startFails (s.startFailed stream.id)
  | transfer (label : StreamTransfers.Label) (stream : UvcStreamHandle)
      (transfers : StreamTransfers) (hsubmit : ∀ ok, label ≠ .submit ok) (hstop : label ≠ .stop)
      (hstream : s.stream = some stream)
      (htransfers : stream.transfers.step label = some transfers) :
      Effect n s (.transfer label) { s with stream := some { stream with transfers } }
  | nothingToStop (i : Nat) (hi : s.stoppers[i]? = some .unlocked) (hstream : s.stream = none) :
      Effect n s (.stopStreaming i) { s with stoppers := s.stoppers.eraseIdx i }
  | stopping (i : Nat) (stream : UvcStreamHandle) (transfers : StreamTransfers)
      (hi : s.stoppers[i]? = some .unlocked) (hstream : s.stream = some stream)
      (htransfers : stream.transfers.step .stop = some transfers) :
      Effect n s (.stopStreaming i) { s with
        stream := some { stream with transfers }
        stoppers := s.stoppers.set i (.closing stream.id) }
  | closed (i id : Nat) (hi : s.stoppers[i]? = some (.closing id))
      (hclosable : s.stream.all (fun stream => stream.id != id || closable stream) = true) :
      Effect n s (.closed i) (s.dropStream id i)
  | shutdown (hcall : ¬ s.InCall) (hstreaming : s.reader.streaming = false) :
      Effect n s .shutdown s.releaseAll
  | taken (stream : UvcStreamHandle) (hstream : s.stream = some stream)
      (hrunning : stream.transfers.running = true) (hcaller : stream.caller = .waiting) :
      Effect n s .takeFrame (s.setCaller stream .calling)
  | entered (delivers needsDecoder : Bool) (stream : UvcStreamHandle)
      (hstream : s.stream = some stream) (hstarter : s.starter = none)
      (hcaller : stream.caller = .calling) :
      Effect n s (.enterCallback delivers needsDecoder)
        ((s.handleFrame stream.id delivers needsDecoder).setCaller stream .inside)
  | left (stream : UvcStreamHandle) (hstream : s.stream = some stream)
      (hcaller : stream.caller = .inside) :
      Effect n s .leaveCallback (s.setCaller stream .waiting)
  | ended (stream : UvcStreamHandle) (hstream : s.stream = some stream)
      (hrunning : stream.transfers.running = false) (hcaller : stream.caller = .waiting) :
      Effect n s .endCaller (s.setCaller stream .ended)

/-- The ways in which the transfers can take a step. -/
theorem stepTransfers_eq {label : StreamTransfers.Label}
    (hstep : s.stepTransfers label = some s') :
    ∃ stream transfers, s.stream = some stream ∧ stream.transfers.step label = some transfers ∧
      s' = { s with stream := some { stream with transfers } } := by
  obtain ⟨stream, hstream, hrest⟩ := Option.bind_eq_some_iff.mp hstep
  obtain ⟨transfers, htransfers, rfl⟩ := Option.map_eq_some_iff.mp hrest
  exact ⟨stream, transfers, hstream, htransfers, rfl⟩

theorem step_effect {label : Label} (hstep : s.step n label = some s') : Effect n s label s' := by
  cases label with
  | init o =>
      simp only [step, Option.ite_none_left_eq_some, Option.some.injEq] at hstep
      obtain ⟨hcall, rfl⟩ := hstep
      exact .init o hcall
  | call c =>
      obtain rfl := Option.some.inj hstep
      exact .call c
  | lock i =>
      simp only [step, Option.ite_none_right_eq_some] at hstep
      obtain ⟨hfree, hlock⟩ := hstep
      obtain ⟨c, hc, rfl⟩ := Option.map_eq_some_iff.mp hlock
      exact .lock i c hfree hc
  | submit ok =>
      simp only [step] at hstep
      split at hstep
      next stream hstarter hstream =>
        obtain ⟨stream', transfers, hsome, htransfers, rfl⟩ := stepTransfers_eq hstep
        obtain rfl := Option.some.inj (hstream.symm.trans hsome)
        exact .submitted ok stream transfers hstarter hstream htransfers
      · cases hstep
  | startReturns =>
      simp only [step] at hstep
      split at hstep
      next stream hstarter hstream =>
        simp only [Option.ite_none_right_eq_some, Option.some.injEq] at hstep
        obtain ⟨hphase, rfl⟩ := hstep
        exact .started stream hstarter hstream hphase
      · cases hstep
  | closeFailed =>
      simp only [step, Option.ite_none_right_eq_some] at hstep
      obtain ⟨hstarter, hstop⟩ := hstep
      obtain ⟨stream, transfers, hstream, htransfers, rfl⟩ := stepTransfers_eq hstop
      exact .closing stream transfers hstarter hstream htransfers
  | startFails =>
      simp only [step] at hstep
      split at hstep
      next stream hstarter hstream =>
        simp only [Option.ite_none_right_eq_some, Option.some.injEq] at hstep
        obtain ⟨hclosable, rfl⟩ := hstep
        exact .failed stream hstarter hstream hclosable
      · cases hstep
  | transfer label =>
      have hsubmit : ∀ ok, label ≠ .submit ok := by
        rintro ok rfl
        cases hstep
      have hstop : label ≠ .stop := by
        rintro rfl
        cases hstep
      have htransfers : s.stepTransfers label = some s' := by
        cases label with
        | submit ok => exact absurd rfl (hsubmit ok)
        | stop => exact absurd rfl hstop
        | complete | callback | resubmit | cancel | wake => exact hstep
      obtain ⟨stream, transfers, hstream, htransfer, rfl⟩ := stepTransfers_eq htransfers
      exact .transfer label stream transfers hsubmit hstop hstream htransfer
  | stopStreaming i =>
      simp only [step] at hstep
      split at hstep
      next hi hnone =>
        obtain rfl := Option.some.inj hstep
        exact .nothingToStop i hi hnone
      next stream hi hstream =>
        obtain ⟨stream', transfers, hsome, htransfers, rfl⟩ := stepTransfers_eq hstep
        obtain rfl := Option.some.inj (hstream.symm.trans hsome)
        exact .stopping i stream transfers hi hstream htransfers
      · cases hstep
  | closed i =>
      simp only [step] at hstep
      split at hstep
      next id hi =>
        simp only [Option.ite_none_right_eq_some, Option.some.injEq] at hstep
        obtain ⟨hclosable, rfl⟩ := hstep
        exact .closed i id hi hclosable
      · cases hstep
  | shutdown =>
      simp only [step, Option.ite_none_left_eq_some, Option.some.injEq] at hstep
      obtain ⟨hnot, rfl⟩ := hstep
      obtain ⟨hcall, hs⟩ := not_or.mp hnot
      exact .shutdown hcall (Bool.eq_false_of_not_eq_true hs)
  | takeFrame =>
      simp only [step] at hstep
      split at hstep
      next stream hstream =>
        simp only [Option.ite_none_right_eq_some, Option.some.injEq, Bool.and_eq_true,
          beq_iff_eq] at hstep
        obtain ⟨⟨hrunning, hcaller⟩, rfl⟩ := hstep
        exact .taken stream hstream hrunning hcaller
      · cases hstep
  | enterCallback delivers needsDecoder =>
      simp only [step] at hstep
      split at hstep
      next stream hstream =>
        simp only [Option.ite_none_right_eq_some, Option.some.injEq] at hstep
        obtain ⟨⟨hstarter, hcaller⟩, rfl⟩ := hstep
        exact .entered delivers needsDecoder stream hstream hstarter hcaller
      · cases hstep
  | leaveCallback =>
      simp only [step] at hstep
      split at hstep
      next stream hstream =>
        simp only [Option.ite_none_right_eq_some, Option.some.injEq] at hstep
        obtain ⟨hcaller, rfl⟩ := hstep
        exact .left stream hstream hcaller
      · cases hstep
  | endCaller =>
      simp only [step] at hstep
      split at hstep
      next stream hstream =>
        simp only [Option.ite_none_right_eq_some, Option.some.injEq, Bool.and_eq_true,
          Bool.not_eq_true', beq_iff_eq] at hstep
        obtain ⟨⟨hrunning, hcaller⟩, rfl⟩ := hstep
        exact .ended stream hstream hrunning hcaller
      · cases hstep

/-! ## The situations of a reader -/

/-- The stream runs, and its thread has not ended. -/
structure Runs (stream : UvcStreamHandle) : Prop where
  running : stream.transfers.running = true
  notEnded : stream.caller ≠ .ended

/-- The five situations. -/
inductive ReaderPhase (s : ReaderSystem) : Prop where
  | idle (streaming : s.reader.streaming = false) (starter : s.starter = none)
      (stoppers : s.stoppers = []) (stream : s.stream = none) (callback : s.pCallback = none)
  | starting (phase : StartPhase) (streaming : s.reader.streaming = false)
      (starter : s.starter = some phase) (stoppers : s.stoppers = []) (stream : UvcStreamHandle)
      (hstream : s.stream = some stream) (initialized : s.isInitialized = true) (callback : Nat)
      (hcallback : s.pCallback = some callback) (callbackSet : s.reader.callback = true)
      (runs : phase ≠ .closing → Runs stream)
  | streaming (streaming : s.reader.streaming = true) (starter : s.starter = none)
      (stoppers : s.stoppers = []) (stream : UvcStreamHandle) (hstream : s.stream = some stream)
      (initialized : s.isInitialized = true) (callback : Nat)
      (hcallback : s.pCallback = some callback) (callbackSet : s.reader.callback = true)
      (runs : Runs stream)
  | unlocked (streaming : s.reader.streaming = false) (starter : s.starter = none)
      (stoppers : s.stoppers = [.unlocked]) (stream : UvcStreamHandle)
      (hstream : s.stream = some stream) (initialized : s.isInitialized = true)
      (callback : s.pCallback = none) (runs : Runs stream)
  | closing (streaming : s.reader.streaming = false) (starter : s.starter = none) (id : Nat)
      (stoppers : s.stoppers = [.closing id]) (stream : UvcStreamHandle)
      (hstream : s.stream = some stream) (initialized : s.isInitialized = true)
      (callback : s.pCallback = none) (hid : stream.id = id)
      (stopped : stream.transfers.running = false)

/-- What holds of a reader between two steps. -/
structure ReaderOk (s : ReaderSystem) : Prop where
  initialized : s.reader.initialized = s.isInitialized
  pointers : s.isInitialized = false →
    s.pContext = none ∧ s.pDevice = none ∧ s.pDeviceHandle = none
  phase : ReaderPhase s
  refs : Nested s.refs s.resources
  decoderRefs : Owns s.decoderRefs (held s.decoder)
  events : Steps.run sessionStep none s.events = some s.session

/-- A reader with a thread in no call, and that is not streaming, has no stream. -/
theorem ReaderPhase.stream_eq_none (h : ReaderPhase s) (hcall : ¬ s.InCall)
    (hs : s.reader.streaming = false) :
    s.stoppers = [] ∧ s.starter = none ∧ s.stream = none ∧ s.pCallback = none := by
  obtain ⟨hstarter, hstop⟩ : s.starter = none ∧ s.stoppers = [] := by
    have hnot := (not_or.mp hcall).2
    exact ⟨not_not.mp (not_or.mp hnot).1, not_not.mp (not_or.mp hnot).2⟩
  refine ⟨hstop, hstarter, ?_⟩
  cases h with
  | idle _ _ _ stream callback => exact ⟨stream, callback⟩
  | starting _ _ starter => rw [hstarter] at starter; cases starter
  | streaming streaming => rw [hs] at streaming; cases streaming
  | unlocked _ _ stoppers => rw [hstop] at stoppers; cases stoppers
  | closing _ _ _ stoppers => rw [hstop] at stoppers; cases stoppers

theorem ReaderPhase.isInitialized (h : ReaderPhase s) (hs : s.stream ≠ none) :
    s.isInitialized = true := by
  cases h with
  | idle _ _ _ stream => exact absurd stream hs
  | starting _ _ _ _ _ _ initialized => exact initialized
  | streaming _ _ _ _ _ initialized => exact initialized
  | unlocked _ _ _ _ _ initialized => exact initialized
  | closing _ _ _ _ _ _ initialized => exact initialized

/-- A reader that is streaming has a stream with a callback. -/
theorem ReaderPhase.of_streaming (h : ReaderPhase s) (hs : s.reader.streaming = true) :
    ∃ stream callback, s.stream = some stream ∧ s.pCallback = some callback ∧
      s.reader.callback = true ∧ s.isInitialized = true ∧ Runs stream ∧ s.starter = none ∧
        s.stoppers = [] := by
  cases h with
  | idle streaming => rw [hs] at streaming; cases streaming
  | starting _ streaming => rw [hs] at streaming; cases streaming
  | unlocked streaming => rw [hs] at streaming; cases streaming
  | closing streaming => rw [hs] at streaming; cases streaming
  | streaming _ starter stoppers stream hstream initialized callback hcallback callbackSet runs =>
      exact ⟨stream, callback, hstream, hcallback, callbackSet, initialized, runs, starter,
        stoppers⟩

/-- While a thread is in `uvc_start_streaming`, a stream is open, and nobody is in `Stop`. -/
theorem ReaderPhase.of_starter (h : ReaderPhase s) {phase : StartPhase}
    (hstarter : s.starter = some phase) :
    ∃ stream callback, s.stream = some stream ∧ s.pCallback = some callback ∧
      s.reader.callback = true ∧ s.isInitialized = true ∧ (phase ≠ .closing → Runs stream) ∧
        s.reader.streaming = false ∧ s.stoppers = [] := by
  cases h with
  | idle _ starter => rw [hstarter] at starter; cases starter
  | streaming _ starter => rw [hstarter] at starter; cases starter
  | unlocked _ starter => rw [hstarter] at starter; cases starter
  | closing _ starter => rw [hstarter] at starter; cases starter
  | starting phase' streaming starter stoppers stream hstream initialized callback hcallback
      callbackSet runs =>
      obtain rfl := Option.some.inj (hstarter.symm.trans starter)
      exact ⟨stream, callback, hstream, hcallback, callbackSet, initialized, runs, streaming,
        stoppers⟩

/-- A thread in `Stop` is alone there, and the stream that it closes is open. -/
theorem ReaderPhase.of_stopper (h : ReaderPhase s) {i : Nat} {phase : StopPhase}
    (hi : s.stoppers[i]? = some phase) :
    i = 0 ∧ s.stoppers = [phase] ∧ s.reader.streaming = false ∧ s.starter = none ∧
      s.isInitialized = true ∧ s.pCallback = none ∧
        ∃ stream, s.stream = some stream ∧ (phase = .unlocked ∨ phase = .closing stream.id) := by
  cases h with
  | idle _ _ stoppers => simp [stoppers] at hi
  | starting _ _ _ stoppers => simp [stoppers] at hi
  | streaming _ _ stoppers => simp [stoppers] at hi
  | unlocked streaming starter stoppers stream hstream initialized callback =>
      rw [stoppers, List.getElem?_singleton, Option.ite_none_right_eq_some] at hi
      obtain ⟨rfl, hphase⟩ := hi
      obtain rfl := Option.some.inj hphase
      exact ⟨rfl, stoppers, streaming, starter, initialized, callback, stream, hstream, .inl rfl⟩
  | closing streaming starter id stoppers stream hstream initialized callback hid =>
      rw [stoppers, List.getElem?_singleton, Option.ite_none_right_eq_some] at hi
      obtain ⟨rfl, hphase⟩ := hi
      obtain rfl := Option.some.inj hphase
      exact ⟨rfl, stoppers, streaming, starter, initialized, callback, stream, hstream,
        .inr (hid ▸ rfl)⟩

/-- Only the reader, its pointers, the stream and the threads in its calls matter. -/
theorem ReaderPhase.congr (h : ReaderPhase s) (hreader : s'.reader = s.reader)
    (hinit : s'.isInitialized = s.isInitialized) (hcallback : s'.pCallback = s.pCallback)
    (hstream : s'.stream = s.stream) (hstart : s'.starter = s.starter)
    (hstop : s'.stoppers = s.stoppers) : ReaderPhase s' := by
  cases h with
  | idle streaming starter stoppers stream callback =>
      exact .idle (hreader ▸ streaming) (hstart.trans starter) (hstop.trans stoppers)
        (hstream.trans stream) (hcallback.trans callback)
  | starting phase streaming starter stoppers stream hsome initialized callback hcb callbackSet
      runs =>
      exact .starting phase (hreader ▸ streaming) (hstart.trans starter) (hstop.trans stoppers)
        stream (hstream.trans hsome) (hinit.trans initialized) callback (hcallback.trans hcb)
        (hreader ▸ callbackSet) runs
  | streaming streaming starter stoppers stream hsome initialized callback hcb callbackSet runs =>
      exact .streaming (hreader ▸ streaming) (hstart.trans starter) (hstop.trans stoppers) stream
        (hstream.trans hsome) (hinit.trans initialized) callback (hcallback.trans hcb)
        (hreader ▸ callbackSet) runs
  | unlocked streaming starter stoppers stream hsome initialized callback runs =>
      exact .unlocked (hreader ▸ streaming) (hstart.trans starter) (hstop.trans stoppers) stream
        (hstream.trans hsome) (hinit.trans initialized) (hcallback.trans callback) runs
  | closing streaming starter id stoppers stream hsome initialized callback hid stopped =>
      exact .closing (hreader ▸ streaming) (hstart.trans starter) id (hstop.trans stoppers) stream
        (hstream.trans hsome) (hinit.trans initialized) (hcallback.trans callback) hid stopped

/-- Nothing depends on the threads that wait for the lock. -/
theorem ReaderOk.setWaiting (h : ReaderOk s) (waiting : List ReaderCall) :
    ReaderOk { s with waiting } where
  initialized := h.initialized
  pointers := h.pointers
  phase := h.phase.congr rfl rfl rfl rfl rfl rfl
  refs := h.refs
  decoderRefs := h.decoderRefs
  events := h.events

/-! ## Resources -/

theorem nested_releaseAll (h : Nested s.refs s.resources)
    (hs : s.pDeviceHandle = none → s.stream = none) : Nested s.releaseAll.refs [] := by
  have hstream : (if s.pDeviceHandle.isSome then s.stream.map (UvcResource.stream ·.id) else none) =
      s.stream.map (UvcResource.stream ·.id) := by
    cases hp : s.pDeviceHandle with
    | none => rw [hs hp]; rfl
    | some p => rfl
  have hstack : Nested s.refs ((s.stream.map (UvcResource.stream ·.id)).toList ++
      ((s.pDeviceHandle.map UvcResource.deviceHandle).toList ++
        ((s.pDevice.map UvcResource.device).toList ++
          ((s.pContext.map UvcResource.context).toList ++ [])))) :=
    h.congr (by simp [resources])
  simp only [releaseAll, hstream]
  exact hstack.releaseOf.releaseOf.releaseOf.releaseOf

theorem owns_releaseAll (h : Owns s.decoderRefs (held s.decoder)) :
    Owns s.releaseAll.decoderRefs 0 := by
  have h' : Owns s.decoderRefs (held s.decoder + 0) := h.congr (Multiset.add_zero _).symm
  exact h'.releaseOf

/-! ## Initialising -/

/-- What `Init` builds up, one resource after the other. -/
structure Building (s : ReaderSystem) : Prop where
  starter : s.starter = none
  stoppers : s.stoppers = []
  streaming : s.reader.streaming = false
  callback : s.pCallback = none
  stream : s.stream = none
  refs : Nested s.refs s.resources
  decoderRefs : Owns s.decoderRefs (held s.decoder)
  events : Steps.run sessionStep none s.events = some s.session

theorem ReaderOk.building (h : ReaderOk s) (hcall : ¬ s.InCall)
    (hs : s.reader.streaming = false) : Building s := by
  obtain ⟨hstop, hstarter, hstream, hcallback⟩ := h.phase.stream_eq_none hcall hs
  exact ⟨hstarter, hstop, hs, hcallback, hstream, h.refs, h.decoderRefs, h.events⟩

/-- Whatever has been built up so far is given back. -/
theorem Building.releaseAll (h : Building s) : ReaderOk s.releaseAll := by
  have hstream : s.releaseAll.stream = none := by simp [ReaderSystem.releaseAll, h.stream]
  have hresources : s.releaseAll.resources = [] := by
    simp only [resources, hstream]
    rfl
  refine ⟨rfl, fun _ => ⟨rfl, rfl, rfl⟩, .idle h.streaming h.starter h.stoppers hstream h.callback,
    ?_, ?_, ?_⟩
  · rw [hresources]
    exact nested_releaseAll h.refs fun _ => h.stream
  · exact owns_releaseAll h.decoderRefs
  · have hsession : s.releaseAll.session = s.session := by
      simp [ReaderSystem.session, ReaderSystem.releaseAll, h.streaming]
    rw [hsession]
    exact h.events

theorem Building.takeContext (h : Building s) (hd : s.pDevice = none)
    (hh : s.pDeviceHandle = none) (hc : s.pContext = none) : Building s.takeContext where
  starter := h.starter
  stoppers := h.stoppers
  streaming := h.streaming
  callback := h.callback
  stream := h.stream
  refs := by
    have hempty : s.resources = [] := by simp [resources, h.stream, hd, hh, hc]
    have hrefs : Nested s.refs [] := h.refs.congr hempty
    refine (hrefs.acquire (a := .context s.serial)).congr ?_
    simp [resources, ReaderSystem.takeContext, h.stream, hd, hh]
  decoderRefs := h.decoderRefs
  events := h.events

theorem Building.takeDevice (h : Building s) (hd : s.pDevice = none)
    (hh : s.pDeviceHandle = none) : Building s.takeDevice where
  starter := h.starter
  stoppers := h.stoppers
  streaming := h.streaming
  callback := h.callback
  stream := h.stream
  refs := by
    refine (h.refs.acquire (a := .device s.serial)).congr ?_
    simp [resources, ReaderSystem.takeDevice, h.stream, hd, hh]
  decoderRefs := h.decoderRefs
  events := h.events

theorem Building.takeDeviceHandle (h : Building s) (hc : s.pContext.isSome = true)
    (hd : s.pDevice.isSome = true) (hh : s.pDeviceHandle = none) :
    ReaderOk s.takeDeviceHandle where
  initialized := by simp [isInitialized, ReaderSystem.takeDeviceHandle, hc, hd]
  pointers := by simp [isInitialized, ReaderSystem.takeDeviceHandle, hc, hd]
  phase := .idle h.streaming h.starter h.stoppers h.stream h.callback
  refs := by
    refine (h.refs.acquire (a := .deviceHandle s.serial)).congr ?_
    simp [resources, ReaderSystem.takeDeviceHandle, h.stream, hh]
  decoderRefs := h.decoderRefs
  events := by
    have hsession : s.takeDeviceHandle.session = s.session := by
      simp [ReaderSystem.session, ReaderSystem.takeDeviceHandle, h.streaming]
    rw [hsession]
    exact h.events

/-- `Init` leaves everything or nothing. -/
theorem init_ok (h : ReaderOk s) (hcall : ¬ s.InCall) (o : UvcCameraReader.InitOutcome) :
    ReaderOk (s.init o).1 := by
  simp only [init]
  split
  · exact h
  next hinit =>
    have hs : s.reader.streaming = false := by
      cases hstreaming : s.reader.streaming with
      | false => rfl
      | true =>
          obtain ⟨_, _, _, _, _, initialized, _⟩ := h.phase.of_streaming hstreaming
          exact absurd initialized hinit
    have hok : ReaderOk s.releaseAll := (h.building hcall hs).releaseAll
    split
    · exact hok
    · have hcontext := (hok.building hcall hs).takeContext rfl rfl rfl
      split
      · exact hcontext.releaseAll
      · have hdevice := hcontext.takeDevice rfl rfl
        split
        · exact hdevice.releaseAll
        · exact hdevice.takeDeviceHandle rfl rfl rfl

/-! ## Starting and stopping -/

/-- A start that fails changes no session. -/
theorem startRefused_ok (h : ReaderOk s) {width height : UInt32} {imageFormat : ImageFormat}
    {o : UvcCameraReader.StartOutcome} {reader : UvcCameraReader} (hstarter : s.starter = none)
    (hr : s.reader.start width height imageFormat o = (reader, .failed)) :
    ReaderOk { s with
      reader := reader
      pCallback := if reader.callback then s.pCallback else none } := by
  obtain ⟨hi, hs, hc⟩ := UvcCameraReader.start_failed_keeps hr
  refine ⟨hi.trans h.initialized, h.pointers, ?_, h.refs, h.decoderRefs, ?_⟩
  · cases h.phase with
    | idle streaming starter stoppers stream callback =>
        exact .idle (hs.trans streaming) starter stoppers stream (by simp [callback])
    | starting _ _ starter => rw [hstarter] at starter; cases starter
    | streaming streaming starter stoppers stream hstream initialized callback hcallback
        callbackSet runs =>
        have hset : reader.callback = true := (hc streaming).trans callbackSet
        exact .streaming (hs.trans streaming) starter stoppers stream hstream initialized callback
          (by simp [hset, hcallback]) hset runs
    | unlocked streaming starter stoppers stream hstream initialized callback runs =>
        exact .unlocked (hs.trans streaming) starter stoppers stream hstream initialized
          (by simp [callback]) runs
    | closing streaming starter id stoppers stream hstream initialized callback hid stopped =>
        exact .closing (hs.trans streaming) starter id stoppers stream hstream initialized
          (by simp [callback]) hid stopped
  · have hsession : ReaderSystem.session { s with
        reader := reader
        pCallback := if reader.callback then s.pCallback else none } = s.session := by
      simp only [session, hs]
      cases hstreaming : s.reader.streaming with
      | false => rfl
      | true =>
          obtain ⟨_, _, _, _, callbackSet, _⟩ := h.phase.of_streaming hstreaming
          simp [hc hstreaming, callbackSet]
    rw [hsession]
    exact h.events

/-- A stream is opened for a session only when there is none, so no thread is in `Stop`. -/
theorem start_ok (h : ReaderOk s) (hstarter : s.starter = none) (width height : UInt32)
    (imageFormat : ImageFormat) (callback : Nat) (o : UvcCameraReader.StartOutcome) :
    ReaderOk (s.start n width height imageFormat callback o) := by
  simp only [start]
  split
  next reader hr => exact startRefused_ok h hstarter hr
  next reader hr =>
    obtain ⟨hi, ho, hi', -, hc'⟩ := UvcCameraReader.start_opens hr
    simp only [Bool.and_eq_true, Option.isNone_iff_eq_none] at ho
    have hinit : s.isInitialized = true := h.initialized ▸ hi
    -- The stream that libuvc refuses to open a second time is what the other phases have.
    have hidle : s.reader.streaming = false ∧ s.stoppers = [] := by
      cases h.phase with
      | idle streaming _ stoppers => exact ⟨streaming, stoppers⟩
      | starting _ _ starter => rw [hstarter] at starter; cases starter
      | streaming _ _ _ _ hstream => rw [ho.2] at hstream; cases hstream
      | unlocked _ _ _ _ hstream => rw [ho.2] at hstream; cases hstream
      | closing _ _ _ _ _ hstream => rw [ho.2] at hstream; cases hstream
    refine ⟨hi'.trans hinit.symm, ?_, ?_, ?_, h.decoderRefs, ?_⟩
    · exact fun hno => absurd (hinit.symm.trans hno) Bool.noConfusion
    · exact .starting .submitting rfl rfl hidle.2 ⟨s.serial, .initial n, .waiting⟩ rfl hinit
        callback rfl hc' fun _ => ⟨rfl, by simp⟩
    · refine (h.refs.acquire (a := .stream s.serial)).congr ?_
      simp [resources, openStream, ho.2]
    · have hsession : s.session = none := by simp [session, hidle.1]
      have hevents := h.events
      rw [hsession] at hevents
      exact hevents

theorem stop_ok (h : ReaderOk s) : ReaderOk s.stop := by
  simp only [stop]
  split
  next hs =>
    obtain ⟨stream, callback, hstream, hcallback, -, initialized, runs, starter, stoppers⟩ :=
      h.phase.of_streaming hs
    have hstop : s.reader.stop = { s.reader with streaming := false, callback := false } := by
      simp [UvcCameraReader.stop, hs]
    refine ⟨?_, h.pointers, ?_, h.refs, h.decoderRefs, ?_⟩
    · rw [hstop]
      exact h.initialized
    · refine .unlocked ?_ starter ?_ stream hstream initialized rfl runs
      · rw [hstop]
      · simp [stoppers]
    · have hsession : s.session = some (stream.id, callback) := by
        simp [session, hs, hstream, hcallback]
      have hevents := h.events
      rw [hsession] at hevents
      simp only [session, hstop, Bool.false_eq_true, if_false]
      rw [Steps.run_append, hevents]
      rfl
  · exact h

theorem arrive_ok (h : ReaderOk s) (c : ReaderCall) : ReaderOk (s.arrive c) := by
  cases c with
  | start width height imageFormat callback o =>
      cases callback with
      | none => exact h
      | some callback => exact h.setWaiting _
  | stop => exact h.setWaiting _

/-- A thread gets the lock. -/
theorem enter_ok (h : ReaderOk s) (hstarter : s.starter = none) (c : ReaderCall) :
    ReaderOk (s.enter n c) := by
  cases c with
  | start width height imageFormat callback o =>
      cases callback with
      | none => exact h
      | some callback => exact start_ok h hstarter width height imageFormat callback o
  | stop => exact stop_ok h

/-- The session begins when `Start` returns. -/
theorem started_ok {stream : UvcStreamHandle} (h : ReaderOk s)
    (hstarter : s.starter = some .submitting) (hstream : s.stream = some stream) :
    ReaderOk (s.started stream) := by
  obtain ⟨stream', callback, hsome, hcallback, callbackSet, initialized, runs, streaming,
    stoppers⟩ := h.phase.of_starter hstarter
  obtain rfl := Option.some.inj (hstream.symm.trans hsome)
  have hruns : Runs stream := runs (by simp)
  refine ⟨h.initialized, h.pointers, .streaming rfl rfl stoppers stream hstream initialized
    callback hcallback callbackSet hruns, h.refs, h.decoderRefs, ?_⟩
  have hsession : s.session = none := by simp [session, streaming]
  have hevents := h.events
  rw [hsession] at hevents
  simp only [started, session, if_true, hstream, hcallback, Option.bind_some, Option.map_some,
    Option.toList_some]
  rw [Steps.run_append, hevents]
  rfl

/-- A `Start` that fails gives its stream back. -/
theorem startFailed_ok {stream : UvcStreamHandle} (h : ReaderOk s)
    (hstarter : s.starter = some .closing) (hstream : s.stream = some stream) :
    ReaderOk (s.startFailed stream.id) := by
  obtain ⟨-, -, -, -, -, -, -, streaming, stoppers⟩ := h.phase.of_starter hstarter
  refine ⟨h.initialized, h.pointers, .idle streaming rfl stoppers rfl rfl, ?_, h.decoderRefs, ?_⟩
  · have hrefs : Nested s.refs (.stream stream.id :: (s.startFailed stream.id).resources) := by
      refine h.refs.congr ?_
      simp [resources, hstream, startFailed]
    exact hrefs.release
  · have hsession : (s.startFailed stream.id).session = s.session := by
      simp [session, startFailed, streaming]
    rw [hsession]
    exact h.events

/-! ## The threads -/

/-- A step that moves only the stream and the threads in the calls. -/
theorem ReaderOk.moved {stream : UvcStreamHandle} (stream' : UvcStreamHandle)
    (starter : Option StartPhase) (stoppers : List StopPhase) (h : ReaderOk s)
    (hstream : s.stream = some stream) (hid : stream'.id = stream.id)
    (hphase : ReaderPhase { s with stream := some stream', starter, stoppers }) :
    ReaderOk { s with stream := some stream', starter, stoppers } where
  initialized := h.initialized
  pointers := h.pointers
  phase := hphase
  refs := by
    refine h.refs.congr ?_
    simp [resources, hstream, hid]
  decoderRefs := h.decoderRefs
  events := by
    have hsession : ReaderSystem.session
        { s with stream := some stream', starter, stoppers } = s.session := by
      simp [session, hstream, hid]
    rw [hsession]
    exact h.events

/-- The stream goes on, and its thread ends only when the stream is closed. -/
theorem setStream_ok {stream stream' : UvcStreamHandle} (h : ReaderOk s)
    (hstream : s.stream = some stream) (hid : stream'.id = stream.id)
    (hrunning : stream'.transfers.running = stream.transfers.running)
    (hruns : Runs stream → stream'.caller ≠ .ended) :
    ReaderOk { s with stream := some stream' } := by
  have hruns' : Runs stream → Runs stream' := fun hr => ⟨hrunning.trans hr.running, hruns hr⟩
  refine h.moved stream' s.starter s.stoppers hstream hid ?_
  cases h.phase with
  | idle _ _ _ hnone => rw [hnone] at hstream; cases hstream
  | starting phase streaming starter stoppers old hsome initialized callback hcallback callbackSet
      runs =>
      rw [hsome] at hstream
      cases hstream
      exact .starting phase streaming starter stoppers stream' rfl initialized callback hcallback
        callbackSet fun hne => hruns' (runs hne)
  | streaming streaming starter stoppers old hsome initialized callback hcallback callbackSet
      runs =>
      rw [hsome] at hstream
      cases hstream
      exact .streaming streaming starter stoppers stream' rfl initialized callback hcallback
        callbackSet (hruns' runs)
  | unlocked streaming starter stoppers old hsome initialized callback runs =>
      rw [hsome] at hstream
      cases hstream
      exact .unlocked streaming starter stoppers stream' rfl initialized callback (hruns' runs)
  | closing streaming starter id stoppers old hsome initialized callback hold stopped =>
      rw [hsome] at hstream
      cases hstream
      exact .closing streaming starter id stoppers stream' rfl initialized callback
        (hid.trans hold) (hrunning.trans stopped)

theorem setCaller_ok {stream : UvcStreamHandle} {caller : UserCaller} (h : ReaderOk s)
    (hstream : s.stream = some stream)
    (hcaller : stream.transfers.running = true → caller ≠ .ended) :
    ReaderOk (s.setCaller stream caller) :=
  setStream_ok h hstream rfl rfl fun hruns => hcaller hruns.running

/-- As long as `Start` submits transfers, the stream runs. -/
theorem submitted_ok {stream : UvcStreamHandle} {transfers : StreamTransfers} {ok : Bool}
    (phase : StartPhase) (h : ReaderOk s) (hstarter : s.starter = some .submitting)
    (hstream : s.stream = some stream)
    (htransfers : stream.transfers.step (.submit ok) = some transfers) :
    ReaderOk { s with stream := some { stream with transfers }, starter := some phase } := by
  obtain ⟨stream', callback, hsome, hcallback, callbackSet, initialized, runs, streaming,
    stoppers⟩ := h.phase.of_starter hstarter
  obtain rfl := Option.some.inj (hstream.symm.trans hsome)
  have hruns : Runs stream := runs (by simp)
  have hrunning : transfers.running = true :=
    (StreamTransfers.running_step (by simp) htransfers).trans hruns.running
  exact h.moved { stream with transfers } _ s.stoppers hstream rfl
    (.starting phase streaming rfl stoppers _ rfl initialized callback hcallback callbackSet
      fun _ => ⟨hrunning, hruns.notEnded⟩)

/-- `Start` closes its stream. -/
theorem closing_ok {stream : UvcStreamHandle} (transfers : StreamTransfers) (h : ReaderOk s)
    (hstarter : s.starter = some .failed) (hstream : s.stream = some stream) :
    ReaderOk { s with stream := some { stream with transfers }, starter := some .closing } := by
  obtain ⟨-, callback, -, hcallback, callbackSet, initialized, -, streaming, stoppers⟩ :=
    h.phase.of_starter hstarter
  exact h.moved { stream with transfers } _ s.stoppers hstream rfl
    (.starting .closing streaming rfl stoppers _ rfl initialized callback hcallback callbackSet
      fun hne => absurd rfl hne)

theorem takeDecoder_ok (h : ReaderOk s) : ReaderOk s.takeDecoder := by
  simp only [takeDecoder]
  split
  · exact h
  next hnone =>
    refine ⟨h.initialized, h.pointers, h.phase.congr rfl rfl rfl rfl rfl rfl, h.refs, ?_, h.events⟩
    have howns : Owns s.decoderRefs 0 := h.decoderRefs.congr (by rw [hnone]; rfl)
    exact howns.acquire

@[simp] theorem stream_takeDecoder (s : ReaderSystem) : s.takeDecoder.stream = s.stream := by
  simp only [takeDecoder]
  split <;> rfl

@[simp] theorem reader_takeDecoder (s : ReaderSystem) : s.takeDecoder.reader = s.reader := by
  simp only [takeDecoder]
  split <;> rfl

/-- A frame goes to the callback of the session that its stream belongs to. -/
theorem callback_ok {stream : UvcStreamHandle} (h : ReaderOk s)
    (hstream : s.stream = some stream) (hs : s.reader.streaming = true) :
    ReaderOk (s.callback stream.id) := by
  refine ⟨h.initialized, h.pointers, h.phase.congr rfl rfl rfl rfl rfl rfl, h.refs, h.decoderRefs,
    ?_⟩
  obtain ⟨stream', callback, hsome, hcallback, -⟩ := h.phase.of_streaming hs
  rw [hsome] at hstream
  cases hstream
  have hsession : s.session = some (stream.id, callback) := by
    simp [session, hs, hsome, hcallback]
  have hevents := h.events
  rw [hsession] at hevents
  have hsession' : (s.callback stream.id).session = some (stream.id, callback) := hsession
  rw [hsession', ReaderSystem.callback, Steps.run_append, hevents, hcallback]
  simp [Steps.run, sessionStep]

theorem handleFrame_ok {stream : UvcStreamHandle} (h : ReaderOk s)
    (hstream : s.stream = some stream) (delivers needsDecoder : Bool) :
    ReaderOk (s.handleFrame stream.id delivers needsDecoder) := by
  simp only [handleFrame]
  split
  next hs =>
    have hdecoder : ReaderOk (if needsDecoder then s.takeDecoder else s) := by
      split
      · exact takeDecoder_ok h
      · exact h
    split
    · refine callback_ok hdecoder ?_ ?_
      · cases needsDecoder <;> simp [hstream]
      · cases needsDecoder <;> simp [hs]
    · exact hdecoder
  · exact h

theorem stream_handleFrame (s : ReaderSystem) (id : Nat) (delivers needsDecoder : Bool) :
    (s.handleFrame id delivers needsDecoder).stream = s.stream := by
  simp only [handleFrame]
  split
  · cases needsDecoder <;> cases delivers <;> simp [callback]
  · rfl

/-- The thread in `Stop` closes the stream of the session that it has ended. -/
theorem stopping_ok {stream : UvcStreamHandle} {transfers : StreamTransfers} {i : Nat}
    (h : ReaderOk s) (hi : s.stoppers[i]? = some .unlocked) (hstream : s.stream = some stream)
    (htransfers : stream.transfers.step .stop = some transfers) :
    ReaderOk { s with
      stream := some { stream with transfers }
      stoppers := s.stoppers.set i (.closing stream.id) } := by
  obtain ⟨rfl, stoppers, streaming, starter, initialized, callback, -⟩ := h.phase.of_stopper hi
  obtain ⟨-, rfl⟩ := StreamTransfers.stop_step htransfers
  exact h.moved _ s.starter _ hstream rfl
    (.closing streaming starter stream.id (by simp [stoppers]) _ rfl initialized callback rfl rfl)

/-- The stream is closed when its thread has ended, and nobody else closes it. -/
theorem closed_ok {i id : Nat} (h : ReaderOk s) (hi : s.stoppers[i]? = some (.closing id)) :
    ReaderOk (s.dropStream id i) := by
  obtain ⟨rfl, stoppers, streaming, starter, -, callback, stream, hstream, hunlocked | hclosing⟩ :=
    h.phase.of_stopper hi
  · cases hunlocked
  · obtain rfl : id = stream.id := StopPhase.closing.inj hclosing
    have hnone : (s.dropStream stream.id 0).stream = none := by simp [dropStream, hstream]
    refine ⟨h.initialized, h.pointers, ?_, ?_, h.decoderRefs, ?_⟩
    · exact .idle streaming starter (by simp [dropStream, stoppers]) hnone callback
    · have hrefs : Nested s.refs (.stream stream.id :: (s.dropStream stream.id 0).resources) := by
        refine h.refs.congr ?_
        simp [resources, hstream, dropStream]
      exact hrefs.release
    · have hsession : (s.dropStream stream.id 0).session = s.session := by
        simp [session, dropStream, streaming]
      rw [hsession]
      exact h.events

/-- Every step keeps what holds of a reader. -/
theorem step_ok (h : ReaderOk s) {label : Label} (hstep : s.step n label = some s') :
    ReaderOk s' := by
  cases step_effect hstep with
  | init o hcall => exact init_ok h hcall o
  | call c => exact arrive_ok h c
  | lock i c hfree _ =>
      simp only [mutexFree, Bool.and_eq_true, Option.isNone_iff_eq_none] at hfree
      exact enter_ok (h.setWaiting (s.waiting.eraseIdx i)) hfree.1 c
  | submitted _ _ _ hstarter hstream htransfers =>
      exact submitted_ok _ h hstarter hstream htransfers
  | started _ hstarter hstream => exact started_ok h hstarter hstream
  | closing _ transfers hstarter hstream => exact closing_ok transfers h hstarter hstream
  | failed _ hstarter hstream => exact startFailed_ok h hstarter hstream
  | transfer _ stream _ _ hstop hstream htransfers =>
      exact setStream_ok h hstream rfl (StreamTransfers.running_step hstop htransfers)
        fun hruns => hruns.notEnded
  | nothingToStop _ hi hnone =>
      obtain ⟨-, -, -, -, -, -, stream, hstream, -⟩ := h.phase.of_stopper hi
      rw [hnone] at hstream
      cases hstream
  | stopping _ _ _ hi hstream htransfers => exact stopping_ok h hi hstream htransfers
  | closed _ _ hi => exact closed_ok h hi
  | shutdown hcall hs => exact (h.building hcall hs).releaseAll
  | taken _ hstream => exact setCaller_ok h hstream fun _ => by simp
  | entered delivers needsDecoder _ hstream =>
      exact setCaller_ok (handleFrame_ok h hstream delivers needsDecoder)
        ((stream_handleFrame ..).trans hstream) fun _ => by simp
  | left _ hstream => exact setCaller_ok h hstream fun _ => by simp
  | ended _ hstream hrunning =>
      refine setCaller_ok h hstream fun hrunning' => ?_
      rw [hrunning] at hrunning'
      cases hrunning'

theorem initial_ok : ReaderOk initial where
  initialized := rfl
  pointers := fun _ => ⟨rfl, rfl, rfl⟩
  phase := .idle rfl rfl rfl rfl rfl
  refs := rfl
  decoderRefs := rfl
  events := rfl

theorem run_ok {labels : List Label} (h : Steps.run (step n) initial labels = some s) :
    ReaderOk s :=
  Steps.run_invariant ReaderOk (fun _ => True) (fun _ _ _ hok _ hstep => step_ok hok hstep) labels
    (fun _ _ => trivial) initial_ok h

/-! ## Main results -/

/-- In whatever order the threads move, the events of a reader are those of sessions that follow
one another: every frame goes to the callback of the session that its stream was opened for, and
none goes anywhere before a session starts or after `Stop` has ended it.  At most one thread is
closing a stream, and the reader says that it is streaming exactly if a stream is open, which no
`Start` is still about to start and nobody is about to close. -/
theorem reader_sessions {labels : List Label} (h : Steps.run (step n) initial labels = some s) :
    Steps.run sessionStep none s.events = some s.session ∧ s.stoppers.length ≤ 1 ∧
      (s.reader.streaming = true ↔ s.stream ≠ none ∧ s.starter = none ∧ s.stoppers = []) := by
  have hok := run_ok h
  refine ⟨hok.events, ?_⟩
  cases hok.phase with
  | idle streaming _ stoppers stream => simp [streaming, stream, stoppers]
  | starting _ streaming starter stoppers => simp [streaming, starter, stoppers]
  | streaming streaming starter stoppers _ hstream => simp [streaming, starter, hstream, stoppers]
  | unlocked streaming _ stoppers => simp [streaming, stoppers]
  | closing streaming _ _ stoppers => simp [streaming, stoppers]

/-- Between two steps the reader has all of its resources or none, what it holds is given back in
the opposite order to the one in which it was obtained, and after `Shutdown` nothing is left. -/
theorem reader_resources {labels : List Label} (h : Steps.run (step n) initial labels = some s) :
    (s.isInitialized = true ∨ s.resources = []) ∧ Nested s.refs s.resources ∧
      Owns s.decoderRefs (held s.decoder) ∧
      ∀ s', s.step n .shutdown = some s' → Nested s'.refs [] ∧ Owns s'.decoderRefs 0 := by
  have hok := run_ok h
  refine ⟨?_, hok.refs, hok.decoderRefs, ?_⟩
  · cases hinit : s.isInitialized with
    | true => exact .inl rfl
    | false =>
        obtain ⟨hcontext, hdevice, hhandle⟩ := hok.pointers hinit
        have hstream : s.stream = none := by
          by_contra hne
          exact absurd (hinit.symm.trans (hok.phase.isInitialized hne)) Bool.noConfusion
        exact .inr (by simp [resources, hcontext, hdevice, hhandle, hstream])
  · intro s' hstep
    cases step_effect hstep with
    | shutdown hcall hs =>
        exact ⟨nested_releaseAll hok.refs fun _ => (hok.building hcall hs).stream,
          owns_releaseAll hok.decoderRefs⟩

/-! ## A run

A frame is being handled while the session is stopped, and another thread tries to start the next
session too early.  A stream has two transfers. -/

/-- A `Start` for a callback, whose transfers are submitted. -/
def startLabels (callback : Nat) : List Label :=
  [.call (.start 1280 720 .colorNv12 (some callback) ⟨true, true⟩), .lock 0, .submit true,
    .submit true, .startReturns]

/-- The labels of the run up to the start that comes too early. -/
def busyLabels : List Label :=
  .init ⟨true, true, true⟩ :: startLabels 7 ++
    [.takeFrame, .enterCallback true false, .leaveCallback, .takeFrame, .call .stop, .lock 0,
      .call (.start 1280 720 .colorNv12 (some 8) ⟨true, true⟩), .lock 0]

/-- The end of `Stop`. -/
def stopLabels : List Label :=
  [.stopStreaming 0, .enterCallback true false, .leaveCallback, .transfer (.cancel false),
    .transfer (.cancel false), .transfer (.complete 0 false), .transfer (.callback 0),
    .transfer (.complete 1 false), .transfer (.callback 1), .transfer .wake, .endCaller, .closed 0]

theorem reader_sessions_busy : ∃ s,
    Steps.run (step 2) initial (busyLabels ++ stopLabels ++ startLabels 9) = some s ∧
    s.events = [.started 3 7, .delivered 3 (some 7), .stopped, .started 4 9] ∧
    Steps.run sessionStep none s.events = some s.session ∧ s.stoppers.length ≤ 1 ∧
    (s.reader.streaming = true ↔ s.stream ≠ none ∧ s.starter = none ∧ s.stoppers = []) :=
  ⟨_, rfl, rfl, @reader_sessions 2 _ (busyLabels ++ stopLabels ++ startLabels 9) rfl⟩

theorem reader_resources_busy : ∃ s,
    Steps.run (step 2) initial (busyLabels ++ stopLabels ++ startLabels 9) = some s ∧
    s.resources = [.stream 4, .deviceHandle 2, .device 1, .context 0] ∧
    (s.isInitialized = true ∨ s.resources = []) ∧ Nested s.refs s.resources ∧
    Owns s.decoderRefs (held s.decoder) ∧
    ∀ s', s.step 2 .shutdown = some s' → Nested s'.refs [] ∧ Owns s'.decoderRefs 0 :=
  ⟨_, rfl, rfl, @reader_resources 2 _ (busyLabels ++ stopLabels ++ startLabels 9) rfl⟩

end ReaderSystem

end ZsaSdk
