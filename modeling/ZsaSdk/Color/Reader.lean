import ZsaSdk.Lib.Nested
import ZsaSdk.Lib.Steps
import ZsaSdk.Color.Model
import ZsaSdk.Uvc.Transfers

/-!
# The camera reader and its threads

`UVCCameraReader` with what it holds of libuvc, and the threads that meet in it: any number of
threads that call `Start` and `Stop`, the thread of libuvc that calls `Callback`, and libusb, which
calls back with the transfers of the stream.

*Resources.*  The context, the device, its handle and the stream are built on one another.  `refs`
records when each is obtained and given back; the code does not read it.  The decoder is obtained
by the first frame that needs it.

*Lock.*  `Start`, `Callback` and the first part of `Stop` hold `m_mutex`.  A thread that waits for
it is one of `waiting`.  `Start` keeps it while it is in `uvc_start_streaming`, where it is the
`starter`.  `Stop` releases it before it calls `uvc_stop_streaming`, so that other threads run
between the two; a thread that is there is one of `stoppers`.

*libuvc.*  `uvc_start_streaming` refuses a second stream of an interface.  It opens a stream, starts
the thread that calls the callback and submits the transfers; if the first of them cannot be
submitted, it closes the stream again.  `uvc_stop_streaming` closes the streams of the device.  To
close a stream is to clear `running`, to wait until its transfers are freed and its thread has
ended, and to remove it from the list of the device.

`Init` and `Shutdown` are called while no other call is in progress: `color.cpp` makes them before
a handle is returned and when it is destroyed.
-/

namespace ZsaSdk

open Ledger

/-- What libuvc hands out; the number tells apart what is obtained at different times. -/
inductive UvcResource where
  | context (id : Nat)
  | device (id : Nat)
  | deviceHandle (id : Nat)
  | stream (id : Nat)
deriving DecidableEq, Repr

/-- Where `_uvc_user_caller`, the thread that calls the callback, is. -/
inductive UserCaller where
  | waiting
  /-- It has taken a frame and does not hold `m_mutex` yet. -/
  | calling
  /-- It is in `UVCCameraReader::Callback`, with `m_mutex`. -/
  | inside
  | ended
deriving DecidableEq, Repr

/-- `uvc_stream_handle_t`, as far as it is started and stopped. -/
structure UvcStreamHandle where
  id : Nat
  /-- `running` and the transfers -/
  transfers : StreamTransfers
  caller : UserCaller
deriving DecidableEq, Repr

/-- A call of the reader. -/
inductive ReaderCall where
  /-- `Start`, for the callback and its context, if they are given. -/
  | start (width height : UInt32) (imageFormat : ImageFormat) (callback : Option Nat)
      (o : UvcCameraReader.StartOutcome)
  | stop
deriving DecidableEq, Repr

/-- Where a thread in `Start` is that is in `uvc_start_streaming`. -/
inductive StartPhase where
  /-- In `uvc_stream_start`, with the transfers. -/
  | submitting
  /-- `uvc_stream_start` has failed, because the first transfer could not be submitted. -/
  | failed
  /-- In `uvc_stream_close`. -/
  | closing
deriving DecidableEq, Repr

/-- Where a thread in `Stop` is that has released the lock. -/
inductive StopPhase where
  | unlocked
  /-- In `uvc_stream_close`. -/
  | closing (stream : Nat)
deriving DecidableEq, Repr

/-- What a client sees of the reader. -/
inductive ReaderEvent where
  | started (stream callback : Nat)
  /-- `m_pCallback` is called with what has been made of a frame of the stream. -/
  | delivered (stream : Nat) (callback : Option Nat)
  | stopped
deriving DecidableEq, Repr

/-- The reader, the stream of its device, and the threads. -/
structure ReaderSystem where
  reader : UvcCameraReader
  pContext : Option Nat
  pDevice : Option Nat
  pDeviceHandle : Option Nat
  /-- `m_pCallback` and `m_pCallbackContext` -/
  pCallback : Option Nat
  decoder : Option Nat
  /-- `devh->streams` -/
  stream : Option UvcStreamHandle
  /-- The threads that wait for `m_mutex`. -/
  waiting : List ReaderCall
  /-- The thread that holds `m_mutex` in `uvc_start_streaming`. -/
  starter : Option StartPhase
  stoppers : List StopPhase
  /-- The number of the next resource. -/
  serial : Nat
  refs : List (RefOp UvcResource)
  decoderRefs : List (RefOp Nat)
  events : List ReaderEvent

namespace ReaderSystem

/-- A reader that has just been constructed. -/
def initial : ReaderSystem where
  reader := .new
  pContext := none
  pDevice := none
  pDeviceHandle := none
  pCallback := none
  decoder := none
  stream := none
  waiting := []
  starter := none
  stoppers := []
  serial := 0
  refs := []
  decoderRefs := []
  events := []

/-- `UVCCameraReader::IsInitialized` -/
def isInitialized (s : ReaderSystem) : Bool :=
  s.pContext.isSome && s.pDevice.isSome && s.pDeviceHandle.isSome

/-- What the reader and the stream hold, the last one first. -/
def resources (s : ReaderSystem) : List UvcResource :=
  (s.stream.map (.stream ·.id)).toList ++ (s.pDeviceHandle.map .deviceHandle).toList ++
    (s.pDevice.map .device).toList ++ (s.pContext.map .context).toList

/-! ## Calls -/

/-- The rest of `UVCCameraReader::Shutdown`, after the call of `Stop`.  `uvc_close` closes a
stream that is left. -/
def releaseAll (s : ReaderSystem) : ReaderSystem :=
  { s with
    reader := { s.reader with initialized := false }
    pContext := none
    pDevice := none
    pDeviceHandle := none
    decoder := none
    stream := if s.pDeviceHandle.isSome then none else s.stream
    refs := s.refs ++
      releaseOf (if s.pDeviceHandle.isSome then s.stream.map (.stream ·.id) else none) ++
      releaseOf (s.pDeviceHandle.map .deviceHandle) ++ releaseOf (s.pDevice.map .device) ++
      releaseOf (s.pContext.map .context)
    decoderRefs := s.decoderRefs ++ releaseOf s.decoder }

/-- `uvc_init(&m_pContext, NULL)` -/
def takeContext (s : ReaderSystem) : ReaderSystem :=
  { s with
    pContext := some s.serial
    serial := s.serial + 1
    refs := s.refs ++ [.acquire (.context s.serial)] }

/-- `uvc_find_device(m_pContext, &m_pDevice, …)` -/
def takeDevice (s : ReaderSystem) : ReaderSystem :=
  { s with
    pDevice := some s.serial
    serial := s.serial + 1
    refs := s.refs ++ [.acquire (.device s.serial)] }

/-- `uvc_open(m_pDevice, &m_pDeviceHandle)` -/
def takeDeviceHandle (s : ReaderSystem) : ReaderSystem :=
  { s with
    reader := { s.reader with initialized := true }
    pDeviceHandle := some s.serial
    serial := s.serial + 1
    refs := s.refs ++ [.acquire (.deviceHandle s.serial)] }

/-- `UVCCameraReader::Init`.  A reader that is not initialised is not streaming, so the calls of
`Shutdown` in it do not wait for a stream. -/
def init (s : ReaderSystem) (o : UvcCameraReader.InitOutcome) : ReaderSystem × Result :=
  if s.isInitialized then (s, .failed)
  else
    let s := s.releaseAll
    if o.initOk = false then (s, .failed)
    else
      let s := s.takeContext
      if o.findDeviceOk = false then (s.releaseAll, .failed)
      else
        let s := s.takeDevice
        if o.openOk = false then (s.releaseAll, .failed)
        else (s.takeDeviceHandle, .succeeded)

/-- `uvc_start_streaming` opens a stream, with `n` transfers. -/
def openStream (n : Nat) (s : ReaderSystem) (callback : Nat) : ReaderSystem :=
  { s with
    pCallback := some callback
    stream := some ⟨s.serial, .initial n, .waiting⟩
    starter := some .submitting
    serial := s.serial + 1
    refs := s.refs ++ [.acquire (.stream s.serial)] }

/-- `UVCCameraReader::Start`, up to the transfers that `uvc_start_streaming` submits.  A stream that
is still open makes `uvc_start_streaming` fail. -/
def start (n : Nat) (s : ReaderSystem) (width height : UInt32) (imageFormat : ImageFormat)
    (callback : Nat) (o : UvcCameraReader.StartOutcome) : ReaderSystem :=
  let o := { o with startStreamingOk := o.startStreamingOk && s.stream.isNone }
  match s.reader.start width height imageFormat o with
  | (reader, .failed) =>
      { s with
        reader := reader
        pCallback := if reader.callback then s.pCallback else none }
  -- `m_streaming` is set when `uvc_start_streaming` has returned.
  | (reader, .succeeded) =>
      { s with reader := { reader with streaming := false } }.openStream n callback

/-- The rest of `UVCCameraReader::Start`, when `uvc_start_streaming` has returned. -/
def started (s : ReaderSystem) (stream : UvcStreamHandle) : ReaderSystem :=
  { s with
    reader := { s.reader with streaming := true }
    starter := none
    events := s.events ++ (s.pCallback.map (.started stream.id)).toList }

/-- The same, when it has closed its stream and failed. -/
def startFailed (s : ReaderSystem) (id : Nat) : ReaderSystem :=
  { s with
    reader := { s.reader with widthPixels := 0, heightPixels := 0, callback := false }
    pCallback := none
    stream := none
    starter := none
    refs := s.refs ++ [.release (.stream id)] }

/-- `UVCCameraReader::Stop`, up to the release of the lock. -/
def stop (s : ReaderSystem) : ReaderSystem :=
  if s.reader.streaming then
    { s with
      reader := s.reader.stop
      pCallback := none
      stoppers := s.stoppers ++ [.unlocked]
      events := s.events ++ [.stopped] }
  else s

/-! ## Steps -/

/-- `m_mutex` is free. -/
def mutexFree (s : ReaderSystem) : Bool :=
  s.starter.isNone && s.stream.all fun stream => stream.caller != .inside

/-- A thread is in `Start` or `Stop`. -/
def InCall (s : ReaderSystem) : Prop := s.waiting ≠ [] ∨ s.starter ≠ none ∨ s.stoppers ≠ []

instance (s : ReaderSystem) : Decidable s.InCall := inferInstanceAs (Decidable (_ ∨ _ ∨ _))

/-- A step of one of the threads. -/
inductive Label where
  | init (o : UvcCameraReader.InitOutcome)
  /-- `Start` or `Stop` is called. -/
  | call (c : ReaderCall)
  /-- The `i`-th thread that waits for `m_mutex` gets it.  `Stop` goes up to the release of the
  lock, `Start` up to the transfers or to its end. -/
  | lock (i : Nat)
  /-- `uvc_start_streaming` submits the next transfer. -/
  | submit (ok : Bool)
  /-- `uvc_start_streaming` has submitted transfers, and `Start` returns. -/
  | startReturns
  /-- `uvc_start_streaming` calls `uvc_stream_close`, since it has submitted none. -/
  | closeFailed
  /-- `uvc_stream_close` has waited long enough, and `Start` fails. -/
  | startFails
  /-- A step of libusb, of the callback of a transfer, or of the thread that closes the stream. -/
  | transfer (label : StreamTransfers.Label)
  /-- The `i`-th thread in `Stop` calls `uvc_stop_streaming`, which closes the stream it finds. -/
  | stopStreaming (i : Nat)
  /-- The `i`-th thread in `Stop` has waited long enough; the stream is removed and freed. -/
  | closed (i : Nat)
  /-- `Shutdown`, after its call of `Stop` has returned. -/
  | shutdown
  /-- The user thread takes the frame that libuvc has ready. -/
  | takeFrame
  /-- `Callback` gets the lock, and calls `m_pCallback` if something can be made of the frame.  The
  frame may be the first one to need the decoder. -/
  | enterCallback (delivers needsDecoder : Bool)
  | leaveCallback
  | endCaller
deriving DecidableEq, Repr

/-- The stream is closed. -/
def dropStream (s : ReaderSystem) (id i : Nat) : ReaderSystem :=
  { s with
    stream := s.stream.filter fun stream => stream.id != id
    stoppers := s.stoppers.eraseIdx i
    refs := s.refs ++ [.release (.stream id)] }

/-- `DecodeMJPEGtoBGRA32` creates the decoder, if there is none. -/
def takeDecoder (s : ReaderSystem) : ReaderSystem :=
  match s.decoder with
  | some _ => s
  | none =>
      { s with
        decoder := some s.serial
        serial := s.serial + 1
        decoderRefs := s.decoderRefs ++ [.acquire s.serial] }

/-- `m_pCallback(result, capture, m_pCallbackContext)` -/
def callback (s : ReaderSystem) (id : Nat) : ReaderSystem :=
  { s with events := s.events ++ [.delivered id s.pCallback] }

/-- What `Callback` does with a frame of the stream, if the reader is streaming. -/
def handleFrame (s : ReaderSystem) (id : Nat) (delivers needsDecoder : Bool) : ReaderSystem :=
  if s.reader.streaming then
    let s := if needsDecoder then s.takeDecoder else s
    if delivers then s.callback id else s
  else s

/-- The user thread goes on. -/
def setCaller (s : ReaderSystem) (stream : UvcStreamHandle) (caller : UserCaller) : ReaderSystem :=
  { s with stream := some { stream with caller := caller } }

/-- A step of the transfers, if it is possible. -/
def stepTransfers (s : ReaderSystem) (label : StreamTransfers.Label) : Option ReaderSystem :=
  s.stream.bind fun stream => (stream.transfers.step label).map fun transfers =>
    { s with stream := some { stream with transfers } }

/-- The transfers are freed and the thread has ended, so that the stream can be removed. -/
def closable (stream : UvcStreamHandle) : Bool :=
  stream.transfers.phase == .stopped && stream.caller == .ended

/-- A call, up to `m_mutex`.  Without a callback, `Start` returns before it. -/
def arrive (s : ReaderSystem) : ReaderCall → ReaderSystem
  | .start _ _ _ none _ => s
  | c => { s with waiting := s.waiting ++ [c] }

/-- What a thread does that has got `m_mutex`. -/
def enter (n : Nat) (s : ReaderSystem) : ReaderCall → ReaderSystem
  | .start width height imageFormat (some callback) o =>
      s.start n width height imageFormat callback o
  | .start _ _ _ none _ => s
  | .stop => s.stop

/-- One step, if it is possible.  A stream has `n` transfers. -/
def step (n : Nat) (s : ReaderSystem) : Label → Option ReaderSystem
  | .init o => if s.InCall then none else some (s.init o).1
  | .call c => some (s.arrive c)
  | .lock i =>
      if s.mutexFree then
        s.waiting[i]?.map fun c => { s with waiting := s.waiting.eraseIdx i }.enter n c
      else none
  | .submit ok =>
      match s.starter, s.stream with
      | some .submitting, some stream =>
          -- `uvc_stream_start` fails only if this is the first transfer.
          let first := stream.transfers.phase == StreamPhase.starting 0
          { s with starter := some (if first && !ok then .failed else .submitting) }.stepTransfers
            (.submit ok)
      | _, _ => none
  | .startReturns =>
      match s.starter, s.stream with
      | some .submitting, some stream =>
          if stream.transfers.phase = .started then some (s.started stream) else none
      | _, _ => none
  | .closeFailed =>
      if s.starter = some .failed then { s with starter := some .closing }.stepTransfers .stop
      else none
  | .startFails =>
      match s.starter, s.stream with
      | some .closing, some stream =>
          if closable stream then some (s.startFailed stream.id) else none
      | _, _ => none
  | .transfer label =>
      match label with
      | .submit _ | .stop => none
      | _ => s.stepTransfers label
  | .stopStreaming i =>
      match s.stoppers[i]?, s.stream with
      | some .unlocked, none => some { s with stoppers := s.stoppers.eraseIdx i }
      | some .unlocked, some stream =>
          { s with stoppers := s.stoppers.set i (.closing stream.id) }.stepTransfers .stop
      | _, _ => none
  | .closed i =>
      match s.stoppers[i]? with
      | some (.closing id) =>
          if s.stream.all fun stream => stream.id != id || closable stream then
            some (s.dropStream id i)
          else none
      | _ => none
  | .shutdown => if s.InCall ∨ s.reader.streaming then none else some s.releaseAll
  | .takeFrame =>
      match s.stream with
      | some stream =>
          if stream.transfers.running && stream.caller == .waiting then
            some (s.setCaller stream .calling)
          else none
      | none => none
  | .enterCallback delivers needsDecoder =>
      match s.stream with
      | some stream =>
          if s.starter = none ∧ stream.caller = .calling then
            some ((s.handleFrame stream.id delivers needsDecoder).setCaller stream .inside)
          else none
      | none => none
  | .leaveCallback =>
      match s.stream with
      | some stream =>
          if stream.caller = .inside then some (s.setCaller stream .waiting) else none
      | none => none
  | .endCaller =>
      match s.stream with
      | some stream =>
          if !stream.transfers.running && stream.caller == .waiting then
            some (s.setCaller stream .ended)
          else none
      | none => none

/-! ## Sessions

What a client is promised: sessions that follow one another, each with the callback it was started
with, and frames of a session only between its start and its end. -/

/-- The session that is open: its stream and its callback. -/
abbrev Session := Option (Nat × Nat)

/-- The session after an event, if the event may happen. -/
def sessionStep : Session → ReaderEvent → Option Session
  | none, .started stream callback => some (some (stream, callback))
  | some (stream, callback), .delivered stream' callback' =>
      if stream' = stream ∧ callback' = some callback then some (some (stream, callback)) else none
  | some _, .stopped => some none
  | _, _ => none

/-- The session that the reader is in. -/
def session (s : ReaderSystem) : Session :=
  if s.reader.streaming then
    s.stream.bind fun stream => s.pCallback.map fun callback => (stream.id, callback)
  else none

end ReaderSystem

end ZsaSdk
