import ZsaSdk.Lib.Steps
import ZsaSdk.Lib.Table
import ZsaSdk.Types
import ZsaSdk.Usbcommand.Model

/-!
# USB streams

`usbstreaming.c`.  The thread of a stream submits up to eight transfers, each with an image
for its data, and then lets libusb handle events.  The callback of a transfer hands the image
on and submits the transfer again, or gives it up.  When the stream is stopped, the thread
cancels the transfers that are left.

*Memory.*  Transfer data, libusb transfers and images stand in one table each, and a pointer
is an index.  What has been freed leaves a hole.  Following a pointer to a hole, or freeing it
again, has no result.  An entry of the table of images is the reference of the SDK; a client
that keeps an image takes its own.

*libusb.*  A transfer is in flight from its submission to its callback, which runs while the
thread is in `libusb_handle_events_timeout_completed`.  Whether an allocation or a submission
succeeds, and what a completed transfer reports, is given with the step.  What is left out:
the synchronous transfers of `usb_cmd_io` handle events of the same libusb context, so the
callback of a stream may also run in a thread that sends a command meanwhile.

*One thread run.*  `transfer_list` belongs to the context and lives longer than a stream.  The
thread writes the entries it sets up and does not clear the others, so an entry that an earlier
stream has left behind is still there for the loop that cancels.  `start` begins with an empty
list, as after `usbcmd_create` or a stream that has left nothing.

*The flag.*  `stream_going` may be cleared at any time by another thread.  The callback reads
it twice, and a step says if it is cleared in between.
-/

namespace ZsaSdk

/-- `USB_CMD_MAX_XFR_COUNT` -/
def usbCmdMaxXfrCount : Nat := 8

/-- `USB_CMD_MAX_XFR_POOL`, where `_WIN32` is not defined. -/
def usbCmdMaxXfrPool : Nat := 10000000

/-- `enum libusb_transfer_status` -/
inductive TransferStatus where
  | completed
  | error
  | timedOut
  | cancelled
  | stall
  | noDevice
  | overflow
deriving DecidableEq, Repr

/-- `usb_async_transfer_data_t` -/
structure TransferData where
  bulkTransfer : Option Nat
  image : Option Nat
  listIndex : Nat
deriving DecidableEq, Repr

/-- `struct libusb_transfer`: what the library was given, with the image whose buffer it is to
fill, and whether it is in flight and has been cancelled. -/
structure LibusbTransfer where
  userData : Option Nat
  buffer : Option Nat
  length : Nat
  inFlight : Bool
  cancelled : Bool
deriving DecidableEq, Repr

/-- A transfer as `libusb_alloc_transfer` returns it. -/
def LibusbTransfer.fresh : LibusbTransfer := ⟨none, none, 0, false, false⟩

/-- A call of the client's callback, with the size of the image at the time. -/
structure Delivery where
  result : Result
  image : Option Nat
  size : Option Nat
deriving DecidableEq, Repr

/-- The part of `usbcmd_context_t` for streams, and the memory behind it.  `images` holds the
sizes. -/
structure UsbStream where
  streamGoing : Bool
  streamSize : Nat
  callback : Bool
  transferList : List (Option Nat)
  data : List (Option TransferData)
  transfers : List (Option LibusbTransfer)
  images : List (Option Nat)
  delivered : List Delivery
deriving DecidableEq, Repr

/-- What a completed transfer reports, and how the calls in its callback turn out. -/
structure Completion where
  status : TransferStatus
  actualLength : Nat
  timestampOk : Bool
  imageOk : Bool
  submitOk : Bool
  /-- `stream_going` is cleared between the two places where the callback reads it. -/
  stopped : Bool
deriving DecidableEq, Repr

namespace UsbStream

def setData (u : UsbStream) (d : Nat) (x : Option TransferData) : UsbStream :=
  { u with data := u.data.set d x }

def setTransfer (u : UsbStream) (b : Nat) (x : Option LibusbTransfer) : UsbStream :=
  { u with transfers := u.transfers.set b x }

/-- `image_dec_ref` -/
def imageDecRef (u : UsbStream) (i : Nat) : Option UsbStream :=
  (Table.lookup u.images i).map fun _ => { u with images := u.images.set i none }

/-- `if (image) image_dec_ref(image)` -/
def imageDecRefOf (u : UsbStream) : Option Nat → Option UsbStream
  | none => some u
  | some i => u.imageDecRef i

/-- `image_set_size`; a null handle is refused. -/
def imageSetSize (u : UsbStream) (size : Nat) : Option Nat → Option UsbStream
  | none => some u
  | some i =>
      (Table.lookup u.images i).map fun _ => { u with images := u.images.set i (some size) }

/-- `usbcmd->callback(result, image, ...)` -/
def deliver (u : UsbStream) (result : Result) (image : Option Nat) : UsbStream :=
  { u with
    delivered := u.delivered ++ [⟨result, image, image.bind (Table.lookup u.images)⟩] }

/-- `usb_cmd_release_xfr` -/
def usbCmdReleaseXfr (u : UsbStream) (b : Nat) : Option UsbStream :=
  ((Table.lookup u.transfers b).bind fun bulkTransfer => bulkTransfer.userData).bind fun d =>
    (Table.lookup u.data d).bind fun transfer =>
      let u := if u.transferList[transfer.listIndex]? = some (some d) then
          { u with transferList := u.transferList.set transfer.listIndex none }
        else u
      (u.imageDecRefOf transfer.image).map fun u => (u.setTransfer b none).setData d none

/-- A new image of `stream_size` bytes, the transfer filled with it, and submitted: the rest
of the callback of a transfer that is used again.  Says whether it was submitted. -/
def resubmit (u : UsbStream) (b d : Nat) (transfer : TransferData) (c : Completion) :
    Option (UsbStream × Bool) :=
  if c.imageOk then
    let i := u.images.length
    let u := { u with images := u.images ++ [some u.streamSize] }
    let u := u.setData d (some { transfer with image := some i })
    if c.submitOk then
      some (u.setTransfer b (some ⟨some d, some i, u.streamSize, true, false⟩), true)
    else
      let u := u.setTransfer b (some ⟨some d, some i, u.streamSize, false, false⟩)
      (u.imageDecRef i).map fun u => (u.setData d (some { transfer with image := none }), false)
  else some (u.setData d (some { transfer with image := none }), false)

/-- The first part of `usb_cmd_libusb_cb`, up to the test of `result`. -/
def completeTransfer (u : UsbStream) (b d : Nat) (transfer : TransferData) (c : Completion) :
    Option (UsbStream × Bool) :=
  match transfer.image with
  | none => some (u, false)
  | some i =>
      if c.timestampOk = false then some (u, false)
      else if (c.status = .completed ∨ c.status = .timedOut) ∧ u.streamGoing = true then
        let u := if c.status = .completed ∧ u.callback = true then
            (u.imageSetSize c.actualLength (some i)).map fun u => u.deliver .succeeded (some i)
          else some u
        (u.bind fun u => u.imageDecRef i).bind fun u => u.resubmit b d transfer c
      else some (u, false)

/-- The second part of `usb_cmd_libusb_cb`, for a transfer that is given up. -/
def failTransfer (u : UsbStream) (b d : Nat) (c : Completion) : Option UsbStream :=
  (Table.lookup u.data d).bind fun transfer =>
    let u := if u.streamGoing = true ∧ c.status ≠ .cancelled ∧ c.status ≠ .overflow ∧
        u.callback = true then
        (u.imageSetSize 0 transfer.image).map fun u => u.deliver .failed transfer.image
      else some u
    u.bind fun u => u.usbCmdReleaseXfr b

/-- `usb_cmd_libusb_cb` -/
def usbCmdLibusbCb (u : UsbStream) (b : Nat) (c : Completion) : Option UsbStream :=
  ((Table.lookup u.transfers b).bind fun bulkTransfer => bulkTransfer.userData).bind fun d =>
    ((Table.lookup u.data d).bind fun transfer => u.completeTransfer b d transfer c).bind fun r =>
      let u := { r.1 with streamGoing := r.1.streamGoing && !c.stopped }
      if r.2 then some u else u.failTransfer b d c

end UsbStream

/-! ## The thread -/

/-- How the calls in one iteration of the set-up loop turn out. -/
structure SetupOutcome where
  callocOk : Bool
  allocTransferOk : Bool
  imageOk : Bool
  submitOk : Bool
deriving DecidableEq, Repr

namespace UsbStream

/-- One iteration of the set-up loop, with the result it leaves.  A submission that fails is an
error for the first transfer only. -/
def setupTransfer (u : UsbStream) (i : Nat) (o : SetupOutcome) : UsbStream × Result :=
  let failed (u : UsbStream) : UsbStream × Result :=
    ({ u with transferList := u.transferList.set i none }, .failed)
  if o.callocOk = false then failed u
  else
    let d := u.data.length
    let u := { u with
      data := u.data ++ [some (TransferData.mk none none i)]
      transferList := u.transferList.set i (some d) }
    if o.allocTransferOk = false then failed (u.setData d none)
    else
      let b := u.transfers.length
      let u := { u with transfers := u.transfers ++ [some LibusbTransfer.fresh] }
      let u := u.setData d (some ⟨some b, none, i⟩)
      if o.imageOk = false then failed ((u.setTransfer b none).setData d none)
      else
        let image := u.images.length
        let u := { u with images := u.images ++ [some u.streamSize] }
        let u := u.setData d (some ⟨some b, some image, i⟩)
        let u := u.setTransfer b
          (some ⟨some d, some image, u.streamSize, o.submitOk, false⟩)
        if o.submitOk = false ∧ i = 0 then
          let u := { u with images := u.images.set image none }
          failed ((u.setTransfer b none).setData d none)
        else (u, .succeeded)

/-- `libusb_cancel_transfer`; a transfer that is not in flight is refused. -/
def libusbCancelTransfer (u : UsbStream) (b : Nat) : Option UsbStream :=
  (Table.lookup u.transfers b).map fun bulkTransfer =>
    if bulkTransfer.inFlight then u.setTransfer b (some { bulkTransfer with cancelled := true })
    else u

end UsbStream

/-- Where `usb_cmd_lib_usb_thread` is. -/
inductive Phase where
  /-- At the head of the set-up loop. -/
  | setup (i xferPool : Nat)
  /-- At the condition of the servicing loop. -/
  | serving
  /-- In the event handling of the servicing loop. -/
  | handling
  /-- At the `i`-th entry in the loop that cancels. -/
  | cancel (i : Nat)
  /-- In the event handling that follows the cancellation of the `i`-th entry. -/
  | cancelling (i : Nat)
  | finished
deriving DecidableEq, Repr

/-- The thread with its variables, and the stream. -/
structure StreamThread where
  stream : UsbStream
  maxXfrPool : Nat
  phase : Phase
  result : Result
deriving DecidableEq, Repr

/-- A step of the thread, of libusb, or of the thread that stops the stream. -/
inductive StreamStep where
  /-- An iteration of the set-up loop. -/
  | setup (o : SetupOutcome)
  /-- The condition of the set-up loop is false. -/
  | setupDone
  /-- The condition of the servicing loop is tested. -/
  | test
  /-- A transfer is completed, and its callback runs. -/
  | completion (b : Nat) (c : Completion)
  /-- The event handling returns, with an error or not. -/
  | handled (err : Bool)
  /-- An entry is cancelled. -/
  | cancel
  /-- Another thread clears `stream_going`. -/
  | stop
deriving DecidableEq, Repr

namespace StreamThread

/-- What follows the set-up loop. -/
def leaveSetup (t : StreamThread) : StreamThread :=
  { t with phase := if t.result = .succeeded then .serving else .cancel 0 }

/-- The thread when it starts, on a list in which no earlier stream has left an entry. -/
def start (streamSize maxXfrPool : Nat) (callback : Bool) : StreamThread :=
  let t : StreamThread :=
    { stream := ⟨true, streamSize, callback, List.replicate usbCmdMaxXfrCount none, [], [], [], []⟩
      maxXfrPool
      phase := .setup 0 streamSize
      result := .succeeded }
  if streamSize > int32Max then { t with result := .failed }.leaveSetup else t

/-- The condition of the set-up loop. -/
def setupCondition (t : StreamThread) (i xferPool : Nat) : Bool :=
  i < usbCmdMaxXfrCount && xferPool < t.maxXfrPool

/-- The thread clears the flag, or remembers the error of the event handling. -/
def eventError (t : StreamThread) (err stop : Bool) : StreamThread :=
  if err then
    { t with
      stream := { t.stream with streamGoing := t.stream.streamGoing && !stop }
      result := .failed }
  else t

/-- One step.  The callback of a transfer runs once for each submission, and here in the thread
only. -/
def step (t : StreamThread) : StreamStep → Option StreamThread
  | .setup o =>
      match t.phase with
      | .setup i xferPool =>
          if t.setupCondition i xferPool then
            match t.stream.setupTransfer i o with
            | (stream, .succeeded) =>
                some { t with stream, phase := .setup (i + 1) (xferPool + stream.streamSize) }
            | (stream, .failed) => some { t with stream, result := .failed }.leaveSetup
          else none
      | _ => none
  | .setupDone =>
      match t.phase with
      | .setup i xferPool => if t.setupCondition i xferPool then none else some t.leaveSetup
      | _ => none
  | .test =>
      match t.phase with
      | .serving =>
          some { t with phase := if t.stream.streamGoing then .handling else .cancel 0 }
      | _ => none
  | .completion b c =>
      match t.phase with
      | .handling | .cancelling _ =>
          (Table.lookup t.stream.transfers b).bind fun bulkTransfer =>
            if bulkTransfer.inFlight then
              ((t.stream.setTransfer b (some { bulkTransfer with
                inFlight := false })).usbCmdLibusbCb b c).map fun stream => { t with stream }
            else none
      | _ => none
  | .handled err =>
      match t.phase with
      | .handling => some { t.eventError err true with phase := .serving }
      | .cancelling i => some { t.eventError err false with phase := .cancel (i + 1) }
      | _ => none
  | .cancel =>
      match t.phase with
      | .cancel i =>
          if i < usbCmdMaxXfrCount then
            match t.stream.transferList[i]? with
            | some (some d) =>
                ((Table.lookup t.stream.data d).bind fun transfer =>
                  transfer.bulkTransfer).bind fun b =>
                    (t.stream.libusbCancelTransfer b).map fun stream =>
                      { t with stream, phase := .cancelling i }
            | _ => some { t with phase := .cancel (i + 1) }
          else some { t with phase := .finished }
      | _ => none
  | .stop => some { t with stream := { t.stream with streamGoing := false } }

/-- A run of the thread. -/
def run (t : StreamThread) (steps : List StreamStep) : Option StreamThread :=
  Steps.run step t steps

end StreamThread

end ZsaSdk
