import ZsaSdk.Types

/-!
# Commands over USB

The command interface of `usbcommand.c`.  `usb_cmd_io` sends a command packet, then sends
or receives the data of the command, then receives a response and compares its
transaction id with that of the packet.

*Host.*  `usbCmdIo` and its four callers.  A buffer is the list of its bytes, a null
pointer is `none`, and an output is returned as the value stored.  The lock of the handle
makes calls follow each other.

*Endpoints.*  `UsbLink` holds the messages on the way to the device and from it, in order.
A transfer moves a whole message.  It can fail at any time, and then the message stays
where it is or is lost.

*Device.*  It receives packets in order and answers them in order, each after any delay:
with one data message if the command asks for data, and then with one response.  What it
sends is up to the device, except that a data message does not look like a response.
`answers` records what it has sent for each packet; the code does not read it.

An `Attempt` says what the device does up to a transfer and how the transfer ends.
-/

namespace ZsaSdk

/-! ## Packets and responses -/

/-- `USB_MAX_TX_DATA` -/
def usbMaxTxData : Nat := 128

/-- `USB_CMD_PACKET_TYPE` -/
def usbCmdPacketType : UInt32 := 0x06022009

/-- `USB_CMD_PACKET_TYPE_RESPONSE` -/
def usbCmdPacketTypeResponse : UInt32 := 0x0A6FE000

/-- `INT32_MAX` -/
def int32Max : Nat := 2147483647

/-- `usb_command_header_t` -/
structure UsbCommandHeader where
  packetType : UInt32
  packetTransactionId : UInt32
  payloadSize : UInt32
  command : UInt32
  reserved : UInt32
deriving DecidableEq, Repr

/-- `usb_command_packet_t`, with the bytes that are sent of its data. -/
structure UsbCommandPacket where
  header : UsbCommandHeader
  data : List UInt8
deriving DecidableEq, Repr

/-- `usb_command_response_t` -/
structure UsbCommandResponse where
  packetType : UInt32
  packetTransactionId : UInt32
  status : UInt32
  reserved : UInt32
deriving DecidableEq, Repr

/-- The four bytes of a `uint32_t`, lowest first. -/
def u32Bytes (x : UInt32) : List UInt8 :=
  [UInt8.ofNat x.toNat, UInt8.ofNat (x.toNat / 256), UInt8.ofNat (x.toNat / 65536),
    UInt8.ofNat (x.toNat / 16777216)]

/-- The `uint32_t` at an offset of a buffer. -/
def u32At (bytes : List UInt8) (i : Nat) : UInt32 :=
  UInt32.ofNat ((bytes.getD i 0).toNat + 256 * (bytes.getD (i + 1) 0).toNat +
    65536 * (bytes.getD (i + 2) 0).toNat + 16777216 * (bytes.getD (i + 3) 0).toNat)

/-- `sizeof(usb_command_response_t)` -/
def responseSize : Nat := 16

namespace UsbCommandResponse

/-- The response as the device sends it. -/
def encode (r : UsbCommandResponse) : List UInt8 :=
  u32Bytes r.packetType ++ u32Bytes r.packetTransactionId ++ u32Bytes r.status ++
    u32Bytes r.reserved

/-- The response a buffer holds. -/
def ofBytes (bytes : List UInt8) : UsbCommandResponse :=
  ⟨u32At bytes 0, u32At bytes 4, u32At bytes 8, u32At bytes 12⟩

end UsbCommandResponse

/-- The message has the size and the type of a response. -/
def looksLikeResponse (m : List UInt8) : Bool :=
  m.length == responseSize &&
    (UsbCommandResponse.ofBytes m).packetType == usbCmdPacketTypeResponse

/-! ## The device and the endpoints -/

/-- A message to the device. -/
inductive TxMessage where
  | command (packet : UsbCommandPacket)
  | payload (bytes : List UInt8)
deriving DecidableEq, Repr

/-- What the device has sent for a packet. -/
structure Answer where
  packet : UsbCommandPacket
  data : Option (List UInt8)
  status : UInt32
deriving DecidableEq, Repr

/-- The response of an answer. -/
def Answer.response (a : Answer) : UsbCommandResponse :=
  ⟨usbCmdPacketTypeResponse, a.packet.header.packetTransactionId, a.status, 0⟩

/-- The two endpoints and the device behind them. -/
structure UsbLink where
  /-- On the way to the device. -/
  tx : List TxMessage
  /-- Packets the device has received and not answered yet. -/
  received : List UsbCommandPacket
  /-- The data message the device has sent for the first of these packets. -/
  dataSent : Option (List UInt8)
  /-- On the way to the host. -/
  rx : List (List UInt8)
  answers : List Answer

/-- No message has been exchanged. -/
def UsbLink.empty : UsbLink := ⟨[], [], none, [], []⟩

/-- What the device does. -/
inductive DeviceMove where
  | receive
  | sendData (bytes : List UInt8)
  | respond (status : UInt32)
deriving DecidableEq, Repr

/-- How a transfer ends. -/
inductive Outcome where
  | ok
  /-- The transfer fails and the message is in the channel. -/
  | failedKept
  /-- The transfer fails and the message is gone. -/
  | failedLost
deriving DecidableEq, Repr

/-- What the device does up to a transfer, and how the transfer ends. -/
structure Attempt where
  moves : List DeviceMove
  outcome : Outcome
deriving DecidableEq, Repr

namespace UsbLink

section Device

-- Whether a command asks for read data.
variable (asksData : UsbCommandPacket → Bool)

/-- One move of the device; nothing happens if the device cannot make it. -/
def deviceMove (w : UsbLink) : DeviceMove → UsbLink
  | .receive =>
      match w.tx with
      | [] => w
      | .command packet :: tx => { w with tx, received := w.received ++ [packet] }
      | .payload _ :: tx => { w with tx }
  | .sendData bytes =>
      match w.received, w.dataSent with
      | packet :: _, none =>
          if asksData packet && !looksLikeResponse bytes then
            { w with dataSent := some bytes, rx := w.rx ++ [bytes] }
          else w
      | _, _ => w
  | .respond status =>
      match w.received with
      | packet :: received =>
          if asksData packet && w.dataSent.isNone then w
          else
            let answer : Answer := ⟨packet, w.dataSent, status⟩
            { w with
              received
              dataSent := none
              rx := w.rx ++ [answer.response.encode]
              answers := w.answers ++ [answer] }
      | [] => w

/-- `libusb_bulk_transfer` on `cmd_tx_endpoint`: whether it succeeds. -/
def bulkTransferTx (w : UsbLink) (m : TxMessage) (att : Attempt) : UsbLink × Bool :=
  let w := att.moves.foldl (deviceMove asksData) w
  match att.outcome with
  | .ok => ({ w with tx := w.tx ++ [m] }, true)
  | .failedKept => ({ w with tx := w.tx ++ [m] }, false)
  | .failedLost => (w, false)

/-- `libusb_bulk_transfer` on `cmd_rx_endpoint`: the message, if it succeeds.  Without a
message it times out, and a message that does not fit into the buffer is an overflow. -/
def bulkTransferRx (w : UsbLink) (length : Nat) (att : Attempt) : UsbLink × Option (List UInt8) :=
  let w := att.moves.foldl (deviceMove asksData) w
  match w.rx, att.outcome with
  | m :: rx, .ok => ({ w with rx }, if m.length ≤ length then some m else none)
  | _ :: rx, .failedLost => ({ w with rx }, none)
  | _, _ => (w, none)

end Device

end UsbLink

/-! ## `usb_cmd_io` -/

/-- The field of `usbcmd_context_t` the commands use. -/
structure UsbcmdContext where
  transactionId : UInt32
deriving DecidableEq, Repr

/-- The arguments of `usb_cmd_io`. -/
structure IoArgs where
  cmd : UInt32
  cmdData : List UInt8
  /-- `p_rx_data` is not null. -/
  rxData : Bool
  rxDataSize : Nat
  txData : Option (List UInt8)
  txDataSize : Nat
  /-- `transfer_count` is not null. -/
  transferCount : Bool
  /-- `cmd_status` is not null. -/
  cmdStatus : Bool

/-- The three transfers of a call. -/
structure IoSchedule where
  command : Attempt
  data : Attempt
  status : Attempt

/-- The result of `usb_cmd_io`, what it has stored behind its pointers, and the packet it has
formatted, which the code does not return. -/
structure IoReturn where
  result : Result
  cmdStatus : Option UInt32
  rxData : Option (List UInt8)
  transferCount : Option Nat
  packet : Option UsbCommandPacket
deriving DecidableEq, Repr

namespace IoArgs

/-- `payload_size` -/
def payloadSize (a : IoArgs) : Nat := if a.rxDataSize = 0 then a.txDataSize else a.rxDataSize

/-- `usb_cmd_pkt` -/
def packet (a : IoArgs) (transactionId : UInt32) : UsbCommandPacket where
  header := ⟨usbCmdPacketType, transactionId, UInt32.ofNat a.payloadSize, a.cmd, 0⟩
  data := a.cmdData

/-- The checks before the lock is taken. -/
def valid (a : IoArgs) : Bool :=
  a.cmdStatus && !(a.rxData && a.txData.isSome) && decide (a.cmdData.length ≤ usbMaxTxData) &&
    decide (a.payloadSize ≤ int32Max)

end IoArgs

section Io

variable (asksData : UsbCommandPacket → Bool)

/-- The data of the command, to the device or from it: the transfer count and the message
received.  `none` is the jump to `exit`. -/
def ioData (w : UsbLink) (a : IoArgs) (att : Attempt) :
    UsbLink × Option (Nat × Option (List UInt8)) :=
  match a.txData, a.rxData with
  | some bytes, _ =>
      let sent := w.bulkTransferTx asksData (.payload (bytes.take a.payloadSize)) att
      (sent.1, if sent.2 then some ((bytes.take a.payloadSize).length, none) else none)
  | none, true =>
      let got := w.bulkTransferRx asksData a.payloadSize att
      (got.1, got.2.map fun m => (m.length, some m))
  | none, false => (w, some (0, none))

/-- The response, as far as it is the one to the packet: its status. -/
def ioStatus (w : UsbLink) (packet : UsbCommandPacket) (att : Attempt) : UsbLink × Option UInt32 :=
  let got := w.bulkTransferRx asksData responseSize att
  (got.1, got.2.bind fun m =>
    let responsePacket := UsbCommandResponse.ofBytes m
    if m.length ≠ responseSize ||
        responsePacket.packetTransactionId ≠ packet.header.packetTransactionId ||
        responsePacket.packetType ≠ usbCmdPacketTypeResponse then none
    else some responsePacket.status)

/-- `usb_cmd_io` -/
def usbCmdIo (usbcmd : UsbcmdContext) (w : UsbLink) (a : IoArgs) (schedule : IoSchedule) :
    UsbcmdContext × UsbLink × IoReturn :=
  if a.valid = false then (usbcmd, w, ⟨.failed, none, none, none, none⟩)
  else
    let packet := a.packet usbcmd.transactionId
    let usbcmd := { usbcmd with transactionId := usbcmd.transactionId + 1 }
    let count (n : Nat) : Option Nat := if a.transferCount then some n else none
    let sent := w.bulkTransferTx asksData (.command packet) schedule.command
    if sent.2 = false then (usbcmd, sent.1, ⟨.failed, none, none, count 0, some packet⟩)
    else
      let data := ioData asksData sent.1 a schedule.data
      match data.2 with
      | none => (usbcmd, data.1, ⟨.failed, none, none, count 0, some packet⟩)
      | some (n, rxData) =>
          let status := ioStatus asksData data.1 packet schedule.status
          match status.2 with
          | none => (usbcmd, status.1, ⟨.failed, none, rxData, count n, some packet⟩)
          | some cmdStatus =>
              (usbcmd, status.1, ⟨.succeeded, some cmdStatus, rxData, count n, some packet⟩)

/-! ## The callers -/

/-- The end of `usb_cmd_read` and `usb_cmd_write`: a command that has failed on the device
has failed. -/
def checkStatus (r : IoReturn) : Result :=
  if r.result = .succeeded ∧ r.cmdStatus ≠ some 0 then .failed else r.result

/-- What a caller of `usb_cmd_io` leaves: its result, and the return it is made of. -/
structure UsbReturn where
  usbcmd : UsbcmdContext
  link : UsbLink
  io : IoReturn
  result : Result

/-- `usb_cmd_read` -/
def usbCmdRead (usbcmd : UsbcmdContext) (w : UsbLink) (cmd : UInt32) (cmdData : List UInt8)
    (pData : Bool) (dataSize : Nat) (bytesRead : Bool) (schedule : IoSchedule) : UsbReturn :=
  let r := usbCmdIo asksData usbcmd w
    ⟨cmd, cmdData, pData, dataSize, none, 0, bytesRead, true⟩ schedule
  ⟨r.1, r.2.1, r.2.2, checkStatus r.2.2⟩

/-- `usb_cmd_read_with_status` -/
def usbCmdReadWithStatus (usbcmd : UsbcmdContext) (w : UsbLink) (cmd : UInt32)
    (cmdData : List UInt8) (pData : Bool) (dataSize : Nat) (bytesRead cmdStatus : Bool)
    (schedule : IoSchedule) : UsbReturn :=
  let r := usbCmdIo asksData usbcmd w
    ⟨cmd, cmdData, pData, dataSize, none, 0, bytesRead, cmdStatus⟩ schedule
  ⟨r.1, r.2.1, r.2.2, r.2.2.result⟩

/-- `usb_cmd_write` -/
def usbCmdWrite (usbcmd : UsbcmdContext) (w : UsbLink) (cmd : UInt32) (cmdData : List UInt8)
    (pData : Option (List UInt8)) (dataSize : Nat) (schedule : IoSchedule) : UsbReturn :=
  let r := usbCmdIo asksData usbcmd w
    ⟨cmd, cmdData, false, 0, pData, dataSize, false, true⟩ schedule
  ⟨r.1, r.2.1, r.2.2, checkStatus r.2.2⟩

/-- `usb_cmd_write_with_status` -/
def usbCmdWriteWithStatus (usbcmd : UsbcmdContext) (w : UsbLink) (cmd : UInt32)
    (cmdData : List UInt8) (pData : Option (List UInt8)) (dataSize : Nat) (cmdStatus : Bool)
    (schedule : IoSchedule) : UsbReturn :=
  let r := usbCmdIo asksData usbcmd w
    ⟨cmd, cmdData, false, 0, pData, dataSize, false, cmdStatus⟩ schedule
  ⟨r.1, r.2.1, r.2.2, r.2.2.result⟩

/-- One call of the interface. -/
inductive UsbCall where
  | read (cmd : UInt32) (cmdData : List UInt8) (pData : Bool) (dataSize : Nat) (bytesRead : Bool)
  | readWithStatus (cmd : UInt32) (cmdData : List UInt8) (pData : Bool) (dataSize : Nat)
      (bytesRead cmdStatus : Bool)
  | write (cmd : UInt32) (cmdData : List UInt8) (pData : Option (List UInt8)) (dataSize : Nat)
  | writeWithStatus (cmd : UInt32) (cmdData : List UInt8) (pData : Option (List UInt8))
      (dataSize : Nat) (cmdStatus : Bool)
deriving DecidableEq, Repr

/-- Carry out one call. -/
def usbCallStep (usbcmd : UsbcmdContext) (w : UsbLink) (call : UsbCall) (schedule : IoSchedule) :
    UsbReturn :=
  match call with
  | .read cmd cmdData pData dataSize bytesRead =>
      usbCmdRead asksData usbcmd w cmd cmdData pData dataSize bytesRead schedule
  | .readWithStatus cmd cmdData pData dataSize bytesRead cmdStatus =>
      usbCmdReadWithStatus asksData usbcmd w cmd cmdData pData dataSize bytesRead cmdStatus schedule
  | .write cmd cmdData pData dataSize =>
      usbCmdWrite asksData usbcmd w cmd cmdData pData dataSize schedule
  | .writeWithStatus cmd cmdData pData dataSize cmdStatus =>
      usbCmdWriteWithStatus asksData usbcmd w cmd cmdData pData dataSize cmdStatus schedule

/-- Carry out a sequence of calls.  The result is the link at the end, and each call with its
return. -/
def usbRun (usbcmd : UsbcmdContext) (w : UsbLink) :
    List (UsbCall × IoSchedule) → UsbLink × List (UsbCall × UsbReturn)
  | [] => (w, [])
  | (call, schedule) :: calls =>
      let r := usbCallStep asksData usbcmd w call schedule
      let rest := usbRun r.usbcmd r.link calls
      (rest.1, (call, r) :: rest.2)

end Io

/-! ## The format of a response -/

theorem u32At_u32Bytes (x : UInt32) (l r : List UInt8) :
    u32At (l ++ (u32Bytes x ++ r)) l.length = x := by
  have h0 : (l ++ (u32Bytes x ++ r)).getD l.length 0 = UInt8.ofNat x.toNat := by simp [u32Bytes]
  have h1 : (l ++ (u32Bytes x ++ r)).getD (l.length + 1) 0 = UInt8.ofNat (x.toNat / 256) := by
    simp [u32Bytes]
  have h2 : (l ++ (u32Bytes x ++ r)).getD (l.length + 2) 0 = UInt8.ofNat (x.toNat / 65536) := by
    simp [u32Bytes]
  have h3 : (l ++ (u32Bytes x ++ r)).getD (l.length + 3) 0 =
      UInt8.ofNat (x.toNat / 16777216) := by
    simp [u32Bytes]
  have hlt := x.toNat_lt
  rw [u32At, h0, h1, h2, h3]
  refine UInt32.toNat_inj.mp ?_
  simp only [UInt8.toNat_ofNat', UInt32.toNat_ofNat']
  omega

@[simp] theorem length_u32Bytes (x : UInt32) : (u32Bytes x).length = 4 := rfl

namespace UsbCommandResponse

/-- Reading back a response that was sent. -/
@[simp] theorem ofBytes_encode (r : UsbCommandResponse) : ofBytes r.encode = r := by
  have ht : u32At r.encode 0 = r.packetType := by
    have h := u32At_u32Bytes r.packetType []
      (u32Bytes r.packetTransactionId ++ (u32Bytes r.status ++ u32Bytes r.reserved))
    simpa [encode] using h
  have hi : u32At r.encode 4 = r.packetTransactionId := by
    have h := u32At_u32Bytes r.packetTransactionId (u32Bytes r.packetType)
      (u32Bytes r.status ++ u32Bytes r.reserved)
    simpa [encode] using h
  have hs : u32At r.encode 8 = r.status := by
    have h := u32At_u32Bytes r.status (u32Bytes r.packetType ++ u32Bytes r.packetTransactionId)
      (u32Bytes r.reserved)
    simpa [encode] using h
  have hr : u32At r.encode 12 = r.reserved := by
    have h := u32At_u32Bytes r.reserved
      (u32Bytes r.packetType ++ u32Bytes r.packetTransactionId ++ u32Bytes r.status) []
    simpa [encode] using h
  rw [ofBytes, ht, hi, hs, hr]

end UsbCommandResponse

end ZsaSdk
