import Mathlib.Data.List.Nodup
import Mathlib.Algebra.Order.Ring.Nat
import ZsaSdk.Lib.Framing
import ZsaSdk.Usbcommand.Model

/-!
# Commands and their answers

After a failed transfer old messages stay in the channel, and later calls read them in
place of their own, one or more messages off.  `usb_cmd_io` accepts a response only if its
transaction id is that of the packet it has sent.

The device writes a framed stream: for each packet an optional data message and then a
response.  `LinkInv sent consumed w` says that what the host has consumed and what is still
in the channel make up this stream, and that the packets the device has seen are some of
those sent, in their order.  With distinct transaction ids the response that was accepted
ends the frame of the packet, and the message before it is the data of that frame
(`accepted_answer`).
-/

namespace ZsaSdk

open Framing

/-- The frame of an answer. -/
def Answer.frame (a : Answer) : Frame (List UInt8) := ⟨a.data, a.response.encode⟩

/-- The packet of a message, if it is a command. -/
def TxMessage.packet? : TxMessage → Option UsbCommandPacket
  | .command packet => some packet
  | .payload _ => none

/-- The transaction id of a packet. -/
def UsbCommandPacket.id (p : UsbCommandPacket) : UInt32 := p.header.packetTransactionId

/-- The packets the device has answered, has received or is about to receive. -/
def UsbLink.packets (w : UsbLink) : List UsbCommandPacket :=
  w.answers.map Answer.packet ++ w.received ++ w.tx.filterMap TxMessage.packet?

variable {asksData : UsbCommandPacket → Bool} {w w' : UsbLink} {sent : List UsbCommandPacket}
  {consumed : List (List UInt8)} {p : UsbCommandPacket}

/-- The packets `sent` and the messages `consumed` so far account for the link. -/
structure LinkInv (asksData : UsbCommandPacket → Bool) (sent : List UsbCommandPacket)
    (consumed : List (List UInt8)) (w : UsbLink) : Prop where
  order : w.packets.Sublist sent
  stream : consumed ++ w.rx = stream (w.answers.map Answer.frame) w.dataSent
  data : ∀ d, w.dataSent = some d → looksLikeResponse d = false
  answered : ∀ a ∈ w.answers, (asksData a.packet = true → a.data.isSome = true) ∧
    ∀ d, a.data = some d → looksLikeResponse d = false

theorem LinkInv.empty : LinkInv asksData [] [] .empty where
  order := List.Sublist.refl _
  stream := rfl
  data := nofun
  answered := nofun

/-! ## The device -/

theorem LinkInv.receive (h : LinkInv asksData sent consumed w) :
    LinkInv asksData sent consumed (w.deviceMove asksData .receive) := by
  cases ht : w.tx with
  | nil => simpa [UsbLink.deviceMove, ht] using h
  | cons m tx =>
      cases m with
      | payload bytes =>
          simp only [UsbLink.deviceMove, ht]
          refine ⟨?_, h.stream, h.data, h.answered⟩
          have horder := h.order
          rw [UsbLink.packets, ht] at horder
          exact horder
      | command packet =>
          simp only [UsbLink.deviceMove, ht]
          refine ⟨?_, h.stream, h.data, h.answered⟩
          have horder := h.order
          rw [UsbLink.packets, ht] at horder
          simpa [UsbLink.packets, TxMessage.packet?] using horder

theorem LinkInv.sendData (h : LinkInv asksData sent consumed w) (bytes : List UInt8) :
    LinkInv asksData sent consumed (w.deviceMove asksData (.sendData bytes)) := by
  simp only [UsbLink.deviceMove]
  split
  next packet received hr hd =>
      split
      next hc =>
          rw [Bool.and_eq_true, Bool.not_eq_true'] at hc
          refine ⟨h.order, ?_, ?_, h.answered⟩
          · have hs := h.stream
            rw [hd] at hs
            rw [stream_body, ← hs, List.append_assoc]
          · intro d hdata
            rw [← Option.some.inj hdata]
            exact hc.2
      next => exact h
  next => exact h

theorem LinkInv.respond (h : LinkInv asksData sent consumed w) (status : UInt32) :
    LinkInv asksData sent consumed (w.deviceMove asksData (.respond status)) := by
  simp only [UsbLink.deviceMove]
  split
  next packet received hr =>
      split
      next => exact h
      next hc =>
          refine ⟨?_, ?_, nofun, ?_⟩
          · have horder := h.order
            rw [UsbLink.packets, hr] at horder
            simpa [UsbLink.packets] using horder
          · rw [List.map_append, List.map_singleton]
            have htrailer := stream_trailer (w.answers.map Answer.frame) w.dataSent
              (Answer.response ⟨packet, w.dataSent, status⟩).encode
            exact ((List.append_assoc _ _ _).symm.trans (congrArg (· ++ [_]) h.stream)).trans
              htrailer.symm
          · intro a ha
            rcases List.mem_append.mp ha with ha | ha
            · exact h.answered a ha
            · obtain rfl := List.mem_singleton.mp ha
              refine ⟨?_, h.data⟩
              intro hasks
              cases hd : w.dataSent with
              | none => simp [hasks, hd] at hc
              | some d => rfl
  next => exact h

theorem LinkInv.deviceMove (h : LinkInv asksData sent consumed w) (move : DeviceMove) :
    LinkInv asksData sent consumed (w.deviceMove asksData move) := by
  cases move with
  | receive => exact h.receive
  | sendData bytes => exact h.sendData bytes
  | respond status => exact h.respond status

theorem LinkInv.moves (moves : List DeviceMove) : ∀ {w : UsbLink},
    LinkInv asksData sent consumed w →
      LinkInv asksData sent consumed (moves.foldl (UsbLink.deviceMove asksData) w) := by
  induction moves with
  | nil => exact fun h => h
  | cons move moves ih => exact fun h => ih (h.deviceMove move)

/-! ## Transfers -/

theorem LinkInv.pushCommand (h : LinkInv asksData sent consumed w) (p : UsbCommandPacket) :
    LinkInv asksData (sent ++ [p]) consumed { w with tx := w.tx ++ [.command p] } := by
  refine ⟨?_, h.stream, h.data, h.answered⟩
  have horder := h.order.append (List.Sublist.refl [p])
  simpa [UsbLink.packets, TxMessage.packet?] using horder

theorem LinkInv.pushPayload (h : LinkInv asksData sent consumed w) (bytes : List UInt8) :
    LinkInv asksData sent consumed { w with tx := w.tx ++ [.payload bytes] } := by
  refine ⟨?_, h.stream, h.data, h.answered⟩
  have hnone : [TxMessage.payload bytes].filterMap TxMessage.packet? = [] := rfl
  rw [UsbLink.packets, List.filterMap_append, hnone, List.append_nil]
  exact h.order

theorem LinkInv.mono (h : LinkInv asksData sent consumed w) (p : UsbCommandPacket) :
    LinkInv asksData (sent ++ [p]) consumed w :=
  ⟨h.order.trans (List.sublist_append_left _ _), h.stream, h.data, h.answered⟩

theorem LinkInv.sendCommand (h : LinkInv asksData sent consumed w) (p : UsbCommandPacket)
    (att : Attempt) :
    LinkInv asksData (sent ++ [p]) consumed (w.bulkTransferTx asksData (.command p) att).1 := by
  have hmoves := LinkInv.moves att.moves h
  simp only [UsbLink.bulkTransferTx]
  cases att.outcome with
  | ok => exact hmoves.pushCommand p
  | failedKept => exact hmoves.pushCommand p
  | failedLost => exact hmoves.mono p

theorem LinkInv.sendPayload (h : LinkInv asksData sent consumed w) (bytes : List UInt8)
    (att : Attempt) :
    LinkInv asksData sent consumed (w.bulkTransferTx asksData (.payload bytes) att).1 := by
  have hmoves := LinkInv.moves att.moves h
  simp only [UsbLink.bulkTransferTx]
  cases att.outcome with
  | ok => exact hmoves.pushPayload bytes
  | failedKept => exact hmoves.pushPayload bytes
  | failedLost => exact hmoves

theorem LinkInv.consume (h : LinkInv asksData sent consumed w) {m : List UInt8}
    {rx : List (List UInt8)} (hrx : w.rx = m :: rx) :
    LinkInv asksData sent (consumed ++ [m]) { w with rx } := by
  refine ⟨h.order, ?_, h.data, h.answered⟩
  rw [← h.stream, hrx, List.append_assoc]
  rfl

/-- A transfer from the device takes at most the next message, and takes it if it succeeds. -/
theorem LinkInv.bulkTransferRx (h : LinkInv asksData sent consumed w) (length : Nat)
    (att : Attempt) :
    match (w.bulkTransferRx asksData length att).2 with
    | some m => LinkInv asksData sent (consumed ++ [m]) (w.bulkTransferRx asksData length att).1
    | none => ∃ consumed', LinkInv asksData sent consumed' (w.bulkTransferRx asksData length att).1
    := by
  have hmoves := LinkInv.moves att.moves h
  simp only [UsbLink.bulkTransferRx]
  generalize att.moves.foldl (UsbLink.deviceMove asksData) w = v at *
  cases hrx : v.rx with
  | nil => exact ⟨consumed, hmoves⟩
  | cons m rx =>
      cases att.outcome with
      | ok =>
          simp only
          split
          next m' hm =>
              split at hm
              · rw [← Option.some.inj hm]
                exact hmoves.consume hrx
              · cases hm
          next => exact ⟨_, hmoves.consume hrx⟩
      | failedKept => exact ⟨consumed, hmoves⟩
      | failedLost => exact ⟨_, hmoves.consume hrx⟩

/-! ## One call -/

/-- The answer is the one to the packet of the call: the call has stored its status, and its
data and their size if the call reads and the command asks for data. -/
def AnsweredBy (asksData : UsbCommandPacket → Bool) (args : IoArgs) (r : IoReturn) (a : Answer) :
    Prop :=
  r.packet = some a.packet ∧ r.cmdStatus = some a.status ∧
    (args.rxData = true → asksData a.packet = true →
      ∃ d, a.data = some d ∧ r.rxData = some d ∧
        (args.transferCount = true → r.transferCount = some d.length))

/-- A response with the transaction id of a packet belongs to the answer to this packet, and
the message consumed before it is the data of the answer. -/
theorem LinkInv.accepted_answer {m : List UInt8}
    (h : LinkInv asksData sent (consumed ++ [m]) w)
    (hids : (sent.map UsbCommandPacket.id).Nodup) (hp : p ∈ sent)
    (hm : looksLikeResponse m = true)
    (hid : (UsbCommandResponse.ofBytes m).packetTransactionId = p.id) :
    ∃ a ∈ w.answers, a.packet = p ∧ (UsbCommandResponse.ofBytes m).status = a.status ∧
      ∀ d, a.data = some d → consumed.getLast? = some d := by
  have hstream :
      Framing.stream (w.answers.map Answer.frame) w.dataSent = consumed ++ m :: w.rx := by
    rw [← h.stream, List.append_assoc]
    rfl
  obtain ⟨l, f, r, hsplit, hf, hpre⟩ := stream_split (looksLikeResponse · = true) hm
    (fun b hb => by rw [h.data b hb]; exact Bool.false_ne_true) _
    (fun f hf b hb => by
      obtain ⟨a, ha, rfl⟩ := List.mem_map.mp hf
      rw [(h.answered a ha).2 b hb]
      exact Bool.false_ne_true) hstream
  obtain ⟨a, ha, rfl⟩ : ∃ a ∈ w.answers, a.frame = f := by
    refine List.mem_map.mp ?_
    rw [hsplit]
    simp
  have hresponse : UsbCommandResponse.ofBytes m = a.response := by
    rw [← hf]
    exact UsbCommandResponse.ofBytes_encode _
  have hmem : a.packet ∈ sent := by
    refine h.order.subset ?_
    rw [UsbLink.packets, List.append_assoc]
    exact List.mem_append_left _ (List.mem_map_of_mem ha)
  refine ⟨a, ha, ?_, by rw [hresponse]; rfl, ?_⟩
  · rw [hresponse] at hid
    exact List.inj_on_of_nodup_map hids hmem hp hid
  · intro d hd
    rw [hpre, show a.frame.body = some d from hd, stream_body]
    exact List.getLast?_concat

/-- The data phase leaves the invariant, and the message it has stored is the last one
consumed. -/
theorem LinkInv.ioData (h : LinkInv asksData sent consumed w) (args : IoArgs) (att : Attempt) :
    match (ioData asksData w args att).2 with
    | none => ∃ consumed', LinkInv asksData sent consumed' (ioData asksData w args att).1
    | some (n, rxData) => ∃ consumed',
        LinkInv asksData sent consumed' (ioData asksData w args att).1 ∧
          (args.txData = none → args.rxData = true →
            ∃ m, rxData = some m ∧ n = m.length ∧ consumed'.getLast? = some m) := by
  cases ht : args.txData with
  | some bytes =>
      have hsend := h.sendPayload (bytes.take args.payloadSize) att
      simp only [ZsaSdk.ioData, ht]
      split
      · exact ⟨consumed, hsend⟩
      · exact ⟨consumed, hsend, nofun⟩
  | none =>
      cases hr : args.rxData with
      | false =>
          simp only [ZsaSdk.ioData, ht, hr]
          exact ⟨consumed, h, nofun⟩
      | true =>
          have hrx := h.bulkTransferRx args.payloadSize att
          simp only [ZsaSdk.ioData, ht, hr]
          cases hm : (w.bulkTransferRx asksData args.payloadSize att).2 with
          | none =>
              rw [hm] at hrx
              exact hrx
          | some m =>
              rw [hm] at hrx
              exact ⟨_, hrx, fun _ _ => ⟨m, rfl, rfl, List.getLast?_concat⟩⟩

/-- A status that is accepted is that of the answer to the packet. -/
theorem LinkInv.ioStatus (h : LinkInv asksData sent consumed w)
    (hids : (sent.map UsbCommandPacket.id).Nodup) (hp : p ∈ sent) (att : Attempt) :
    (∃ consumed', LinkInv asksData sent consumed' (ioStatus asksData w p att).1) ∧
      ∀ status, (ioStatus asksData w p att).2 = some status →
        ∃ a ∈ (ioStatus asksData w p att).1.answers, a.packet = p ∧ status = a.status ∧
          ∀ d, a.data = some d → consumed.getLast? = some d := by
  have hrx := h.bulkTransferRx responseSize att
  simp only [ZsaSdk.ioStatus]
  cases hm : (w.bulkTransferRx asksData responseSize att).2 with
  | none =>
      rw [hm] at hrx
      exact ⟨hrx, nofun⟩
  | some m =>
      rw [hm] at hrx
      refine ⟨⟨_, hrx⟩, ?_⟩
      intro status hs
      simp only [Option.bind_some, Option.ite_none_left_eq_some, Option.some.injEq,
        Bool.not_eq_true, Bool.or_eq_false_iff, decide_eq_false_iff_not, not_not] at hs
      obtain ⟨⟨⟨hlen, hid⟩, htype⟩, rfl⟩ := hs
      have hlooks : looksLikeResponse m = true := by
        simp [looksLikeResponse, hlen, htype]
      exact hrx.accepted_answer hids hp hlooks hid

theorem IoArgs.txData_of_valid {args : IoArgs} (hv : args.valid = true)
    (hr : args.rxData = true) : args.txData = none := by
  cases ht : args.txData with
  | none => rfl
  | some bytes => simp [IoArgs.valid, hr, ht] at hv

/-- What one call of `usb_cmd_io` leaves. -/
structure IoStep (asksData : UsbCommandPacket → Bool) (sent : List UsbCommandPacket)
    (usbcmd : UsbcmdContext) (args : IoArgs) (r : UsbcmdContext × UsbLink × IoReturn) : Prop where
  link : ∃ consumed, LinkInv asksData (sent ++ r.2.2.packet.toList) consumed r.2.1
  packet : (r.2.2.packet = none ∧ r.1 = usbcmd) ∨
    (r.2.2.packet = some (args.packet usbcmd.transactionId) ∧
      r.1.transactionId = usbcmd.transactionId + 1)
  answered : r.2.2.result = .succeeded → ∃ a ∈ r.2.1.answers, AnsweredBy asksData args r.2.2 a

theorem LinkInv.usbCmdIo (h : LinkInv asksData sent consumed w) (usbcmd : UsbcmdContext)
    (args : IoArgs) (schedule : IoSchedule)
    (hids : ((sent ++ [args.packet usbcmd.transactionId]).map UsbCommandPacket.id).Nodup) :
    IoStep asksData sent usbcmd args (usbCmdIo asksData usbcmd w args schedule) := by
  cases hv : args.valid with
  | false =>
      simp only [ZsaSdk.usbCmdIo, hv, if_true]
      exact ⟨⟨consumed, by simpa using h⟩, Or.inl ⟨rfl, rfl⟩, nofun⟩
  | true =>
      simp only [ZsaSdk.usbCmdIo, hv, Bool.true_eq_false, if_false]
      have hsend := h.sendCommand (args.packet usbcmd.transactionId) schedule.command
      generalize hw₁ : w.bulkTransferTx asksData (.command (args.packet usbcmd.transactionId))
        schedule.command = w₁ at *
      cases hok : w₁.2 with
      | false => exact ⟨⟨consumed, hsend⟩, Or.inr ⟨rfl, rfl⟩, nofun⟩
      | true =>
          simp only [Bool.true_eq_false, if_false]
          have hdata := hsend.ioData args schedule.data
          generalize ZsaSdk.ioData asksData w₁.1 args schedule.data = w₂ at *
          cases hd : w₂.2 with
          | none =>
              rw [hd] at hdata
              obtain ⟨consumed₂, hdata⟩ := hdata
              exact ⟨⟨consumed₂, hdata⟩, Or.inr ⟨rfl, rfl⟩, nofun⟩
          | some data =>
              obtain ⟨n, rxData⟩ := data
              rw [hd] at hdata
              obtain ⟨consumed₂, hdata, hlast⟩ := hdata
              obtain ⟨⟨consumed₃, hstatus⟩, haccept⟩ := hdata.ioStatus hids
                (List.mem_append_right _ (List.mem_singleton_self _)) schedule.status
              simp only
              generalize ZsaSdk.ioStatus asksData w₂.1 (args.packet usbcmd.transactionId)
                schedule.status = w₃ at *
              cases hs : w₃.2 with
              | none => exact ⟨⟨consumed₃, hstatus⟩, Or.inr ⟨rfl, rfl⟩, nofun⟩
              | some cmdStatus =>
                  refine ⟨⟨consumed₃, hstatus⟩, Or.inr ⟨rfl, rfl⟩, fun _ => ?_⟩
                  obtain ⟨a, ha, hpacket, hst, hbefore⟩ := haccept cmdStatus hs
                  refine ⟨a, ha, by rw [hpacket], by rw [hst], ?_⟩
                  intro hr hasks
                  obtain ⟨m, rfl, rfl, hm⟩ := hlast (args.txData_of_valid hv hr) hr
                  obtain ⟨d, hd⟩ := Option.isSome_iff_exists.mp ((hstatus.answered a ha).1 hasks)
                  have hdm : m = d := Option.some.inj (hm.symm.trans (hbefore d hd))
                  subst hdm
                  refine ⟨m, hd, rfl, fun hc => ?_⟩
                  simp [hc]

/-! ## Answers are kept -/

section Answers

variable (asksData)

theorem answers_deviceMove (w : UsbLink) (move : DeviceMove) :
    w.answers ⊆ (w.deviceMove asksData move).answers := by
  cases move with
  | receive =>
      simp only [UsbLink.deviceMove]
      split <;> exact List.Subset.refl _
  | sendData bytes =>
      simp only [UsbLink.deviceMove]
      split
      · split <;> exact List.Subset.refl _
      · exact List.Subset.refl _
  | respond status =>
      simp only [UsbLink.deviceMove]
      split
      · split
        · exact List.Subset.refl _
        · exact List.subset_append_left _ _
      · exact List.Subset.refl _

theorem answers_moves (moves : List DeviceMove) : ∀ w : UsbLink,
    w.answers ⊆ (moves.foldl (UsbLink.deviceMove asksData) w).answers := by
  induction moves with
  | nil => exact fun w => List.Subset.refl _
  | cons move moves ih =>
      exact fun w => List.Subset.trans (answers_deviceMove asksData w move) (ih _)

theorem answers_bulkTransferTx (w : UsbLink) (m : TxMessage) (att : Attempt) :
    w.answers ⊆ (w.bulkTransferTx asksData m att).1.answers := by
  have hmoves := answers_moves asksData att.moves w
  simp only [UsbLink.bulkTransferTx]
  cases att.outcome <;> exact hmoves

theorem answers_bulkTransferRx (w : UsbLink) (length : Nat) (att : Attempt) :
    w.answers ⊆ (w.bulkTransferRx asksData length att).1.answers := by
  have hmoves := answers_moves asksData att.moves w
  simp only [UsbLink.bulkTransferRx]
  split <;> exact hmoves

theorem answers_ioData (w : UsbLink) (args : IoArgs) (att : Attempt) :
    w.answers ⊆ (ioData asksData w args att).1.answers := by
  simp only [ioData]
  split
  · exact answers_bulkTransferTx asksData w _ att
  · exact answers_bulkTransferRx asksData w _ att
  · exact List.Subset.refl _

theorem answers_usbCmdIo (usbcmd : UsbcmdContext) (w : UsbLink) (args : IoArgs)
    (schedule : IoSchedule) :
    w.answers ⊆ (usbCmdIo asksData usbcmd w args schedule).2.1.answers := by
  cases hv : args.valid with
  | false =>
      simp only [usbCmdIo, hv, if_true]
      exact List.Subset.refl _
  | true =>
      simp only [usbCmdIo, hv, Bool.true_eq_false, if_false]
      have hsend := answers_bulkTransferTx asksData w
        (.command (args.packet usbcmd.transactionId)) schedule.command
      split
      · exact hsend
      · have hdata := List.Subset.trans hsend (answers_ioData asksData _ args schedule.data)
        split
        · exact hdata
        · have hstatus := List.Subset.trans hdata (answers_bulkTransferRx asksData _ responseSize
            schedule.status)
          split <;> exact hstatus

end Answers

/-! ## Whole runs -/

/-- The arguments a call gives to `usb_cmd_io`. -/
def UsbCall.args : UsbCall → IoArgs
  | .read cmd cmdData pData dataSize bytesRead =>
      ⟨cmd, cmdData, pData, dataSize, none, 0, bytesRead, true⟩
  | .readWithStatus cmd cmdData pData dataSize bytesRead cmdStatus =>
      ⟨cmd, cmdData, pData, dataSize, none, 0, bytesRead, cmdStatus⟩
  | .write cmd cmdData pData dataSize => ⟨cmd, cmdData, false, 0, pData, dataSize, false, true⟩
  | .writeWithStatus cmd cmdData pData dataSize cmdStatus =>
      ⟨cmd, cmdData, false, 0, pData, dataSize, false, cmdStatus⟩

/-- Each of the four functions is a call of `usb_cmd_io`. -/
theorem usbCallStep_io (asksData : UsbCommandPacket → Bool) (usbcmd : UsbcmdContext)
    (w : UsbLink) (call : UsbCall) (schedule : IoSchedule) :
    ((usbCallStep asksData usbcmd w call schedule).usbcmd,
      (usbCallStep asksData usbcmd w call schedule).link,
      (usbCallStep asksData usbcmd w call schedule).io) =
    usbCmdIo asksData usbcmd w call.args schedule := by
  cases call <;> rfl

/-- A `usb_cmd_read` or `usb_cmd_write` that succeeds has found the status 0. -/
theorem checkStatus_succeeded {r : IoReturn} (h : checkStatus r = .succeeded) :
    r.result = .succeeded ∧ r.cmdStatus = some 0 := by
  simp only [checkStatus] at h
  split at h
  · cases h
  next hn =>
      refine ⟨h, ?_⟩
      by_contra hs
      exact hn ⟨h, hs⟩

/-- The transaction ids of the first `n` packets, from `base` on. -/
def transactionIds (base : UInt32) (n : Nat) : List UInt32 :=
  (List.range n).map fun k => base + UInt32.ofNat k

theorem nodup_transactionIds (base : UInt32) {n : Nat} (hn : n ≤ 2 ^ 32) :
    (transactionIds base n).Nodup := by
  refine List.Nodup.map_on ?_ List.nodup_range
  intro i hi j hj hij
  have hnat := congrArg UInt32.toNat ((UInt32.add_right_inj base).mp hij)
  have hi' := List.mem_range.mp hi
  have hj' := List.mem_range.mp hj
  rwa [UInt32.toNat_ofNat', UInt32.toNat_ofNat', Nat.mod_eq_of_lt (by omega),
    Nat.mod_eq_of_lt (by omega)] at hnat

theorem transactionIds_succ (base : UInt32) (n : Nat) :
    transactionIds base (n + 1) = transactionIds base n ++ [base + UInt32.ofNat n] := by
  simp [transactionIds, List.range_succ]

/-- The state between two calls, after the packets `sent`. -/
structure RunInv (asksData : UsbCommandPacket → Bool) (base : UInt32)
    (sent : List UsbCommandPacket) (usbcmd : UsbcmdContext) (w : UsbLink) : Prop where
  link : ∃ consumed, LinkInv asksData sent consumed w
  ids : sent.map UsbCommandPacket.id = transactionIds base sent.length
  next : usbcmd.transactionId = base + UInt32.ofNat sent.length

theorem RunInv.step {base : UInt32} {usbcmd : UsbcmdContext}
    (h : RunInv asksData base sent usbcmd w) (hlen : sent.length < 2 ^ 32) (call : UsbCall)
    (schedule : IoSchedule) {r : UsbReturn} (hr : usbCallStep asksData usbcmd w call schedule = r) :
    RunInv asksData base (sent ++ r.io.packet.toList) r.usbcmd r.link ∧ w.answers ⊆ r.link.answers ∧
      (r.io.result = .succeeded → ∃ a ∈ r.link.answers, AnsweredBy asksData call.args r.io a) := by
  have hio := usbCallStep_io asksData usbcmd w call schedule
  rw [hr] at hio
  have hkept := answers_usbCmdIo asksData usbcmd w call.args schedule
  obtain ⟨consumed, hlink⟩ := h.link
  have hnext : (sent ++ [call.args.packet usbcmd.transactionId]).map UsbCommandPacket.id =
      transactionIds base (sent.length + 1) := by
    rw [List.map_append, h.ids, transactionIds_succ, ← h.next]
    rfl
  have hstep := hlink.usbCmdIo usbcmd call.args schedule
    (by rw [hnext]; exact nodup_transactionIds base hlen)
  rw [← hio] at hstep hkept
  refine ⟨⟨hstep.link, ?_, ?_⟩, hkept, hstep.answered⟩
  · rcases hstep.packet with ⟨hp, -⟩ | ⟨hp, -⟩
    · simp only at hp
      rw [hp, Option.toList_none, List.append_nil, h.ids]
    · simp only at hp
      rw [hp, Option.toList_some, hnext, List.length_append, List.length_singleton]
  · rcases hstep.packet with ⟨hp, hc⟩ | ⟨hp, hc⟩
    · simp only at hp hc
      rw [hp, hc, Option.toList_none, List.append_nil, h.next]
    · simp only at hp hc
      rw [hp, hc, Option.toList_some, List.length_append, List.length_singleton, h.next,
        UInt32.ofNat_add, UInt32.add_assoc]
      rfl

theorem RunInv.run {base : UInt32} (calls : List (UsbCall × IoSchedule)) :
    ∀ {usbcmd : UsbcmdContext} {w : UsbLink} {sent : List UsbCommandPacket},
      RunInv asksData base sent usbcmd w → sent.length + calls.length ≤ 2 ^ 32 →
      ∃ sent' usbcmd', sent' = sent ++ (usbRun asksData usbcmd w calls).2.filterMap
          (fun cr => cr.2.io.packet) ∧ sent'.length ≤ 2 ^ 32 ∧
        RunInv asksData base sent' usbcmd' (usbRun asksData usbcmd w calls).1 ∧
        w.answers ⊆ (usbRun asksData usbcmd w calls).1.answers ∧
        ∀ cr ∈ (usbRun asksData usbcmd w calls).2, cr.2.io.result = .succeeded →
          ∃ a ∈ (usbRun asksData usbcmd w calls).1.answers,
            AnsweredBy asksData cr.1.args cr.2.io a := by
  induction calls with
  | nil =>
      intro usbcmd w sent h hlen
      rw [List.length_nil, Nat.add_zero] at hlen
      refine ⟨sent, usbcmd, (List.append_nil _).symm, hlen, h, List.Subset.refl _, ?_⟩
      intro cr hcr
      exact absurd hcr List.not_mem_nil
  | cons call calls ih =>
      obtain ⟨call, schedule⟩ := call
      intro usbcmd w sent h hlen
      rw [List.length_cons] at hlen
      obtain ⟨hstep, hkept, hanswered⟩ := h.step (by omega) call schedule rfl
      simp only [usbRun]
      generalize usbCallStep asksData usbcmd w call schedule = r at *
      have hpacket : r.io.packet.toList.length ≤ 1 := Option.length_toList_le
      obtain ⟨sent', usbcmd', hsent, hlen', hrun, hkept', hanswered'⟩ := ih hstep
        (by rw [List.length_append]; omega)
      refine ⟨sent', usbcmd', ?_, hlen', hrun, List.Subset.trans hkept hkept', ?_⟩
      · rw [hsent, List.append_assoc]
        cases hp : r.io.packet <;> simp [hp]
      · intro cr hcr hsucc
        rcases List.mem_cons.mp hcr with rfl | hcr
        · obtain ⟨a, ha, hby⟩ := hanswered hsucc
          exact ⟨a, hkept' ha, hby⟩
        · exact hanswered' cr hcr hsucc

/-- A call succeeds only if its `usb_cmd_io` does. -/
theorem usbCallStep_succeeded {usbcmd : UsbcmdContext} {call : UsbCall} {schedule : IoSchedule}
    (h : (usbCallStep asksData usbcmd w call schedule).result = .succeeded) :
    (usbCallStep asksData usbcmd w call schedule).io.result = .succeeded := by
  cases call with
  | read => exact (checkStatus_succeeded h).1
  | readWithStatus => exact h
  | write => exact (checkStatus_succeeded h).1
  | writeWithStatus => exact h

theorem usbRun_mem (calls : List (UsbCall × IoSchedule)) :
    ∀ {usbcmd : UsbcmdContext} {w : UsbLink} {cr : UsbCall × UsbReturn},
      cr ∈ (usbRun asksData usbcmd w calls).2 →
      ∃ usbcmd' w' schedule, cr.2 = usbCallStep asksData usbcmd' w' cr.1 schedule := by
  induction calls with
  | nil =>
      intro usbcmd w cr hcr
      exact absurd hcr List.not_mem_nil
  | cons call calls ih =>
      obtain ⟨call, schedule⟩ := call
      intro usbcmd w cr hcr
      rcases List.mem_cons.mp hcr with rfl | hcr
      · exact ⟨usbcmd, w, schedule, rfl⟩
      · exact ih hcr

/-- For any device, any delays and any failed transfers: no two calls use the same transaction
id and the device answers no packet twice, and whenever `usb_cmd_io` succeeds, the status it
stores is that of the answer to the packet of this call.  If the call reads and the command
asks for data, the bytes and the count it stores are those of this answer. -/
theorem responses_match_commands (asksData : UsbCommandPacket → Bool) (usbcmd : UsbcmdContext)
    (calls : List (UsbCall × IoSchedule)) (hfew : calls.length < 2 ^ 32) :
    let out := usbRun asksData usbcmd .empty calls
    ((out.2.filterMap fun cr => cr.2.io.packet).map UsbCommandPacket.id).Nodup ∧
    (out.1.answers.map fun a => a.packet.id).Nodup ∧
    ∀ call r, (call, r) ∈ out.2 →
      (r.result = .succeeded → r.io.result = .succeeded) ∧
      (r.io.result = .succeeded →
        ∃ a ∈ out.1.answers, AnsweredBy asksData call.args r.io a) := by
  intro out
  have hinit : RunInv asksData usbcmd.transactionId [] usbcmd .empty :=
    ⟨⟨[], .empty⟩, rfl, (UInt32.add_zero _).symm⟩
  obtain ⟨sent, usbcmd', hsent, hlen, hrun, -, hanswered⟩ := hinit.run calls
    (by rw [List.length_nil, Nat.zero_add]; exact Nat.le_of_lt hfew)
  have hnodup : (sent.map UsbCommandPacket.id).Nodup := by
    rw [hrun.ids]
    exact nodup_transactionIds _ hlen
  obtain ⟨consumed, hlink⟩ := hrun.link
  refine ⟨?_, ?_, ?_⟩
  · rw [hsent, List.nil_append] at hnodup
    exact hnodup
  · have hsub : (out.1.answers.map Answer.packet).Sublist sent := by
      refine List.Sublist.trans ?_ hlink.order
      rw [UsbLink.packets, List.append_assoc]
      exact List.sublist_append_left _ _
    have hmap := hnodup.sublist (hsub.map UsbCommandPacket.id)
    rw [List.map_map] at hmap
    exact hmap
  · intro call r hmem
    refine ⟨?_, hanswered (call, r) hmem⟩
    obtain ⟨usbcmd', w', schedule, hr⟩ := usbRun_mem calls hmem
    simp only at hr
    rw [hr]
    exact usbCallStep_succeeded

/-- Only command 1 asks for data. -/
def asksOne (p : UsbCommandPacket) : Bool := p.header.command == 1

/-- Two reads.  The packet of the first is lost, the device answers the second. -/
def twoReads : List (UsbCall × IoSchedule) :=
  [(.read 1 [] true 8 true, ⟨⟨[], .failedLost⟩, ⟨[], .ok⟩, ⟨[], .ok⟩⟩),
    (.readWithStatus 1 [] true 8 true true,
      ⟨⟨[], .ok⟩, ⟨[.receive, .sendData [1, 2]], .ok⟩, ⟨[.respond 5], .ok⟩⟩)]

theorem responses_match_commands_second :
    let out := usbRun asksOne ⟨0⟩ .empty twoReads
    ∃ call r, ∃ a ∈ out.1.answers, out.2[1]? = some (call, r) ∧ call.args.rxData = true ∧
      AnsweredBy asksOne call.args r.io a ∧ r.io.cmdStatus = some 5 ∧
      r.io.rxData = some [1, 2] ∧ r.io.transferCount = some 2 := by
  have hargs : (usbRun asksOne ⟨0⟩ .empty twoReads).2[1]?.map (fun cr => cr.1.args.rxData) =
      some true := by decide
  have hio : (usbRun asksOne ⟨0⟩ .empty twoReads).2[1]?.map (fun cr =>
      (cr.2.io.result, cr.2.io.cmdStatus, cr.2.io.rxData, cr.2.io.transferCount)) =
      some (.succeeded, some 5, some [1, 2], some 2) := by decide
  obtain ⟨⟨call, r⟩, hr⟩ : ∃ cr, (usbRun asksOne ⟨0⟩ .empty twoReads).2[1]? = some cr := ⟨_, rfl⟩
  rw [hr, Option.map_some, Option.some.injEq] at hargs hio
  simp only [Prod.mk.injEq] at hio
  obtain ⟨-, -, hmatch⟩ := responses_match_commands asksOne ⟨0⟩ twoReads (by decide)
  obtain ⟨a, ha, hby⟩ := (hmatch call r (List.mem_of_getElem? hr)).2 hio.1
  exact ⟨call, r, a, ha, hr, hargs, hby, hio.2.1, hio.2.2.1, hio.2.2.2⟩

end ZsaSdk
