import ZsaSdk.Usbstreaming.Transfers

/-!
# One run of the callback

`usb_cmd_libusb_cb` as a whole.  It takes the image that a transfer arrived with, whatever the
status, and leaves the transfer in one of two states: in flight again with a new image
(`Reused`), or freed together with its data (`Freed`).

What happens to the memory follows from `usbCmdLibusbCb_spec`.  The deliveries are a matter of
their own: a success is delivered in the first part of the callback only, a failure in the
second only.
-/

namespace ZsaSdk

namespace UsbStream

variable {u u' v : UsbStream} {i d b im : Nat}

/-- A transfer whose callback is about to run. -/
structure Arrived (u : UsbStream) (i d b im : Nat) : Prop where
  data : Table.lookup u.data d = some ⟨some b, some im, i⟩
  transfer : ∃ bulkTransfer, Table.lookup u.transfers b = some bulkTransfer ∧
    bulkTransfer.userData = some d
  image : ∃ size, Table.lookup u.images im = some size
  listed : u.transferList[i]? = some (some d)

/-- The transfer is in flight with a new image of the size of the stream, whose buffer it
points to.  Its entry of the list, and everything that is not its own, is as before. -/
structure Reused (u u' : UsbStream) (i d b im im' : Nat) : Prop where
  fresh : Table.lookup u.images im' = none
  image : Table.lookup u'.images im' = some u.streamSize
  data : Table.lookup u'.data d = some ⟨some b, some im', i⟩
  transfer : Table.lookup u'.transfers b = some ⟨some d, some im', u.streamSize, true, false⟩
  list : u'.transferList = u.transferList
  other_data : ∀ d', d' ≠ d → Table.lookup u'.data d' = Table.lookup u.data d'
  other_transfers : ∀ b', b' ≠ b → Table.lookup u'.transfers b' = Table.lookup u.transfers b'
  other_images : ∀ j, j ≠ im → j ≠ im' → Table.lookup u'.images j = Table.lookup u.images j

/-- Nothing of the transfer is left, and nothing else has changed. -/
structure Freed (u u' : UsbStream) (i d b im : Nat) : Prop where
  gone : Gone u' i d b im
  off : AgreesOff u u' i d b im

/-- A transfer is not both. -/
theorem Reused.not_freed {im' : Nat} (h : Reused u u' i d b im im') : ¬ Freed u u' i d b im := by
  intro hfreed
  exact nomatch h.data.symm.trans hfreed.gone.data

/-! ## Deliveries -/

theorem delivered_imageDecRef (h : u.imageDecRef im = some u') :
    u'.delivered = u.delivered ∧ u'.streamSize = u.streamSize := by
  obtain ⟨size, -, rfl⟩ := Option.map_eq_some_iff.mp h
  exact ⟨rfl, rfl⟩

theorem delivered_imageSetSize {size : Nat} {x : Option Nat} (h : u.imageSetSize size x = some u') :
    u'.delivered = u.delivered ∧ u'.streamSize = u.streamSize ∧ u'.data = u.data ∧
      u'.transfers = u.transfers := by
  cases x with
  | none =>
      obtain rfl := Option.some.inj h
      exact ⟨rfl, rfl, rfl, rfl⟩
  | some im =>
      obtain ⟨n, -, rfl⟩ := Option.map_eq_some_iff.mp h
      exact ⟨rfl, rfl, rfl, rfl⟩

theorem delivered_usbCmdReleaseXfr (h : u.usbCmdReleaseXfr b = some u') :
    u'.delivered = u.delivered := by
  obtain ⟨d, -, h⟩ := Option.bind_eq_some_iff.mp h
  obtain ⟨transfer, -, h⟩ := Option.bind_eq_some_iff.mp h
  obtain ⟨v, hv, rfl⟩ := Option.map_eq_some_iff.mp h
  have hlist : v.delivered = (if u.transferList[transfer.listIndex]? = some (some d) then
      { u with transferList := u.transferList.set transfer.listIndex none } else u).delivered := by
    cases himage : transfer.image with
    | none =>
        rw [himage] at hv
        rw [← Option.some.inj hv]
    | some im =>
        rw [himage] at hv
        exact (delivered_imageDecRef hv).1
  refine hlist.trans ?_
  split <;> rfl

/-- A transfer that is given up delivers at most a failure. -/
theorem delivered_failTransfer {c : Completion} (h : u.failTransfer b d c = some u') :
    ∃ ds, u'.delivered = u.delivered ++ ds ∧ ∀ x ∈ ds, x.result = .failed := by
  obtain ⟨transfer, -, h⟩ := Option.bind_eq_some_iff.mp h
  obtain ⟨v, hv, h⟩ := Option.bind_eq_some_iff.mp h
  rw [delivered_usbCmdReleaseXfr h]
  split at hv
  · obtain ⟨w, hw, rfl⟩ := Option.map_eq_some_iff.mp hv
    refine ⟨[⟨.failed, transfer.image, transfer.image.bind (Table.lookup w.images)⟩], ?_, ?_⟩
    · rw [← (delivered_imageSetSize hw).1]
      rfl
    · intro x hx
      rw [List.mem_singleton.mp hx]
  · obtain rfl := Option.some.inj hv
    exact ⟨[], (List.append_nil _).symm, nofun⟩

/-- Submitting a transfer again delivers nothing.  If it succeeds the transfer points to the new
image. -/
theorem resubmit_spec {transfer : TransferData} {c : Completion} {r : UsbStream × Bool}
    (h : u.resubmit b d transfer c = some r) (hd : ∃ x, Table.lookup u.data d = some x)
    (hb : ∃ x, Table.lookup u.transfers b = some x) :
    r.1.delivered = u.delivered ∧ (r.2 = true → ∃ im',
      Table.lookup r.1.images im' = some u.streamSize ∧
      Table.lookup r.1.data d = some { transfer with image := some im' } ∧
      Table.lookup r.1.transfers b = some ⟨some d, some im', u.streamSize, true, false⟩) := by
  obtain ⟨x, hx⟩ := hd
  obtain ⟨y, hy⟩ := hb
  simp only [resubmit] at h
  split at h
  · split at h
    · obtain rfl := Option.some.inj h
      exact ⟨rfl, fun _ => ⟨u.images.length, Table.lookup_append_self _ _,
        Table.lookup_set_self hx _, Table.lookup_set_self hy _⟩⟩
    · obtain ⟨w, hw, rfl⟩ := Option.map_eq_some_iff.mp h
      exact ⟨(delivered_imageDecRef hw).1, fun h => absurd h Bool.false_ne_true⟩
  · obtain rfl := Option.some.inj h
    exact ⟨rfl, fun h => absurd h Bool.false_ne_true⟩

/-- The deliveries of the first part of the callback. -/
def successes (u : UsbStream) (im : Nat) (c : Completion) : List Delivery :=
  if c.timestampOk = true ∧ c.status = .completed ∧ u.streamGoing = true ∧ u.callback = true then
    [⟨.succeeded, some im, some c.actualLength⟩]
  else []

/-- The delivery of an image with the size that the transfer reports. -/
theorem deliverSuccess_spec (h : Arrived u i d b im) {c : Completion}
    (htimestamp : c.timestampOk = true) (hgoing : u.streamGoing = true)
    (hv : (if c.status = .completed ∧ u.callback = true then
      (u.imageSetSize c.actualLength (some im)).map fun u => u.deliver .succeeded (some im)
      else some u) = some v) :
    v.delivered = u.delivered ++ u.successes im c ∧ v.streamSize = u.streamSize ∧
      v.data = u.data ∧ v.transfers = u.transfers := by
  obtain ⟨n, hn⟩ := h.image
  split at hv
  · next hcompleted =>
    have hsuccess : u.successes im c = [⟨.succeeded, some im, some c.actualLength⟩] :=
      if_pos ⟨htimestamp, hcompleted.1, hgoing, hcompleted.2⟩
    have hset : u.imageSetSize c.actualLength (some im) =
        some { u with images := u.images.set im (some c.actualLength) } := by
      rw [imageSetSize, hn]
      rfl
    rw [hset, Option.map_some] at hv
    obtain rfl := Option.some.inj hv
    refine ⟨?_, rfl, rfl, rfl⟩
    rw [hsuccess]
    simp only [deliver, Option.bind_some, Table.lookup_set_self hn]
  · next hnot =>
    have hsuccess : u.successes im c = [] := if_neg fun hs => hnot ⟨hs.2.1, hs.2.2.2⟩
    obtain rfl := Option.some.inj hv
    exact ⟨by rw [hsuccess, List.append_nil], rfl, rfl, rfl⟩

theorem completeTransfer_spec (h : Arrived u i d b im) {c : Completion} {r : UsbStream × Bool}
    (hr : u.completeTransfer b d ⟨some b, some im, i⟩ c = some r) :
    r.1.delivered = u.delivered ++ u.successes im c ∧ (r.2 = true → ∃ im',
      Table.lookup r.1.images im' = some u.streamSize ∧
      Table.lookup r.1.data d = some ⟨some b, some im', i⟩ ∧
      Table.lookup r.1.transfers b = some ⟨some d, some im', u.streamSize, true, false⟩) := by
  simp only [completeTransfer] at hr
  split at hr
  · next htimestamp =>
    have hsuccess : u.successes im c = [] :=
      if_neg fun hs => Bool.false_ne_true (htimestamp.symm.trans hs.1)
    obtain rfl := Option.some.inj hr
    exact ⟨by rw [hsuccess, List.append_nil], fun h => absurd h Bool.false_ne_true⟩
  next htimestamp =>
  split at hr
  · next hgoing =>
    obtain ⟨w, hw, hr⟩ := Option.bind_eq_some_iff.mp hr
    obtain ⟨v, hv, hw⟩ := Option.bind_eq_some_iff.mp hw
    obtain ⟨hdelivered, hsize, hdata, htransfers⟩ :=
      deliverSuccess_spec h (by simpa using htimestamp) hgoing.2 hv
    obtain ⟨n, -, rfl⟩ := Option.map_eq_some_iff.mp hw
    obtain ⟨bulkTransfer, hb, -⟩ := h.transfer
    rw [← hdelivered, ← hsize]
    exact resubmit_spec hr ⟨_, (congrArg (Table.lookup · d) hdata).trans h.data⟩
      ⟨_, (congrArg (Table.lookup · b) htransfers).trans hb⟩
  · next hnot =>
    have hsuccess : u.successes im c = [] := if_neg fun hs => hnot ⟨Or.inl hs.2.1, hs.2.2.1⟩
    obtain rfl := Option.some.inj hr
    exact ⟨by rw [hsuccess, List.append_nil], fun h => absurd h Bool.false_ne_true⟩

theorem length_successes (u : UsbStream) (im : Nat) (c : Completion) :
    (u.successes im c).length ≤ 1 := by
  rw [successes]
  split
  · exact Nat.le_refl 1
  · exact Nat.zero_le 1

/-- A success is delivered for a completed transfer of a stream that is going, with the size
that the transfer reports. -/
theorem mem_successes {c : Completion} {x : Delivery} (h : x ∈ u.successes im c) :
    c.status = .completed ∧ u.streamGoing = true ∧
      x = ⟨.succeeded, some im, some c.actualLength⟩ := by
  rw [successes] at h
  split at h
  · next hs => exact ⟨hs.2.1, hs.2.2.1, List.mem_singleton.mp h⟩
  · cases h

/-- What was delivered besides successes does not add to them. -/
theorem countP_succeeded {ds ds' : List Delivery} (h : ∀ x ∈ ds', x.result = .failed) :
    (ds ++ ds').countP (·.result = .succeeded) ≤ ds.length := by
  have hnone : ds'.countP (·.result = .succeeded) = 0 := by
    rw [List.countP_eq_zero]
    intro x hx
    simp [h x hx]
  rw [List.countP_append, hnone]
  exact List.countP_le_length

/-! ## The two ends -/

theorem Arrived.during (h : Arrived u i d b im) : During u u i d b im (some im) :=
  ⟨⟨fun _ _ => rfl, fun _ _ => rfl, fun _ _ => rfl, fun _ _ => rfl, rfl⟩, rfl, h.data, h.transfer,
    Or.inl ⟨rfl, h.image⟩⟩

/-- A resubmission with what is known of the transfer. -/
theorem Resubmitted.reused {im' im'' : Nat} (h : Resubmitted u u' i d b im im')
    (himage : Table.lookup u'.images im'' = some u.streamSize)
    (hdata : Table.lookup u'.data d = some ⟨some b, some im'', i⟩)
    (htransfer : Table.lookup u'.transfers b =
      some ⟨some d, some im'', u.streamSize, true, false⟩) :
    Reused u u' i d b im im'' := by
  have heq := congrArg TransferData.image (Option.some.inj (h.inFlight.data.symm.trans hdata))
  obtain rfl : im' = im'' := Option.some.inj heq
  exact ⟨h.fresh, himage, hdata, htransfer, h.list, h.data, h.transfers, h.images⟩

end UsbStream

/-- One run of the callback.  Releasing an image twice would have no result, so the image that
the transfer arrived with, which is there before and is not there afterwards, is released
once. -/
theorem completion_handled_exactly {u : UsbStream} {i d b im : Nat} (h : u.Arrived i d b im)
    (c : Completion) :
    ∃ u' ds, u.usbCmdLibusbCb b c = some u' ∧ u'.delivered = u.delivered ++ ds ∧
      Table.lookup u'.images im = none ∧ ds.countP (·.result = .succeeded) ≤ 1 ∧
      (∀ x ∈ ds, x.result = .succeeded → c.status = .completed ∧ u.streamGoing = true ∧
        x.image = some im ∧ x.size = some c.actualLength) ∧
      ((∃ im', u.Reused u' i d b im im') ∨ u.Freed u' i d b im) ∧
      ¬ ((∃ im', u.Reused u' i d b im im') ∧ u.Freed u' i d b im) := by
  obtain ⟨bulkTransfer, hb, hd⟩ := h.transfer
  obtain ⟨r, hr, hcases⟩ := h.during.complete h.listed c
  obtain ⟨hdelivered, hreused⟩ := UsbStream.completeTransfer_spec h hr
  have hcb : u.usbCmdLibusbCb b c =
      if r.2 then some { r.1 with streamGoing := r.1.streamGoing && !c.stopped }
      else
        UsbStream.failTransfer { r.1 with streamGoing := r.1.streamGoing && !c.stopped } b d c := by
    rw [UsbStream.usbCmdLibusbCb, hb, Option.bind_some, hd, Option.bind_some, h.data,
      Option.bind_some, hr, Option.bind_some]
  -- The successes come first, whatever the second part delivers.
  have hsucceeded : ∀ {ds : List Delivery}, (∀ x ∈ ds, x.result = .failed) →
      ∀ x ∈ u.successes im c ++ ds, x.result = .succeeded → c.status = .completed ∧
        u.streamGoing = true ∧ x.image = some im ∧ x.size = some c.actualLength := by
    intro ds hds x hx hresult
    rcases List.mem_append.mp hx with hx | hx
    · obtain ⟨hstatus, hgoing, rfl⟩ := UsbStream.mem_successes hx
      exact ⟨hstatus, hgoing, rfl, rfl⟩
    · cases hresult.symm.trans (hds x hx)
  have hcount : ∀ {ds : List Delivery}, (∀ x ∈ ds, x.result = .failed) →
      (u.successes im c ++ ds).countP (·.result = .succeeded) ≤ 1 := fun hds =>
    Nat.le_trans (UsbStream.countP_succeeded hds) (u.length_successes im c)
  rcases hcases with ⟨hfalse, x, hduring⟩ | ⟨htrue, -, im', hresub⟩
  · have hduring' : UsbStream.During u
        { r.1 with streamGoing := r.1.streamGoing && !c.stopped } i d b im x :=
      hduring.congr rfl rfl rfl rfl
    obtain ⟨u', hu', hoff, hgone⟩ := hduring'.fail h.listed c
    obtain ⟨ds, hds, hfailed⟩ := UsbStream.delivered_failTransfer hu'
    refine ⟨u', u.successes im c ++ ds, ?_, ?_, hgone.image, hcount hfailed, hsucceeded hfailed,
      Or.inr ⟨hgone, hoff⟩, ?_⟩
    · rw [hcb, hfalse, if_neg Bool.false_ne_true, hu']
    · rw [hds, ← List.append_assoc, ← hdelivered]
    · rintro ⟨⟨im', hr'⟩, hfreed⟩
      exact hr'.not_freed hfreed
  · obtain ⟨im'', himage, hdata, htransfer⟩ := hreused htrue
    have hr' := hresub.reused himage hdata htransfer
    refine ⟨_, u.successes im c ++ [], hcb.trans (if_pos htrue), ?_, hresub.released,
      hcount (List.forall_mem_nil _), hsucceeded (List.forall_mem_nil _), Or.inl ⟨im'', ?_⟩, ?_⟩
    · rw [List.append_nil]
      exact hdelivered
    · exact ⟨hr'.fresh, hr'.image, hr'.data, hr'.transfer, hr'.list, hr'.other_data,
        hr'.other_transfers, hr'.other_images⟩
    · rintro ⟨-, hfreed⟩
      cases hr'.data.symm.trans hfreed.gone.data

/-- A stream of 1000 bytes whose only transfer has arrived. -/
def arrivedStream : UsbStream :=
  ⟨true, 1000, true, [some 0], [some ⟨some 0, some 0, 0⟩],
    [some ⟨some 0, some 0, 1000, false, false⟩], [some 1000], []⟩

/-- A completed transfer of 100 bytes. -/
theorem completion_handled_exactly_completed :
    arrivedStream.Arrived 0 0 0 0 ∧
    ∃ u' ds, arrivedStream.usbCmdLibusbCb 0 ⟨.completed, 100, true, true, true, false⟩ = some u' ∧
      u'.delivered = ds ∧ ds.countP (·.result = .succeeded) ≤ 1 ∧
      Table.lookup u'.images 0 = none := by
  have harrived : arrivedStream.Arrived 0 0 0 0 := ⟨rfl, ⟨_, rfl, rfl⟩, ⟨_, rfl⟩, rfl⟩
  obtain ⟨u', ds, hu', hds, himage, hcount, -⟩ :=
    completion_handled_exactly harrived ⟨.completed, 100, true, true, true, false⟩
  exact ⟨harrived, u', ds, hu', hds, hcount, himage⟩

end ZsaSdk
