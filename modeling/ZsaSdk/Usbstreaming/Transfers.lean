import ZsaSdk.Usbstreaming.Model

/-!
# Every transfer is accounted for

Between two steps of the thread every transfer data, every libusb transfer and every image
that has not been freed belongs to a transfer that is in flight and stands in the list
(`Sound`).  The set-up loop adds one (`Sound.place`), a callback takes one away
(`Sound.release`) or does both with a new image.

The loop that cancels leaves no entry behind it, so when the thread has finished the list is
empty, and with it the tables.  Two things can break this.  A transfer of the set-up loop that
could not be submitted stays in the list, but no callback will free it.  And a set-up that
fails leaves `stream_going` true, so a transfer that completes just as it is cancelled is
submitted again, after the loop has passed its entry.  `Regular` excludes the two.
-/

namespace ZsaSdk

namespace UsbStream

variable {u u' : UsbStream} {i d b im : Nat}

/-! ## Transfers in flight -/

/-- A transfer in flight: its data, the libusb transfer, the image and the entry of the list
point to each other. -/
structure InFlight (u : UsbStream) (i d b im : Nat) : Prop where
  data : Table.lookup u.data d = some ⟨some b, some im, i⟩
  transfer : ∃ length cancelled,
    Table.lookup u.transfers b = some ⟨some d, some im, length, true, cancelled⟩
  image : ∃ size, Table.lookup u.images im = some size
  listed : u.transferList[i]? = some (some d)

/-- Everything that is allocated belongs to a transfer in flight. -/
structure Sound (u : UsbStream) : Prop where
  data : ∀ d x, Table.lookup u.data d = some x → ∃ b im, InFlight u x.listIndex d b im
  listed : ∀ i d, u.transferList[i]? = some (some d) →
    ∃ x, Table.lookup u.data d = some x ∧ x.listIndex = i
  transfers : ∀ b t, Table.lookup u.transfers b = some t →
    ∃ d x, Table.lookup u.data d = some x ∧ x.bulkTransfer = some b
  images : ∀ im size, Table.lookup u.images im = some size →
    ∃ d x, Table.lookup u.data d = some x ∧ x.image = some im
  owner : ∀ d d' x x' im, Table.lookup u.data d = some x → Table.lookup u.data d' = some x' →
    x.image = some im → x'.image = some im → d = d'
  length : u.transferList.length = usbCmdMaxXfrCount

/-- `u'` agrees with `u` apart from one transfer. -/
structure AgreesOff (u u' : UsbStream) (i d b im : Nat) : Prop where
  data : ∀ d', d' ≠ d → Table.lookup u'.data d' = Table.lookup u.data d'
  transfers : ∀ b', b' ≠ b → Table.lookup u'.transfers b' = Table.lookup u.transfers b'
  images : ∀ im', im' ≠ im → Table.lookup u'.images im' = Table.lookup u.images im'
  listed : ∀ i', i' ≠ i → u'.transferList[i']? = u.transferList[i']?
  length : u'.transferList.length = u.transferList.length

/-- Nothing of the transfer is left. -/
structure Gone (u : UsbStream) (i d b im : Nat) : Prop where
  data : Table.lookup u.data d = none
  transfer : Table.lookup u.transfers b = none
  image : Table.lookup u.images im = none
  listed : u.transferList[i]? = some none

/-- A transfer in flight that another one is not. -/
theorem Sound.apart {i' d' b' im' : Nat} (hs : Sound u) (h : InFlight u i d b im)
    (h' : InFlight u i' d' b' im') (hne : d' ≠ d) : i' ≠ i ∧ b' ≠ b ∧ im' ≠ im := by
  refine ⟨?_, ?_, ?_⟩
  · rintro rfl
    have heq := h'.listed.symm.trans h.listed
    exact hne (Option.some.inj (Option.some.inj heq))
  · rintro rfl
    obtain ⟨_, _, ht⟩ := h.transfer
    obtain ⟨_, _, ht'⟩ := h'.transfer
    have heq := congrArg LibusbTransfer.userData (Option.some.inj (ht'.symm.trans ht))
    exact hne (Option.some.inj heq)
  · rintro rfl
    exact hne (hs.owner d' d _ _ im' h'.data h.data rfl rfl)

theorem InFlight.of_agreesOff {i' d' b' im' : Nat} (h : InFlight u i' d' b' im')
    (hoff : AgreesOff u u' i d b im) (hd : d' ≠ d) (happart : i' ≠ i ∧ b' ≠ b ∧ im' ≠ im) :
    InFlight u' i' d' b' im' := by
  obtain ⟨hi, hb, him⟩ := happart
  refine ⟨?_, ?_, ?_, ?_⟩
  · rw [hoff.data d' hd]
    exact h.data
  · rw [hoff.transfers b' hb]
    exact h.transfer
  · rw [hoff.images im' him]
    exact h.image
  · rw [hoff.listed i' hi]
    exact h.listed

/-- A transfer is taken away. -/
theorem Sound.release (hs : Sound u) (h : InFlight u i d b im) (hoff : AgreesOff u u' i d b im)
    (hgone : Gone u' i d b im) : Sound u' := by
  -- Data that is left was there before, and is not that of the transfer.
  have hold : ∀ {d' x}, Table.lookup u'.data d' = some x →
      d' ≠ d ∧ Table.lookup u.data d' = some x := by
    intro d' x hx
    have hne : d' ≠ d := Table.ne_of_lookup hx hgone.data
    exact ⟨hne, (hoff.data d' hne).symm.trans hx⟩
  -- The data that owns what is left is left too.
  have hkeep : ∀ {d' x}, Table.lookup u.data d' = some x → d' ≠ d →
      Table.lookup u'.data d' = some x := fun hx hne => (hoff.data _ hne).trans hx
  refine ⟨?_, ?_, ?_, ?_, ?_, hoff.length.trans hs.length⟩
  · intro d' x hx
    obtain ⟨hne, hx⟩ := hold hx
    obtain ⟨b', im', h'⟩ := hs.data d' x hx
    exact ⟨b', im', h'.of_agreesOff hoff hne (hs.apart h h' hne)⟩
  · intro i' d' hi
    have hne : i' ≠ i := by
      rintro rfl
      rw [hgone.listed] at hi
      cases hi
    rw [hoff.listed i' hne] at hi
    obtain ⟨x, hx, rfl⟩ := hs.listed i' d' hi
    refine ⟨x, hkeep hx ?_, rfl⟩
    rintro rfl
    rw [h.data] at hx
    exact hne (congrArg TransferData.listIndex (Option.some.inj hx)).symm
  · intro b' t ht
    have hne : b' ≠ b := Table.ne_of_lookup ht hgone.transfer
    rw [hoff.transfers b' hne] at ht
    obtain ⟨d', x, hx, hb⟩ := hs.transfers b' t ht
    refine ⟨d', x, hkeep hx ?_, hb⟩
    rintro rfl
    rw [h.data] at hx
    rw [← Option.some.inj hx] at hb
    exact hne (Option.some.inj hb).symm
  · intro im' size him
    have hne : im' ≠ im := Table.ne_of_lookup him hgone.image
    rw [hoff.images im' hne] at him
    obtain ⟨d', x, hx, hb⟩ := hs.images im' size him
    refine ⟨d', x, hkeep hx ?_, hb⟩
    rintro rfl
    rw [h.data] at hx
    rw [← Option.some.inj hx] at hb
    exact hne (Option.some.inj hb).symm
  · intro d₁ d₂ x₁ x₂ im' h₁ h₂
    exact hs.owner d₁ d₂ x₁ x₂ im' (hold h₁).2 (hold h₂).2

/-- A transfer in flight, while nothing is left of another one. -/
theorem Gone.apart {i' d' b' im' : Nat} (hgone : Gone u i d b im)
    (h : InFlight u i' d' b' im') : i' ≠ i ∧ b' ≠ b ∧ im' ≠ im := by
  refine ⟨?_, ?_, ?_⟩
  · rintro rfl
    cases h.listed.symm.trans hgone.listed
  · obtain ⟨_, _, ht⟩ := h.transfer
    exact Table.ne_of_lookup ht hgone.transfer
  · obtain ⟨_, him⟩ := h.image
    exact Table.ne_of_lookup him hgone.image

/-- No data has the image of a transfer of which nothing is left. -/
theorem Sound.image_ne_of_gone (hs : Sound u) (hgone : Gone u i d b im) {d' : Nat}
    {x : TransferData} (hx : Table.lookup u.data d' = some x) : x.image ≠ some im := by
  intro heq
  obtain ⟨b', im', h⟩ := hs.data d' x hx
  have himage := congrArg TransferData.image (Option.some.inj (hx.symm.trans h.data))
  exact (hgone.apart h).2.2 (Option.some.inj (himage.symm.trans heq))

/-- A transfer is added. -/
theorem Sound.place (hs : Sound u) (hgone : Gone u i d b im) (hoff : AgreesOff u u' i d b im)
    (h : InFlight u' i d b im) : Sound u' := by
  have hnew : ∀ {d' x}, Table.lookup u.data d' = some x → d' ≠ d :=
    fun hx => Table.ne_of_lookup hx hgone.data
  have hkeep : ∀ {d' x}, Table.lookup u.data d' = some x → Table.lookup u'.data d' = some x :=
    fun hx => (hoff.data _ (hnew hx)).trans hx
  -- Data that is found now is that of the transfer, or was found before.
  have hcases : ∀ {d' x}, Table.lookup u'.data d' = some x →
      (d' = d ∧ x = ⟨some b, some im, i⟩) ∨ Table.lookup u.data d' = some x := by
    intro d' x hx
    by_cases hne : d' = d
    · subst hne
      rw [h.data] at hx
      exact Or.inl ⟨rfl, (Option.some.inj hx).symm⟩
    · exact Or.inr ((hoff.data d' hne).symm.trans hx)
  refine ⟨?_, ?_, ?_, ?_, ?_, hoff.length.trans hs.length⟩
  · intro d' x hx
    obtain ⟨rfl, rfl⟩ | hx := hcases hx
    · exact ⟨b, im, h⟩
    · obtain ⟨b', im', h'⟩ := hs.data d' x hx
      exact ⟨b', im', h'.of_agreesOff hoff (hnew hx) (hgone.apart h')⟩
  · intro i' d' hi
    by_cases hne : i' = i
    · subst hne
      obtain rfl := Option.some.inj (Option.some.inj (hi.symm.trans h.listed))
      exact ⟨_, h.data, rfl⟩
    · rw [hoff.listed i' hne] at hi
      obtain ⟨x, hx, rfl⟩ := hs.listed i' d' hi
      exact ⟨x, hkeep hx, rfl⟩
  · intro b' t ht
    by_cases hne : b' = b
    · exact ⟨d, _, h.data, congrArg some hne.symm⟩
    · rw [hoff.transfers b' hne] at ht
      obtain ⟨d', x, hx, hb⟩ := hs.transfers b' t ht
      exact ⟨d', x, hkeep hx, hb⟩
  · intro im' size him
    by_cases hne : im' = im
    · exact ⟨d, _, h.data, congrArg some hne.symm⟩
    · rw [hoff.images im' hne] at him
      obtain ⟨d', x, hx, hb⟩ := hs.images im' size him
      exact ⟨d', x, hkeep hx, hb⟩
  · intro d₁ d₂ x₁ x₂ im' h₁ h₂ hi₁ hi₂
    obtain ⟨rfl, rfl⟩ | h₁ := hcases h₁
    · obtain ⟨rfl, rfl⟩ | h₂ := hcases h₂
      · rfl
      · exact absurd (hi₂.trans hi₁.symm) (hs.image_ne_of_gone hgone h₂)
    · obtain ⟨rfl, rfl⟩ | h₂ := hcases h₂
      · exact absurd (hi₁.trans hi₂.symm) (hs.image_ne_of_gone hgone h₁)
      · exact hs.owner d₁ d₂ x₁ x₂ im' h₁ h₂ hi₁ hi₂

end UsbStream

/-! ## Setting up -/

/-- The transfer is made, but cannot be submitted. -/
def SetupOutcome.Unsubmitted (o : SetupOutcome) : Prop :=
  o.callocOk = true ∧ o.allocTransferOk = true ∧ o.imageOk = true ∧ o.submitOk = false

namespace UsbStream

variable {u u' : UsbStream} {i d b im : Nat}

/-- The state can differ in what is in the holes. -/
theorem Sound.congr (hs : Sound u) (hdata : ∀ d, Table.lookup u'.data d = Table.lookup u.data d)
    (htransfers : ∀ b, Table.lookup u'.transfers b = Table.lookup u.transfers b)
    (himages : ∀ im, Table.lookup u'.images im = Table.lookup u.images im)
    (hlist : u'.transferList = u.transferList) : Sound u' := by
  have hin : ∀ {i d b im}, InFlight u i d b im → InFlight u' i d b im := by
    intro i d b im h
    refine ⟨?_, ?_, ?_, ?_⟩
    · rw [hdata]
      exact h.data
    · rw [htransfers]
      exact h.transfer
    · rw [himages]
      exact h.image
    · rw [hlist]
      exact h.listed
  refine ⟨?_, ?_, ?_, ?_, ?_, hlist ▸ hs.length⟩
  · intro d x hx
    obtain ⟨b, im, h⟩ := hs.data d x (hdata d ▸ hx)
    exact ⟨b, im, hin h⟩
  · simp only [hlist, hdata]
    exact hs.listed
  · simp only [htransfers, hdata]
    exact hs.transfers
  · simp only [himages, hdata]
    exact hs.images
  · simp only [hdata]
    exact hs.owner

theorem set_none_of_free (hfree : u.transferList[i]? = some none) :
    u.transferList.set i none = u.transferList := by
  obtain ⟨hlt, hget⟩ := List.getElem?_eq_some_iff.mp hfree
  have hself := List.set_getElem_self hlt
  rwa [hget] at hself

/-- The stream with a transfer more. -/
def withTransfer (u : UsbStream) (i : Nat) : UsbStream :=
  { u with
    transferList := u.transferList.set i (some u.data.length)
    data := u.data ++ [some ⟨some u.transfers.length, some u.images.length, i⟩]
    transfers := u.transfers ++ [some ⟨some u.data.length, some u.images.length, u.streamSize,
      true, false⟩]
    images := u.images ++ [some u.streamSize] }

theorem Sound.withTransfer (hs : Sound u) (hfree : u.transferList[i]? = some none) :
    Sound (u.withTransfer i) := by
  have hlt := (List.getElem?_eq_some_iff.mp hfree).1
  refine hs.place (d := u.data.length) (b := u.transfers.length) (i := i)
    ⟨Table.lookup_length _, Table.lookup_length _, Table.lookup_length u.images, hfree⟩ ?_ ?_
  · refine ⟨?_, ?_, ?_, ?_, List.length_set⟩
    · exact fun d' hne => Table.lookup_append_ne hne _
    · exact fun b' hne => Table.lookup_append_ne hne _
    · exact fun im' hne => Table.lookup_append_ne hne _
    · exact fun i' hne => List.getElem?_set_ne (Ne.symm hne)
  · refine ⟨Table.lookup_append_self _ _, ⟨_, _, Table.lookup_append_self _ _⟩,
      ⟨_, Table.lookup_append_self _ _⟩, List.getElem?_set_self hlt⟩

/-- One iteration of the set-up loop at a free entry: it leaves everything as it was, or a new
transfer in flight. -/
theorem setupTransfer_spec (hs : Sound u) (hfree : u.transferList[i]? = some none)
    {o : SetupOutcome} (hsubmit : o.Unsubmitted → i = 0) :
    (∃ u', u.setupTransfer i o = (u', .failed) ∧ Sound u' ∧ u'.transferList = u.transferList) ∨
      u.setupTransfer i o = (u.withTransfer i, .succeeded) := by
  have hself := set_none_of_free hfree
  have hclear : ∀ x, (u.transferList.set i x).set i none = u.transferList := fun x => by
    rw [List.set_set, hself]
  simp only [setupTransfer]
  split
  · exact Or.inl ⟨_, rfl, hs.congr (fun _ => rfl) (fun _ => rfl) (fun _ => rfl) hself, hself⟩
  rename_i hcalloc
  split
  · refine Or.inl ⟨_, rfl, hs.congr (fun j => ?_) (fun _ => rfl) (fun _ => rfl) (hclear _),
      hclear _⟩
    simp [setData]
  rename_i halloc
  split
  · refine Or.inl ⟨_, rfl, hs.congr (fun j => ?_) (fun j => ?_) (fun _ => rfl) (hclear _), hclear _⟩
    · simp [setData, setTransfer]
    · simp [setData, setTransfer]
  rename_i himage
  split
  · refine Or.inl ⟨_, rfl, hs.congr (fun j => ?_) (fun j => ?_) (fun j => ?_) (hclear _), hclear _⟩
    · simp [setData, setTransfer]
    · simp [setData, setTransfer]
    · simp [setData, setTransfer]
  · rename_i hok
    have hsubmitted : o.submitOk = true := by
      cases h : o.submitOk with
      | true => rfl
      | false =>
          exact absurd ⟨h, hsubmit ⟨by simpa using hcalloc, by simpa using halloc,
            by simpa using himage, h⟩⟩ hok
    right
    simp [UsbStream.withTransfer, setData, setTransfer, hsubmitted]

/-! ## The callback -/

variable {v : UsbStream} {x : Option Nat}

/-- In the middle of the callback of a transfer: `v` differs from the state `u` before it in
the transfer only, and its image is still there or has been released. -/
structure During (u v : UsbStream) (i d b im : Nat) (x : Option Nat) : Prop where
  off : AgreesOff u v i d b im
  list : v.transferList = u.transferList
  data : Table.lookup v.data d = some ⟨some b, x, i⟩
  transfer : ∃ t, Table.lookup v.transfers b = some t ∧ t.userData = some d
  image : (x = some im ∧ ∃ size, Table.lookup v.images im = some size) ∨
    (x = none ∧ Table.lookup v.images im = none)

/-- Deliveries and the flag do not matter. -/
theorem During.congr {v' : UsbStream} (h : During u v i d b im x) (hdata : v'.data = v.data)
    (htransfers : v'.transfers = v.transfers) (himages : v'.images = v.images)
    (hlist : v'.transferList = v.transferList) : During u v' i d b im x := by
  obtain ⟨⟨h₁, h₂, h₃, h₄, h₅⟩, h₆, h₇, h₈, h₉⟩ := h
  rw [← hdata] at h₁ h₇
  rw [← htransfers] at h₂ h₈
  rw [← himages] at h₃ h₉
  rw [← hlist] at h₄ h₅ h₆
  exact ⟨⟨h₁, h₂, h₃, h₄, h₅⟩, h₆, h₇, h₈, h₉⟩

theorem During.exists_image (h : During u v i d b im (some im)) :
    ∃ n, Table.lookup v.images im = some n := by
  rcases h.image with ⟨-, hn⟩ | ⟨hx, -⟩
  · exact hn
  · cases hx

/-- The entry of the image changes. -/
theorem During.setImage (h : During u v i d b im (some im)) (size : Option Nat) :
    AgreesOff u { v with images := v.images.set im size } i d b im ∧
      Table.lookup (v.images.set im size) im = size := by
  obtain ⟨n, hn⟩ := h.exists_image
  constructor
  · refine ⟨h.off.data, h.off.transfers, fun im' hne => ?_, h.off.listed, h.off.length⟩
    exact (Table.lookup_set_ne (Ne.symm hne) size).trans (h.off.images im' hne)
  · exact Table.lookup_set_self hn size

theorem During.imageSetSize (h : During u v i d b im x) (size : Nat) :
    ∃ v', v.imageSetSize size x = some v' ∧ During u v' i d b im x := by
  rcases h.image with ⟨rfl, n, hn⟩ | ⟨rfl, -⟩
  · obtain ⟨hoff, hself⟩ := h.setImage (some size)
    refine ⟨{ v with images := v.images.set im (some size) }, ?_, ?_⟩
    · rw [UsbStream.imageSetSize, hn]
      rfl
    · exact ⟨hoff, h.list, h.data, h.transfer, Or.inl ⟨rfl, size, hself⟩⟩
  · exact ⟨v, rfl, h⟩

theorem During.deliver (h : During u v i d b im x) (result : Result) (image : Option Nat) :
    During u (v.deliver result image) i d b im x := h.congr rfl rfl rfl rfl

/-- The last step of a transfer. -/
theorem During.release (h : During u v i d b im x) (hlisted : u.transferList[i]? = some (some d)) :
    ∃ u', v.usbCmdReleaseXfr b = some u' ∧ AgreesOff u u' i d b im ∧ Gone u' i d b im := by
  obtain ⟨t, ht, hd⟩ := h.transfer
  have hlt := (List.getElem?_eq_some_iff.mp hlisted).1
  have hlisted' : v.transferList[i]? = some (some d) := by
    rw [h.list]
    exact hlisted
  -- What is left of the memory once the image is released.
  have hend : ∀ images : List (Option Nat), (∀ im', im' ≠ im →
        Table.lookup images im' = Table.lookup u.images im') → Table.lookup images im = none →
      AgreesOff u (({ v with transferList := v.transferList.set i none, images }.setTransfer b
          none).setData d none) i d b im ∧
        Gone (({ v with transferList := v.transferList.set i none, images }.setTransfer b
          none).setData d none) i d b im := by
    intro images hne hself
    constructor
    · refine ⟨fun d' hd' => ?_, fun b' hb' => ?_, hne, fun i' hi' => ?_, ?_⟩
      · exact (Table.lookup_set_ne (Ne.symm hd') none).trans (h.off.data d' hd')
      · exact (Table.lookup_set_ne (Ne.symm hb') none).trans (h.off.transfers b' hb')
      · exact (List.getElem?_set_ne (Ne.symm hi')).trans (h.off.listed i' hi')
      · exact List.length_set.trans h.off.length
    · refine ⟨Table.lookup_set_self h.data none, Table.lookup_set_self ht none, hself, ?_⟩
      exact List.getElem?_set_self (by rwa [h.list])
  rw [usbCmdReleaseXfr, ht, Option.bind_some, hd, Option.bind_some, h.data, Option.bind_some]
  simp only [hlisted', if_true]
  rcases h.image with ⟨rfl, n, hn⟩ | ⟨rfl, hn⟩
  · refine ⟨_, ?_, hend (v.images.set im none) (h.setImage none).1.images (h.setImage none).2⟩
    rw [imageDecRefOf, imageDecRef, hn]
    rfl
  · exact ⟨_, rfl, hend v.images h.off.images hn⟩

theorem During.fail (h : During u v i d b im x) (hlisted : u.transferList[i]? = some (some d))
    (c : Completion) :
    ∃ u', v.failTransfer b d c = some u' ∧ AgreesOff u u' i d b im ∧ Gone u' i d b im := by
  rw [failTransfer, h.data, Option.bind_some]
  dsimp only
  split
  · obtain ⟨v', hv', h'⟩ := h.imageSetSize 0
    rw [hv']
    exact (h'.deliver .failed x).release hlisted
  · exact h.release hlisted

end UsbStream

/-- The callback submits the transfer again. -/
def Completion.Resubmits (c : Completion) (streamGoing : Bool) : Prop :=
  c.timestampOk = true ∧ (c.status = .completed ∨ c.status = .timedOut) ∧ streamGoing = true ∧
    c.imageOk = true ∧ c.submitOk = true

namespace UsbStream

variable {u u' v : UsbStream} {i d b im : Nat} {x : Option Nat}

/-- The transfer is in flight again, with the image `im'` in place of `im`. -/
structure Resubmitted (u u' : UsbStream) (i d b im im' : Nat) : Prop where
  fresh : Table.lookup u.images im' = none
  data : ∀ d', d' ≠ d → Table.lookup u'.data d' = Table.lookup u.data d'
  transfers : ∀ b', b' ≠ b → Table.lookup u'.transfers b' = Table.lookup u.transfers b'
  images : ∀ j, j ≠ im → j ≠ im' → Table.lookup u'.images j = Table.lookup u.images j
  released : Table.lookup u'.images im = none
  list : u'.transferList = u.transferList
  inFlight : InFlight u' i d b im'

theorem During.resubmit (h : During u v i d b im (some im))
    (hlisted : u.transferList[i]? = some (some d))
    (c : Completion) :
    ∃ r, ({ v with images := v.images.set im none } : UsbStream).resubmit b d
        ⟨some b, some im, i⟩ c = some r ∧
      (r.2 = false ∧ During u r.1 i d b im none ∨
        r.2 = true ∧ (c.imageOk = true ∧ c.submitOk = true) ∧
          ∃ im', Resubmitted u r.1 i d b im im') := by
  obtain ⟨t, ht, hd⟩ := h.transfer
  obtain ⟨hoff, hnone⟩ := h.setImage none
  have hdata : ∀ y, ∀ d', d' ≠ d →
      Table.lookup (v.data.set d y) d' = Table.lookup u.data d' := fun y d' hne =>
    (Table.lookup_set_ne (Ne.symm hne) y).trans (h.off.data d' hne)
  have htransfers : ∀ y, ∀ b', b' ≠ b →
      Table.lookup (v.transfers.set b y) b' = Table.lookup u.transfers b' := fun y b' hne =>
    (Table.lookup_set_ne (Ne.symm hne) y).trans (h.off.transfers b' hne)
  -- The new image stands behind the others, one of which has just been released.
  have hlt : im < (v.images.set im none).length := by
    rw [List.length_set]
    obtain ⟨n, hn⟩ := h.exists_image
    exact Table.lt_of_lookup hn
  generalize v.images.set im none = images at hoff hnone hlt ⊢
  have hne : images.length ≠ im := Nat.ne_of_gt hlt
  simp only [UsbStream.resubmit]
  split
  · rename_i himage
    split
    · rename_i hsubmit
      refine ⟨_, rfl, Or.inr ⟨rfl, ⟨himage, hsubmit⟩, images.length, ?_⟩⟩
      refine ⟨?_, hdata _, htransfers _, ?_, ?_, h.list, ?_⟩
      · exact (hoff.images _ hne).symm.trans (Table.lookup_length images)
      · exact fun j hj hj' => (Table.lookup_append_ne hj' _).trans (hoff.images j hj)
      · exact (Table.lookup_append_ne (Ne.symm hne) _).trans hnone
      · refine ⟨Table.lookup_set_self h.data _, ⟨_, _, Table.lookup_set_self ht _⟩,
          ⟨_, Table.lookup_append_self _ _⟩, ?_⟩
        rw [← hlisted, ← h.list]
        rfl
    · have hlast : Table.lookup (images ++ [some v.streamSize]) images.length =
          some v.streamSize := Table.lookup_append_self _ _
      have hset : ∀ j, Table.lookup ((images ++ [some v.streamSize]).set images.length none) j =
          Table.lookup images j := by
        intro j
        simp
      refine ⟨_, congrArg (Option.map _) (congrArg (Option.map _) hlast), Or.inl ⟨rfl, ?_⟩⟩
      refine ⟨⟨?_, htransfers _, ?_, h.off.listed, h.off.length⟩, h.list, ?_, ?_, ?_⟩
      · intro d' hd'
        show Table.lookup ((v.data.set d _).set d _) d' = _
        rw [List.set_set]
        exact hdata _ d' hd'
      · exact fun j hj => (hset j).trans (hoff.images j hj)
      · show Table.lookup ((v.data.set d _).set d _) d = _
        rw [List.set_set]
        exact Table.lookup_set_self h.data _
      · exact ⟨_, Table.lookup_set_self ht _, rfl⟩
      · exact Or.inr ⟨rfl, (hset im).trans hnone⟩
  · refine ⟨_, rfl, Or.inl ⟨rfl, ⟨⟨hdata _, h.off.transfers, hoff.images, h.off.listed,
      h.off.length⟩, h.list, Table.lookup_set_self h.data _, ⟨t, ht, hd⟩, Or.inr ⟨rfl, hnone⟩⟩⟩⟩

theorem During.complete (h : During u v i d b im (some im))
    (hlisted : u.transferList[i]? = some (some d)) (c : Completion) :
    ∃ r, v.completeTransfer b d ⟨some b, some im, i⟩ c = some r ∧
      (r.2 = false ∧ (∃ x, During u r.1 i d b im x) ∨
        r.2 = true ∧ c.Resubmits v.streamGoing ∧ ∃ im', Resubmitted u r.1 i d b im im') := by
  simp only [completeTransfer]
  split
  · exact ⟨_, rfl, Or.inl ⟨rfl, _, h⟩⟩
  rename_i htimestamp
  split
  · rename_i hstatus
    -- The delivery leaves the image where it is.
    obtain ⟨w, hw, h'⟩ : ∃ w, (if c.status = .completed ∧ v.callback = true then
        (v.imageSetSize c.actualLength (some im)).map fun u => u.deliver .succeeded (some im)
        else some v) = some w ∧ During u w i d b im (some im) := by
      split
      · obtain ⟨w, hw, h'⟩ := h.imageSetSize c.actualLength
        exact ⟨_, congrArg (Option.map _) hw, h'.deliver .succeeded (some im)⟩
      · exact ⟨v, rfl, h⟩
    obtain ⟨n, hn⟩ := h'.exists_image
    obtain ⟨r, hr, hcases⟩ := h'.resubmit hlisted c
    refine ⟨r, ?_, ?_⟩
    · rw [hw, Option.bind_some, UsbStream.imageDecRef, hn]
      exact hr
    · rcases hcases with ⟨hfalse, hduring⟩ | ⟨htrue, hok, hresub⟩
      · exact Or.inl ⟨hfalse, _, hduring⟩
      · have htrue' : c.timestampOk = true := by
          simpa using htimestamp
        exact Or.inr ⟨htrue, ⟨htrue', hstatus.1, hstatus.2, hok⟩, hresub⟩
  · exact ⟨_, rfl, Or.inl ⟨rfl, _, h⟩⟩

/-- The callback of a transfer that was in flight: nothing of it is left, or it is in flight
again with a new image. -/
theorem usbCmdLibusbCb_spec (h : During u v i d b im (some im))
    (hlisted : u.transferList[i]? = some (some d)) (c : Completion) :
    ∃ u', v.usbCmdLibusbCb b c = some u' ∧
      (AgreesOff u u' i d b im ∧ Gone u' i d b im ∨
        c.Resubmits v.streamGoing ∧ ∃ im', Resubmitted u u' i d b im im') := by
  obtain ⟨t, ht, hd⟩ := h.transfer
  obtain ⟨r, hr, hcases⟩ := h.complete hlisted c
  rw [usbCmdLibusbCb, ht, Option.bind_some, hd, Option.bind_some, h.data, Option.bind_some, hr,
    Option.bind_some]
  rcases hcases with ⟨hfalse, x, hduring⟩ | ⟨htrue, hresubmits, im', hresub⟩
  · have hduring' : During u { r.1 with streamGoing := r.1.streamGoing && !c.stopped } i d b im x :=
      hduring.congr rfl rfl rfl rfl
    obtain ⟨u', hu', hend⟩ := hduring'.fail hlisted c
    refine ⟨u', ?_, Or.inl hend⟩
    rw [hfalse]
    exact hu'
  · refine ⟨_, if_pos htrue, Or.inr ⟨hresubmits, im', ?_⟩⟩
    exact ⟨hresub.fresh, hresub.data, hresub.transfers, hresub.images, hresub.released,
      hresub.list, hresub.inFlight.data, hresub.inFlight.transfer, hresub.inFlight.image,
      hresub.inFlight.listed⟩

/-- A transfer taken away and added again, with the same image or a new one. -/
theorem Sound.replace {im' : Nat} (hs : Sound u) (h : InFlight u i d b im)
    (h' : InFlight u' i d b im') (hfresh : im' ≠ im → Table.lookup u.images im' = none)
    (hreleased : im' ≠ im → Table.lookup u'.images im = none)
    (hdata : ∀ d', d' ≠ d → Table.lookup u'.data d' = Table.lookup u.data d')
    (htransfers : ∀ b', b' ≠ b → Table.lookup u'.transfers b' = Table.lookup u.transfers b')
    (himages : ∀ j, j ≠ im → j ≠ im' → Table.lookup u'.images j = Table.lookup u.images j)
    (hlist : u'.transferList = u.transferList) : Sound u' := by
  obtain ⟨_, _, ht⟩ := h.transfer
  obtain ⟨size, him⟩ := h.image
  have hlt := (List.getElem?_eq_some_iff.mp h.listed).1
  let mid : UsbStream :=
    { u with
      transferList := u.transferList.set i none
      data := u.data.set d none
      transfers := u.transfers.set b none
      images := u.images.set im none }
  have hmid : Sound mid := by
    refine hs.release h ⟨?_, ?_, ?_, ?_, List.length_set⟩ ⟨?_, ?_, ?_, ?_⟩
    · exact fun d' hd' => Table.lookup_set_ne (Ne.symm hd') none
    · exact fun b' hb' => Table.lookup_set_ne (Ne.symm hb') none
    · exact fun j hj => Table.lookup_set_ne (Ne.symm hj) none
    · exact fun i' hi' => List.getElem?_set_ne (Ne.symm hi')
    · exact Table.lookup_set_self h.data none
    · exact Table.lookup_set_self ht none
    · exact Table.lookup_set_self him none
    · exact List.getElem?_set_self hlt
  refine hmid.place ⟨?_, ?_, ?_, ?_⟩ ⟨?_, ?_, ?_, ?_, ?_⟩ h'
  · exact Table.lookup_set_self h.data none
  · exact Table.lookup_set_self ht none
  · by_cases hne : im' = im
    · rw [hne]
      exact Table.lookup_set_self him none
    · exact (Table.lookup_set_ne (Ne.symm hne) none).trans (hfresh hne)
  · exact List.getElem?_set_self hlt
  · exact fun d' hd' => (hdata d' hd').trans (Table.lookup_set_ne (Ne.symm hd') none).symm
  · exact fun b' hb' => (htransfers b' hb').trans (Table.lookup_set_ne (Ne.symm hb') none).symm
  · intro j hj
    by_cases hjm : j = im
    · subst hjm
      exact (hreleased (Ne.symm hj)).trans (Table.lookup_set_self him none).symm
    · exact (himages j hjm hj).trans (Table.lookup_set_ne (Ne.symm hjm) none).symm
  · intro i' hi'
    rw [hlist]
    exact (List.getElem?_set_ne (Ne.symm hi')).symm
  · rw [hlist]
    exact List.length_set.symm

/-- The transfer behind a pointer of libusb. -/
theorem Sound.inFlight (hs : Sound u) {t : LibusbTransfer}
    (ht : Table.lookup u.transfers b = some t) :
    ∃ i d im, InFlight u i d b im ∧ t.userData = some d := by
  obtain ⟨d, x, hx, hb⟩ := hs.transfers b t ht
  obtain ⟨b', im, h⟩ := hs.data d x hx
  have hb' := congrArg TransferData.bulkTransfer (Option.some.inj (hx.symm.trans h.data))
  obtain rfl : b' = b := Option.some.inj (hb'.symm.trans hb)
  obtain ⟨_, _, ht'⟩ := h.transfer
  have hd := congrArg LibusbTransfer.userData (Option.some.inj (ht.symm.trans ht'))
  exact ⟨_, d, im, h, hd⟩

/-- A transfer is completed, and its callback runs. -/
theorem Sound.completion (hs : Sound u) {t : LibusbTransfer}
    (ht : Table.lookup u.transfers b = some t) (c : Completion) :
    ∃ i d im u', InFlight u i d b im ∧
      (u.setTransfer b (some { t with inFlight := false })).usbCmdLibusbCb b c = some u' ∧
      Sound u' ∧ (AgreesOff u u' i d b im ∧ Gone u' i d b im ∨
        c.Resubmits u.streamGoing ∧ ∃ im', Resubmitted u u' i d b im im') := by
  obtain ⟨i, d, im, h, hd⟩ := hs.inFlight ht
  have hduring : During u (u.setTransfer b (some { t with inFlight := false })) i d b im
      (some im) := by
    refine ⟨⟨fun _ _ => rfl, fun b' hb' => ?_, fun _ _ => rfl, fun _ _ => rfl, rfl⟩, rfl, h.data,
      ⟨_, Table.lookup_set_self ht _, hd⟩, Or.inl ⟨rfl, h.image⟩⟩
    exact Table.lookup_set_ne (Ne.symm hb') _
  obtain ⟨u', hu', hcases⟩ := usbCmdLibusbCb_spec hduring h.listed c
  refine ⟨i, d, im, u', h, hu', ?_, hcases⟩
  rcases hcases with ⟨hoff, hgone⟩ | ⟨-, im', hr⟩
  · exact hs.release h hoff hgone
  · exact hs.replace h hr.inFlight (fun _ => hr.fresh) (fun _ => hr.released) hr.data hr.transfers
      hr.images hr.list

/-- A transfer in flight is cancelled. -/
theorem Sound.cancel (hs : Sound u) (h : InFlight u i d b im) :
    ∃ u', u.libusbCancelTransfer b = some u' ∧ Sound u' ∧ u'.transferList = u.transferList ∧
      u'.data = u.data ∧
      ∃ l, Table.lookup u'.transfers b = some l ∧ l.inFlight = true ∧ l.cancelled = true := by
  obtain ⟨length, cancelled, ht⟩ := h.transfer
  have hself := Table.lookup_set_self ht (some ⟨some d, some im, length, true, true⟩)
  refine ⟨u.setTransfer b (some ⟨some d, some im, length, true, true⟩), ?_, ?_, rfl, rfl, _, hself,
    rfl, rfl⟩
  · rw [libusbCancelTransfer, ht]
    rfl
  · refine hs.replace h ⟨h.data, ⟨_, _, hself⟩, h.image, h.listed⟩ (fun hne => absurd rfl hne)
      (fun hne => absurd rfl hne) (fun _ _ => rfl) ?_ (fun _ _ _ => rfl) rfl
    exact fun b' hb' => Table.lookup_set_ne (Ne.symm hb') _

/-! ## The list -/

theorem Sound.entry {n : Nat} (hs : Sound u) (hn : n < usbCmdMaxXfrCount) :
    u.transferList[n]? = some none ∨ ∃ d, u.transferList[n]? = some (some d) := by
  cases he : u.transferList[n]? with
  | none =>
      rw [List.getElem?_eq_none_iff, hs.length] at he
      omega
  | some x =>
      cases x with
      | none => exact Or.inl rfl
      | some d => exact Or.inr ⟨d, rfl⟩

/-- The entries below the `i`-th are null. -/
def ClearBelow (u : UsbStream) (i : Nat) : Prop :=
  ∀ j, j < i → j < usbCmdMaxXfrCount → u.transferList[j]? = some none

/-- The transfer of the entry, if there is one, has been cancelled and is still in flight. -/
def CancelledAt (u : UsbStream) (i : Nat) : Prop :=
  ∀ d, u.transferList[i]? = some (some d) → ∃ b t, Table.lookup u.data d = some t ∧
    t.bulkTransfer = some b ∧ ∃ l, Table.lookup u.transfers b = some l ∧ l.inFlight = true ∧
      l.cancelled = true

theorem ClearBelow.succ {n : Nat} (h : ClearBelow u n) (hn : u.transferList[n]? = some none) :
    ClearBelow u (n + 1) := by
  intro j hj hlt
  rcases Nat.lt_succ_iff_lt_or_eq.mp hj with hj | rfl
  · exact h j hj hlt
  · exact hn

theorem ClearBelow.completion {n : Nat} (h : ClearBelow u n)
    (hlist : ∀ j : Nat, u'.transferList[j]? = u.transferList[j]? ∨
      u'.transferList[j]? = some none) :
    ClearBelow u' n := by
  intro j hj hlt
  rcases hlist j with heq | heq
  · rw [heq]
    exact h j hj hlt
  · exact heq

/-- The cancelled transfer of an entry stays as it is while another one is completed. -/
theorem CancelledAt.completion {n : Nat} (hs : Sound u) (hcancelled : CancelledAt u n)
    (h : InFlight u i d b im)
    (hdata : ∀ d', d' ≠ d → Table.lookup u'.data d' = Table.lookup u.data d')
    (htransfers : ∀ b', b' ≠ b → Table.lookup u'.transfers b' = Table.lookup u.transfers b')
    (hother : ∀ d', u'.transferList[n]? = some (some d') →
      d' ≠ d ∧ u.transferList[n]? = some (some d')) : CancelledAt u' n := by
  intro d' hd'
  obtain ⟨hne, hd'⟩ := hother d' hd'
  obtain ⟨b', y, hy, hb', hl⟩ := hcancelled d' hd'
  obtain ⟨b'', im', h'⟩ := hs.data d' y hy
  have hb'' := congrArg TransferData.bulkTransfer (Option.some.inj (hy.symm.trans h'.data))
  obtain rfl : b' = b'' := Option.some.inj (hb'.symm.trans hb'')
  refine ⟨b', y, (hdata d' hne).trans hy, hb', ?_⟩
  rw [htransfers b' (hs.apart h h' hne).2.1]
  exact hl

/-- If no entry is left, nothing is. -/
theorem Sound.all_freed (hs : Sound u) (hclear : ClearBelow u usbCmdMaxXfrCount) :
    (∀ d, Table.lookup u.data d = none) ∧ (∀ b, Table.lookup u.transfers b = none) ∧
      (∀ im, Table.lookup u.images im = none) ∧
      u.transferList = List.replicate usbCmdMaxXfrCount none := by
  have hdata : ∀ d, Table.lookup u.data d = none := by
    intro d
    cases hx : Table.lookup u.data d with
    | none => rfl
    | some x =>
        obtain ⟨b, im, h⟩ := hs.data d x hx
        have hlt := (List.getElem?_eq_some_iff.mp h.listed).1
        rw [hs.length] at hlt
        exact absurd (h.listed.symm.trans (hclear _ hlt hlt)) nofun
  refine ⟨hdata, ?_, ?_, ?_⟩
  · intro b
    cases ht : Table.lookup u.transfers b with
    | none => rfl
    | some t =>
        obtain ⟨d, x, hx, -⟩ := hs.transfers b t ht
        exact absurd (hx.symm.trans (hdata d)) nofun
  · intro im
    cases him : Table.lookup u.images im with
    | none => rfl
    | some size =>
        obtain ⟨d, x, hx, -⟩ := hs.images im size him
        exact absurd (hx.symm.trans (hdata d)) nofun
  · apply List.ext_getElem?
    intro j
    by_cases hlt : j < usbCmdMaxXfrCount
    · rw [hclear j hlt hlt, List.getElem?_replicate_of_lt hlt]
    · rw [List.getElem?_eq_none (by rw [hs.length]; omega),
        List.getElem?_eq_none (by rw [List.length_replicate]; omega)]

end UsbStream

namespace StreamThread

open UsbStream

variable {t t' : StreamThread}

/-- The steps that the thread and libusb can take.  A callback runs for a transfer in flight
while events are handled, and the call that follows a cancellation does not return before the
callback of the cancelled transfer has run. -/
def Allowed (t : StreamThread) : StreamStep → Prop
  | .setup _ => ∃ i xferPool, t.phase = .setup i xferPool ∧ t.setupCondition i xferPool = true
  | .setupDone => ∃ i xferPool, t.phase = .setup i xferPool ∧ t.setupCondition i xferPool = false
  | .test => t.phase = .serving
  | .completion b _ => (t.phase = .handling ∨ ∃ i, t.phase = .cancelling i) ∧
      ∃ l, Table.lookup t.stream.transfers b = some l ∧ l.inFlight = true
  | .handled _ => t.phase = .handling ∨ (∃ i, t.phase = .cancelling i) ∧
      ∀ b l, Table.lookup t.stream.transfers b = some l → l.inFlight = true → l.cancelled = false
  | .cancel => ∃ i, t.phase = .cancel i
  | .stop => True

/-- No transfer but the first fails to be submitted in the set-up, and no cancelled transfer is
submitted again. -/
def Regular (t : StreamThread) : StreamStep → Prop
  | .setup o => ∀ i xferPool, t.phase = .setup i xferPool → o.Unsubmitted → i = 0
  | .completion b c => ∀ l, Table.lookup t.stream.transfers b = some l → l.cancelled = true →
      ¬ c.Resubmits t.stream.streamGoing
  | _ => True

/-- What is known of the list at each point of the thread. -/
def ListOk (u : UsbStream) (result : Result) : Phase → Prop
  | .setup i _ => result = .succeeded ∧
      ∀ j : Nat, i ≤ j → j < usbCmdMaxXfrCount → u.transferList[j]? = some none
  | .serving | .handling => True
  | .cancel i => u.ClearBelow i
  | .cancelling i => i < usbCmdMaxXfrCount ∧ u.ClearBelow i ∧ u.CancelledAt i
  | .finished => u.ClearBelow usbCmdMaxXfrCount

structure Sound (t : StreamThread) : Prop where
  stream : t.stream.Sound
  list : ListOk t.stream t.result t.phase

theorem Sound.leaveSetup (h : t.stream.Sound) : Sound t.leaveSetup := by
  refine ⟨h, ?_⟩
  simp only [StreamThread.leaveSetup]
  split
  · exact trivial
  · exact fun j hj _ => absurd hj (Nat.not_lt_zero j)

theorem sound_start (streamSize maxXfrPool : Nat) (callback : Bool) :
    Sound (start streamSize maxXfrPool callback) := by
  have hreplicate : ∀ {j : Nat} {x : Option Nat},
      (List.replicate usbCmdMaxXfrCount (none : Option Nat))[j]? = some x → x = none := by
    intro j x hj
    exact List.eq_of_mem_replicate (List.mem_of_getElem? hj)
  have hstream : UsbStream.Sound ⟨true, streamSize, callback,
      List.replicate usbCmdMaxXfrCount none, [], [], [], []⟩ := by
    refine ⟨nofun, ?_, nofun, nofun, nofun, List.length_replicate⟩
    intro i d hi
    cases hreplicate hi
  simp only [start]
  split
  · exact Sound.leaveSetup hstream
  · exact ⟨hstream, rfl, fun j _ hj => List.getElem?_replicate_of_lt hj⟩

/-- What a completion leaves of the list and of a cancelled transfer. -/
theorem Sound.completion (ht : Sound t) {b : Nat} {c : Completion}
    (hallowed : t.Allowed (.completion b c)) (hregular : t.Regular (.completion b c)) :
    ∃ t', step t (.completion b c) = some t' ∧ Sound t' := by
  obtain ⟨hphase, l, hl, hflight⟩ := hallowed
  obtain ⟨i, d, im, u', h, hu', hs', hcases⟩ := ht.stream.completion hl c
  have hstep : step t (.completion b c) = some { t with stream := u' } := by
    rcases hphase with hp | ⟨n, hp⟩
    · simp only [step, hp, hl, Option.bind_some, hflight, if_true, hu', Option.map_some]
    · simp only [step, hp, hl, Option.bind_some, hflight, if_true, hu', Option.map_some]
  refine ⟨_, hstep, hs', ?_⟩
  have hlist := ht.list
  rcases hphase with hp | ⟨n, hp⟩
  · rw [hp]
    exact trivial
  · rw [hp] at hlist ⊢
    obtain ⟨hn, hclear, hcancelled⟩ := hlist
    rcases hcases with ⟨hoff, hgone⟩ | ⟨hresubmits, im', hr⟩
    · refine ⟨hn, hclear.completion fun j => ?_, ?_⟩
      · by_cases hj : j = i
        · rw [hj]
          exact Or.inr hgone.listed
        · exact Or.inl (hoff.listed j hj)
      · refine hcancelled.completion ht.stream h hoff.data hoff.transfers fun d' hd' => ?_
        have hne : n ≠ i := by
          rintro rfl
          exact absurd (hd'.symm.trans hgone.listed) nofun
        rw [hoff.listed n hne] at hd'
        refine ⟨?_, hd'⟩
        rintro rfl
        obtain ⟨y, hy, hyn⟩ := ht.stream.listed n d' hd'
        have hi := congrArg TransferData.listIndex (Option.some.inj (hy.symm.trans h.data))
        exact hne (hyn.symm.trans hi)
    · refine ⟨hn, hclear.completion fun j => Or.inl (by rw [hr.list]), ?_⟩
      refine hcancelled.completion ht.stream h hr.data hr.transfers fun d' hd' => ?_
      rw [hr.list] at hd'
      refine ⟨?_, hd'⟩
      -- A cancelled transfer is not submitted again.
      rintro rfl
      obtain ⟨b', y, hy, hb', l', hl', -, htrue⟩ := hcancelled d' hd'
      have hb := congrArg TransferData.bulkTransfer (Option.some.inj (hy.symm.trans h.data))
      obtain rfl : b' = b := Option.some.inj (hb'.symm.trans hb)
      exact hregular l' hl' htrue hresubmits

theorem Sound.setup (ht : Sound t) {o : SetupOutcome} (hallowed : t.Allowed (.setup o))
    (hregular : t.Regular (.setup o)) : ∃ t', step t (.setup o) = some t' ∧ Sound t' := by
  obtain ⟨i, xferPool, hp, hcond⟩ := hallowed
  have hlist := ht.list
  rw [hp] at hlist
  obtain ⟨hresult, hfree⟩ := hlist
  have hi : i < usbCmdMaxXfrCount := by
    simp only [setupCondition, Bool.and_eq_true, decide_eq_true_eq] at hcond
    exact hcond.1
  rcases setupTransfer_spec ht.stream (hfree i (Nat.le_refl i) hi) (hregular i xferPool hp) with
    ⟨u', hu', hs', -⟩ | hu'
  · refine ⟨{ t with stream := u', result := .failed }.leaveSetup, ?_, Sound.leaveSetup hs'⟩
    simp only [step, hp, hcond, if_true, hu']
  · refine ⟨{ t with
      stream := t.stream.withTransfer i
      phase := .setup (i + 1) (xferPool + t.stream.streamSize) }, ?_, ?_, hresult, ?_⟩
    · simp only [step, hp, hcond, if_true, hu']
      rfl
    · exact ht.stream.withTransfer (hfree i (Nat.le_refl i) hi)
    · intro j hj hlt
      rw [UsbStream.withTransfer, List.getElem?_set_ne (by omega)]
      exact hfree j (by omega) hlt

theorem Sound.eventError (h : t.stream.Sound) (err stop : Bool) :
    (t.eventError err stop).stream.Sound ∧
      (t.eventError err stop).stream.transferList = t.stream.transferList := by
  cases err with
  | false => exact ⟨h, rfl⟩
  | true => exact ⟨h.congr (fun _ => rfl) (fun _ => rfl) (fun _ => rfl) rfl, rfl⟩

/-- The event handling returns.  After a cancellation the entry has been cleared. -/
theorem Sound.handled (ht : Sound t) {err : Bool} (hallowed : t.Allowed (.handled err)) :
    ∃ t', step t (.handled err) = some t' ∧ Sound t' := by
  rcases hallowed with hp | ⟨⟨n, hp⟩, hdone⟩
  · refine ⟨{ t.eventError err true with phase := .serving }, ?_, ?_, trivial⟩
    · simp only [step, hp]
    · exact (Sound.eventError ht.stream err true).1
  · obtain ⟨hs', hlist'⟩ := Sound.eventError ht.stream err false
    have hlist := ht.list
    rw [hp] at hlist
    obtain ⟨hn, hclear, hcancelled⟩ := hlist
    have hentry : t.stream.transferList[n]? = some none := by
      rcases ht.stream.entry hn with he | ⟨d, he⟩
      · exact he
      · obtain ⟨b, y, -, -, l, hl, hflight, htrue⟩ := hcancelled d he
        exact absurd (hdone b l hl hflight) (by rw [htrue]; exact nofun)
    refine ⟨{ t.eventError err false with phase := .cancel (n + 1) }, ?_, hs', ?_⟩
    · simp only [step, hp]
    · exact (hclear.succ hentry).completion fun j => Or.inl (by rw [hlist'])

theorem Sound.cancelEntry (ht : Sound t) (hallowed : t.Allowed .cancel) :
    ∃ t', step t .cancel = some t' ∧ Sound t' := by
  obtain ⟨n, hp⟩ := hallowed
  have hclear := ht.list
  rw [hp] at hclear
  by_cases hn : n < usbCmdMaxXfrCount
  · rcases ht.stream.entry hn with he | ⟨d, he⟩
    · refine ⟨{ t with phase := .cancel (n + 1) }, ?_, ht.stream, ?_⟩
      · simp only [step, hp, hn, if_true, he]
      · exact ClearBelow.succ hclear he
    · obtain ⟨x, hx, hxn⟩ := ht.stream.listed n d he
      obtain ⟨b, im, h⟩ := ht.stream.data d x hx
      obtain ⟨u', hu', hs', hlist, hdata, hl⟩ := ht.stream.cancel h
      refine ⟨{ t with stream := u', phase := .cancelling n }, ?_, hs', hn, ?_, ?_⟩
      · simp only [step, hp, hn, if_true, he, h.data, Option.bind_some, hu', Option.map_some]
      · exact hclear.completion fun j => Or.inl (by rw [hlist])
      · intro d' hd'
        rw [hlist, he] at hd'
        obtain rfl := Option.some.inj (Option.some.inj hd')
        exact ⟨b, _, hdata ▸ h.data, rfl, hl⟩
  · refine ⟨{ t with phase := .finished }, ?_, ht.stream, fun j _ hlt => hclear j (by omega) hlt⟩
    simp only [step, hp, hn, if_false]

/-- Every step keeps the invariant, and none frees twice or follows a pointer to freed memory. -/
theorem step_sound {a : StreamStep} (ht : Sound t) (ha : t.Allowed a ∧ t.Regular a) :
    ∃ t', step t a = some t' ∧ Sound t' := by
  cases a with
  | setup o => exact ht.setup ha.1 ha.2
  | setupDone =>
      obtain ⟨i, xferPool, hp, hcond⟩ := ha.1
      refine ⟨t.leaveSetup, ?_, Sound.leaveSetup ht.stream⟩
      simp [step, hp, hcond]
  | test =>
      have hp : t.phase = .serving := ha.1
      refine ⟨{ t with phase := if t.stream.streamGoing then .handling else .cancel 0 }, ?_,
        ht.stream, ?_⟩
      · simp only [step, hp]
      · show ListOk t.stream t.result (if t.stream.streamGoing then .handling else .cancel 0)
        split
        · exact trivial
        · exact fun j hj _ => absurd hj (Nat.not_lt_zero j)
  | completion b c => exact ht.completion ha.1 ha.2
  | handled err => exact ht.handled ha.1
  | cancel => exact ht.cancelEntry ha.1
  | stop =>
      refine ⟨_, rfl, ht.stream.congr (fun _ => rfl) (fun _ => rfl) (fun _ => rfl) rfl, ?_⟩
      have hlist := ht.list
      show ListOk { t.stream with streamGoing := false } t.result t.phase
      cases hp : t.phase with
      | setup i xferPool | serving | handling | cancel i | cancelling i | finished =>
          rw [hp] at hlist
          exact hlist

end StreamThread

/-- In every run in which no transfer but the first fails to be submitted by the set-up, and no
cancelled transfer is submitted again: once the thread has finished, every transfer data, every
libusb transfer and every image has been freed, and the list is empty.  None has been freed
twice. -/
theorem transfers_accounted (streamSize maxXfrPool : Nat) (callback : Bool)
    {steps : List StreamStep}
    (hsteps : Steps.Along StreamThread.step (fun t a => t.Allowed a ∧ t.Regular a)
      (.start streamSize maxXfrPool callback) steps) :
    ∃ t, (StreamThread.start streamSize maxXfrPool callback).run steps = some t ∧
      (t.phase = .finished →
        (∀ d, Table.lookup t.stream.data d = none) ∧
        (∀ b, Table.lookup t.stream.transfers b = none) ∧
        (∀ im, Table.lookup t.stream.images im = none) ∧
        t.stream.transferList = List.replicate usbCmdMaxXfrCount none) := by
  obtain ⟨t, hrun, ht⟩ := Steps.run_total (fun _ _ => StreamThread.step_sound) steps
    (StreamThread.sound_start streamSize maxXfrPool callback) hsteps
  refine ⟨t, hrun, fun hp => ?_⟩
  have hlist := ht.list
  rw [hp] at hlist
  exact ht.stream.all_freed hlist

/-- One transfer, completed once and then cancelled. -/
theorem transfers_accounted_one_transfer :
    ∃ t, (StreamThread.start 6000000 usbCmdMaxXfrPool true).run
        [.setup ⟨true, true, true, true⟩, .setupDone, .test,
          .completion 0 ⟨.completed, 100, true, true, true, false⟩, .handled false, .stop, .test,
          .cancel, .completion 0 ⟨.cancelled, 0, true, true, true, false⟩, .handled false,
          .cancel, .cancel, .cancel, .cancel, .cancel, .cancel, .cancel, .cancel] = some t ∧
      t.phase = .finished ∧ t.stream.images.length = 2 ∧
      ∀ im, Table.lookup t.stream.images im = none := by
  have hnone : ∀ b l, Table.lookup [(none : Option LibusbTransfer)] b = some l → False := by
    rintro (_ | b) l hl
    · cases hl
    · cases hl
  obtain ⟨t, hrun, hfreed⟩ := @transfers_accounted 6000000 usbCmdMaxXfrPool true
    [.setup ⟨true, true, true, true⟩, .setupDone, .test,
      .completion 0 ⟨.completed, 100, true, true, true, false⟩, .handled false, .stop, .test,
      .cancel, .completion 0 ⟨.cancelled, 0, true, true, true, false⟩, .handled false,
      .cancel, .cancel, .cancel, .cancel, .cancel, .cancel, .cancel, .cancel]
    (.cons rfl ⟨⟨_, _, rfl, rfl⟩, fun _ _ _ h => nomatch h.2.2.2⟩
      (.cons rfl ⟨⟨_, _, rfl, rfl⟩, trivial⟩
      (.cons rfl ⟨rfl, trivial⟩
      (.cons rfl ⟨⟨Or.inl rfl, _, rfl, rfl⟩, fun l hl hc => nomatch (Option.some.inj hl ▸ hc)⟩
      (.cons rfl ⟨Or.inl rfl, trivial⟩
      (.cons rfl ⟨trivial, trivial⟩
      (.cons rfl ⟨rfl, trivial⟩
      (.cons rfl ⟨⟨0, rfl⟩, trivial⟩
      (.cons rfl ⟨⟨Or.inr ⟨0, rfl⟩, _, rfl, rfl⟩, fun l _ _ h => nomatch h.2.1⟩
      (.cons rfl ⟨Or.inr ⟨⟨0, rfl⟩, fun b l hl _ => absurd hl (hnone b l)⟩, trivial⟩
      (.cons rfl ⟨⟨1, rfl⟩, trivial⟩
      (.cons rfl ⟨⟨2, rfl⟩, trivial⟩
      (.cons rfl ⟨⟨3, rfl⟩, trivial⟩
      (.cons rfl ⟨⟨4, rfl⟩, trivial⟩
      (.cons rfl ⟨⟨5, rfl⟩, trivial⟩
      (.cons rfl ⟨⟨6, rfl⟩, trivial⟩
      (.cons rfl ⟨⟨7, rfl⟩, trivial⟩
      (.cons rfl ⟨⟨8, rfl⟩, trivial⟩ trivial))))))))))))))))))
  obtain rfl := Option.some.inj (Eq.trans hrun.symm rfl)
  exact ⟨_, rfl, rfl, rfl, (hfreed rfl).2.2.1⟩

/-- The second transfer of the set-up cannot be submitted.  The thread goes on with the first,
and leaves the second in the list when it finishes. -/
theorem unsubmitted_transfer_left_behind :
    ∃ t, (StreamThread.start 4000000 usbCmdMaxXfrPool true).run
        [.setup ⟨true, true, true, true⟩, .setup ⟨true, true, true, false⟩, .setupDone, .stop,
          .test, .cancel, .completion 0 ⟨.cancelled, 0, true, true, true, false⟩, .handled false,
          .cancel, .handled false, .cancel, .cancel, .cancel, .cancel, .cancel, .cancel,
          .cancel] = some t ∧
      Steps.Along StreamThread.step StreamThread.Allowed (.start 4000000 usbCmdMaxXfrPool true)
        [.setup ⟨true, true, true, true⟩, .setup ⟨true, true, true, false⟩, .setupDone, .stop,
          .test, .cancel, .completion 0 ⟨.cancelled, 0, true, true, true, false⟩, .handled false,
          .cancel, .handled false, .cancel, .cancel, .cancel, .cancel, .cancel, .cancel,
          .cancel] ∧
      t.phase = .finished ∧ t.stream.transferList[1]? = some (some 1) ∧
      Table.lookup t.stream.data 1 = some ⟨some 1, some 1, 1⟩ ∧
      Table.lookup t.stream.images 1 = some 4000000 := by
  have hnone : ∀ (x : LibusbTransfer), x.inFlight = false → ∀ b l,
      Table.lookup [none, some x] b = some l → l.inFlight = true → False := by
    rintro x hx (_ | _ | b) l hl hflight
    · cases hl
    · cases hl
      exact absurd (hx.symm.trans hflight) nofun
    · cases hl
  refine ⟨_, rfl, ?_, rfl, rfl, rfl, rfl⟩
  exact .cons rfl ⟨_, _, rfl, rfl⟩ (.cons rfl ⟨_, _, rfl, rfl⟩ (.cons rfl ⟨_, _, rfl, rfl⟩
    (.cons rfl trivial (.cons rfl rfl (.cons rfl ⟨0, rfl⟩
    (.cons rfl ⟨Or.inr ⟨0, rfl⟩, _, rfl, rfl⟩
    (.cons rfl (Or.inr ⟨⟨0, rfl⟩, fun b l hl h => (hnone _ rfl b l hl h).elim⟩)
    (.cons rfl ⟨1, rfl⟩
    (.cons rfl (Or.inr ⟨⟨1, rfl⟩, fun b l hl h => (hnone _ rfl b l hl h).elim⟩)
    (.cons rfl ⟨2, rfl⟩ (.cons rfl ⟨3, rfl⟩ (.cons rfl ⟨4, rfl⟩ (.cons rfl ⟨5, rfl⟩
    (.cons rfl ⟨6, rfl⟩ (.cons rfl ⟨7, rfl⟩ (.cons rfl ⟨8, rfl⟩ trivial))))))))))))))))

/-- The set-up of the second transfer fails, with `stream_going` true.  The first transfer
completes while it is cancelled, and is in flight when the thread has finished. -/
theorem cancelled_transfer_submitted_again :
    ∃ t, (StreamThread.start 3000000 usbCmdMaxXfrPool true).run
        [.setup ⟨true, true, true, true⟩, .setup ⟨false, true, true, true⟩, .cancel,
          .completion 0 ⟨.completed, 100, true, true, true, false⟩, .handled false, .cancel,
          .cancel, .cancel, .cancel, .cancel, .cancel, .cancel, .cancel] = some t ∧
      Steps.Along StreamThread.step StreamThread.Allowed (.start 3000000 usbCmdMaxXfrPool true)
        [.setup ⟨true, true, true, true⟩, .setup ⟨false, true, true, true⟩, .cancel,
          .completion 0 ⟨.completed, 100, true, true, true, false⟩, .handled false, .cancel,
          .cancel, .cancel, .cancel, .cancel, .cancel, .cancel, .cancel] ∧
      t.phase = .finished ∧
      ∃ l, Table.lookup t.stream.transfers 0 = some l ∧ l.inFlight = true := by
  have hnot : ∀ (x : LibusbTransfer), x.cancelled = false → ∀ b l,
      Table.lookup [some x] b = some l → l.cancelled = false := by
    rintro x hx (_ | b) l hl
    · cases hl
      exact hx
    · cases hl
  refine ⟨_, rfl, ?_, rfl, _, rfl, rfl⟩
  exact .cons rfl ⟨_, _, rfl, rfl⟩ (.cons rfl ⟨_, _, rfl, rfl⟩ (.cons rfl ⟨0, rfl⟩
    (.cons rfl ⟨Or.inr ⟨0, rfl⟩, _, rfl, rfl⟩
    (.cons rfl (Or.inr ⟨⟨0, rfl⟩, fun b l hl _ => hnot _ rfl b l hl⟩)
    (.cons rfl ⟨1, rfl⟩ (.cons rfl ⟨2, rfl⟩ (.cons rfl ⟨3, rfl⟩ (.cons rfl ⟨4, rfl⟩
    (.cons rfl ⟨5, rfl⟩ (.cons rfl ⟨6, rfl⟩ (.cons rfl ⟨7, rfl⟩
    (.cons rfl ⟨8, rfl⟩ trivial))))))))))))

end ZsaSdk
