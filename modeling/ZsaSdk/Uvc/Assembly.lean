import Mathlib.Data.List.Chain
import ZsaSdk.Uvc.Payload

/-!
# Frames put together again

A camera cuts a frame into packets, and the packets of a stream, as they are written to the bus,
give the frames back (`frames_put_together`).  Only the frame that is sent last may still be under
way: its end is known when a packet with the EOF bit and a piece of the image has come, or the first
packet of the next frame.

`receive` is what a packet does, in its own terms.  `processPayload_carries` says that a payload
that carries the packet does the same, and from there on the bytes of the header do not matter.
-/

namespace ZsaSdk

open Bytes

/-- A packet of a frame.  The length of its header fits into a byte, and it has no error bit. -/
structure UvcPacket where
  headerInfo : UInt8
  pts : UInt32
  scr : UInt32
  sof : UInt16
  metadata : List UInt8
  data : List UInt8
  noError : isError headerInfo = false
  headerFits : metadataOffset headerInfo + metadata.length < 256

namespace UvcPacket

/-- The frame ID bit. -/
def fid (p : UvcPacket) : UInt8 := p.headerInfo &&& 1

/-- The length of the header. -/
def headerLen (p : UvcPacket) : Nat := metadataOffset p.headerInfo + p.metadata.length

/-- The presentation time and the source clock, if the header has them. -/
def clocks (p : UvcPacket) : List UInt8 :=
  (if hasPts p.headerInfo then ofNumber 4 p.pts.toNat else []) ++
    if hasScr p.headerInfo then ofNumber 4 p.scr.toNat ++ ofNumber 2 p.sof.toNat else []

/-- The packet completes its frame.  The EOF bit of a packet without a piece of the image is not
looked at. -/
def completes (p : UvcPacket) : Bool := isEof p.headerInfo && decide (p.data.length > 0)

/-- The bytes of a packet. -/
def encode (p : UvcPacket) : List UInt8 :=
  UInt8.ofNat p.headerLen :: p.headerInfo :: (p.clocks ++ p.metadata ++ p.data)

/-- The payload consists of the packet. -/
def CarriedBy (p : UvcPacket) (payload : UvcPayload) : Prop :=
  payload.length = p.encode.length ∧ Holds payload.memory 0 p.encode

theorem length_clocks (p : UvcPacket) : p.clocks.length + 2 = metadataOffset p.headerInfo := by
  simp only [clocks, metadataOffset, scrOffset]
  cases hasPts p.headerInfo <;> cases hasScr p.headerInfo <;> simp

theorem length_encode (p : UvcPacket) : p.encode.length = p.headerLen + p.data.length := by
  have hclocks := p.length_clocks
  simp only [encode, headerLen, List.length_cons, List.length_append]
  omega

end UvcPacket

namespace StreamAssembly

variable {s : StreamAssembly}

/-! ## What a packet does -/

/-- Take a packet. -/
def receive (s : StreamAssembly) (p : UvcPacket) : StreamAssembly :=
  let s := (s.beginFrame p.fid).setClocks p.headerInfo p.pts p.scr
  let s := if p.metadata.length > 0 then s.appendMetadata p.metadata else s
  s.readData p.data p.headerInfo

@[simp] theorem isIsight_readData (s : StreamAssembly) (data : List UInt8) (headerInfo : UInt8) :
    (s.readData data headerInfo).isIsight = s.isIsight := by
  simp only [readData]
  split
  · split <;> rfl
  · rfl

@[simp] theorem isIsight_beginFrame (s : StreamAssembly) (fid : UInt8) :
    (s.beginFrame fid).isIsight = s.isIsight := by
  simp only [beginFrame]
  split <;> rfl

@[simp] theorem isIsight_receive (s : StreamAssembly) (p : UvcPacket) :
    (s.receive p).isIsight = s.isIsight := by
  simp only [receive, isIsight_readData]
  split <;> simp [appendMetadata, setClocks]

/-- A word that was written is read back. -/
theorem dwToInt_eq {m : Nat → UInt8} {o : Nat} {x : UInt32} (h : Holds m o (ofNumber 4 x.toNat)) :
    dwToInt m o = x := by
  have hx : x.toNat % 256 ^ 4 = x.toNat := Nat.mod_eq_of_lt x.toNat_lt
  rw [dwToInt, number_of_holds_ofNumber h, hx, UInt32.ofNat_toNat]

/-- Only the branch that is taken matters. -/
theorem if_congr_of_imp {α : Type} {c : Bool} {x y z : α} (h : c = true → x = y) :
    (if c = true then x else z) = if c = true then y else z := by
  cases c with
  | false => rfl
  | true => exact h rfl

/-- The parts of the header are where they are looked for. -/
theorem holds_parts {p : UvcPacket} {payload : UvcPayload} (h : p.CarriedBy payload) :
    payload.memory 0 = UInt8.ofNat p.headerLen ∧ payload.memory 1 = p.headerInfo ∧
      (hasPts p.headerInfo = true → dwToInt payload.memory 2 = p.pts) ∧
      (hasScr p.headerInfo = true →
        dwToInt payload.memory (scrOffset p.headerInfo) = p.scr) ∧
      slice payload.memory (metadataOffset p.headerInfo) p.metadata.length = p.metadata ∧
      slice payload.memory p.headerLen p.data.length = p.data := by
  obtain ⟨-, h⟩ := h
  have hbody : Holds payload.memory 2 (p.clocks ++ p.metadata ++ p.data) :=
    Holds.right (l := [UInt8.ofNat p.headerLen, p.headerInfo]) h
  have hclocks : Holds payload.memory 2 p.clocks := hbody.left.left
  refine ⟨?_, ?_, ?_, ?_, ?_, ?_⟩
  · exact h 0 (Nat.succ_pos _)
  · exact h 1 (by rw [p.length_encode, UvcPacket.headerLen]; have := p.length_clocks; omega)
  · intro hpts
    rw [UvcPacket.clocks, hpts] at hclocks
    exact dwToInt_eq hclocks.left
  · intro hscr
    rw [UvcPacket.clocks, hscr] at hclocks
    have hright := hclocks.right
    have hoffset : 2 + (if hasPts p.headerInfo = true then ofNumber 4 p.pts.toNat else []).length =
        scrOffset p.headerInfo := by
      rw [scrOffset]
      split <;> simp
    rw [hoffset] at hright
    exact dwToInt_eq hright.left
  · have hmetadata := hbody.left.right
    have hoffset : 2 + p.clocks.length = metadataOffset p.headerInfo := by
      rw [← p.length_clocks, Nat.add_comm]
    rw [hoffset] at hmetadata
    exact hmetadata.slice
  · have hdata := hbody.right
    have hoffset : 2 + (p.clocks ++ p.metadata).length = p.headerLen := by
      have hclocks := p.length_clocks
      rw [List.length_append, UvcPacket.headerLen]
      omega
    rw [hoffset] at hdata
    exact hdata.slice

/-- A payload that carries a packet does what the packet does. -/
theorem processPayload_carries {p : UvcPacket} {payload : UvcPayload} (hs : s.isIsight = false)
    (h : p.CarriedBy payload) : s.processPayload payload = s.receive p := by
  obtain ⟨h0, h1, hpts, hscr, hmetadata, hdata⟩ := holds_parts h
  have hfits := p.headerFits
  have hlen : (payload.memory 0).toNat = p.headerLen := by
    rw [h0]
    exact Nat.mod_eq_of_lt hfits
  have htwo : 2 ≤ p.headerLen := by
    have hclocks := p.length_clocks
    rw [UvcPacket.headerLen]
    omega
  have hlength : payload.length = p.headerLen + p.data.length := h.1.trans p.length_encode
  have hheader : s.withoutHeader payload = false := by simp [withoutHeader, hs]
  have hdataLen : payload.length - p.headerLen = p.data.length := by omega
  simp only [processPayload, hheader, hs, hlen, h1, p.noError, Bool.false_eq_true, if_false,
    hdataLen, hdata]
  rw [if_neg (by omega), if_neg (by omega), if_neg (by omega), receive]
  refine congrArg (fun t => readData t p.data p.headerInfo) ?_
  have hmore : p.headerLen > metadataOffset p.headerInfo ↔ p.metadata.length > 0 := by
    rw [UvcPacket.headerLen]
    omega
  have hrest : p.headerLen - metadataOffset p.headerInfo = p.metadata.length := by
    rw [UvcPacket.headerLen]
    omega
  simp only [readHeader, hmore, hrest, hmetadata, UvcPacket.fid]
  have hclocks : (s.beginFrame (p.headerInfo &&& 1)).setClocks p.headerInfo
      (dwToInt payload.memory 2) (dwToInt payload.memory (scrOffset p.headerInfo)) =
      (s.beginFrame (p.headerInfo &&& 1)).setClocks p.headerInfo p.pts p.scr := by
    simp only [setClocks]
    congr 1
    · exact if_congr_of_imp hpts
    · exact if_congr_of_imp hscr
  rw [hclocks]

/-! ## Packets of one frame -/

/-- What a packet adds to the frame that is being put together. -/
def gather (s : StreamAssembly) (p : UvcPacket) : StreamAssembly :=
  let s := { s with fid := p.fid }.setClocks p.headerInfo p.pts p.scr
  let s := if p.metadata.length > 0 then s.appendMetadata p.metadata else s
  if p.data.length > 0 then s.appendData p.data else s

/-- The frame before is complete when the frame ID has changed. -/
def flush (s : StreamAssembly) (fid : UInt8) : StreamAssembly :=
  if s.fid ≠ fid ∧ s.outbuf.length ≠ 0 then s.swapBuffers else s

/-- The packets with a frame ID belong to what has been gathered. -/
def ReadyFor (s : StreamAssembly) (fid : UInt8) : Prop := s.fid = fid ∨ s.outbuf = []

theorem flush_ready (s : StreamAssembly) (fid : UInt8) : (s.flush fid).ReadyFor fid := by
  simp only [flush]
  split
  · exact .inr rfl
  next h =>
    by_cases hfid : s.fid = fid
    · exact .inl hfid
    · exact .inr (List.length_eq_zero_iff.mp (by_contra fun hne => h ⟨hfid, hne⟩))

theorem beginFrame_of_ready {fid : UInt8} (h : s.ReadyFor fid) :
    s.beginFrame fid = { s with fid := fid } := by
  rw [beginFrame, if_neg]
  rintro ⟨hfid, hlength⟩
  obtain h | h := h
  · exact hfid h
  · exact hlength (by rw [h]; rfl)

theorem beginFrame_flush (s : StreamAssembly) (fid : UInt8) :
    (s.flush fid).beginFrame fid = s.beginFrame fid := by
  rw [beginFrame_of_ready (s.flush_ready fid), flush, beginFrame]
  split <;> rfl

/-- A packet of the frame that is being put together. -/
theorem receive_of_ready {p : UvcPacket} (h : s.ReadyFor p.fid) :
    s.receive p = if p.completes then (s.gather p).swapBuffers else s.gather p := by
  simp only [receive, gather, readData, beginFrame_of_ready h, UvcPacket.completes]
  by_cases hdata : p.data.length > 0
  · simp only [hdata, if_true, decide_true, Bool.and_true]
  · simp [hdata]

theorem receive_flush (s : StreamAssembly) (p : UvcPacket) :
    (s.flush p.fid).receive p = s.receive p := by
  simp only [receive, beginFrame_flush]

/-- The presentation time that the packets leave. -/
def ptsAfter (packets : List UvcPacket) (pts : UInt32) : UInt32 :=
  packets.foldl (fun pts p => if hasPts p.headerInfo then p.pts else pts) pts

/-- The source clock that the packets leave. -/
def scrAfter (packets : List UvcPacket) (scr : UInt32) : UInt32 :=
  packets.foldl (fun scr p => if hasScr p.headerInfo then p.scr else scr) scr

/-- `t` is `s` with the packets of one frame added. -/
structure Gathered (s : StreamAssembly) (packets : List UvcPacket) (t : StreamAssembly) : Prop where
  isIsight : t.isIsight = s.isIsight
  outbuf : t.outbuf = s.outbuf ++ packets.flatMap (·.data)
  metaOutbuf : t.metaOutbuf = s.metaOutbuf ++ packets.flatMap (·.metadata)
  pts : t.pts = ptsAfter packets s.pts
  lastScr : t.lastScr = scrAfter packets s.lastScr
  seq : t.seq = s.seq
  published : t.published = s.published
  outEnd : t.outEnd = max s.outEnd t.outbuf.length
  metaOutEnd : t.metaOutEnd = max s.metaOutEnd t.metaOutbuf.length

/-- What has been written last ends within what has ever been written. -/
def WithinEnds (s : StreamAssembly) : Prop :=
  s.outbuf.length ≤ s.outEnd ∧ s.metaOutbuf.length ≤ s.metaOutEnd

theorem gather_gathered (h : WithinEnds s) (p : UvcPacket) : Gathered s [p] (s.gather p) := by
  obtain ⟨hout, hmeta⟩ := h
  have hdata : ¬ p.data.length > 0 → p.data = [] := fun hd =>
    List.length_eq_zero_iff.mp (Nat.eq_zero_of_not_pos hd)
  have hmetadata : ¬ p.metadata.length > 0 → p.metadata = [] := fun hm =>
    List.length_eq_zero_iff.mp (Nat.eq_zero_of_not_pos hm)
  simp only [gather]
  split
  next hd =>
    split
    next hm => constructor <;>
      simp [setClocks, appendData, appendMetadata, ptsAfter, scrAfter]
    next hm => constructor <;>
      simp [setClocks, appendData, ptsAfter, scrAfter, hmetadata hm, Nat.max_eq_left hmeta]
  next hd =>
    split
    next hm => constructor <;>
      simp [setClocks, appendMetadata, ptsAfter, scrAfter, hdata hd, Nat.max_eq_left hout]
    next hm => constructor <;>
      simp [setClocks, ptsAfter, scrAfter, hdata hd, hmetadata hm, Nat.max_eq_left hout,
        Nat.max_eq_left hmeta]

theorem Gathered.withinEnds {packets : List UvcPacket} {t : StreamAssembly}
    (h : Gathered s packets t) : WithinEnds t := by
  rw [WithinEnds, h.outEnd, h.metaOutEnd]
  exact ⟨Nat.le_max_right _ _, Nat.le_max_right _ _⟩

theorem Gathered.trans {packets packets' : List UvcPacket} {t u : StreamAssembly}
    (h : Gathered s packets t) (h' : Gathered t packets' u) :
    Gathered s (packets ++ packets') u where
  isIsight := h'.isIsight.trans h.isIsight
  outbuf := by rw [h'.outbuf, h.outbuf, List.flatMap_append, List.append_assoc]
  metaOutbuf := by rw [h'.metaOutbuf, h.metaOutbuf, List.flatMap_append, List.append_assoc]
  pts := by rw [h'.pts, h.pts, ptsAfter, ptsAfter, ptsAfter, List.foldl_append]
  lastScr := by rw [h'.lastScr, h.lastScr, scrAfter, scrAfter, scrAfter, List.foldl_append]
  seq := h'.seq.trans h.seq
  published := h'.published.trans h.published
  outEnd := by
    have hlength : t.outbuf.length ≤ u.outbuf.length := by
      rw [h'.outbuf, List.length_append]
      exact Nat.le_add_right _ _
    rw [h'.outEnd, h.outEnd]
    omega
  metaOutEnd := by
    have hlength : t.metaOutbuf.length ≤ u.metaOutbuf.length := by
      rw [h'.metaOutbuf, List.length_append]
      exact Nat.le_add_right _ _
    rw [h'.metaOutEnd, h.metaOutEnd]
    omega

theorem Gathered.refl (h : WithinEnds s) : Gathered s [] s where
  isIsight := rfl
  outbuf := (List.append_nil _).symm
  metaOutbuf := (List.append_nil _).symm
  pts := rfl
  lastScr := rfl
  seq := rfl
  published := rfl
  outEnd := (Nat.max_eq_left h.1).symm
  metaOutEnd := (Nat.max_eq_left h.2).symm

/-- Packets that do not complete their frame are gathered. -/
theorem foldl_receive_gathered {fid : UInt8} (packets : List UvcPacket) : ∀ {s : StreamAssembly},
    WithinEnds s → s.ReadyFor fid → (∀ p ∈ packets, p.fid = fid ∧ p.completes = false) →
    Gathered s packets (packets.foldl receive s) ∧ (packets.foldl receive s).ReadyFor fid := by
  induction packets with
  | nil => exact fun hends hready _ => ⟨.refl hends, hready⟩
  | cons p packets ih =>
      intro s hends hready hpackets
      obtain ⟨hfid, hcompletes⟩ := hpackets p List.mem_cons_self
      have hreceive : s.receive p = s.gather p := by
        rw [receive_of_ready (hfid ▸ hready), hcompletes, if_neg Bool.false_ne_true]
      have hgathered := gather_gathered hends p
      have hready' : (s.gather p).ReadyFor fid := by
        refine .inl (Eq.trans ?_ hfid)
        simp only [gather]
        split <;> split <;> rfl
      rw [List.foldl_cons, hreceive]
      obtain ⟨hrest, hlast⟩ := ih hgathered.withinEnds hready'
        fun q hq => hpackets q (List.mem_cons_of_mem p hq)
      exact ⟨hgathered.trans hrest, hlast⟩

end StreamAssembly

/-! ## Frames -/

/-- A frame as it is cut into packets.  They have the same frame ID, only the last one may have the
EOF bit, and there is some image data in them. -/
structure SentFrame where
  body : List UvcPacket
  last : UvcPacket
  sameFid : ∀ p ∈ body, p.fid = last.fid
  noEof : ∀ p ∈ body, isEof p.headerInfo = false
  hasData : (body ++ [last]).flatMap (·.data) ≠ []

namespace SentFrame

def packets (f : SentFrame) : List UvcPacket := f.body ++ [f.last]

def fid (f : SentFrame) : UInt8 := f.last.fid

def data (f : SentFrame) : List UInt8 := f.packets.flatMap (·.data)

def metadata (f : SentFrame) : List UInt8 := f.packets.flatMap (·.metadata)

/-- The frame as the user thread gets it, with its number. -/
def held (f : SentFrame) (seq : UInt32) : HeldFrame :=
  ⟨f.data, f.metadata, StreamAssembly.ptsAfter f.packets 0, StreamAssembly.scrAfter f.packets 0,
    seq⟩

/-- The frames, numbered from `seq` on. -/
def numbered (seq : UInt32) : List SentFrame → List HeldFrame
  | [] => []
  | f :: fs => f.held seq :: numbered (seq + 1) fs

end SentFrame

namespace StreamAssembly

variable {s : StreamAssembly}

/-- The frame that is being put together, if there is one. -/
def underWay (s : StreamAssembly) : List HeldFrame := if s.outbuf = [] then [] else [s.current]

/-- The number of the next frame. -/
def nextSeq (s : StreamAssembly) : UInt32 := if s.outbuf = [] then s.seq else s.seq + 1

/-- Between two frames nothing is left of the one before. -/
structure Between (s : StreamAssembly) : Prop where
  isIsight : s.isIsight = false
  ends : WithinEnds s
  metaOutbuf : s.outbuf = [] → s.metaOutbuf = []
  pts : s.outbuf = [] → s.pts = 0
  lastScr : s.outbuf = [] → s.lastScr = 0

theorem start_between : (start colorCameraVid colorCameraPid).Between where
  isIsight := by decide
  ends := ⟨Nat.le_refl 0, Nat.le_refl 0⟩
  metaOutbuf := fun _ => rfl
  pts := fun _ => rfl
  lastScr := fun _ => rfl

/-- Before the packets of a frame, the frame before it is complete. -/
structure Flushed (s t : StreamAssembly) : Prop where
  outbuf : t.outbuf = []
  published : t.published = s.published ++ s.underWay
  seq : t.seq = s.nextSeq
  outEnd : t.outEnd = s.outEnd
  metaOutEnd : t.metaOutEnd = s.metaOutEnd
  between : t.Between

theorem flush_flushed {fid : UInt8} (h : s.Between) (hfid : s.outbuf = [] ∨ s.fid ≠ fid) :
    Flushed s (s.flush fid) := by
  simp only [flush]
  split
  next hflush =>
    have hne : s.outbuf ≠ [] := fun he => hflush.2 (by rw [he]; rfl)
    refine ⟨rfl, ?_, ?_, rfl, rfl, h.isIsight, ⟨Nat.zero_le _, Nat.zero_le _⟩, fun _ => rfl,
      fun _ => rfl, fun _ => rfl⟩
    · rw [underWay, if_neg hne]
      rfl
    · rw [nextSeq, if_neg hne]
      rfl
  next hflush =>
    have hempty : s.outbuf = [] := hfid.elim id fun hne =>
      List.length_eq_zero_iff.mp (by_contra fun hlength => hflush ⟨hne, hlength⟩)
    refine ⟨hempty, ?_, ?_, rfl, rfl, h⟩
    · rw [underWay, if_pos hempty, List.append_nil]
    · rw [nextSeq, if_pos hempty]

/-- What the packets of a frame do. -/
structure FrameReceived (s : StreamAssembly) (f : SentFrame) (t : StreamAssembly) : Prop where
  between : t.Between
  fid : t.fid = f.fid
  frames : t.published ++ t.underWay = s.published ++ s.underWay ++ [f.held s.nextSeq]
  nextSeq : t.nextSeq = s.nextSeq + 1
  underWay : t.underWay = [] ↔ f.last.completes = true
  outEnd : t.outEnd = max s.outEnd f.data.length
  metaOutEnd : t.metaOutEnd = max s.metaOutEnd f.metadata.length

/-- The first packet of a frame completes the frame before it. -/
theorem foldl_receive_flush (f : SentFrame) (s : StreamAssembly) :
    f.packets.foldl receive s = f.packets.foldl receive (s.flush f.fid) := by
  have hhead : ∀ p ∈ f.packets.head?, p.fid = f.fid := by
    intro p hp
    have hmem : p ∈ f.packets := List.mem_of_mem_head? hp
    obtain hbody | hlast := List.mem_append.mp hmem
    · exact f.sameFid p hbody
    · rw [List.mem_singleton.mp hlast]
      rfl
  cases hpackets : f.packets with
  | nil => simp [SentFrame.packets] at hpackets
  | cons p packets =>
      have hp : p.fid = f.fid := hhead p (by rw [hpackets]; rfl)
      rw [List.foldl_cons, List.foldl_cons, ← hp, receive_flush]

/-- The packets of a frame are gathered, and the last one may complete it. -/
theorem foldl_receive_frame {f : SentFrame} (hends : WithinEnds s) (hready : s.ReadyFor f.fid) :
    ∃ t, Gathered s f.packets t ∧ t.fid = f.fid ∧
      f.packets.foldl receive s = if f.last.completes then t.swapBuffers else t := by
  have hbody : ∀ p ∈ f.body, p.fid = f.fid ∧ p.completes = false := by
    intro p hp
    exact ⟨f.sameFid p hp, by rw [UvcPacket.completes, f.noEof p hp, Bool.false_and]⟩
  obtain ⟨hgathered, hready'⟩ := foldl_receive_gathered f.body hends hready hbody
  refine ⟨(f.body.foldl receive s).gather f.last, ?_, ?_, ?_⟩
  · exact hgathered.trans (gather_gathered hgathered.withinEnds f.last)
  · simp only [gather]
    split <;> split <;> rfl
  · rw [SentFrame.packets, List.foldl_append, List.foldl_cons, List.foldl_nil,
      receive_of_ready hready']

theorem frame_received {f : SentFrame} (h : s.Between) (hfid : s.outbuf = [] ∨ s.fid ≠ f.fid) :
    FrameReceived s f (f.packets.foldl receive s) := by
  have hflush := flush_flushed h hfid
  obtain ⟨t, hgathered, htfid, hfold⟩ :=
    foldl_receive_frame (f := f) hflush.between.ends (s.flush_ready f.fid)
  rw [foldl_receive_flush, hfold]
  have hout : t.outbuf = f.data := by
    rw [hgathered.outbuf, hflush.outbuf, List.nil_append]
    rfl
  have hmeta : t.metaOutbuf = f.metadata := by
    rw [hgathered.metaOutbuf, hflush.between.metaOutbuf hflush.outbuf, List.nil_append]
    rfl
  have hne : t.outbuf ≠ [] := hout ▸ f.hasData
  have hcurrent : t.current = f.held s.nextSeq := by
    rw [current, hout, hmeta, hgathered.pts, hgathered.lastScr, hgathered.seq, hflush.seq,
      hflush.between.pts hflush.outbuf, hflush.between.lastScr hflush.outbuf]
    rfl
  have hisight : t.isIsight = false := hgathered.isIsight.trans hflush.between.isIsight
  have hpublished : t.published = s.published ++ s.underWay :=
    hgathered.published.trans hflush.published
  have hseq : t.seq = s.nextSeq := hgathered.seq.trans hflush.seq
  have houtEnd : t.outEnd = max s.outEnd f.data.length := by
    rw [hgathered.outEnd, hflush.outEnd, hout]
  have hmetaOutEnd : t.metaOutEnd = max s.metaOutEnd f.metadata.length := by
    rw [hgathered.metaOutEnd, hflush.metaOutEnd, hmeta]
  cases hcompletes : f.last.completes with
  | true =>
      refine ⟨⟨hisight, ⟨Nat.zero_le _, Nat.zero_le _⟩, fun _ => rfl, fun _ => rfl, fun _ => rfl⟩,
        htfid, ?_, ?_, by simp [StreamAssembly.underWay, swapBuffers, hcompletes], houtEnd,
        hmetaOutEnd⟩
      · simp [swapBuffers, StreamAssembly.underWay, hpublished, hcurrent]
      · simp [StreamAssembly.nextSeq, swapBuffers, hseq]
  | false =>
      have hunder : t.underWay = [f.held s.nextSeq] := by
        rw [underWay, if_neg hne, hcurrent]
      refine ⟨⟨hisight, hgathered.withinEnds, fun he => absurd he hne, fun he => absurd he hne,
        fun he => absurd he hne⟩, htfid, ?_, ?_, ?_, houtEnd, hmetaOutEnd⟩
      · rw [if_neg Bool.false_ne_true, hpublished, hunder]
      · rw [if_neg Bool.false_ne_true, StreamAssembly.nextSeq, if_neg hne, hseq]
      · rw [if_neg Bool.false_ne_true, hunder, hcompletes]
        simp

/-! ## Streams -/

/-- What the packets of several frames do. -/
theorem foldl_frames (fs : List SentFrame) : ∀ {s : StreamAssembly}, s.Between →
    (s.outbuf = [] ∨ ∀ f ∈ fs.head?, s.fid ≠ f.fid) →
    fs.IsChain (fun f g => f.fid ≠ g.fid) →
    let t := (fs.flatMap (·.packets)).foldl receive s
    t.published ++ t.underWay = s.published ++ s.underWay ++ SentFrame.numbered s.nextSeq fs ∧
      (∀ f ∈ fs.getLast?, t.underWay = [] ↔ f.last.completes = true) ∧
      (∀ n, t.outEnd ≤ n ↔ s.outEnd ≤ n ∧ ∀ f ∈ fs, f.data.length ≤ n) ∧
      (∀ n, t.metaOutEnd ≤ n ↔ s.metaOutEnd ≤ n ∧ ∀ f ∈ fs, f.metadata.length ≤ n) := by
  induction fs with
  | nil =>
      intro s _ _ _
      simp [SentFrame.numbered]
  | cons f fs ih =>
      intro s hs hhead hchain
      have hreceived := frame_received (f := f) hs (hhead.imp_right fun h => h f rfl)
      obtain ⟨hnext, htail⟩ := List.isChain_cons.mp hchain
      obtain ⟨hframes, hlast, hout, hmeta⟩ := ih hreceived.between
        (.inr fun g hg => hreceived.fid ▸ hnext g hg) htail
      simp only [List.flatMap_cons, List.foldl_append]
      refine ⟨?_, ?_, ?_, ?_⟩
      · rw [hframes, hreceived.frames, hreceived.nextSeq, List.append_assoc]
        rfl
      · intro g hg
        cases fs with
        | nil =>
            obtain rfl : f = g := by simpa using hg
            exact hreceived.underWay
        | cons f' fs => exact hlast g (by simpa using hg)
      · intro n
        rw [hout, hreceived.outEnd, List.forall_mem_cons, Nat.max_le, and_assoc]
      · intro n
        rw [hmeta, hreceived.metaOutEnd, List.forall_mem_cons, Nat.max_le, and_assoc]

/-- Payloads that are ignored do not matter, and the others do what their packets do. -/
theorem processPayloads_carries (payloads : List UvcPayload) : ∀ {packets : List UvcPacket}
    {s : StreamAssembly}, s.isIsight = false →
    List.Forall₂ UvcPacket.CarriedBy packets (payloads.filter fun payload => ¬ Ignored payload) →
    s.processPayloads payloads = packets.foldl receive s := by
  induction payloads with
  | nil =>
      intro packets s _ h
      cases h
      rfl
  | cons payload payloads ih =>
      intro packets s hs h
      rw [processPayloads, List.foldl_cons]
      by_cases hignored : Ignored payload
      · rw [processPayload_ignored hs hignored]
        exact ih hs (by simpa [hignored] using h)
      · rw [List.filter_cons_of_pos (by simpa using hignored)] at h
        cases h with
        | cons hcarried hrest =>
            rw [processPayload_carries hs hcarried, List.foldl_cons]
            exact ih ((isIsight_receive ..).trans hs) hrest

end StreamAssembly

/-! ## Main results -/

open StreamAssembly

section Main

variable {fs : List SentFrame} {payloads : List UvcPayload}

/-- A camera sends frames, each with another frame ID than the one before.  However each frame is
cut into packets, and whatever payloads that are empty, too short for their header or marked as
broken come in between, the frames that are made available, together with the one that is under
way, are the frames that were sent: the same image data, metadata and clocks, in order and numbered
from one.  No frame is under way if the packet sent last completes its frame. -/
theorem frames_put_together (halternate : fs.IsChain fun f g => f.fid ≠ g.fid)
    (hcarry : List.Forall₂ UvcPacket.CarriedBy (fs.flatMap (·.packets))
      (payloads.filter fun payload => ¬ Ignored payload)) :
    ((start colorCameraVid colorCameraPid).processPayloads payloads).published ++
        ((start colorCameraVid colorCameraPid).processPayloads payloads).underWay =
      SentFrame.numbered 1 fs ∧
    ∀ f ∈ fs.getLast?,
      ((start colorCameraVid colorCameraPid).processPayloads payloads).underWay = [] ↔
        f.last.completes = true := by
  rw [processPayloads_carries payloads start_between.isIsight hcarry]
  obtain ⟨hframes, hlast, -⟩ := foldl_frames fs start_between (.inl rfl) halternate
  exact ⟨hframes, hlast⟩

/-- The two buffers have a fixed size, and nothing is written beyond them exactly if no frame is
larger than its buffer. -/
theorem writes_fit_iff (halternate : fs.IsChain fun f g => f.fid ≠ g.fid)
    (hcarry : List.Forall₂ UvcPacket.CarriedBy (fs.flatMap (·.packets))
      (payloads.filter fun payload => ¬ Ignored payload)) :
    (((start colorCameraVid colorCameraPid).processPayloads payloads).outEnd ≤ libuvcXferBufSize ∧
      ((start colorCameraVid colorCameraPid).processPayloads payloads).metaOutEnd ≤
        libuvcXferMetaBufSize) ↔
    ∀ f ∈ fs, f.data.length ≤ libuvcXferBufSize ∧ f.metadata.length ≤ libuvcXferMetaBufSize := by
  rw [processPayloads_carries payloads start_between.isIsight hcarry]
  obtain ⟨-, -, hout, hmeta⟩ := foldl_frames fs start_between (.inl rfl) halternate
  rw [hout, hmeta]
  constructor
  · rintro ⟨⟨-, hdata⟩, -, hmetadata⟩ f hf
    exact ⟨hdata f hf, hmetadata f hf⟩
  · intro h
    exact ⟨⟨Nat.zero_le _, fun f hf => (h f hf).1⟩, Nat.zero_le _, fun f hf => (h f hf).2⟩

end Main

/-! ## A stream

Two frames.  The first one ends with a packet without image data, so it is complete only with the
packet after it. -/

theorem holds_memory (l : List UInt8) : Holds (memory l) 0 l := by
  intro i _
  rw [Nat.zero_add]

/-- The payload of a packet. -/
def UvcPacket.payload (p : UvcPacket) : UvcPayload := ⟨memory p.encode, p.encode.length⟩

theorem UvcPacket.carriedBy_payload (p : UvcPacket) : p.CarriedBy p.payload :=
  ⟨rfl, holds_memory _⟩

/-- A frame with a presentation time and metadata in its first packet. -/
def clockedFrame : SentFrame where
  body := [⟨0x04, 9, 0, 0, [7], [1, 2], by decide, by decide⟩,
    ⟨0x00, 0, 0, 0, [], [3], by decide, by decide⟩]
  last := ⟨0x02, 0, 0, 0, [], [], by decide, by decide⟩
  sameFid := by decide
  noEof := by decide
  hasData := by decide

/-- A frame in one packet. -/
def singleFrame : SentFrame where
  body := []
  last := ⟨0x03, 0, 0, 0, [], [4], by decide, by decide⟩
  sameFid := by simp
  noEof := by simp
  hasData := by simp

/-- Their payloads, and some that are ignored. -/
def twoFrames : List UvcPayload :=
  ⟨fun _ => 0, 0⟩ :: (clockedFrame.packets.map UvcPacket.payload ++
    [⟨fun _ => 200, 12⟩] ++ singleFrame.packets.map UvcPacket.payload)

theorem twoFrames_carry : List.Forall₂ UvcPacket.CarriedBy
    ([clockedFrame, singleFrame].flatMap (·.packets))
    (twoFrames.filter fun payload => ¬ Ignored payload) := by
  have hfilter : (twoFrames.filter fun payload => ¬ Ignored payload) =
      ([clockedFrame, singleFrame].flatMap (·.packets)).map UvcPacket.payload := rfl
  rw [hfilter, List.forall₂_map_right_iff]
  exact List.forall₂_same.mpr fun p _ => p.carriedBy_payload

theorem frames_put_together_twoFrames :
    ((start colorCameraVid colorCameraPid).processPayloads twoFrames).published =
      [⟨[1, 2, 3], [7], 9, 0, 1⟩, ⟨[4], [], 0, 0, 2⟩] ∧
    ((start colorCameraVid colorCameraPid).processPayloads twoFrames).published ++
        ((start colorCameraVid colorCameraPid).processPayloads twoFrames).underWay =
      SentFrame.numbered 1 [clockedFrame, singleFrame] ∧
    ∀ f ∈ [clockedFrame, singleFrame].getLast?,
      ((start colorCameraVid colorCameraPid).processPayloads twoFrames).underWay = [] ↔
        f.last.completes = true :=
  ⟨by decide, frames_put_together (by decide) twoFrames_carry⟩

theorem writes_fit_iff_twoFrames :
    (((start colorCameraVid colorCameraPid).processPayloads twoFrames).outEnd ≤
        libuvcXferBufSize ∧
      ((start colorCameraVid colorCameraPid).processPayloads twoFrames).metaOutEnd ≤
        libuvcXferMetaBufSize) ↔
    ∀ f ∈ [clockedFrame, singleFrame],
      f.data.length ≤ libuvcXferBufSize ∧ f.metadata.length ≤ libuvcXferMetaBufSize :=
  writes_fit_iff (by decide) twoFrames_carry

end ZsaSdk
