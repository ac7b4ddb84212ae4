import ZsaSdk.Lib.Bytes
import ZsaSdk.Lib.Loop

/-!
# Blocks with a length

A loop over blocks whose first byte is their size:

    while (left >= 3) { if (!parse(buffer)) break; left -= buffer[0]; buffer += buffer[0]; }

The loop trusts the sizes.  `left` is a machine word, so a block that is larger than what is left
wraps it around, and a block of size zero is parsed again.  A parser says what it makes of a block
and how far it reads from the start of the block.

`Chain` derives the result of a scan that stays inside its memory: every block reads no further
than what is left, and its size fits.  A scan ends inside its memory exactly if there is such a
derivation, and then its result is the derived one (`ends_iff_chain`).
-/

namespace Blocks

variable {σ : Type}

/-- What is made of a block. -/
inductive Outcome (σ : Type) where
  /-- Go on with the next block. -/
  | next (s : σ)
  /-- The scan ends here. -/
  | stop (s : σ)
  /-- The program has failed. -/
  | crash
deriving DecidableEq

/-- A parser of blocks: what it makes of a block, and how many bytes from the start of the block
on it reads.  It reads the size. -/
structure Parser (σ : Type) where
  parse : (Nat → UInt8) → Nat → σ → Outcome σ
  reach : (Nat → UInt8) → Nat → σ → Nat
  reach_pos : ∀ m o s, 0 < reach m o s

/-- How far the loop is. -/
structure Scan (σ : Type) where
  state : σ
  offset : Nat
  left : UInt64
  /-- The end of what has been read. -/
  reach : Nat
  ended : Bool
  crashed : Bool

/-- The loop goes on. -/
def Scan.more (t : Scan σ) : Bool := !t.ended && 3 ≤ t.left

/-- One block. -/
def Scan.step (p : Parser σ) (m : Nat → UInt8) (t : Scan σ) : Scan σ :=
  let reach := max t.reach (t.offset + p.reach m t.offset t.state)
  match p.parse m t.offset t.state with
  | .next s =>
      { t with
        state := s, reach := reach,
        offset := t.offset + (m t.offset).toNat, left := t.left - (m t.offset).toUInt64 }
  | .stop s => { t with state := s, reach := reach, ended := true }
  | .crash => { t with reach := reach, ended := true, crashed := true }

/-- The scan of `length` bytes, for at most `n` blocks. -/
def scan (p : Parser σ) (m : Nat → UInt8) (length : UInt64) (s : σ) (n : Nat) : Scan σ :=
  Loop.run Scan.more (Scan.step p m) n ⟨s, 0, length, 0, false, false⟩

/-- The scan has ended in a state, and has read nothing from `limit` on. -/
structure Scan.EndsIn (t : Scan σ) (limit : Nat) (s : σ) : Prop where
  ended : t.more = false
  alive : t.crashed = false
  inside : t.reach ≤ limit
  state : t.state = s

/-- A scan of the `left` bytes from an offset on that stays inside them. -/
inductive Chain (p : Parser σ) (m : Nat → UInt8) : Nat → Nat → σ → σ → Prop where
  | rest {o left s} (hleft : left < 3) : Chain p m o left s s
  | stop {o left s s'} (hleft : 3 ≤ left) (hreach : p.reach m o s ≤ left)
      (hparse : p.parse m o s = .stop s') : Chain p m o left s s'
  | next {o left s s' s''} (hleft : 3 ≤ left) (hreach : p.reach m o s ≤ left)
      (hparse : p.parse m o s = .next s') (hsize : (m o).toNat ≤ left)
      (htail : Chain p m (o + (m o).toNat) (left - (m o).toNat) s' s'') : Chain p m o left s s''

/-! ## One block -/

section Steps

variable {p : Parser σ} {m : Nat → UInt8} {t : Scan σ} {s : σ}

theorem Scan.step_reach : (t.step p m).reach =
    max t.reach (t.offset + p.reach m t.offset t.state) := by
  unfold Scan.step
  cases p.parse m t.offset t.state <;> rfl

theorem Scan.step_of_next (h : p.parse m t.offset t.state = .next s) :
    t.step p m = { t with
      state := s, reach := max t.reach (t.offset + p.reach m t.offset t.state),
      offset := t.offset + (m t.offset).toNat, left := t.left - (m t.offset).toUInt64 } := by
  simp only [Scan.step, h]

theorem Scan.step_of_stop (h : p.parse m t.offset t.state = .stop s) :
    t.step p m = { t with
      state := s
      reach := max t.reach (t.offset + p.reach m t.offset t.state)
      ended := true } := by
  simp only [Scan.step, h]

theorem Scan.step_of_crash (h : p.parse m t.offset t.state = .crash) :
    t.step p m = { t with
      reach := max t.reach (t.offset + p.reach m t.offset t.state),
      ended := true, crashed := true } := by
  simp only [Scan.step, h]

theorem Scan.more_of_ended (h : t.ended = true) : t.more = false := by
  rw [Scan.more, h, Bool.not_true, Bool.false_and]

theorem Scan.more_iff (h : t.ended = false) : t.more = true ↔ 3 ≤ t.left.toNat := by
  rw [Scan.more, h, Bool.not_false, Bool.true_and, decide_eq_true_iff]
  exact UInt64.le_iff_toNat_le

/-- The scan never forgets what it has read. -/
theorem reach_le_run (n : Nat) (t : Scan σ) :
    t.reach ≤ (Loop.run Scan.more (Scan.step p m) n t).reach := by
  refine Loop.run_invariant (fun t' => t.reach ≤ t'.reach) ?_ n t (Nat.le_refl _)
  intro t' _ h
  rw [Scan.step_reach]
  exact Nat.le_trans h (Nat.le_max_left ..)

theorem toNat_sub_size (h : (m t.offset).toNat ≤ t.left.toNat) :
    (t.left - (m t.offset).toUInt64).toNat = t.left.toNat - (m t.offset).toNat := by
  have hle : (m t.offset).toUInt64 ≤ t.left := by
    rw [UInt64.le_iff_toNat_le, UInt8.toNat_toUInt64]
    exact h
  rw [UInt64.toNat_sub_of_le _ _ hle, UInt8.toNat_toUInt64]

/-- A size that is larger than what is left makes `left` large. -/
theorem three_le_of_wrapped (h : t.left.toNat < (m t.offset).toNat) :
    3 ≤ (t.left - (m t.offset).toUInt64).toNat := by
  have hsize : (m t.offset).toNat < 256 := UInt8.toNat_lt _
  have hleft := UInt64.toNat_lt t.left
  rw [UInt64.toNat_sub, UInt8.toNat_toUInt64]
  omega

end Steps

/-! ## The whole scan -/

variable {p : Parser σ} {m : Nat → UInt8}

/-- A block that the loop comes to is read, and it cannot be the end of the scan. -/
theorem next_block_read {limit n : Nat} {t : Scan σ} {s' : σ} (hmore : t.more = true)
    (h : (Loop.run Scan.more (Scan.step p m) n t).EndsIn limit s') :
    t.offset + p.reach m t.offset t.state ≤ limit := by
  cases n with
  | zero => exact absurd (hmore.symm.trans h.ended) Bool.noConfusion
  | succ n =>
      rw [Loop.run_succ_true hmore] at h
      have hstep := Nat.le_trans (reach_le_run n _) h.inside
      rw [Scan.step_reach] at hstep
      exact Nat.le_trans (Nat.le_max_right ..) hstep

/-- A scan that stays inside its memory is derived block by block. -/
theorem chain_of_run {limit : Nat} {s' : σ} : ∀ (n : Nat) (t : Scan σ), t.ended = false →
    t.offset + t.left.toNat = limit →
    (Loop.run Scan.more (Scan.step p m) n t).EndsIn limit s' →
    Chain p m t.offset t.left.toNat t.state s' := by
  intro n
  induction n with
  | zero =>
      intro t hended hlimit h
      have hleft : t.left.toNat < 3 := by
        rw [← Nat.not_le, ← Scan.more_iff hended, Bool.not_eq_true]
        exact h.ended
      rw [← h.state]
      exact .rest hleft
  | succ n ih =>
      intro t hended hlimit h
      cases hmore : t.more with
      | false =>
          rw [Loop.run_false hmore] at h
          have hleft : t.left.toNat < 3 := by
            rw [← Nat.not_le, ← Scan.more_iff hended, hmore]
            exact Bool.false_ne_true
          rw [← h.state]
          exact .rest hleft
      | true =>
          have hread := next_block_read hmore h
          have hleft := (Scan.more_iff hended).mp hmore
          rw [Loop.run_succ_true hmore] at h
          have hreach : p.reach m t.offset t.state ≤ t.left.toNat := by omega
          cases hparse : p.parse m t.offset t.state with
          | crash =>
              rw [Scan.step_of_crash hparse, Loop.run_false (Scan.more_of_ended rfl)] at h
              exact absurd h.alive Bool.noConfusion
          | stop s =>
              rw [Scan.step_of_stop hparse, Loop.run_false (Scan.more_of_ended rfl)] at h
              rw [← h.state]
              exact .stop hleft hreach hparse
          | next s =>
              have hstep := Scan.step_of_next hparse
              have hended' : (t.step p m).ended = false := by rw [hstep]; exact hended
              have hoffset : (t.step p m).offset = t.offset + (m t.offset).toNat := by rw [hstep]
              have hleft' : (t.step p m).left = t.left - (m t.offset).toUInt64 := by rw [hstep]
              have hstate : (t.step p m).state = s := by rw [hstep]
              rcases Nat.lt_or_ge t.left.toNat (m t.offset).toNat with hsize | hsize
              · -- what is left has wrapped around, and the next block starts behind the end
                have hmore' : (t.step p m).more = true := by
                  rw [Scan.more_iff hended', hleft']
                  exact three_le_of_wrapped hsize
                have hfar := next_block_read hmore' h
                have hpos := p.reach_pos m (t.step p m).offset (t.step p m).state
                omega
              · have hnat := toNat_sub_size hsize
                have htail := ih (t.step p m) hended' (by rw [hoffset, hleft', hnat]; omega) h
                rw [hoffset, hleft', hnat, hstate] at htail
                exact .next hleft hreach hparse hsize htail

/-- What is derived is what the scan does. -/
theorem run_of_chain {o left : Nat} {s s' : σ} (h : Chain p m o left s s') :
    ∀ t : Scan σ, t.ended = false → t.crashed = false → t.offset = o → t.left.toNat = left →
      t.state = s → t.reach ≤ o + left →
      ∃ n, (Loop.run Scan.more (Scan.step p m) n t).EndsIn (o + left) s' := by
  induction h with
  | rest hleft =>
      rintro t hended hcrashed rfl rfl rfl hreach
      have hmore : t.more = false := by
        rw [← Bool.not_eq_true, Scan.more_iff hended, Nat.not_le]
        exact hleft
      exact ⟨0, hmore, hcrashed, hreach, rfl⟩
  | stop hleft hread hparse =>
      rintro t hended hcrashed rfl rfl rfl hreach
      refine ⟨1, ?_⟩
      rw [Loop.run_succ_true ((Scan.more_iff hended).mpr hleft), Loop.run_zero,
        Scan.step_of_stop hparse]
      exact ⟨Scan.more_of_ended rfl, hcrashed, Nat.max_le.mpr ⟨hreach, by omega⟩, rfl⟩
  | next hleft hread hparse hsize htail ih =>
      rintro t hended hcrashed rfl rfl rfl hreach
      obtain ⟨n, hn⟩ := ih (t.step p m) (by rw [Scan.step_of_next hparse]; exact hended)
        (by rw [Scan.step_of_next hparse]; exact hcrashed) (by rw [Scan.step_of_next hparse])
        (by rw [Scan.step_of_next hparse]; exact toNat_sub_size hsize)
        (by rw [Scan.step_of_next hparse])
        (by rw [Scan.step_reach]; exact Nat.max_le.mpr ⟨by omega, by omega⟩)
      refine ⟨n + 1, ?_⟩
      rw [Loop.run_succ_true ((Scan.more_iff hended).mpr hleft)]
      have hend : t.offset + (m t.offset).toNat + (t.left.toNat - (m t.offset).toNat)
          = t.offset + t.left.toNat := by omega
      rw [hend] at hn
      exact hn

/-- A scan ends inside its memory exactly if it is derived. -/
theorem ends_iff_chain {length : UInt64} {s s' : σ} :
    (∃ n, (scan p m length s n).EndsIn length.toNat s') ↔ Chain p m 0 length.toNat s s' := by
  constructor
  · rintro ⟨n, h⟩
    exact chain_of_run n ⟨s, 0, length, 0, false, false⟩ rfl (Nat.zero_add _) h
  · intro h
    have hrun := run_of_chain h ⟨s, 0, length, 0, false, false⟩ rfl rfl rfl rfl rfl (Nat.zero_le _)
    rw [Nat.zero_add] at hrun
    exact hrun

/-! ## Scanning a list of blocks -/

/-- The parser takes these bytes for one block. -/
structure Takes (p : Parser σ) (b : List UInt8) (s s' : σ) : Prop where
  size : (Bytes.memory b 0).toNat = b.length
  three_le : 3 ≤ b.length
  parse : ∀ m o, Bytes.Holds m o b → p.parse m o s = .next s'
  reach : ∀ m o, Bytes.Holds m o b → p.reach m o s ≤ b.length

/-- The parser takes the bytes of a list of blocks one by one. -/
inductive TakesAll (p : Parser σ) : List (List UInt8) → σ → σ → Prop where
  | nil {s} : TakesAll p [] s s
  | cons {b bs s s' s''} (head : Takes p b s s') (tail : TakesAll p bs s' s'') :
      TakesAll p (b :: bs) s s''

theorem TakesAll.append {bs bs' : List (List UInt8)} {s s' s'' : σ} (h : TakesAll p bs s s')
    (h' : TakesAll p bs' s' s'') : TakesAll p (bs ++ bs') s s'' := by
  induction h with
  | nil => exact h'
  | cons head _ ih => exact .cons head (ih h')

/-- Blocks that change nothing can stand between the others. -/
theorem TakesAll.of_filter (keep : List UInt8 → Bool) {bs : List (List UInt8)} {s s' : σ}
    (hskip : ∀ b ∈ bs, keep b = false → ∀ s, Takes p b s s)
    (h : TakesAll p (bs.filter keep) s s') : TakesAll p bs s s' := by
  induction bs generalizing s with
  | nil => exact h
  | cons b bs ih =>
      have hskip' : ∀ c ∈ bs, keep c = false → ∀ s, Takes p c s s :=
        fun c hc => hskip c (List.mem_cons_of_mem b hc)
      cases hb : keep b with
      | false =>
          rw [List.filter_cons_of_neg (by rw [hb]; exact Bool.false_ne_true)] at h
          exact .cons (hskip b List.mem_cons_self hb s) (ih hskip' h)
      | true =>
          rw [List.filter_cons_of_pos hb] at h
          cases h with
          | cons head tail => exact .cons head (ih hskip' tail)

/-- Blocks one after the other, with at most two bytes behind them, are scanned. -/
theorem TakesAll.chain {bs : List (List UInt8)} {rest : List UInt8} {s s' : σ}
    (h : TakesAll p bs s s') (hrest : rest.length < 3) :
    ∀ {o : Nat}, Bytes.Holds m o (bs.flatten ++ rest) →
      Chain p m o (bs.flatten ++ rest).length s s' := by
  induction h with
  | nil => exact fun _ => .rest hrest
  | @cons b bs s t t' head tail ih =>
      intro o hold
      rw [List.flatten_cons, List.append_assoc] at hold ⊢
      have hblock := hold.left
      have hsize : (m o).toNat = b.length := by
        rw [← head.size, ← hblock 0 (by have := head.three_le; omega), Nat.add_zero]
      have hlen : (b ++ (bs.flatten ++ rest)).length
          = b.length + (bs.flatten ++ rest).length := List.length_append
      have htail : Chain p m (o + (m o).toNat)
          ((b ++ (bs.flatten ++ rest)).length - (m o).toNat) t t' := by
        rw [hsize, hlen, Nat.add_sub_cancel_left]
        exact ih hold.right
      have hthree := head.three_le
      exact .next (by omega) (Nat.le_trans (head.reach m o hblock) (by omega))
        (head.parse m o hblock) (by omega) htail

end Blocks
