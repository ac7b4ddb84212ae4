import ZsaSdk.Lib.Slots

/-!
# Readers/writer locks

A lock that any number of readers hold at once, or one writer alone.  `RwLock` counts those that
hold it.  A thread is in a section of its own kind or in none (`Section`), and `Counts` says that
the lock counts the threads that are in one.

Taking the lock and giving it up keep `Counts` (`acquireRead`, `acquireWrite`, `unlock_read`,
`unlock_write`), and so does a step inside a section or outside (`stay`).  With it a writer is
alone (`writer_alone`), and a lock that is held is held by one of the threads (`exists_holder`).
-/

/-- The state of the lock. -/
structure RwLock where
  readers : Nat
  writer : Bool
deriving DecidableEq, Repr

namespace RwLock

/-- What a thread holds. -/
inductive Section where
  | outside
  | read
  | write
deriving DecidableEq, Repr

def Section.reads : Section → Nat
  | .read => 1
  | _ => 0

def Section.writes : Section → Nat
  | .write => 1
  | _ => 0

/-- Nobody holds the lock. -/
def free : RwLock := ⟨0, false⟩

/-- Take the lock to read, if no one writes. -/
def acquireRead (lock : RwLock) : Option RwLock :=
  if lock.writer then none else some { lock with readers := lock.readers + 1 }

/-- Take the lock to write, if no one holds it. -/
def acquireWrite (lock : RwLock) : Option RwLock :=
  if lock = free then some { lock with writer := true } else none

/-- Give the lock up: there is one operation for both kinds of holders. -/
def unlock (lock : RwLock) : RwLock :=
  if lock.writer then { lock with writer := false } else { lock with readers := lock.readers - 1 }

variable {τ : Type} {held : τ → Section} {lock lock' : RwLock} {ts : List τ} {i j : Nat}
  {t t' u : τ}

theorem acquireRead_eq (h : lock.acquireRead = some lock') :
    lock.writer = false ∧ lock' = { lock with readers := lock.readers + 1 } := by
  simp only [acquireRead] at h
  split at h
  next => cases h
  next hw =>
    cases h
    exact ⟨Bool.eq_false_iff.mpr hw, rfl⟩

theorem acquireWrite_eq (h : lock.acquireWrite = some lock') :
    lock = free ∧ lock' = ⟨0, true⟩ := by
  simp only [acquireWrite] at h
  split at h
  next hfree =>
    cases h
    subst hfree
    exact ⟨rfl, rfl⟩
  next => cases h

/-- The lock counts the threads that hold it. -/
structure Counts (held : τ → Section) (lock : RwLock) (ts : List τ) : Prop where
  readers : (ts.map fun t => (held t).reads).sum = lock.readers
  writers : (ts.map fun t => (held t).writes).sum = lock.writer.toNat
  exclusive : lock.writer = true → lock.readers = 0

namespace Counts

theorem of_outside (h : ∀ t ∈ ts, held t = .outside) : Counts held free ts := by
  have hsum : ∀ f : Section → Nat, f .outside = 0 → (ts.map fun t => f (held t)).sum = 0 := by
    intro f hf
    refine List.sum_eq_zero fun n hn => ?_
    obtain ⟨t, ht, rfl⟩ := List.mem_map.mp hn
    rw [h t ht, hf]
  exact ⟨hsum Section.reads rfl, hsum Section.writes rfl, fun _ => rfl⟩

/-- How the two sums change with one thread. -/
theorem sums_set (held : τ → Section) (ht : ts[i]? = some t) (t' : τ) :
    ((ts.set i t').map fun t => (held t).reads).sum + (held t).reads =
        (ts.map fun t => (held t).reads).sum + (held t').reads ∧
      ((ts.set i t').map fun t => (held t).writes).sum + (held t).writes =
        (ts.map fun t => (held t).writes).sum + (held t').writes :=
  ⟨Slots.sum_map_set (fun t => (held t).reads) t' ht,
    Slots.sum_map_set (fun t => (held t).writes) t' ht⟩

/-- While a thread reads, the lock counts a reader, and no writer. -/
theorem of_read (h : Counts held lock ts) (ht : ts[i]? = some t) (hin : held t = .read) :
    0 < lock.readers ∧ lock.writer = false := by
  have hpos := Slots.le_sum_map (fun t => (held t).reads) ht
  rw [hin, h.readers] at hpos
  cases hw : lock.writer with
  | false => exact ⟨hpos, rfl⟩
  | true =>
      rw [h.exclusive hw] at hpos
      exact absurd hpos (Nat.not_succ_le_zero 0)

/-- While a thread writes, the lock counts a writer. -/
theorem of_write (h : Counts held lock ts) (ht : ts[i]? = some t) (hin : held t = .write) :
    lock.writer = true := by
  have hpos := Slots.le_sum_map (fun t => (held t).writes) ht
  rw [hin, h.writers] at hpos
  cases hw : lock.writer with
  | true => rfl
  | false =>
      rw [hw] at hpos
      exact absurd hpos (Nat.not_succ_le_zero 0)

/-- A thread that keeps what it holds. -/
theorem stay (h : Counts held lock ts) (ht : ts[i]? = some t) (heq : held t' = held t) :
    Counts held lock (ts.set i t') := by
  obtain ⟨hreads, hwrites⟩ := sums_set held ht t'
  rw [heq] at hreads hwrites
  exact ⟨(Nat.add_right_cancel hreads).trans h.readers,
    (Nat.add_right_cancel hwrites).trans h.writers, h.exclusive⟩

theorem acquireRead (h : Counts held lock ts) (ht : ts[i]? = some t) (hout : held t = .outside)
    (hin : held t' = .read) (hlock : lock.acquireRead = some lock') :
    Counts held lock' (ts.set i t') := by
  obtain ⟨hreads, hwrites⟩ := sums_set held ht t'
  obtain ⟨hw, rfl⟩ := acquireRead_eq hlock
  rw [hout, hin] at hreads hwrites
  refine ⟨?_, ?_, fun hw' => ?_⟩
  · rw [← h.readers]
    exact hreads
  · rw [← h.writers]
    exact hwrites
  · rw [hw] at hw'
    cases hw'

theorem acquireWrite (h : Counts held lock ts) (ht : ts[i]? = some t) (hout : held t = .outside)
    (hin : held t' = .write) (hlock : lock.acquireWrite = some lock') :
    Counts held lock' (ts.set i t') := by
  obtain ⟨hreads, hwrites⟩ := sums_set held ht t'
  obtain ⟨rfl, rfl⟩ := acquireWrite_eq hlock
  rw [hout, hin] at hreads hwrites
  refine ⟨?_, ?_, fun _ => rfl⟩
  · exact hreads.trans h.readers
  · rw [h.writers] at hwrites
    exact hwrites

theorem unlock_read (h : Counts held lock ts) (ht : ts[i]? = some t) (hin : held t = .read)
    (hout : held t' = .outside) : Counts held lock.unlock (ts.set i t') := by
  obtain ⟨hreads, hwrites⟩ := sums_set held ht t'
  have hw : ¬lock.writer = true := Bool.eq_false_iff.mp (h.of_read ht hin).2
  rw [hin, hout, h.readers] at hreads
  rw [hin, hout, h.writers] at hwrites
  rw [unlock, if_neg hw]
  exact ⟨Nat.eq_sub_of_add_eq hreads, hwrites, fun hw' => absurd hw' hw⟩

theorem unlock_write (h : Counts held lock ts) (ht : ts[i]? = some t) (hin : held t = .write)
    (hout : held t' = .outside) : Counts held lock.unlock (ts.set i t') := by
  obtain ⟨hreads, hwrites⟩ := sums_set held ht t'
  have hw := h.of_write ht hin
  rw [hin, hout, h.readers] at hreads
  rw [hin, hout, h.writers, hw] at hwrites
  rw [unlock, if_pos hw]
  refine ⟨hreads, ?_, fun hw' => by cases hw'⟩
  exact Nat.add_right_cancel hwrites

/-- While a thread reads, no one writes. -/
theorem no_writer (h : Counts held lock ts) (ht : ts[i]? = some t) (hin : held t = .read)
    (hu : ts[j]? = some u) : held u ≠ .write := by
  intro hwrite
  have hw := h.of_write hu hwrite
  rw [(h.of_read ht hin).2] at hw
  cases hw

/-- A thread that writes is alone. -/
theorem writer_alone (h : Counts held lock ts) (ht : ts[i]? = some t) (hin : held t = .write)
    (hu : ts[j]? = some u) (hne : j ≠ i) : held u = .outside := by
  cases hheld : held u with
  | outside => rfl
  | read => exact absurd hin (h.no_writer hu hheld ht)
  | write =>
      have hle := Slots.add_le_sum_map (fun t => (held t).writes) ht hu hne
      rw [h.writers, hin, hheld] at hle
      exact absurd (Nat.le_trans hle (Bool.toNat_le lock.writer)) (Nat.not_succ_le_self 1)

/-- A lock that is held is held by a thread. -/
theorem exists_holder (h : Counts held lock ts) (hheld : lock ≠ free) :
    ∃ (i : Nat) (t : τ), ts[i]? = some t ∧ held t ≠ .outside := by
  by_cases hr : 0 < lock.readers
  · rw [← h.readers] at hr
    obtain ⟨i, t, ht, hpos⟩ := Slots.exists_of_sum_map_pos _ hr
    refine ⟨i, t, ht, fun hout => ?_⟩
    rw [hout] at hpos
    exact Nat.lt_irrefl 0 hpos
  · have hw : 0 < lock.writer.toNat := by
      cases hw : lock.writer with
      | true => exact Nat.one_pos
      | false =>
          refine absurd ?_ hheld
          cases lock
          simp_all [free]
    rw [← h.writers] at hw
    obtain ⟨i, t, ht, hpos⟩ := Slots.exists_of_sum_map_pos _ hw
    refine ⟨i, t, ht, fun hout => ?_⟩
    rw [hout] at hpos
    exact Nat.lt_irrefl 0 hpos

end Counts

end RwLock
