import Mathlib.Logic.Basic

/-!
# While loops

`Loop.run guard body n s` runs a while loop for at most `n` iterations.  The
rules below are the ones a proof about a loop needs: an invariant of the body is
an invariant of the loop (`run_invariant`), a rank that decreases makes the loop
stop within the rank (`run_stops`), once the loop has stopped more iterations
change nothing (`run_of_stopped`), and a map that commutes with the guard and
the body commutes with the loop (`run_map`, and `run_map_of_invariant` if it does
so only where an invariant holds).  Two loops can also run side by side under a
relation (`run_related`).
-/

namespace Loop

variable {σ τ : Type} {guard : σ → Bool} {body : σ → σ}

/-- `while (guard) body`, for at most `n` iterations. -/
def run (guard : σ → Bool) (body : σ → σ) : Nat → σ → σ
  | 0, s => s
  | n + 1, s => if guard s then run guard body n (body s) else s

@[simp] theorem run_zero (s : σ) : run guard body 0 s = s := rfl

theorem run_succ_true {s : σ} (h : guard s = true) (n : Nat) :
    run guard body (n + 1) s = run guard body n (body s) := by
  simp [run, h]

theorem run_false {s : σ} (h : guard s = false) (n : Nat) : run guard body n s = s := by
  cases n with
  | zero => rfl
  | succ n => simp [run, h]

/-- What every iteration preserves, the loop preserves. -/
theorem run_invariant (I : σ → Prop) (hbody : ∀ s, guard s = true → I s → I (body s)) :
    ∀ (n : Nat) (s : σ), I s → I (run guard body n s)
  | 0, _, h => h
  | n + 1, s, h => by
      cases hg : guard s with
      | true => rw [run_succ_true hg]; exact run_invariant I hbody n _ (hbody s hg h)
      | false => rw [run_false hg]; exact h

/-- If each iteration either ends the loop or lowers the rank, the loop has
ended after more iterations than the rank. -/
theorem run_stops (I : σ → Prop) (rank : σ → Nat)
    (hbody : ∀ s, guard s = true → I s → I (body s))
    (hrank : ∀ s, guard s = true → I s → guard (body s) = true → rank (body s) < rank s) :
    ∀ (n : Nat) (s : σ), I s → rank s < n → guard (run guard body n s) = false
  | 0, _, _, h => absurd h (Nat.not_lt_zero _)
  | n + 1, s, hi, hn => by
      cases hg : guard s with
      | false => rw [run_false hg]; exact hg
      | true =>
          rw [run_succ_true hg]
          cases hg' : guard (body s) with
          | false => rw [run_false hg']; exact hg'
          | true =>
              have := hrank s hg hi hg'
              exact run_stops I rank hbody hrank n _ (hbody s hg hi) (by omega)

/-- Once the loop has ended, more iterations change nothing. -/
theorem run_of_stopped : ∀ {n m : Nat} {s : σ}, guard (run guard body n s) = false → n ≤ m →
    run guard body m s = run guard body n s
  | 0, m, s, h, _ => run_false h m
  | n + 1, 0, _, _, hle => absurd hle (Nat.not_succ_le_zero n)
  | n + 1, m + 1, s, h, hle => by
      cases hg : guard s with
      | false => rw [run_false hg, run_false hg]
      | true =>
          rw [run_succ_true hg] at h ⊢
          rw [run_succ_true hg]
          exact run_of_stopped h (by omega)

/-- Two loops whose guards agree and whose bodies keep a relation, run side by side. -/
theorem run_related {guard' : τ → Bool} {body' : τ → τ} (R : σ → τ → Prop)
    (hguard : ∀ s t, R s t → guard' t = guard s)
    (hbody : ∀ s t, R s t → R (body s) (body' t)) :
    ∀ (n : Nat) (s : σ) (t : τ), R s t → R (run guard body n s) (run guard' body' n t)
  | 0, _, _, h => h
  | n + 1, s, t, h => by
      cases hg : guard s with
      | false =>
          rw [run_false hg, run_false (by rw [hguard s t h, hg])]
          exact h
      | true =>
          rw [run_succ_true hg, run_succ_true (by rw [hguard s t h, hg])]
          exact run_related R hguard hbody n _ _ (hbody s t h)

/-- A map that commutes with guard and body wherever an invariant holds commutes
with the loop. -/
theorem run_map_of_invariant {guard' : τ → Bool} {body' : τ → τ} (I : σ → Prop) (f : σ → τ)
    (hinv : ∀ s, guard s = true → I s → I (body s)) (hguard : ∀ s, I s → guard' (f s) = guard s)
    (hbody : ∀ s, guard s = true → I s → f (body s) = body' (f s)) :
    ∀ (n : Nat) (s : σ), I s → f (run guard body n s) = run guard' body' n (f s)
  | 0, _, _ => rfl
  | n + 1, s, hi => by
      cases hg : guard s with
      | false =>
          rw [run_false hg, run_false (by rw [hguard s hi, hg])]
      | true =>
          rw [run_succ_true hg, run_succ_true (by rw [hguard s hi, hg]), ← hbody s hg hi]
          exact run_map_of_invariant I f hinv hguard hbody n _ (hinv s hg hi)

/-- A map that commutes with guard and body commutes with the loop. -/
theorem run_map {guard' : τ → Bool} {body' : τ → τ} (f : σ → τ)
    (hguard : ∀ s, guard' (f s) = guard s) (hbody : ∀ s, guard s = true → f (body s) = body' (f s))
    (n : Nat) (s : σ) : f (run guard body n s) = run guard' body' n (f s) :=
  run_map_of_invariant (fun _ => True) f (fun _ _ _ => trivial) (fun s _ => hguard s)
    (fun s hg _ => hbody s hg) n s trivial

end Loop
