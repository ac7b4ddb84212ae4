import Mathlib.Logic.Basic

/-!
# Runs of a labelled step function

A system takes steps.  A label says which step is tried and how the choices in it fall
out, and `step s a` is the next state, or nothing if the step is not possible.  `run`
tries a list of labels one after the other.

What holds along every run is proved from one step: an invariant (`run_invariant`), and a
property that a step keeps exactly under a condition on the state before it (`run_iff`).
`Along P` is such a condition, before every step of a run, and `Always J` says that `J` holds
in every state of it (`always_iff_along`).
-/

namespace Steps

variable {σ α : Type} (step : σ → α → Option σ)

/-- Try the steps of a list of labels. -/
def run (s : σ) : List α → Option σ
  | [] => some s
  | a :: as => (step s a).bind fun s' => run s' as

/-- `P` holds before every step of the run. -/
def Along (P : σ → α → Prop) (s : σ) : List α → Prop
  | [] => True
  | a :: as => P s a ∧ ∀ s', step s a = some s' → Along P s' as

/-- How many steps of the run are taken under `P`. -/
def count (P : σ → α → Bool) (s : σ) : List α → Nat
  | [] => 0
  | a :: as => (if P s a then 1 else 0) + (step s a).elim 0 fun s' => count P s' as

/-- `J` holds in every state of the run. -/
def Always (J : σ → Prop) (s : σ) : List α → Prop
  | [] => J s
  | a :: as => J s ∧ ∀ s', step s a = some s' → Always J s' as

variable {step} {s s' : σ} {as : List α}

theorem run_cons {a : α} (h : run step s (a :: as) = some s') :
    ∃ v, step s a = some v ∧ run step v as = some s' := Option.bind_eq_some_iff.mp h

theorem run_append (as as' : List α) : ∀ s : σ,
    run step s (as ++ as') = (run step s as).bind fun v => run step v as' := by
  induction as with
  | nil => exact fun s => rfl
  | cons a as ih =>
      intro s
      simp only [List.cons_append, run]
      cases step s a with
      | none => rfl
      | some v => exact ih v

theorem Along.cons {P : σ → α → Prop} {a : α} (hv : step s a = some s') (hp : P s a)
    (h : Along step P s' as) : Along step P s (a :: as) := by
  refine ⟨hp, fun v hv' => ?_⟩
  rw [hv] at hv'
  exact Option.some.inj hv' ▸ h

/-- A condition on the labels alone. -/
theorem Along.of_forall {P : σ → α → Prop} (h : ∀ a ∈ as, ∀ s, P s a) :
    ∀ {s : σ}, Along step P s as := by
  induction as with
  | nil => exact trivial
  | cons a as ih =>
      exact ⟨h a List.mem_cons_self _,
        fun _ _ => ih fun b hb => h b (List.mem_cons_of_mem a hb)⟩

/-- What every step with an admitted label keeps, every run with such labels keeps. -/
theorem run_invariant (I : σ → Prop) (ok : α → Prop)
    (hstep : ∀ s a s', I s → ok a → step s a = some s' → I s') (as : List α) :
    ∀ {s : σ}, (∀ a ∈ as, ok a) → I s → run step s as = some s' → I s' := by
  induction as with
  | nil =>
      intro s _ hs h
      cases h
      exact hs
  | cons a as ih =>
      intro s hok hs h
      obtain ⟨v, hv, hrun⟩ := run_cons h
      exact ih (fun b hb => hok b (List.mem_cons_of_mem a hb))
        (hstep s a v hs (hok a List.mem_cons_self) hv) hrun

/-- If no admitted step makes a measure larger, and every one under `P` makes it smaller, there are
no more steps under `P` than the measure says. -/
theorem run_count_le (I : σ → Prop) (ok : α → Prop) (P : σ → α → Bool) (μ : σ → Nat)
    (hstep : ∀ s a s', I s → ok a → step s a = some s' →
      I s' ∧ μ s' + (if P s a then 1 else 0) ≤ μ s) (as : List α) :
    ∀ {s : σ}, (∀ a ∈ as, ok a) → I s → run step s as = some s' →
      count step P s as + μ s' ≤ μ s := by
  induction as with
  | nil =>
      intro s _ _ h
      cases h
      exact Nat.le_of_eq (Nat.zero_add _)
  | cons a as ih =>
      intro s hok hs h
      obtain ⟨v, hv, hrun⟩ := run_cons h
      obtain ⟨hi, hle⟩ := hstep s a v hs (hok a List.mem_cons_self) hv
      have hrest := ih (fun b hb => hok b (List.mem_cons_of_mem a hb)) hi hrun
      rw [count, hv, Option.elim_some]
      omega

/-- If every step with an admitted label makes a measure smaller, there are no more such steps
than the measure says. -/
theorem run_length_le (I : σ → Prop) (ok : α → Prop) (μ : σ → Nat)
    (hstep : ∀ s a s', I s → ok a → step s a = some s' → I s' ∧ μ s' < μ s) (as : List α) :
    ∀ {s : σ}, (∀ a ∈ as, ok a) → I s → run step s as = some s' → as.length + μ s' ≤ μ s := by
  induction as with
  | nil =>
      intro s _ _ h
      cases h
      exact Nat.le_of_eq (Nat.zero_add _)
  | cons a as ih =>
      intro s hok hs h
      obtain ⟨v, hv, hrun⟩ := run_cons h
      obtain ⟨hi, hlt⟩ := hstep s a v hs (hok a List.mem_cons_self) hv
      have hrest := ih (fun b hb => hok b (List.mem_cons_of_mem a hb)) hi hrun
      rw [List.length_cons]
      omega

/-- What a step keeps exactly under `P`, a run keeps exactly along `P`, in states with the
invariant `I`. -/
theorem run_iff_of_invariant {I J : σ → Prop} {P : σ → α → Prop}
    (hinv : ∀ s a s', I s → step s a = some s' → I s')
    (hstep : ∀ s a s', I s → step s a = some s' → (J s' ↔ J s ∧ P s a)) (as : List α) :
    ∀ {s : σ}, I s → run step s as = some s' → (J s' ↔ J s ∧ Along step P s as) := by
  induction as with
  | nil =>
      intro s _ h
      cases h
      exact ⟨fun hj => ⟨hj, trivial⟩, fun hj => hj.1⟩
  | cons a as ih =>
      intro s hs h
      obtain ⟨v, hv, hrun⟩ := run_cons h
      rw [ih (hinv s a v hs hv) hrun, hstep s a v hs hv, Along, and_assoc]
      refine and_congr_right fun _ => and_congr_right fun _ => ⟨fun h' => ?_, fun h' => h' v hv⟩
      intro u hu
      rw [hv] at hu
      exact Option.some.inj hu ▸ h'

/-- As `run_iff_of_invariant`, for all states. -/
theorem run_iff {J : σ → Prop} {P : σ → α → Prop}
    (hstep : ∀ s a s', step s a = some s' → (J s' ↔ J s ∧ P s a)) (as : List α)
    (h : run step s as = some s') : J s' ↔ J s ∧ Along step P s as :=
  run_iff_of_invariant (I := fun _ => True) (fun _ _ _ _ _ => trivial)
    (fun s a s' _ hs => hstep s a s' hs) as trivial h

/-- As `run_iff`, for a condition on the labels alone. -/
theorem run_iff_forall {J : σ → Prop} {P : α → Prop}
    (hstep : ∀ s a s', step s a = some s' → (J s' ↔ J s ∧ P a)) (as : List α) :
    ∀ {s : σ}, run step s as = some s' → (J s' ↔ J s ∧ ∀ a ∈ as, P a) := by
  induction as with
  | nil =>
      intro s h
      cases h
      exact ⟨fun hj => ⟨hj, nofun⟩, fun hj => hj.1⟩
  | cons a as ih =>
      intro s h
      obtain ⟨v, hv, hrun⟩ := run_cons h
      rw [ih hrun, hstep s a v hv, List.forall_mem_cons, and_assoc]

/-- If the condition makes every step possible, and keeps the invariant, a run along it goes
through. -/
theorem run_total {I : σ → Prop} {P : σ → α → Prop}
    (hstep : ∀ s a, I s → P s a → ∃ s', step s a = some s' ∧ I s') (as : List α) :
    ∀ {s : σ}, I s → Along step P s as → ∃ s', run step s as = some s' ∧ I s' := by
  induction as with
  | nil => exact fun hs _ => ⟨_, rfl, hs⟩
  | cons a as ih =>
      rintro s hs ⟨hp, hrest⟩
      obtain ⟨v, hv, hi⟩ := hstep s a hs hp
      obtain ⟨s', hrun, hi'⟩ := ih hi (hrest v hv)
      exact ⟨s', Option.bind_eq_some_iff.mpr ⟨v, hv, hrun⟩, hi'⟩

theorem Always.head {J : σ → Prop} (h : Always step J s as) : J s := by
  cases as with
  | nil => exact h
  | cons a as => exact h.1

/-- What every step keeps holds in every state of a run. -/
theorem Always.of_invariant {J : σ → Prop} (hstep : ∀ s a s', J s → step s a = some s' → J s')
    (as : List α) : ∀ {s : σ}, J s → Always step J s as := by
  induction as with
  | nil => exact fun hs => hs
  | cons a as ih => exact fun hs => ⟨hs, fun v hv => ih (hstep _ a v hs hv)⟩

/-- A property that a step keeps exactly under `P` holds in every state of a run exactly
along `P`. -/
theorem always_iff_along {I J : σ → Prop} {P : σ → α → Prop}
    (hinv : ∀ s a s', I s → step s a = some s' → I s')
    (hstep : ∀ s a, I s → J s → ((∀ s', step s a = some s' → J s') ↔ P s a)) (as : List α) :
    ∀ {s : σ}, I s → J s → (Always step J s as ↔ Along step P s as) := by
  induction as with
  | nil => exact fun _ hj => ⟨fun _ => trivial, fun _ => hj⟩
  | cons a as ih =>
      intro s hi hj
      constructor
      · rintro ⟨-, hrest⟩
        have hnext : ∀ v, step s a = some v → J v := fun v hv => (hrest v hv).head
        exact ⟨(hstep s a hi hj).mp hnext,
          fun v hv => (ih (hinv s a v hi hv) (hnext v hv)).mp (hrest v hv)⟩
      · rintro ⟨hp, hrest⟩
        have hnext := (hstep s a hi hj).mpr hp
        exact ⟨hj, fun v hv => (ih (hinv s a v hi hv) (hnext v hv)).mpr (hrest v hv)⟩

/-- A condition with an invariant that it keeps implies what the two imply before each step. -/
theorem Along.mono {I : σ → Prop} {P Q : σ → α → Prop}
    (hstep : ∀ s a s', I s → Q s a → step s a = some s' → I s')
    (himp : ∀ s a, I s → Q s a → P s a) (as : List α) :
    ∀ {s : σ}, I s → Along step Q s as → Along step P s as := by
  induction as with
  | nil => exact fun _ _ => trivial
  | cons a as ih =>
      rintro s hs ⟨hq, hrest⟩
      exact ⟨himp s a hs hq, fun v hv => ih (hstep s a v hs hq hv) (hrest v hv)⟩

end Steps
