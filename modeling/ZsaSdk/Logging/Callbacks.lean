import Mathlib.Data.List.Induction
import ZsaSdk.Logging.Threads

/-!
# The logger under threads: what callers see

Every call takes effect at one moment while it is in progress: the operations of the history, one
after the other, give the answers that the calls have given (`calls_linearize`).  So the quick exit
of `logger_log` is not seen, and a message is formatted and delivered under one registration even
if others are waiting.

From this follows what the callback of the user may rely on (`callbacks_registered`), and that every
call ends, in whatever order the threads take their steps (`calls_end`).
-/

namespace ZsaSdk

namespace LoggerGlobal

variable {global global' : LoggerGlobal} {m : LogMessage}

/-- The quick exit is taken only if the message leads to nothing. -/
theorem outputs_of_quickExit (h : global.quickExit m = true) :
    global.userOutput m = none ∧ global.envOutput m = none := by
  simp only [quickExit, Bool.or_eq_true, Bool.and_eq_true, decide_eq_true_eq,
    Option.isNone_iff_eq_none] at h
  simp only [userOutput, envOutput]
  obtain ⟨henv, huser⟩ | ⟨henv, huser⟩ := h
  · rw [if_neg fun hle => absurd hle.1 (Int.not_le.mpr huser),
      if_neg fun hle => absurd hle.1 (Int.not_le.mpr henv)]
    exact ⟨rfl, rfl⟩
  · rw [henv, huser]
    exact ⟨ite_self none, ite_self none⟩

/-- Carry out an operation whose answer is known. -/
def replay (global : LoggerGlobal) (e : LoggerEvent) : Option LoggerGlobal :=
  if (global.perform e.operation).2 = e.answer then some (global.perform e.operation).1 else none

theorem replay_eq {e : LoggerEvent} (h : global.replay e = some global') :
    (global.perform e.operation).2 = e.answer ∧ (global.perform e.operation).1 = global' := by
  simp only [replay, Option.ite_none_right_eq_some, Option.some.injEq] at h
  exact h

theorem replay_perform (i : Nat) (operation : LoggerOperation) :
    global.replay ⟨i, operation, (global.perform operation).2⟩ =
      some (global.perform operation).1 := if_pos rfl

end LoggerGlobal

namespace LogPhase

/-- What has been done of a message is what the members of the context ask for. -/
def Agrees (global : LoggerGlobal) (m : LogMessage) : LogPhase → Prop
  | .entered | .formatted => True
  | .inUserCallback output => global.userOutput m = some output
  | .calledBack outputs => outputs = (global.userOutput m).toList
  | .inEnvLogger outputs output =>
      outputs = (global.userOutput m).toList ∧ global.envOutput m = some output
  | .leaving outputs => outputs = (global.userOutput m).toList ++ (global.envOutput m).toList

/-- The steps that are left, with the release of the lock. -/
def work : LogPhase → Nat
  | .entered => 6
  | .formatted => 5
  | .inUserCallback _ => 4
  | .calledBack _ => 3
  | .inEnvLogger _ _ => 2
  | .leaving _ => 1

end LogPhase

namespace LoggerThread

def Agrees (global : LoggerGlobal) : LoggerThread → Prop
  | .logging m phase _ => phase.Agrees global m
  | .wantsWrite (.register r) | .writing (.register r) => r.invalid = none
  | _ => True

/-- The operations that the thread has not carried out yet. -/
def pending : LoggerThread → List LoggerOperation
  | .logs messages => messages.map .log
  | .logging m _ rest => .log m :: rest.map .log
  | .wantsWrite w | .writing w => [w.operation]
  | .written => []

/-- The steps that are left of its call. -/
def work : LoggerThread → Nat
  | .logs messages => 7 * messages.length
  | .logging _ phase rest => phase.work + 7 * rest.length
  | .wantsWrite _ => 3
  | .writing _ => 2
  | .written => 1

theorem Agrees.of_outside {global : LoggerGlobal} {t : LoggerThread} (h : t.Agrees global)
    (hheld : t.held = .outside) (global' : LoggerGlobal) : t.Agrees global' := by
  cases t with
  | logs messages => trivial
  | logging m phase rest => cases hheld
  | wantsWrite w =>
      cases w with
      | register r => exact h
      | deinit => trivial
  | writing w => cases hheld
  | written => cases hheld

end LoggerThread

/-- The operations that a call consists of. -/
def LoggerCall.operations : LoggerCall → List LoggerOperation
  | .log m => [.log m]
  | .register r file line =>
      .register r ::
        (r.invalid.elim [] fun expression => (refusalMessages file line expression).map .log)
  | .deinit => [.deinit]

namespace LoggerSystem

variable {s s' : LoggerSystem} {i j : Nat} {t t' : LoggerThread} {events : List LoggerEvent}

/-! ## What a step can do -/

/-- What a thread does: what it does with the members and the lock, where it is then, and what it
adds to the history. -/
inductive Moves (i : Nat) (global : LoggerGlobal) (lock : RwLock) :
    LoggerThread → LoggerGlobal → RwLock → LoggerThread → List LoggerEvent → Prop where
  | enter (m : LogMessage) (rest : List LogMessage) (lock' : RwLock)
      (h : lock.acquireRead = some lock') :
      Moves i global lock (.logs (m :: rest)) global lock' (.logging m .entered rest) []
  | phase (m : LogMessage) (rest : List LogMessage) (phase phase' : LogPhase)
      (hagrees : phase.Agrees global m → phase'.Agrees global m)
      (hwork : phase'.work < phase.work) :
      Moves i global lock (.logging m phase rest) global lock (.logging m phase' rest) []
  | leave (m : LogMessage) (rest : List LogMessage) (outputs : List LogOutput) :
      Moves i global lock (.logging m (.leaving outputs) rest) global lock.unlock (.logs rest)
        [⟨i, .log m, .outputs outputs⟩]
  | acquire (w : LoggerWrite) (lock' : RwLock) (h : lock.acquireWrite = some lock') :
      Moves i global lock (.wantsWrite w) global lock' (.writing w) []
  | write (w : LoggerWrite) :
      Moves i global lock (.writing w) (global.write w).1 lock .written
        [⟨i, w.operation, (global.write w).2⟩]
  | release : Moves i global lock .written global lock.unlock .idle []

/-- What a call does at once: a refused registration is over, and leaves messages. -/
inductive Calls (i : Nat) : LoggerCall → LoggerThread → List LoggerEvent → Prop where
  | log (m : LogMessage) : Calls i (.log m) (.logs [m]) []
  | refused (r : Registration) (file : String) (line : Int32) (expression : String)
      (h : r.invalid = some expression) :
      Calls i (.register r file line) (.logs (refusalMessages file line expression))
        [⟨i, .register r, .result .failed⟩]
  | register (r : Registration) (file : String) (line : Int32) (h : r.invalid = none) :
      Calls i (.register r file line) (.wantsWrite (.register r)) []
  | deinit : Calls i .deinit (.wantsWrite .deinit) []

/-- The state after thread `i` has moved. -/
structure Moved (s s' : LoggerSystem) (i : Nat) (t' : LoggerThread) (events : List LoggerEvent) :
    Prop where
  threads : s'.threads = s.threads.set i t'
  history : s'.history = s.history ++ events

theorem call_cases (i : Nat) (c : LoggerCall) (s : LoggerSystem) :
    ∃ t' events, Calls i c t' events ∧ Moved s (s.call i c) i t' events ∧
      (s.call i c).global = s.global ∧ (s.call i c).lock = s.lock := by
  cases c with
  | log m => exact ⟨_, _, .log m, ⟨rfl, (List.append_nil _).symm⟩, rfl, rfl⟩
  | register r file line =>
      rw [call]
      cases hr : r.invalid with
      | some expression => exact ⟨_, _, .refused r file line _ hr, ⟨rfl, rfl⟩, rfl, rfl⟩
      | none => exact ⟨_, _, .register r file line hr, ⟨rfl, (List.append_nil _).symm⟩, rfl, rfl⟩
  | deinit => exact ⟨_, _, .deinit, ⟨rfl, (List.append_nil _).symm⟩, rfl, rfl⟩

/-- A thread in `logger_log` that keeps the lock. -/
theorem moves_phase {m : LogMessage} {rest : List LogMessage} {phase : LogPhase}
    (phase' : LogPhase) (h : s' = s.setThread i (.logging m phase' rest))
    (hagrees : phase.Agrees s.global m → phase'.Agrees s.global m)
    (hwork : phase'.work < phase.work) :
    ∃ t' events, Moves i s.global s.lock (.logging m phase rest) s'.global s'.lock t' events ∧
      Moved s s' i t' events := by
  subst h
  exact ⟨_, _, .phase m rest phase phase' hagrees hwork, ⟨rfl, (List.append_nil _).symm⟩⟩

theorem advanceLog_cases (s : LoggerSystem) (i : Nat) (m : LogMessage) (rest : List LogMessage)
    (phase : LogPhase) (h : s' = s.advanceLog i m rest phase) :
    ∃ t' events, Moves i s.global s.lock (.logging m phase rest) s'.global s'.lock t' events ∧
      Moved s s' i t' events := by
  cases phase with
  | entered =>
      rw [advanceLog] at h
      split at h
      next hquick =>
        refine moves_phase (.leaving []) h (fun _ => ?_) (by decide)
        obtain ⟨huser, henv⟩ := LoggerGlobal.outputs_of_quickExit hquick
        rw [LogPhase.Agrees, huser, henv]
        rfl
      next => exact moves_phase .formatted h id (by decide)
  | formatted =>
      rw [advanceLog] at h
      split at h
      next output huser =>
        exact moves_phase (.inUserCallback output) h (fun _ => huser) (Nat.lt_succ_self 4)
      next huser =>
        refine moves_phase (.calledBack []) h (fun _ => ?_) (by decide)
        rw [LogPhase.Agrees, huser]
        rfl
  | inUserCallback output =>
      refine moves_phase (.calledBack [output]) h (fun huser => ?_) (Nat.lt_succ_self 3)
      rw [LogPhase.Agrees] at huser
      rw [LogPhase.Agrees, huser]
      rfl
  | calledBack outputs =>
      rw [advanceLog] at h
      split at h
      next output henv =>
        exact moves_phase (.inEnvLogger outputs output) h (fun huser => ⟨huser, henv⟩)
          (Nat.lt_succ_self 2)
      next henv =>
        refine moves_phase (.leaving outputs) h (fun huser => ?_) (Nat.lt_add_of_pos_right
          Nat.zero_lt_two)
        rw [LogPhase.Agrees] at huser
        rw [LogPhase.Agrees, henv, huser]
        exact (List.append_nil _).symm
  | inEnvLogger outputs output =>
      refine moves_phase (.leaving (outputs ++ [output])) h ?_ (Nat.lt_succ_self 1)
      rintro ⟨huser, henv⟩
      rw [LogPhase.Agrees, henv, huser]
      rfl
  | leaving outputs =>
      subst h
      exact ⟨_, _, .leave m rest outputs, ⟨rfl, rfl⟩⟩

theorem advance_cases (h : s.advance i t = some s') :
    ∃ t' events, Moves i s.global s.lock t s'.global s'.lock t' events ∧
      Moved s s' i t' events := by
  cases t with
  | logs messages =>
      cases messages with
      | nil => cases h
      | cons m rest =>
          obtain ⟨lock, hlock, rfl⟩ := Option.map_eq_some_iff.mp h
          exact ⟨_, _, .enter m rest lock hlock, ⟨rfl, (List.append_nil _).symm⟩⟩
  | logging m phase rest =>
      exact advanceLog_cases s i m rest phase (Option.some.inj h).symm
  | wantsWrite w =>
      obtain ⟨lock, hlock, rfl⟩ := Option.map_eq_some_iff.mp h
      exact ⟨_, _, .acquire w lock hlock, ⟨rfl, (List.append_nil _).symm⟩⟩
  | writing w =>
      obtain rfl := Option.some.inj h
      exact ⟨_, _, .write w, ⟨rfl, rfl⟩⟩
  | written =>
      obtain rfl := Option.some.inj h
      exact ⟨_, _, .release, ⟨rfl, (List.append_nil _).symm⟩⟩

/-! ## What holds between two steps -/

/-- The operations that thread `i` has called. -/
def called (i : Nat) : List Label → List LoggerOperation
  | [] => []
  | .call j c :: labels => (if j = i then c.operations else []) ++ called i labels
  | .advance _ :: labels => called i labels

/-- The operations of the history that thread `i` has carried out. -/
def carriedOut (i : Nat) (history : List LoggerEvent) : List LoggerOperation :=
  (history.filter fun e => e.thread = i).map (·.operation)

theorem carriedOut_append (i : Nat) (history events : List LoggerEvent) :
    carriedOut i (history ++ events) = carriedOut i history ++ carriedOut i events := by
  simp [carriedOut]

structure LoggerOk (global : LoggerGlobal) (s : LoggerSystem) : Prop where
  counts : RwLock.Counts LoggerThread.held s.lock s.threads
  agrees : ∀ (i : Nat) (t : LoggerThread), s.threads[i]? = some t → t.Agrees s.global
  replays : Steps.run LoggerGlobal.replay global s.history = some s.global

theorem initial_ok (global : LoggerGlobal) (n : Nat) : LoggerOk global (initial global n) where
  counts := RwLock.Counts.of_outside fun t ht => by
    rw [List.eq_of_mem_replicate ht]
    rfl
  agrees := by
    intro i t ht
    rw [List.eq_of_mem_replicate (List.mem_of_getElem? ht)]
    trivial
  replays := rfl

/-- A history with one event more. -/
theorem replays_append {global global' global'' : LoggerGlobal} {history : List LoggerEvent}
    {e : LoggerEvent} (h : Steps.run LoggerGlobal.replay global history = some global')
    (he : global'.replay e = some global'') :
    Steps.run LoggerGlobal.replay global (history ++ [e]) = some global'' := by
  rw [Steps.run_append, h, Option.bind_some, Steps.run, he]
  rfl

theorem LoggerOk.call {global : LoggerGlobal} (h : LoggerOk global s)
    (ht : s.threads[i]? = some .idle) (c : LoggerCall) : LoggerOk global (s.call i c) := by
  obtain ⟨t', events, hcalls, hmoved, hglobal, hlock⟩ := s.call_cases i c |>.imp fun _ h => h
  have hheld : t'.held = .outside := by cases hcalls <;> rfl
  have hagrees : t'.Agrees s.global := by
    cases hcalls with
    | log m => trivial
    | refused r file line expression hr => trivial
    | register r file line hr => exact hr
    | deinit => trivial
  refine ⟨?_, ?_, ?_⟩
  · rw [hmoved.threads, hlock]
    exact h.counts.stay ht hheld
  · rw [hmoved.threads, hglobal]
    exact Slots.forall_set (fun j u _ hu => h.agrees j u hu) hagrees
  · rw [hmoved.history, hglobal]
    cases hcalls with
    | refused r file line expression hr =>
        refine replays_append h.replays ?_
        simp [LoggerGlobal.replay, LoggerGlobal.perform, hr]
    | log m | register r file line hr | deinit =>
        rw [List.append_nil]
        exact h.replays

/-- What is done with the lock is what the operation does. -/
theorem write_eq_perform (global : LoggerGlobal) {w : LoggerWrite}
    (h : (LoggerThread.writing w).Agrees global) :
    global.write w = global.perform w.operation := by
  cases w with
  | register r =>
      have hvalid : r.invalid = none := h
      rw [LoggerWrite.operation, LoggerGlobal.perform, if_pos hvalid]
      rfl
  | deinit => rfl

theorem LoggerOk.advance {global : LoggerGlobal} (h : LoggerOk global s)
    (ht : s.threads[i]? = some t) (hs : s.advance i t = some s') : LoggerOk global s' := by
  obtain ⟨t', events, hmoves, hmoved⟩ := advance_cases hs
  have hagrees := h.agrees i t ht
  have hothers := fun (j : Nat) (u : LoggerThread) (_ : j ≠ i) (hu : s.threads[j]? = some u) =>
    h.agrees j u hu
  obtain ⟨global', lock', threads', history'⟩ := s'
  obtain ⟨hthreads, hhistory⟩ := hmoved
  simp only at hmoves hthreads hhistory
  subst hthreads hhistory
  cases hmoves with
  | enter m rest lock' hlock =>
      exact ⟨h.counts.acquireRead ht rfl rfl hlock, Slots.forall_set hothers trivial,
        by simpa using h.replays⟩
  | phase m rest phase phase' hphase hwork =>
      exact ⟨h.counts.stay ht rfl, Slots.forall_set hothers (hphase hagrees),
        by simpa using h.replays⟩
  | leave m rest outputs =>
      refine ⟨h.counts.unlock_read ht rfl rfl, Slots.forall_set hothers trivial,
        replays_append h.replays ?_⟩
      have houtputs : outputs = _ := hagrees
      rw [houtputs]
      exact LoggerGlobal.replay_perform i (.log m)
  | acquire w lock' hlock =>
      refine ⟨h.counts.acquireWrite ht rfl rfl hlock, Slots.forall_set hothers ?_,
        by simpa using h.replays⟩
      cases w with
      | register r => exact hagrees
      | deinit => trivial
  | write w =>
      refine ⟨h.counts.stay ht rfl, Slots.forall_set (fun j u hne hu => ?_) trivial,
        replays_append h.replays ?_⟩
      · exact (h.agrees j u hu).of_outside (h.counts.writer_alone ht rfl hu hne) _
      · rw [write_eq_perform s.global hagrees]
        exact LoggerGlobal.replay_perform i w.operation
  | release =>
      exact ⟨h.counts.unlock_write ht rfl rfl, Slots.forall_set hothers trivial,
        by simpa using h.replays⟩

theorem step_cases {a : Label} (h : s.step a = some s') :
    (∃ i c, a = .call i c ∧ s.threads[i]? = some .idle ∧ s' = s.call i c) ∨
      ∃ i t, a = .advance i ∧ s.threads[i]? = some t ∧ s.advance i t = some s' := by
  cases a with
  | call i c =>
      simp only [step, Option.ite_none_right_eq_some, Option.some.injEq] at h
      exact .inl ⟨i, c, rfl, h.1, h.2.symm⟩
  | advance i =>
      obtain ⟨t, ht, hs⟩ := Option.bind_eq_some_iff.mp h
      exact .inr ⟨i, t, rfl, ht, hs⟩

theorem LoggerOk.step {global : LoggerGlobal} {a : Label} (h : LoggerOk global s)
    (hs : s.step a = some s') : LoggerOk global s' := by
  obtain ⟨i, c, -, ht, rfl⟩ | ⟨i, t, -, ht, hs⟩ := step_cases hs
  · exact h.call ht c
  · exact h.advance ht hs

theorem run_ok {global : LoggerGlobal} {labels : List Label} (hs : LoggerOk global s)
    (h : Steps.run step s labels = some s') : LoggerOk global s' :=
  Steps.run_invariant (LoggerOk global) (fun _ => True) (fun _ _ _ hs _ h => hs.step h) labels
    (fun _ _ => trivial) hs h

/-! ## One operation after the other -/

/-- The operations of a thread, carried out or pending, are those it has called. -/
def InOrder (s : LoggerSystem) (called : Nat → List LoggerOperation) : Prop :=
  ∀ (i : Nat) (t : LoggerThread), s.threads[i]? = some t →
    carriedOut i s.history ++ t.pending = called i

/-- A step of a thread moves its operations from the pending ones to those carried out. -/
theorem InOrder.moved {before after : Nat → List LoggerOperation} (h : InOrder s before)
    (ht : s.threads[i]? = some t) (hmoved : Moved s s' i t' events)
    (hthread : ∀ e ∈ events, e.thread = i)
    (hpending : before i = carriedOut i s.history ++ t.pending →
      carriedOut i s.history ++ (events.map (·.operation) ++ t'.pending) = after i)
    (hafter : ∀ j, j ≠ i → after j = before j) : InOrder s' after := by
  intro j u hu
  rw [hmoved.threads] at hu
  rw [hmoved.history, carriedOut_append]
  obtain ⟨rfl, rfl⟩ | ⟨hne, hu⟩ := Slots.getElem?_set_cases hu
  · have hown : carriedOut j events = events.map (·.operation) := by
      rw [carriedOut, List.filter_eq_self.mpr fun e he => by simpa using hthread e he]
    rw [hown, List.append_assoc]
    exact hpending (h j t ht).symm
  · have hother : carriedOut j events = [] := by
      rw [carriedOut, List.filter_eq_nil_iff.mpr fun e he => ?_, List.map_nil]
      simpa [hthread e he] using Ne.symm hne
    rw [hother, List.append_nil, hafter j hne]
    exact h j u hu

/-- What is called is carried out or pending. -/
theorem calls_operations {c : LoggerCall} (h : Calls i c t' events) :
    (∀ e ∈ events, e.thread = i) ∧ events.map (·.operation) ++ t'.pending = c.operations := by
  cases h with
  | log m => exact ⟨by simp, rfl⟩
  | refused r file line expression hr =>
      refine ⟨by simp, ?_⟩
      rw [LoggerCall.operations, hr]
      rfl
  | register r file line hr =>
      refine ⟨by simp, ?_⟩
      rw [LoggerCall.operations, hr]
      rfl
  | deinit => exact ⟨by simp, rfl⟩

/-- What is carried out was pending. -/
theorem moves_operations {global global' : LoggerGlobal} {lock lock' : RwLock}
    (h : Moves i global lock t global' lock' t' events) :
    (∀ e ∈ events, e.thread = i) ∧ events.map (·.operation) ++ t'.pending = t.pending := by
  cases h with
  | enter m rest lock' hlock => exact ⟨by simp, rfl⟩
  | phase m rest phase phase' hphase hwork => exact ⟨by simp, rfl⟩
  | leave m rest outputs => exact ⟨by simp, rfl⟩
  | acquire w lock' hlock => exact ⟨by simp, rfl⟩
  | write w => exact ⟨by simp, rfl⟩
  | release => exact ⟨by simp, rfl⟩

theorem run_inOrder (labels : List Label) :
    ∀ {s : LoggerSystem} {before : Nat → List LoggerOperation},
      InOrder s before → Steps.run step s labels = some s' →
      InOrder s' fun i => before i ++ called i labels := by
  induction labels with
  | nil =>
      intro s before h hrun
      obtain rfl := Option.some.inj hrun
      simpa [called] using h
  | cons a labels ih =>
      intro s before h hrun
      obtain ⟨v, hv, hrest⟩ := Steps.run_cons hrun
      obtain ⟨i, c, rfl, ht, rfl⟩ | ⟨i, t, rfl, ht, hs⟩ := step_cases hv
      · obtain ⟨t', events, hcalls, hmoved, -, -⟩ := s.call_cases i c |>.imp fun _ h => h
        obtain ⟨hthread, hoperations⟩ := calls_operations hcalls
        have hnext : InOrder (s.call i c)
            fun j => before j ++ if i = j then c.operations else [] := by
          refine h.moved ht hmoved hthread (fun hbefore => ?_) fun j hne => ?_
          · rw [hoperations, hbefore, if_pos rfl]
            simp [LoggerThread.pending, LoggerThread.idle]
          · rw [if_neg (Ne.symm hne), List.append_nil]
        have hlast := ih hnext hrest
        simpa only [called, List.append_assoc] using hlast
      · obtain ⟨t', events, hmoves, hmoved⟩ := advance_cases hs
        obtain ⟨hthread, hoperations⟩ := moves_operations hmoves
        refine ih (h.moved ht hmoved hthread (fun hbefore => ?_) fun _ _ => rfl) hrest
        rw [hoperations, hbefore]

theorem initial_inOrder (global : LoggerGlobal) (n : Nat) :
    InOrder (initial global n) fun _ => [] := by
  intro i t ht
  rw [List.eq_of_mem_replicate (List.mem_of_getElem? ht)]
  rfl

/-- The calls take effect one after the other: the operations of the history, carried out in its
order, give the answers that were given and leave the members as they are, and those of each thread
are the ones it has called, in order, up to what is pending. -/
theorem calls_linearize (global : LoggerGlobal) (n : Nat) (labels : List Label) (s : LoggerSystem)
    (h : Steps.run step (initial global n) labels = some s) :
    Steps.run LoggerGlobal.replay global s.history = some s.global ∧
      ∀ (i : Nat) (t : LoggerThread), s.threads[i]? = some t →
        carriedOut i s.history ++ t.pending = called i labels :=
  ⟨(run_ok (initial_ok global n) h).replays, run_inOrder labels (initial_inOrder global n) h⟩

/-! ## The registration in force -/

/-- The registration that was accepted, if the event is one. -/
def accepted : LoggerEvent → Option Registration
  | ⟨_, .register r, .result .succeeded⟩ => some r
  | _ => none

/-- The last registration that was accepted. -/
def inForce (history : List LoggerEvent) : Option Registration :=
  (history.filterMap accepted).getLast?

/-- The members say what the registration in force says. -/
structure Follows (global : LoggerGlobal) (last : Option Registration) : Prop where
  callback : global.userCallback = last.bind (·.messageCb)
  context : ∀ r, last = some r → global.userCallbackContext = r.messageCbContext
  level : ∀ r, last = some r → global.userLogLevel = r.minLevel

theorem inForce_append (history : List LoggerEvent) (e : LoggerEvent) :
    inForce (history ++ [e]) = (accepted e).or (inForce history) := by
  rw [inForce, List.filterMap_append, List.getLast?_append]
  cases he : accepted e with
  | none =>
      rw [List.filterMap_cons_none he]
      rfl
  | some r =>
      rw [List.filterMap_cons_some he]
      rfl

/-- An event changes the registration in force as it changes the members. -/
theorem Follows.replay {global global' : LoggerGlobal} {last : Option Registration}
    {e : LoggerEvent} (h : Follows global last) (he : global.replay e = some global') :
    Follows global' ((accepted e).or last) := by
  obtain ⟨i, operation, answer⟩ := e
  obtain ⟨hanswer, rfl⟩ := LoggerGlobal.replay_eq he
  dsimp only at hanswer
  subst hanswer
  cases operation with
  | log m => exact h
  | register r =>
      simp only [LoggerGlobal.perform]
      split
      · simp only [LoggerGlobal.store]
        split
        · refine ⟨rfl, fun r' hr' => ?_, fun r' hr' => ?_⟩
          · obtain rfl := Option.some.inj hr'
            rfl
          · obtain rfl := Option.some.inj hr'
            rfl
        · exact h
      · exact h
  | deinit => exact ⟨h.callback, h.context, h.level⟩

theorem follows_of_replays {global : LoggerGlobal} (hnone : global.userCallback = none)
    (history : List LoggerEvent) : ∀ {global' : LoggerGlobal},
      Steps.run LoggerGlobal.replay global history = some global' →
        Follows global' (inForce history) := by
  induction history using List.reverseRecOn with
  | nil =>
      intro global' h
      obtain rfl := Option.some.inj h
      exact ⟨hnone, fun r hr => (by cases hr), fun r hr => (by cases hr)⟩
  | append_singleton history e ih =>
      intro global' h
      rw [Steps.run_append] at h
      obtain ⟨before, hbefore, he⟩ := Option.bind_eq_some_iff.mp h
      obtain ⟨v, hv, hrun⟩ := Steps.run_cons he
      obtain rfl := Option.some.inj hrun
      rw [inForce_append]
      exact (ih hbefore).replay hv

/-- The logger of the environment goes with the first `logger_deinit`, and does not come back. -/
theorem envLogger_of_replays {global : LoggerGlobal} (history : List LoggerEvent) :
    ∀ {global' : LoggerGlobal}, Steps.run LoggerGlobal.replay global history = some global' →
      global'.envLogLevel = global.envLogLevel ∧ global'.envLogger =
        if LoggerOperation.deinit ∈ history.map (·.operation) then none else global.envLogger := by
  induction history using List.reverseRecOn with
  | nil =>
      intro global' h
      obtain rfl := Option.some.inj h
      exact ⟨rfl, rfl⟩
  | append_singleton history e ih =>
      intro global' h
      rw [Steps.run_append] at h
      obtain ⟨before, hbefore, he⟩ := Option.bind_eq_some_iff.mp h
      obtain ⟨v, hv, hrun⟩ := Steps.run_cons he
      obtain rfl := Option.some.inj hrun
      obtain ⟨hlevel, hlogger⟩ := ih hbefore
      obtain ⟨i, operation, answer⟩ := e
      obtain ⟨-, rfl⟩ := LoggerGlobal.replay_eq hv
      rw [List.map_append, List.map_singleton]
      cases operation with
      | log m => simpa [LoggerGlobal.perform] using And.intro hlevel hlogger
      | register r =>
          simp only [LoggerGlobal.perform, LoggerGlobal.store]
          split
          · split <;> simpa using And.intro hlevel hlogger
          · simpa using And.intro hlevel hlogger
      | deinit => simpa [LoggerGlobal.perform] using hlevel

theorem userCallback_loggerInitOnce (p : LogPlatform) (opens : CString → Bool)
    (env : LoggerEnvironment) :
    (loggerInitOnce p opens env .zeroed).global.toGlobal.userCallback = none := by
  simp only [loggerInitOnce, LoggerContext.toGlobal, LoggerContext.setLevel,
    LoggerContext.openStdout, LoggerContext.openLogFile]
  repeat' split
  all_goals rfl

/-- A callback of the user is called for the registration in force, with its context and for a
message that it asks for, and while the callback runs that registration stays in force. -/
theorem callbacks_registered (p : LogPlatform) (opens : CString → Bool) (env : LoggerEnvironment)
    (n : Nat) (labels : List Label) (s : LoggerSystem) (m : LogMessage) (output : LogOutput)
    (rest : List LogMessage)
    (h : Steps.run step (initial (loggerInitOnce p opens env .zeroed).global.toGlobal n) labels =
      some s)
    (ht : .logging m (.inUserCallback output) rest ∈ s.threads) :
    ∃ r cb, inForce s.history = some r ∧ r.messageCb = some cb ∧ m.level ≤ r.minLevel ∧
      r.minLevel ≠ LogLevel.off.value ∧
      output = .userCallback cb r.messageCbContext m.level m.file m.line m.buffer := by
  have hok := run_ok (initial_ok _ n) h
  have hfollows := follows_of_replays (userCallback_loggerInitOnce p opens env) _ hok.replays
  obtain ⟨i, hi⟩ := List.mem_iff_getElem?.mp ht
  have houtput : s.global.userOutput m = some output := hok.agrees i _ hi
  simp only [LoggerGlobal.userOutput, Option.ite_none_right_eq_some,
    Option.map_eq_some_iff] at houtput
  obtain ⟨⟨hlevel, hoff⟩, cb, hcb, rfl⟩ := houtput
  rw [hfollows.callback] at hcb
  obtain ⟨r, hr, hmessage⟩ := Option.bind_eq_some_iff.mp hcb
  rw [hfollows.level r hr] at hlevel hoff
  exact ⟨r, cb, hr, hmessage, hlevel, hoff, by rw [hfollows.context r hr]⟩

/-- While spdlog writes a message, no `logger_deinit` has been carried out, and the logger is the
one that `logger_init_once` has made. -/
theorem env_logger_alive (p : LogPlatform) (opens : CString → Bool) (env : LoggerEnvironment)
    (n : Nat) (labels : List Label) (s : LoggerSystem) (m : LogMessage) (outputs : List LogOutput)
    (output : LogOutput) (rest : List LogMessage)
    (h : Steps.run step (initial (loggerInitOnce p opens env .zeroed).global.toGlobal n) labels =
      some s)
    (ht : .logging m (.inEnvLogger outputs output) rest ∈ s.threads) :
    LoggerOperation.deinit ∉ s.history.map (·.operation) ∧
      ∃ logger, (loggerInitOnce p opens env .zeroed).global.envLogger = some logger ∧
        m.level ≤ (loggerInitOnce p opens env .zeroed).global.envLogLevel.value ∧
        output = .envLogger logger (spdlogLevel m.level) m.file m.line m.buffer := by
  have hok := run_ok (initial_ok _ n) h
  obtain ⟨hlevel, hlogger⟩ := envLogger_of_replays _ hok.replays
  obtain ⟨i, hi⟩ := List.mem_iff_getElem?.mp ht
  obtain ⟨-, henv⟩ : _ ∧ s.global.envOutput m = some output := hok.agrees i _ hi
  simp only [LoggerGlobal.envOutput, Option.ite_none_right_eq_some,
    Option.map_eq_some_iff] at henv
  obtain ⟨⟨hle, -⟩, logger, henv, rfl⟩ := henv
  rw [hlogger] at henv
  split at henv
  · cases henv
  next hdeinit =>
    rw [hlevel] at hle
    exact ⟨hdeinit, logger, henv, hle, rfl⟩

/-! ## Every call ends -/

/-- The steps that are left of all calls. -/
def work (s : LoggerSystem) : Nat := (s.threads.map LoggerThread.work).sum

theorem moves_work {global global' : LoggerGlobal} {lock lock' : RwLock}
    (h : Moves i global lock t global' lock' t' events) : t'.work < t.work := by
  cases h with
  | enter m rest lock' hlock =>
      simp only [LoggerThread.work, LogPhase.work, List.length_cons]
      omega
  | phase m rest phase phase' hphase hwork => exact Nat.add_lt_add_right hwork _
  | leave m rest outputs =>
      simp only [LoggerThread.work, LogPhase.work]
      omega
  | acquire w lock' hlock => exact Nat.lt_succ_self 2
  | write w => exact Nat.lt_succ_self 1
  | release => exact Nat.lt_succ_self 0

theorem advance_work (ht : s.threads[i]? = some t) (h : s.advance i t = some s') :
    s'.work < s.work := by
  obtain ⟨t', events, hmoves, hmoved⟩ := advance_cases h
  have hsum := Slots.sum_map_set LoggerThread.work t' ht
  have hwork := moves_work hmoves
  rw [work, work, hmoved.threads]
  omega

/-- A thread with the lock can take its next step. -/
theorem exists_advance_of_held (s : LoggerSystem) (i : Nat) (h : t.held ≠ .outside) :
    ∃ s', s.advance i t = some s' := by
  cases t with
  | logs messages => exact absurd rfl h
  | logging m phase rest => exact ⟨_, rfl⟩
  | wantsWrite w => exact absurd rfl h
  | writing w => exact ⟨_, rfl⟩
  | written => exact ⟨_, rfl⟩

/-- With the lock free, every thread that is in a call can. -/
theorem exists_advance_of_free (hfree : s.lock = .free) (i : Nat) (h : t ≠ .idle) :
    ∃ s', s.advance i t = some s' := by
  by_cases hheld : t.held = .outside
  · cases t with
    | logs messages =>
        cases messages with
        | nil => exact absurd rfl h
        | cons m rest =>
            rw [advance, hfree]
            exact ⟨_, rfl⟩
    | logging m phase rest => cases hheld
    | wantsWrite w =>
        rw [advance, hfree]
        exact ⟨_, rfl⟩
    | writing w => cases hheld
    | written => cases hheld
  · exact s.exists_advance_of_held i hheld

/-- If no thread can take a step, none is in a call. -/
theorem LoggerOk.idle_of_stuck {global : LoggerGlobal} (h : LoggerOk global s)
    (hstuck : ∀ i, s.step (.advance i) = none) :
    s.lock = .free ∧ ∀ t ∈ s.threads, t = .idle := by
  have hnone : ∀ {i : Nat} {t s' : _}, s.threads[i]? = some t → s.advance i t ≠ some s' := by
    intro i t s' ht hs
    have hi := hstuck i
    rw [LoggerSystem.step, ht, Option.bind_some, hs] at hi
    cases hi
  have hfree : s.lock = .free := by
    by_contra hheld
    obtain ⟨i, t, ht, hin⟩ := h.counts.exists_holder hheld
    obtain ⟨s', hs⟩ := s.exists_advance_of_held i hin
    exact hnone ht hs
  refine ⟨hfree, fun t ht => ?_⟩
  by_contra hidle
  obtain ⟨i, hi⟩ := List.mem_iff_getElem?.mp ht
  obtain ⟨s', hs⟩ := exists_advance_of_free hfree i hidle
  exact hnone hi hs

/-- Once no new calls are made, the threads take only so many steps, whatever their order, and when
none can take another, all calls have ended and the lock is free. -/
theorem calls_end (global : LoggerGlobal) (n : Nat) (labels : List Label) (s : LoggerSystem)
    (h : Steps.run step (initial global n) labels = some s) :
    ∃ bound, ∀ (moves : List Label) (s' : LoggerSystem), (∀ a ∈ moves, ∃ i, a = .advance i) →
      Steps.run step s moves = some s' →
        moves.length ≤ bound ∧ ((∀ i, s'.step (.advance i) = none) →
          s'.lock = .free ∧ ∀ t ∈ s'.threads, t = .idle) := by
  have hok := run_ok (initial_ok global n) h
  refine ⟨s.work, fun moves s' hmoves hrun => ⟨?_, fun hstuck => ?_⟩⟩
  · have hlength := Steps.run_length_le (LoggerOk global) (fun a => ∃ i, a = .advance i) work
      (fun v a v' hv ha hstep => ⟨hv.step hstep, ?_⟩) moves hmoves hok hrun
    · omega
    · obtain ⟨i, rfl⟩ := ha
      obtain ⟨t, ht, hs⟩ := Option.bind_eq_some_iff.mp hstep
      exact advance_work ht hs
  · exact (run_ok hok hrun).idle_of_stuck hstuck

/-! ## A run

A thread registers a callback, and another logs an error.  While the callback runs, a third one
waits to take the registration back. -/

def consolePlatform : LogPlatform := ⟨true, fun _ => 0⟩

/-- Without any variable the logger writes errors to the standard output. -/
def emptyEnvironment : LoggerEnvironment := ⟨none, none, none⟩

def consoleLogger : LoggerSystem :=
  initial
    (loggerInitOnce consolePlatform (fun _ => true) emptyEnvironment .zeroed).global.toGlobal 3

def loggedError : LogMessage := ⟨1, "color.cpp", 120, [101, 114, 114]⟩

def callbackLabels : List Label :=
  [.call 0 (.register ⟨some 7, 42, 3⟩ "app.c" 10), .advance 0, .advance 0, .advance 0,
    .call 1 (.log loggedError), .call 2 (.register ⟨none, 0, 0⟩ "app.c" 20), .advance 1,
    .advance 1, .advance 1]

theorem calls_linearize_waiting : ∃ s, Steps.run step consoleLogger callbackLabels = some s ∧
    Steps.run LoggerGlobal.replay consoleLogger.global s.history = some s.global ∧
      ∀ (i : Nat) (t : LoggerThread), s.threads[i]? = some t →
        carriedOut i s.history ++ t.pending = called i callbackLabels :=
  ⟨_, rfl, calls_linearize consoleLogger.global 3 callbackLabels _ rfl⟩

theorem callbacks_registered_waiting :
    ∃ s, Steps.run step consoleLogger callbackLabels = some s ∧
      ∃ r cb, inForce s.history = some r ∧ r.messageCb = some cb ∧ loggedError.level ≤ r.minLevel ∧
        r.minLevel ≠ LogLevel.off.value ∧
        LogOutput.userCallback 7 42 1 "color.cpp" 120 [101, 114, 114] =
          .userCallback cb r.messageCbContext loggedError.level loggedError.file loggedError.line
            loggedError.buffer :=
  ⟨_, rfl, callbacks_registered consolePlatform (fun _ => true) emptyEnvironment 3 callbackLabels _
    loggedError (.userCallback 7 42 1 "color.cpp" 120 [101, 114, 114]) [] rfl (by decide)⟩

theorem env_logger_alive_waiting :
    ∃ s, Steps.run step consoleLogger (callbackLabels ++ [.advance 1, .advance 1]) = some s ∧
      LoggerOperation.deinit ∉ s.history.map (·.operation) ∧
      ∃ logger, (loggerInitOnce consolePlatform (fun _ => true) emptyEnvironment
          .zeroed).global.envLogger = some logger ∧
        loggedError.level ≤ (loggerInitOnce consolePlatform (fun _ => true) emptyEnvironment
          .zeroed).global.envLogLevel.value ∧
        LogOutput.envLogger .stdout .error "color.cpp" 120 [101, 114, 114] =
          .envLogger logger (spdlogLevel loggedError.level) loggedError.file loggedError.line
            loggedError.buffer :=
  ⟨_, rfl, env_logger_alive consolePlatform (fun _ => true) emptyEnvironment 3
    (callbackLabels ++ [.advance 1, .advance 1]) _ loggedError
    [.userCallback 7 42 1 "color.cpp" 120 [101, 114, 114]]
    (.envLogger .stdout .error "color.cpp" 120 [101, 114, 114]) [] rfl (by decide)⟩

theorem calls_end_waiting :
    ∃ s, Steps.run step consoleLogger callbackLabels = some s ∧
      ∃ bound, ∀ (moves : List Label) (s' : LoggerSystem), (∀ a ∈ moves, ∃ i, a = .advance i) →
        Steps.run step s moves = some s' →
          moves.length ≤ bound ∧ ((∀ i, s'.step (.advance i) = none) →
            s'.lock = .free ∧ ∀ t ∈ s'.threads, t = .idle) :=
  ⟨_, rfl, calls_end consoleLogger.global 3 callbackLabels _ rfl⟩

end LoggerSystem

end ZsaSdk
