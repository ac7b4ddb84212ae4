import ZsaSdk.Capturesync.Model
import ZsaSdk.Queue.Creation

/-!
# Creating and destroying a synchroniser

`capturesync_create` allocates its context, takes a lock and creates three queues.  It uses the
context before it looks whether there is one.  After a failure of the lock or of a queue it calls
`capturesync_destroy`, which finds the queues that were created by their pointers.

The three calls of `queue_create` are one loop here, over the queues in the order of the source.
Every round keeps the ledger equal to what the fields of the context say (`Building.Sound`).
No capture has arrived while a synchroniser is created, so the references it drops when it is
destroyed are none; they are in `Capturesync.Model`.
-/

namespace ZsaSdk

open Ledger (RefOp releaseOf acquireOf held Owns)
open QueueMemory (Idle Complete)

/-- The queues of a synchroniser. -/
inductive QueueRole where
  | depthIr
  | color
  | sync
deriving DecidableEq, Repr

namespace QueueRole

/-- The depth `capturesync_create` asks for. -/
def depth : QueueRole → UInt32
  | .depthIr | .color => queueDefaultSize
  | .sync => queueDefaultSize / 2

def name : QueueRole → String
  | .depthIr => "Queue_depth"
  | .color => "Queue_color"
  | .sync => "Queue_capture"

theorem acceptedDepth (role : QueueRole) : AcceptedDepth role.depth := by
  cases role with
  | depthIr | color | sync => exact ⟨by decide, by decide⟩

end QueueRole

/-- `capturesync_context_t` with the pointers it has while it is built and destroyed. -/
structure CapturesyncMemory where
  /-- The address of the context. -/
  context : Nat
  lock : Option Nat
  sync : CapturesyncContext (Option QueueMemory)

namespace CapturesyncMemory

/-- A context from `calloc`. -/
def zero (context : Nat) : CapturesyncMemory :=
  ⟨context, none, ⟨none, ⟨none, none, none, 0⟩, ⟨none, none, none, 0⟩, 0, 0, false, false, false, 0,
    false, 0, false⟩⟩

def queue (m : CapturesyncMemory) : QueueRole → Option QueueMemory
  | .depthIr => m.sync.depthIr.queue
  | .color => m.sync.color.queue
  | .sync => m.sync.syncQueue

def setQueue (m : CapturesyncMemory) (role : QueueRole) (q : Option QueueMemory) :
    CapturesyncMemory :=
  match role with
  | .depthIr => { m with sync := { m.sync with depthIr := { m.sync.depthIr with queue := q } } }
  | .color => { m with sync := { m.sync with color := { m.sync.color with queue := q } } }
  | .sync => { m with sync := { m.sync with syncQueue := q } }

def withLock (m : CapturesyncMemory) (answer : Option Nat) : CapturesyncMemory :=
  { m with lock := answer }

/-- `queue_disable` of a queue that is there. -/
def disableQueue (m : CapturesyncMemory) (role : QueueRole) : CapturesyncMemory :=
  m.setQueue role ((m.queue role).map fun q => q.queueDisable.queue)

/-- An invalid access has been made to one of the queues. -/
def fault (m : CapturesyncMemory) : Bool :=
  [QueueRole.depthIr, .color, .sync].any fun role => (m.queue role).any QueueMemory.fault

/-- The part of `capturesync_stop` that empties a slot. -/
def clearSlot (f : FrameInfo (Option QueueMemory)) : FrameInfo (Option QueueMemory) :=
  { f with
    capture := none
    ts := if f.capture.isSome then 0xffffffffffffffff else f.ts
    image := none }

/-- `capturesync_stop` -/
def capturesyncStop (m : CapturesyncMemory) : CapturesyncMemory :=
  let m := { m with sync := { m.sync with running := false } }
  let m := ((m.disableQueue .color).disableQueue .depthIr).disableQueue .sync
  { m with
    sync := { m.sync with color := clearSlot m.sync.color, depthIr := clearSlot m.sync.depthIr } }

/-- `queue_destroy` of a queue that is there: whether it is sound, and what it gives back. -/
def destroyQueue : Option QueueMemory → Bool × List (RefOp QueueResource)
  | none => (false, [])
  | some q => (q.queueDestroy.fault, q.queueDestroy.log)

/-- `capturesync_destroy`; `none` stands for an invalid access. -/
def capturesyncDestroy (m : CapturesyncMemory) : Option (List (RefOp QueueResource)) :=
  let m := m.capturesyncStop
  let depth := destroyQueue (m.queue .depthIr)
  let color := destroyQueue (m.queue .color)
  let sync := destroyQueue (m.queue .sync)
  if m.fault || depth.1 || color.1 || sync.1 then none
  else some (depth.2 ++ (color.2 ++ (sync.2 ++
    (releaseOf (m.lock.map .lock) ++ [.release (.memory m.context)]))))

end CapturesyncMemory

/-- What the calls made by `capturesync_create` answer. -/
structure CapturesyncAnswers where
  context : Option Nat
  lock : Option Nat
  queue : QueueRole → QueueAnswers

/-- What `capturesync_create` leaves. -/
structure CapturesyncCreated where
  result : Result
  handle : Option CapturesyncMemory
  log : List (RefOp QueueResource)

/-- `capturesync_create` between two of its steps. -/
structure Building where
  memory : CapturesyncMemory
  result : Result
  log : List (RefOp QueueResource)

namespace Building

/-- The context and the lock. -/
def start (context : Nat) (lock : Option Nat) : Building where
  memory := (CapturesyncMemory.zero context).withLock lock
  result := if lock = none then .failed else .succeeded
  log := .acquire (.memory context) :: acquireOf (lock.map .lock)

/-- One of the queues, unless something has failed. -/
def createQueue (b : Building) (role : QueueRole) (a : QueueAnswers) : Option Building :=
  if b.result = .failed then some b
  else (QueueMemory.queueCreate role.depth (some role.name) a).map fun created =>
    ⟨b.memory.setQueue role created.handle, created.result, b.log ++ created.log⟩

def createQueues (queue : QueueRole → QueueAnswers) : List QueueRole → Building → Option Building
  | [], b => some b
  | role :: roles, b => (b.createQueue role (queue role)).bind (createQueues queue roles)

/-- The end of `capturesync_create`, after the last queue. -/
def finish (b : Building) (disableSync : Bool) : Option CapturesyncCreated :=
  let m := if b.result = .succeeded then
      ((b.memory.disableQueue .color).disableQueue .depthIr).disableQueue .sync
    else b.memory
  let m := { m with sync := { m.sync with disableSync := disableSync } }
  if m.fault then none
  else if b.result = .failed then
    m.capturesyncDestroy.map fun log => ⟨.failed, none, b.log ++ log⟩
  else some ⟨.succeeded, some m, b.log⟩

end Building

/-- `capturesync_create`; `none` stands for an access through a null pointer. -/
def CapturesyncMemory.capturesyncCreate (a : CapturesyncAnswers) (disableSync : Bool) :
    Option CapturesyncCreated :=
  match a.context with
  | none => none
  | some context =>
      (Building.createQueues a.queue [.depthIr, .color, .sync]
        (Building.start context a.lock)).bind fun b => b.finish disableSync

/-! ## What is given back -/

namespace CapturesyncMemory

variable {m : CapturesyncMemory}

@[simp] theorem queue_setQueue_self (m : CapturesyncMemory) (role : QueueRole)
    (q : Option QueueMemory) : (m.setQueue role q).queue role = q := by
  cases role with
  | depthIr | color | sync => rfl

theorem queue_setQueue_of_ne {role role' : QueueRole} (h : role' ≠ role) (m : CapturesyncMemory)
    (q : Option QueueMemory) : (m.setQueue role q).queue role' = m.queue role' := by
  cases role with
  | depthIr | color | sync =>
      cases role' with
      | depthIr | color | sync => first | rfl | exact absurd rfl h

@[simp] theorem lock_setQueue (m : CapturesyncMemory) (role : QueueRole)
    (q : Option QueueMemory) : (m.setQueue role q).lock = m.lock := by
  cases role with
  | depthIr | color | sync => rfl

theorem setQueue_queue (m : CapturesyncMemory) (role : QueueRole) :
    m.setQueue role (m.queue role) = m := by
  cases role with
  | depthIr | color | sync => rfl

/-- What a queue that may be null has to give back. -/
def queueResources : Option QueueMemory → Multiset QueueResource
  | none => 0
  | some q => q.resources

/-- What a synchroniser has to give back. -/
def resources (m : CapturesyncMemory) : Multiset QueueResource :=
  queueResources (m.queue .depthIr) + (queueResources (m.queue .color) +
    (queueResources (m.queue .sync) + (held (m.lock.map .lock) + {.memory m.context})))

@[simp] theorem queueResources_none : queueResources none = 0 := rfl

theorem resources_setQueue {role : QueueRole} (h : m.queue role = none) (q : Option QueueMemory) :
    (m.setQueue role q).resources = queueResources q + m.resources := by
  cases role with
  | depthIr =>
      simp only [resources, h, queueResources_none, zero_add]
      rfl
  | color =>
      simp only [resources, h, queueResources_none, zero_add]
      exact add_left_comm _ _ _
  | sync =>
      simp only [resources, h, queueResources_none, zero_add]
      rw [add_left_comm (queueResources q), add_left_comm (queueResources q)]
      rfl

/-- Every queue that is there is idle. -/
def Quiet (m : CapturesyncMemory) : Prop := ∀ role q, m.queue role = some q → q.Idle

namespace Quiet

theorem disableQueue (h : m.Quiet) (role : QueueRole) : m.disableQueue role = m := by
  have hq : (m.queue role).map (fun q => q.queueDisable.queue) = m.queue role := by
    cases hq : m.queue role with
    | none => rfl
    | some q =>
        rw [Option.map_some, (h role q hq).queueDisable]
  rw [CapturesyncMemory.disableQueue, hq, setQueue_queue]

theorem fault (h : m.Quiet) : m.fault = false := by
  have hrole : ∀ role, (m.queue role).any QueueMemory.fault = false := by
    intro role
    cases hq : m.queue role with
    | none => rfl
    | some q => exact (h role q hq).sound
  simp only [CapturesyncMemory.fault, List.any_cons, hrole, List.any_nil, Bool.or_self]

theorem destroyQueue (h : m.Quiet) (role : QueueRole) :
    (CapturesyncMemory.destroyQueue (m.queue role)).1 = false ∧
      ∀ {ops : List (RefOp QueueResource)} {k : Multiset QueueResource},
        Owns ops (queueResources (m.queue role) + k) →
        Owns (ops ++ (CapturesyncMemory.destroyQueue (m.queue role)).2) k := by
  cases hq : m.queue role with
  | none =>
      refine ⟨rfl, fun howns => ?_⟩
      simpa only [queueResources_none, zero_add, CapturesyncMemory.destroyQueue, List.append_nil]
        using howns
  | some q =>
      rw [CapturesyncMemory.destroyQueue, (h role q hq).queueDestroy]
      exact ⟨rfl, QueueMemory.owns_frees⟩

/-- Stopping a synchroniser that has not run keeps its queues. -/
theorem queue_capturesyncStop (h : m.Quiet) (role : QueueRole) :
    m.capturesyncStop.queue role = m.queue role := by
  have hstopped : Quiet { m with sync := { m.sync with running := false } } := h
  rw [capturesyncStop, hstopped.disableQueue, hstopped.disableQueue, hstopped.disableQueue]
  cases role with
  | depthIr | color | sync => rfl

theorem parts_capturesyncStop (h : m.Quiet) :
    m.capturesyncStop.lock = m.lock ∧ m.capturesyncStop.context = m.context := by
  have hstopped : Quiet { m with sync := { m.sync with running := false } } := h
  rw [capturesyncStop, hstopped.disableQueue, hstopped.disableQueue, hstopped.disableQueue]
  exact ⟨rfl, rfl⟩

/-- Destroying a synchroniser that has not run gives back what it has. -/
theorem capturesyncDestroy (h : m.Quiet) {ops : List (RefOp QueueResource)}
    (howns : Owns ops m.resources) :
    ∃ log, m.capturesyncDestroy = some log ∧ Owns (ops ++ log) 0 := by
  have hstop : m.capturesyncStop.Quiet := by
    intro role q hq
    rw [h.queue_capturesyncStop] at hq
    exact h role q hq
  obtain ⟨hlock, hcontext⟩ := h.parts_capturesyncStop
  rw [CapturesyncMemory.capturesyncDestroy]
  simp only [hstop.fault, h.queue_capturesyncStop, (h.destroyQueue _).1, Bool.or_self,
    Bool.false_eq_true, if_false, hlock, hcontext]
  refine ⟨_, rfl, ?_⟩
  have hqueues := (h.destroyQueue .sync).2 ((h.destroyQueue .color).2
    ((h.destroyQueue .depthIr).2 howns))
  have hrest := Owns.release (hqueues.releaseOf.congr (Multiset.cons_zero _).symm)
  simpa only [List.append_assoc] using hrest

end Quiet

end CapturesyncMemory

/-! ## Creating the queues -/

/-- The creations of the queues that are reached find a context. -/
def NoCrash (queue : QueueRole → QueueAnswers) : List QueueRole → Prop
  | [] => True
  | role :: roles => (queue role).context ≠ none ∧ ((queue role).built → NoCrash queue roles)

namespace Building

/-- The ledger is what the fields of the context say, and every queue is idle. -/
structure Sound (b : Building) : Prop where
  owns : Owns b.log b.memory.resources
  quiet : b.memory.Quiet

variable {b : Building} {queue : QueueRole → QueueAnswers}

theorem sound_start (context : Nat) (lock : Option Nat) : (start context lock).Sound := by
  constructor
  · have hcontext : Owns [.acquire (QueueResource.memory context)] {.memory context} :=
      Owns.nil.acquire
    refine (hcontext.acquireOf (lock.map .lock)).congr ?_
    exact ((zero_add _).trans ((zero_add _).trans (zero_add _))).symm
  · intro role q hq
    cases role with
    | depthIr | color | sync => cases hq

/-- A queue that was null, with the ledger of its creation. -/
theorem Sound.setQueue {role : QueueRole} {q : Option QueueMemory}
    {log : List (RefOp QueueResource)} (hb : b.Sound) (hnone : b.memory.queue role = none)
    (hidle : ∀ q', q = some q' → q'.Idle) (howns : Owns log (CapturesyncMemory.queueResources q))
    (result : Result) : Sound ⟨b.memory.setQueue role q, result, b.log ++ log⟩ := by
  constructor
  · exact (hb.owns.append_owns howns).congr (CapturesyncMemory.resources_setQueue hnone q).symm
  · intro role' q' hq'
    by_cases hrole : role' = role
    · subst hrole
      rw [CapturesyncMemory.queue_setQueue_self] at hq'
      exact hidle q' hq'
    · rw [CapturesyncMemory.queue_setQueue_of_ne hrole] at hq'
      exact hb.quiet role' q' hq'

/-- The ways in which the creation of one queue ends. -/
inductive QueueEnd (b : Building) (role : QueueRole) (a : QueueAnswers) : Option Building → Prop
  where
  | crashed : a.context = none → QueueEnd b role a none
  | failed {b' : Building} : a.context ≠ none → ¬ a.built → b'.Sound → b'.result = .failed →
      QueueEnd b role a (some b')
  | created {b' : Building} {q : QueueMemory} : a.context ≠ none → a.built → b'.Sound →
      b'.result = .succeeded → b'.memory = b.memory.setQueue role (some q) →
      (Complete role.depth q ↔ a.condition ≠ none) → QueueEnd b role a (some b')

theorem createQueue_ends {role : QueueRole} (hb : b.Sound) (hresult : b.result = .succeeded)
    (hnone : b.memory.queue role = none) (a : QueueAnswers) :
    QueueEnd b role a (b.createQueue role a) := by
  rw [createQueue, if_neg (by rw [hresult]; exact nofun)]
  have hends := QueueMemory.queueCreate_ends role.acceptedDepth (some role.name) a
  generalize QueueMemory.queueCreate role.depth (some role.name) a = r at hends ⊢
  cases hends with
  | crashed hcontext => exact .crashed hcontext
  | undone hcontext hbuilt howns =>
      have hq : ∀ q' : QueueMemory, none = some q' → q'.Idle := fun _ heq => nomatch heq
      exact .failed hcontext hbuilt (hb.setQueue hnone hq howns .failed) rfl
  | @created q _ hcontext hbuilt hidle howns hcomplete =>
      have hq : ∀ q', some q = some q' → q'.Idle := by
        intro q' heq
        obtain rfl := Option.some.inj heq
        exact hidle
      exact .created hcontext hbuilt (hb.setQueue hnone hq howns .succeeded) rfl rfl hcomplete

theorem createQueues_of_failed (hresult : b.result = .failed) (roles : List QueueRole) :
    createQueues queue roles b = some b := by
  induction roles with
  | nil => rfl
  | cons role roles ih => rw [createQueues, createQueue, if_pos hresult, Option.bind_some, ih]

/-- The ways in which the creation of several queues ends. -/
inductive QueuesEnd (queue : QueueRole → QueueAnswers) (b : Building) (roles : List QueueRole) :
    Option Building → Prop where
  | crashed : ¬ NoCrash queue roles → QueuesEnd queue b roles none
  | failed {b' : Building} : NoCrash queue roles → ¬ (∀ role ∈ roles, (queue role).built) →
      b'.Sound → b'.result = .failed → QueuesEnd queue b roles (some b')
  | created {b' : Building} : NoCrash queue roles → (∀ role ∈ roles, (queue role).built) →
      b'.Sound → b'.result = .succeeded → b'.memory.lock = b.memory.lock →
      (∀ role, role ∉ roles → b'.memory.queue role = b.memory.queue role) →
      (∀ role ∈ roles, ∃ q, b'.memory.queue role = some q ∧
        (Complete role.depth q ↔ (queue role).condition ≠ none)) →
      QueuesEnd queue b roles (some b')

theorem createQueues_ends (queue : QueueRole → QueueAnswers) (roles : List QueueRole) :
    ∀ {b : Building}, roles.Nodup → b.Sound → b.result = .succeeded →
      (∀ role ∈ roles, b.memory.queue role = none) →
      QueuesEnd queue b roles (createQueues queue roles b) := by
  induction roles with
  | nil =>
      intro b _ hb hresult _
      exact .created trivial nofun hb hresult rfl (fun _ _ => rfl) nofun
  | cons role roles ih =>
      intro b hnodup hb hresult hnone
      obtain ⟨hnotin, hnodup⟩ := List.nodup_cons.mp hnodup
      rw [createQueues]
      have hends := createQueue_ends hb hresult (hnone role List.mem_cons_self) (queue role)
      generalize b.createQueue role (queue role) = r at hends ⊢
      cases hends with
      | crashed hcontext => exact .crashed fun h => h.1 hcontext
      | failed hcontext hbuilt hb' hresult' =>
          rw [Option.bind_some, createQueues_of_failed hresult']
          exact .failed ⟨hcontext, fun h => absurd h hbuilt⟩
            (fun h => hbuilt (h role List.mem_cons_self)) hb' hresult'
      | @created b' q hcontext hbuilt hb' hresult' hmemory hcomplete =>
          rw [Option.bind_some]
          have hother : ∀ role', role' ≠ role →
              b'.memory.queue role' = b.memory.queue role' := by
            intro role' hne
            rw [hmemory, CapturesyncMemory.queue_setQueue_of_ne hne]
          have hrest := ih hnodup hb' hresult' fun role' hmem =>
            (hother role' (ne_of_mem_of_not_mem hmem hnotin)).trans
              (hnone role' (List.mem_cons_of_mem role hmem))
          generalize createQueues queue roles b' = r at hrest ⊢
          cases hrest with
          | crashed hcrash => exact .crashed fun h => hcrash (h.2 hbuilt)
          | failed hsafe hbuilt' hb'' hresult'' =>
              exact .failed ⟨hcontext, fun _ => hsafe⟩
                (fun h => hbuilt' fun role' hmem => h role' (List.mem_cons_of_mem role hmem))
                hb'' hresult''
          | created hsafe hbuilt' hb'' hresult'' hlock hsame hqueues =>
              refine .created ⟨hcontext, fun _ => hsafe⟩ ?_ hb'' hresult'' ?_ ?_ ?_
              · exact List.forall_mem_cons.mpr ⟨hbuilt, hbuilt'⟩
              · rw [hlock, hmemory, CapturesyncMemory.lock_setQueue]
              · intro role' hmem
                rw [List.mem_cons, not_or] at hmem
                rw [hsame role' hmem.2, hother role' hmem.1]
              · refine List.forall_mem_cons.mpr ⟨⟨q, ?_, hcomplete⟩, hqueues⟩
                rw [hsame role hnotin, hmemory, CapturesyncMemory.queue_setQueue_self]

/-- A failure is undone. -/
theorem finish_of_failed (hb : b.Sound) (hresult : b.result = .failed) (disableSync : Bool) :
    ∃ log, b.finish disableSync = some ⟨.failed, none, log⟩ ∧ Owns log 0 := by
  have hquiet : CapturesyncMemory.Quiet { b.memory with
    sync := { b.memory.sync with disableSync := disableSync } } := hb.quiet
  obtain ⟨log, hlog, howns⟩ := hquiet.capturesyncDestroy hb.owns
  refine ⟨b.log ++ log, ?_, howns⟩
  rw [finish]
  simp only [hresult, reduceCtorEq, if_false, hquiet.fault, Bool.false_eq_true, if_true, hlog,
    Option.map_some]

/-- The queues of a synchroniser that is created are the ones that were built. -/
theorem finish_of_succeeded (hb : b.Sound) (hresult : b.result = .succeeded)
    (disableSync : Bool) : b.finish disableSync = some ⟨.succeeded, some { b.memory with
      sync := { b.memory.sync with disableSync := disableSync } }, b.log⟩ := by
  have hquiet : CapturesyncMemory.Quiet { b.memory with
    sync := { b.memory.sync with disableSync := disableSync } } := hb.quiet
  rw [finish, if_pos hresult, hb.quiet.disableQueue, hb.quiet.disableQueue, hb.quiet.disableQueue]
  simp only [hresult, reduceCtorEq, if_false, hquiet.fault, Bool.false_eq_true]

end Building

/-! ## All or nothing -/

/-- The creation of a synchroniser succeeds with a lock and three complete queues, or fails and
leaves nothing. -/
def CapturesyncMemory.AllOrNothing : Option CapturesyncCreated → Prop
  | none => False
  | some ⟨.failed, handle, log⟩ => handle = none ∧ Owns log 0
  | some ⟨.succeeded, handle, _⟩ => ∃ m, handle = some m ∧ m.lock ≠ none ∧
      ∀ role, ∃ q, m.queue role = some q ∧ Complete role.depth q

/-- The context is there, so is the context of every queue whose creation is reached, and the
conditions are there if nothing else is missing. -/
def CapturesyncAnswers.Harmless (a : CapturesyncAnswers) : Prop :=
  a.context ≠ none ∧ (a.lock ≠ none → NoCrash a.queue [.depthIr, .color, .sync] ∧
    ((∀ role, (a.queue role).built) → ∀ role, (a.queue role).condition ≠ none))

namespace CapturesyncMemory

theorem mem_roles (role : QueueRole) : role ∈ [QueueRole.depthIr, .color, .sync] := by
  cases role with
  | depthIr | color | sync => decide

theorem allOrNothing_of_failed {b : Building} (hb : b.Sound) (hresult : b.result = .failed)
    (disableSync : Bool) : AllOrNothing (b.finish disableSync) := by
  obtain ⟨log, hlog, howns⟩ := Building.finish_of_failed hb hresult disableSync
  rw [hlog]
  exact ⟨rfl, howns⟩

theorem allOrNothing_capturesyncCreate_iff (a : CapturesyncAnswers) (disableSync : Bool) :
    AllOrNothing (capturesyncCreate a disableSync) ↔ a.Harmless := by
  obtain ⟨context, lock, queue⟩ := a
  cases context with
  | none => exact ⟨False.elim, fun h => h.1 rfl⟩
  | some context =>
      have hb := Building.sound_start context lock
      simp only [capturesyncCreate]
      cases lock with
      | none =>
          have hresult : (Building.start context none).result = .failed := rfl
          rw [Building.createQueues_of_failed hresult, Option.bind_some]
          exact ⟨fun _ => ⟨nofun, fun h => absurd rfl h⟩,
            fun _ => allOrNothing_of_failed hb hresult disableSync⟩
      | some lock =>
          have hnone : ∀ role ∈ [QueueRole.depthIr, .color, .sync],
              (Building.start context (some lock)).memory.queue role = none := by
            intro role _
            cases role with
            | depthIr | color | sync => rfl
          have hends := Building.createQueues_ends queue _ (by decide) hb rfl hnone
          generalize Building.createQueues queue _ _ = r at hends ⊢
          cases hends with
          | crashed hcrash => exact ⟨False.elim, fun h => hcrash (h.2 nofun).1⟩
          | failed hsafe hbuilt hb' hresult =>
              rw [Option.bind_some]
              refine ⟨fun _ => ⟨nofun, fun _ => ⟨hsafe, fun h => ?_⟩⟩,
                fun _ => allOrNothing_of_failed hb' hresult disableSync⟩
              exact absurd (fun role _ => h role) hbuilt
          | created hsafe hbuilt hb' hresult hlock _ hqueues =>
              rw [Option.bind_some, Building.finish_of_succeeded hb' hresult]
              constructor
              · rintro ⟨m, heq, -, hcomplete⟩
                obtain rfl := Option.some.inj heq
                refine ⟨nofun, fun _ => ⟨hsafe, fun _ role => ?_⟩⟩
                obtain ⟨q, hq, hiff⟩ := hqueues role (mem_roles role)
                obtain ⟨q', hq', hcomplete'⟩ := hcomplete role
                obtain rfl : q = q' := Option.some.inj (hq.symm.trans hq')
                exact hiff.mp hcomplete'
              · intro h
                refine ⟨_, rfl, hlock.trans_ne nofun, fun role => ?_⟩
                obtain ⟨q, hq, hiff⟩ := hqueues role (mem_roles role)
                refine ⟨q, hq, hiff.mpr ((h.2 nofun).2 (fun role' => ?_) role)⟩
                exact hbuilt role' (mem_roles role')

end CapturesyncMemory

/-- The creation of a queue is all or nothing if and only if the depth is accepted, the context is
there, and the condition is there when the ring and the lock are, or the depth is refused and there
is no context; and the creation of a synchroniser is if and only if its own context and the
contexts of its queues are there when they are used, and the conditions when nothing else fails. -/
theorem queue_creation_all_or_nothing_iff (queueDepth : UInt32) (queueName : Option String)
    (a : QueueAnswers) (s : CapturesyncAnswers) (disableSync : Bool) :
    (QueueMemory.AllOrNothing queueDepth (QueueMemory.queueCreate queueDepth queueName a) ↔
      (AcceptedDepth queueDepth ∧ a.context ≠ none ∧ (a.built → a.condition ≠ none)) ∨
      (¬ AcceptedDepth queueDepth ∧ a.context = none)) ∧
    (CapturesyncMemory.AllOrNothing (CapturesyncMemory.capturesyncCreate s disableSync) ↔
      s.Harmless) :=
  ⟨QueueMemory.allOrNothing_queueCreate_iff queueDepth queueName a,
    CapturesyncMemory.allOrNothing_capturesyncCreate_iff s disableSync⟩

/-- A queue of one capture without a condition is handed out, a depth of 0 leaves the context, a
missing context is used, and a synchroniser is handed out whose queues have no condition. -/
theorem queue_creation_not_all_or_nothing :
    (∃ q log, QueueMemory.queueCreate 1 none ⟨some 0, some 1, some 2, none⟩ =
        some ⟨.succeeded, some q, log⟩ ∧ q.condition = none ∧
      ¬ QueueMemory.AllOrNothing 1 (some ⟨.succeeded, some q, log⟩)) ∧
    QueueMemory.queueCreate 0 none ⟨some 0, some 1, some 2, some 3⟩ =
      some ⟨.failed, some (.zero 0), [.acquire (.memory 0)]⟩ ∧
    QueueMemory.queueCreate 1 none ⟨none, some 1, some 2, some 3⟩ = none ∧
    ∃ m log, CapturesyncMemory.capturesyncCreate
        ⟨some 0, some 1, fun _ => ⟨some 2, some 3, some 4, none⟩⟩ false =
      some ⟨.succeeded, some m, log⟩ ∧
      ¬ CapturesyncMemory.AllOrNothing (some ⟨.succeeded, some m, log⟩) := by
  refine ⟨⟨_, _, rfl, rfl, ?_⟩, rfl, rfl, _, _, rfl, ?_⟩
  · rintro ⟨q, heq, hcomplete⟩
    obtain rfl := Option.some.inj heq
    exact hcomplete.condition rfl
  · rintro ⟨m, heq, -, hcomplete⟩
    obtain rfl := Option.some.inj heq
    obtain ⟨q, hq, hcomplete⟩ := hcomplete .depthIr
    obtain rfl := Option.some.inj hq
    exact hcomplete.condition rfl

end ZsaSdk
