import ZsaSdk.Lib.RwLock
import ZsaSdk.Lib.Steps
import ZsaSdk.Types
import ZsaSdk.Logging.Model

/-!
# The logger under threads

`logger_log`, `logger_register_message_callback` and `logger_deinit`, called by any number of
threads at once.  A thread takes the lock, does what it does step by step, and gives the lock up;
between two of its steps the others take theirs.

*Lock.*  `rwlock_linux.c` passes the calls on to `pthread_rwlock_*`, where one call gives up the
lock for readers and for writers.

*Levels.*  A caller can store any number in a `zsa_log_level_t`, so levels are numbers here.

*Callbacks.*  The callback of the user and spdlog return some time; while they have not, the thread
holds the lock to read.  A callback does not call the logger.

`history` records what the calls have done, each when it is certain; the code does not read it.
-/

namespace ZsaSdk

/-- The value of the enumerator. -/
def LogLevel.value : LogLevel → Int
  | .critical => 0
  | .error => 1
  | .warning => 2
  | .info => 3
  | .trace => 4
  | .off => 5

/-- The arguments of `logger_log`, the text formatted. -/
structure LogMessage where
  level : Int
  file : String
  line : Int32
  text : List UInt8
deriving DecidableEq, Repr

/-- `buffer`, which has room for 1024 characters with the terminator. -/
def LogMessage.buffer (m : LogMessage) : List UInt8 := m.text.take 1023

/-- The function of spdlog that writes a message. -/
inductive SpdlogLevel where
  | critical
  | error
  | warn
  | info
  | trace
deriving DecidableEq, Repr

/-- The `switch` over the levels. -/
def spdlogLevel (level : Int) : SpdlogLevel :=
  if level = LogLevel.critical.value then .critical
  else if level = LogLevel.error.value then .error
  else if level = LogLevel.warning.value then .warn
  else if level = LogLevel.info.value then .info
  else .trace

/-- What a message leads to. -/
inductive LogOutput where
  /-- A call of the callback of the user. -/
  | userCallback (cb context : Nat) (level : Int) (file : String) (line : Int32)
      (message : List UInt8)
  /-- A line that spdlog writes. -/
  | envLogger (logger : EnvLogger) (level : SpdlogLevel) (file : String) (line : Int32)
      (message : List UInt8)
deriving DecidableEq

/-- The arguments of `logger_register_message_callback`. -/
structure Registration where
  messageCb : Option Nat
  messageCbContext : Nat
  minLevel : Int
deriving DecidableEq, Repr

/-- The check of the arguments that fails, if there is one. -/
def Registration.invalid (r : Registration) : Option String :=
  if r.messageCb = none then none
  else if r.minLevel < LogLevel.critical.value then some "min_level < ZSA_LOG_LEVEL_CRITICAL"
  else if r.minLevel > LogLevel.off.value then some "min_level > ZSA_LOG_LEVEL_OFF"
  else none

/-- The characters of a message that the code holds. -/
def asciiText (text : String) : List UInt8 := text.toList.map fun c => c.toNat.toUInt8

/-- What `RETURN_VALUE_IF_ARG` logs in `logger_register_message_callback`. -/
def refusalMessages (file : String) (line : Int32) (expression : String) : List LogMessage :=
  [⟨LogLevel.error.value, file, line,
      asciiText ("Invalid argument to logger_register_message_callback(). " ++ expression)⟩,
    ⟨LogLevel.error.value, file, line,
      asciiText "logger_register_message_callback() returned failure."⟩]

/-! ## The members of the context -/

/-- `logger_global_context_t`, less its lock and `env_logger_is_file_based`. -/
structure LoggerGlobal where
  userCallback : Option Nat
  userCallbackContext : Nat
  userLogLevel : Int
  envLogger : Option EnvLogger
  envLogLevel : Int
deriving DecidableEq

/-- The context as `logger_init_once` leaves it. -/
def LoggerContext.toGlobal (context : LoggerContext) : LoggerGlobal :=
  ⟨context.userCallback, 0, context.userLogLevel.value, context.envLogger,
    context.envLogLevel.value⟩

/-- A call that takes the lock to write. -/
inductive LoggerWrite where
  | register (r : Registration)
  | deinit
deriving DecidableEq, Repr

/-- What the logger does as a whole. -/
inductive LoggerOperation where
  | log (m : LogMessage)
  | register (r : Registration)
  | deinit
deriving DecidableEq, Repr

def LoggerWrite.operation : LoggerWrite → LoggerOperation
  | .register r => .register r
  | .deinit => .deinit

/-- What is seen of an operation. -/
inductive LoggerAnswer where
  | outputs (l : List LogOutput)
  | result (r : Result)
  | done
deriving DecidableEq

namespace LoggerGlobal

/-- The condition of the quick exit. -/
def quickExit (global : LoggerGlobal) (m : LogMessage) : Bool :=
  (m.level > global.envLogLevel && m.level > global.userLogLevel) ||
    (global.envLogger.isNone && global.userCallback.isNone)

/-- The call of the callback of the user, if there is to be one. -/
def userOutput (global : LoggerGlobal) (m : LogMessage) : Option LogOutput :=
  if m.level ≤ global.userLogLevel ∧ global.userLogLevel ≠ LogLevel.off.value then
    global.userCallback.map fun cb =>
      .userCallback cb global.userCallbackContext m.level m.file m.line m.buffer
  else none

/-- The line for the logger of the environment, if there is to be one. -/
def envOutput (global : LoggerGlobal) (m : LogMessage) : Option LogOutput :=
  if m.level ≤ global.envLogLevel ∧ global.envLogLevel ≠ LogLevel.off.value then
    global.envLogger.map fun logger =>
      .envLogger logger (spdlogLevel m.level) m.file m.line m.buffer
  else none

/-- `logger_register_message_callback` between the two calls of the lock. -/
def store (global : LoggerGlobal) (r : Registration) : LoggerGlobal × Result :=
  if global.userCallback = none ∨ r.messageCb = none ∨ global.userCallback = r.messageCb then
    ({ global with
        userLogLevel := r.minLevel
        userCallback := r.messageCb
        userCallbackContext := r.messageCbContext }, .succeeded)
  else (global, .failed)

/-- What is done with the lock held to write. -/
def write (global : LoggerGlobal) : LoggerWrite → LoggerGlobal × LoggerAnswer
  | .register r => ((global.store r).1, .result (global.store r).2)
  | .deinit => ({ global with envLogger := none }, .done)

/-- The operation with nothing in between, and without the quick exit. -/
def perform (global : LoggerGlobal) : LoggerOperation → LoggerGlobal × LoggerAnswer
  | .log m => (global, .outputs ((global.userOutput m).toList ++ (global.envOutput m).toList))
  | .register r =>
      if r.invalid = none then ((global.store r).1, .result (global.store r).2)
      else (global, .result .failed)
  | .deinit => ({ global with envLogger := none }, .done)

end LoggerGlobal

/-! ## Threads -/

/-- Where a thread in `logger_log` is that holds the lock. -/
inductive LogPhase where
  | entered
  /-- The message is in `buffer`. -/
  | formatted
  | inUserCallback (output : LogOutput)
  | calledBack (outputs : List LogOutput)
  | inEnvLogger (outputs : List LogOutput) (output : LogOutput)
  /-- Before `rwlock_release_read`. -/
  | leaving (outputs : List LogOutput)
deriving DecidableEq

/-- Where a thread is. -/
inductive LoggerThread where
  /-- Without the lock, and with some messages to log. -/
  | logs (messages : List LogMessage)
  | logging (m : LogMessage) (phase : LogPhase) (rest : List LogMessage)
  /-- Before `rwlock_acquire_write`. -/
  | wantsWrite (w : LoggerWrite)
  | writing (w : LoggerWrite)
  /-- Before `rwlock_release_write`. -/
  | written
deriving DecidableEq

/-- What a thread calls; for a registration also the place of the checks in the source. -/
inductive LoggerCall where
  | log (m : LogMessage)
  | register (r : Registration) (file : String) (line : Int32)
  | deinit
deriving DecidableEq, Repr

/-- An operation that a thread has carried out. -/
structure LoggerEvent where
  thread : Nat
  operation : LoggerOperation
  answer : LoggerAnswer
deriving DecidableEq

/-- The context with its lock, and the threads. -/
structure LoggerSystem where
  global : LoggerGlobal
  lock : RwLock
  threads : List LoggerThread
  history : List LoggerEvent
deriving DecidableEq

namespace LoggerThread

def idle : LoggerThread := .logs []

/-- What a thread holds of the lock. -/
def held : LoggerThread → RwLock.Section
  | .logs _ | .wantsWrite _ => .outside
  | .logging .. => .read
  | .writing _ | .written => .write

end LoggerThread

namespace LoggerSystem

def initial (global : LoggerGlobal) (n : Nat) : LoggerSystem :=
  ⟨global, .free, List.replicate n .idle, []⟩

inductive Label where
  | call (i : Nat) (c : LoggerCall)
  /-- A thread that is in a call takes its next step. -/
  | advance (i : Nat)
deriving DecidableEq, Repr

def setThread (s : LoggerSystem) (i : Nat) (t : LoggerThread) : LoggerSystem :=
  { s with threads := s.threads.set i t }

def record (s : LoggerSystem) (i : Nat) (operation : LoggerOperation) (answer : LoggerAnswer) :
    LoggerSystem := { s with history := s.history ++ [⟨i, operation, answer⟩] }

/-- A call begins. -/
def call (s : LoggerSystem) (i : Nat) : LoggerCall → LoggerSystem
  | .log m => s.setThread i (.logs [m])
  | .register r file line =>
      match r.invalid with
      | some expression =>
          (s.setThread i (.logs (refusalMessages file line expression))).record i (.register r)
            (.result .failed)
      | none => s.setThread i (.wantsWrite (.register r))
  | .deinit => s.setThread i (.wantsWrite .deinit)

/-- `logger_log` with the lock, up to its release. -/
def advanceLog (s : LoggerSystem) (i : Nat) (m : LogMessage) (rest : List LogMessage) :
    LogPhase → LoggerSystem
  | .entered =>
      if s.global.quickExit m then s.setThread i (.logging m (.leaving []) rest)
      else s.setThread i (.logging m .formatted rest)
  | .formatted =>
      match s.global.userOutput m with
      | some output => s.setThread i (.logging m (.inUserCallback output) rest)
      | none => s.setThread i (.logging m (.calledBack []) rest)
  | .inUserCallback output => s.setThread i (.logging m (.calledBack [output]) rest)
  | .calledBack outputs =>
      match s.global.envOutput m with
      | some output => s.setThread i (.logging m (.inEnvLogger outputs output) rest)
      | none => s.setThread i (.logging m (.leaving outputs) rest)
  | .inEnvLogger outputs output =>
      s.setThread i (.logging m (.leaving (outputs ++ [output])) rest)
  | .leaving outputs =>
      ({ s with lock := s.lock.unlock }.setThread i (.logs rest)).record i (.log m)
        (.outputs outputs)

/-- The next step of a thread, if it does not wait for the lock. -/
def advance (s : LoggerSystem) (i : Nat) : LoggerThread → Option LoggerSystem
  | .logs [] => none
  | .logs (m :: rest) =>
      s.lock.acquireRead.map fun lock => { s with lock }.setThread i (.logging m .entered rest)
  | .logging m phase rest => some (s.advanceLog i m rest phase)
  | .wantsWrite w =>
      s.lock.acquireWrite.map fun lock => { s with lock }.setThread i (.writing w)
  | .writing w =>
      some (({ s with global := (s.global.write w).1 }.setThread i .written).record i w.operation
        (s.global.write w).2)
  | .written => some ({ s with lock := s.lock.unlock }.setThread i .idle)

/-- One step, if it is possible. -/
def step (s : LoggerSystem) : Label → Option LoggerSystem
  | .call i c => if s.threads[i]? = some .idle then some (s.call i c) else none
  | .advance i => s.threads[i]?.bind (s.advance i)

end LoggerSystem

end ZsaSdk
