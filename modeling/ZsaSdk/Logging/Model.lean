import ZsaSdk.Lib.CString
import ZsaSdk.Lib.IntTypes

/-!
# The start of the logger

`logger_init_once` of `logging.cpp`.  It reads three environment variables, chooses between a log
file, the standard output and no logger of its own, and sets the level of what it has chosen.

*The log file.*  The position of the suffix is computed in `uint32_t` and cast to `char` before it
is added to the start of the string.  Whether `char` is signed depends on the platform.  The
positions at which the string is read are recorded, relative to its start, and what lies around it
in memory is a parameter.

*spdlog.*  Creating the file logger succeeds or throws, depending on the file.
-/

namespace ZsaSdk

/-- `zsa_log_level_t` -/
inductive LogLevel where
  | critical
  | error
  | warning
  | info
  | trace
  | off
deriving DecidableEq, Repr

/-- `LOG_FILE_EXTENSION`, which is `.log`. -/
def logFileExtension : CString := ⟨[46, 108, 111, 103], by simp⟩

/-- `ZSA_LOG_FILE_NAME`, which is `zsa.log`. -/
def zsaLogFileName : CString := ⟨[122, 115, 97, 46, 108, 111, 103], by simp⟩

/-- What the choice of the log file depends on beside the string. -/
structure LogPlatform where
  charSigned : Bool
  /-- The memory around the string. -/
  around : Int → UInt8

/-- `char` -/
def LogPlatform.charType (p : LogPlatform) : IntType := ⟨8, by decide, p.charSigned⟩

/-- The name of the log file, if there is one, and the positions that were read. -/
structure LogFileChoice where
  logFile : Option CString
  inspected : List Int

/-- `sizeof(LOG_FILE_EXTENSION)` -/
def extensionSz : UInt32 := 5

/-- `path_length` -/
def pathLength (v : CString) : UInt32 := UInt32.ofNat v.strlen + 1

/-- The offset that is added to the start of the string. -/
def LogPlatform.extensionOffset (p : LogPlatform) (v : CString) : Int :=
  (p.charType.cast (pathLength v - extensionSz).toNat).val

/-- The choice of the log file. -/
def chooseLogFile (p : LogPlatform) : Option CString → LogFileChoice
  | none => ⟨none, []⟩
  | some v =>
      if v.charAt 0 = 0 then ⟨none, [0]⟩
      else
        -- The first character, and then the string for its length.
        let inspected := 0 :: (List.range (v.strlen + 1)).map Int.ofNat
        if extensionSz < pathLength v then
          let extension := p.extensionOffset v
          let compared := CString.strncmp (fun j => v.readAt p.around (extension + j))
            logFileExtension.charAt extensionSz.toNat
          ⟨some (if compared.1 = 0 then v else zsaLogFileName),
            inspected ++ (List.range compared.2).map fun j => extension + Int.ofNat j⟩
        else ⟨some zsaLogFileName, inspected⟩

/-! ## The logger -/

/-- `env_logger` -/
inductive EnvLogger where
  | file (name : CString)
  | stdout
deriving DecidableEq

/-- `logger_global_context_t`, less its lock and the context of the callback. -/
structure LoggerContext where
  userCallback : Option Nat
  userLogLevel : LogLevel
  envLogger : Option EnvLogger
  envLoggerIsFileBased : Bool
  envLogLevel : LogLevel

/-- The environment variables. -/
structure LoggerEnvironment where
  enableFileLogging : Option CString
  enableStdoutLogging : Option CString
  loggingLevel : Option CString

namespace LoggerContext

/-- The context before its initialization: every member is zero, which is `critical` as a level. -/
def zeroed : LoggerContext := ⟨none, .critical, none, false, .critical⟩

/-- Open the log file. -/
def openLogFile (global : LoggerContext) (opens : CString → Bool) :
    Option CString → LoggerContext
  | none => global
  | some logFile =>
      if opens logFile then
        { global with envLogger := some (.file logFile), envLoggerIsFileBased := true }
      else { global with envLogger := none }

/-- `enable_stdout_logger` -/
def enableStdoutLogger (global : LoggerContext) (enableStdoutLogging : Option CString) : Bool :=
  -- The variable is set to something that does not start with the digit 0.
  if enableStdoutLogging.any fun v => v.charAt 0 != 48 then true
  else if global.userCallback = none then
    enableStdoutLogging.all (fun v => v.charAt 0 == 0) ||
      enableStdoutLogging.any fun v => v.charAt 0 != 48
  else false

/-- Log to the standard output, if there is no file logger. -/
def openStdout (global : LoggerContext) (enableStdoutLogging : Option CString) : LoggerContext :=
  if global.envLogger = none then
    if global.enableStdoutLogger enableStdoutLogging then
      { global with envLogger := some .stdout }
    else global
  else global

/-- The level that the first character of a value names. -/
def levelOf (first : UInt8) : LogLevel :=
  if first = 116 ∨ first = 84 then .trace
  else if first = 105 ∨ first = 73 then .info
  else if first = 119 ∨ first = 87 then .warning
  else if first = 101 ∨ first = 69 then .error
  else if first = 99 ∨ first = 67 then .critical
  else .error

/-- Set the level of the logger, if there is one. -/
def setLevel (global : LoggerContext) (loggingLevel : Option CString) : LoggerContext :=
  if global.envLogger = none then global
  else { global with envLogLevel := loggingLevel.elim .error fun v => levelOf (v.charAt 0) }

end LoggerContext

/-- What `logger_init_once` leaves, and how it has chosen the log file. -/
structure LoggerInit where
  global : LoggerContext
  choice : LogFileChoice

/-- `logger_init_once` -/
def loggerInitOnce (p : LogPlatform) (opens : CString → Bool) (env : LoggerEnvironment)
    (global : LoggerContext) : LoggerInit :=
  let global := { global with envLogLevel := .off, userLogLevel := .off }
  let choice := chooseLogFile p env.enableFileLogging
  let global := global.openLogFile opens choice.logFile
  let global := global.openStdout env.enableStdoutLogging
  ⟨global.setLevel env.loggingLevel, choice⟩

end ZsaSdk
