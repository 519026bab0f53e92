import AppLauncher.Diagnostics.Record
import AppLauncher.Launch

/-!
# The program

The program opens its diagnostic log in the temporary directory, does its work, and writes the
events that the filter keeps to that log before it ends. On the desktop the work is a launch. On
any other host there is nothing to launch with, and the program says so.

A diagnostic log that cannot be opened breaks the program down, and so does a filter that cannot be
read to its end. A filter that is merely malformed counts as none.
-/

namespace AppLauncher.Program

/-- What the program takes from its environment. -/
structure Setting where
  /-- The directory for temporary files. -/
  temporary : Path
  /-- Which events are kept. -/
  filter : Option String
  /-- Whether the standard error stream takes text. -/
  standardErrorWorks : Bool
  /-- The time stamp of the records. -/
  stamp : String
  deriving Repr

/-- How a process ends: with a status, or by a signal. -/
inductive Exit where
  | status (code : Int32)
  | signal (number : Nat)
  deriving DecidableEq, Repr

namespace Exit

/-- The exit status as the host reports it: the low eight bits. A signal leaves none. -/
def reported? : Exit → Option Nat
  | status code => some (code.toInt % 256).toNat
  | signal _ => none

/-- The signal that ended the process. -/
def signal? : Exit → Option Nat
  | status _ => none
  | signal number => some number

end Exit

/-- What the program leaves behind beside its log. -/
structure Ending where
  exit : Exit
  standardError : String
  deriving DecidableEq, Repr

/-- The end of a program that broke down. -/
def brokenExit : Exit := .status 101

/-- The end of a program that the host gave up on. -/
def abortedExit : Exit := .signal 6

/-- A breakdown before the diagnostic log is in use. It is told on the standard error stream; a
breakdown that cannot even be told aborts the program. -/
def breakDown (setting : Setting) (reason : String) : Ending :=
  if setting.standardErrorWorks then ⟨brokenExit, reason ++ "\n"⟩ else ⟨abortedExit, ""⟩

/-- What is said of a diagnostic log that cannot be opened. -/
def unopenable (reason : String) : String :=
  s!"initializing rolling file appender failed: {reason}"

/-- The diagnostic log of a launcher. -/
def logPath (temporary : Path) (name : String) : Path :=
  temporary.join (.ofString (name ++ "-launcher.log"))

/-- What the program says on a host it cannot launch on. -/
def apology (name : String) : String :=
  s!"{name} can only launch applications on Windows"

/-- The name of the launcher with the given arguments. -/
def nameOf (args : List Bytes) : String :=
  Invocation.nameOf ⟨args.headD []⟩

/-- The work on a host without a desktop. -/
def apologise {σ : Type} (setting : Setting) (name : String) : Acting σ Ending := do
  note .error .program (apology name)
  if setting.standardErrorWorks then return ⟨.status 1, apology name ++ "\n"⟩
  else
    note .error .breakdown s!"panicked: failed printing to stderr: {SystemError.message (.code 28)}"
    return ⟨brokenExit, ""⟩

/-- The work on the desktop. -/
def launchOn {σ C M : Type} (platform : Platform σ C M) (request : LaunchRequest) :
    Waiting σ Ending := do
  return ⟨.status (← platform.launch request), ""⟩

def openDiagnostics {σ : Type} (setting : Setting) (name : String) :
    Acting σ (Except SystemError Handle) := do
  let world ← get
  match world.files.openEnd world.here (logPath setting.temporary name) with
  | .error reason => return .error reason
  | .ok (handle, files) =>
    set { world with files }
    return .ok handle

/-- Writes the events that are kept to the diagnostic log. -/
def writeDiagnostics {σ : Type} (filter : Diagnostics.Filter) (stamp : String) (handle : Handle) :
    Acting σ Unit :=
  modify fun world =>
    let text := Diagnostics.records filter stamp world.log
    { world with files := (world.files.write handle (Utf8.ofString text)).2 }

/-- Does some work with a diagnostic log around it. -/
def run {σ : Type} {m : Type → Type} [Monad m] [MonadLiftT (Acting σ) m] (setting : Setting)
    (name : String) (work : m Ending) : m Ending := do
  match ← (openDiagnostics setting name : Acting σ _) with
  | .error reason => return breakDown setting (unopenable reason.message)
  | .ok handle =>
    match Diagnostics.Filter.ofSetting setting.filter with
    | .error fault => return breakDown setting fault.message
    | .ok filter =>
      let ending ← work
      (writeDiagnostics filter setting.stamp handle : Acting σ Unit)
      return ending

/-- The program on a host without a desktop. -/
def runOnHost {σ : Type} (setting : Setting) (args : List Bytes) : Acting σ Ending :=
  let name := nameOf args
  run (σ := σ) setting name (apologise setting name)

/-- The program on the desktop. -/
def runOnDesktop {σ C M : Type} (platform : Platform σ C M) (setting : Setting)
    (args : List Bytes) (profile : Option Bytes) : Waiting σ Ending :=
  run (σ := σ) setting (nameOf args) (launchOn platform (.ofEnvironment args profile))

end AppLauncher.Program
