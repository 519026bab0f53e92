import AppLauncher.Launch
import AppLauncher.Windows.TrackingWindow

/-!
# Launching on the desktop

The child is a process without a console window, known by the handles of the process and of its
first thread. Its output goes to the log if the log's handle can be inherited. The event queue is
the message queue of the launcher's thread, which the tracking window shares.

A child's exit code is a number of 32 bits, and one such number, `stillActive`, says that the child
has none yet.
-/

namespace AppLauncher.Windows

/-- Reading and writing shared with other programs. -/
def shareReadWrite : UInt32 := 3

/-- The flag of handles that a child gets. -/
def inheritFlag : UInt32 := 1

/-- The flag of processes without a console window. -/
def noConsoleWindow : UInt32 := 0x08000000

/-- The flag that the standard handles are given. -/
def useStandardHandles : UInt32 := 0x100

/-- The size of the startup record. -/
def startupSize : UInt32 := 104

/-- The exit code of a process that has not exited. -/
def stillActive : UInt32 := 259

/-- The style of a message box with one button and an error sign. -/
def errorBox : UInt32 := 0x10

/-- A child that was started. -/
structure Child where
  process : SystemHandle
  thread : SystemHandle
  processId : UInt32
  deriving DecidableEq, Repr

/-- The event queue, with the tracking window if there is one. -/
structure Pump where
  window : Option WindowHandle
  deriving DecidableEq, Repr

/-- What an answer about the exit code says of the child. The code keeps its bits and becomes a
signed number. -/
def pollOf : Except Failure UInt32 → Poll
  | .error failure => .failed failure.message
  | .ok code => if code = stillActive then .active else .exited (some code.toInt32)

namespace Child

/-- Asks whether the child has exited. -/
def poll (child : Child) : OnDesktop (Poll × Child) := do
  return (pollOf (← Desktop.getExitCodeProcess child.process), child)

/-- Closes one of the child's handles; a failure is a warning. -/
def close (child : Child) (handle : SystemHandle) : OnDesktop Unit := do
  match ← Desktop.closeHandle handle with
  | .ok () => return ()
  | .error failure =>
    note .warn .desktop
      s!"could not close a handle of process {child.processId.toNat}: {failure.message}"

def release (child : Child) : OnDesktop Unit := do
  child.close child.process
  child.close child.thread

end Child

namespace Pump

/-- Serves messages until there are none or the given number has been served; `served` of them have
been before. -/
def serve (served : Nat) : Nat → OnDesktop Nat
  | 0 => return served
  | budget + 1 => do
    match ← Desktop.peekMessage with
    | none => return served
    | some message =>
      let _ ← Desktop.translateMessage message
      let _ ← Desktop.dispatchMessage TrackingWindow.procedure message
      serve (served + 1) budget

/-- Serves at most so many messages. -/
def dispatch (pump : Pump) (budget : UInt64) : OnDesktop (UInt64 × Pump) := do
  return ((← serve 0 budget.toNat).toUInt64, pump)

/-- Asks the message queue to end. -/
def postQuit (pump : Pump) : OnDesktop Pump := do
  Desktop.postQuitMessage 0
  return pump

/-- Opens the event queue of a launcher. A launcher without a valid tracking window still serves
its message queue. -/
def openFor (launcherName : String) : OnDesktop Pump := do
  match ← TrackingWindow.create launcherName with
  | .error reason =>
    note .warn .desktop s!"could not create the tracking window: {reason}"
    return ⟨none⟩
  | .ok window =>
    if ← Desktop.isWindow window then return ⟨some window⟩
    else
      note .warn .desktop s!"tracking window HWND({windowText window}) is not a valid window"
      return ⟨none⟩

end Pump

/-- The handle for the child's output: the log's, once the child can inherit it. -/
def outputHandle (sink : Option LogSink) : OnDesktop SystemHandle :=
  match sink with
  | none => return .null
  | some sink => do
    let handle := SystemHandle.file sink.handle
    match ← Desktop.setHandleInformation handle inheritFlag inheritFlag with
    | .ok () => return handle
    | .error failure =>
      note .warn .desktop <|
        s!"could not make {sink.path.display} inheritable, " ++
          s!"child output will not be captured: {failure.message}"
      return .null

/-- How a child with the given command line and output is started. -/
def processStart (line : String) (output : SystemHandle) : ProcessStart where
  commandLine := wide line
  inherits := true
  creationFlags := noConsoleWindow
  startupSize := startupSize
  startupFlags := useStandardHandles
  input := .null
  output := output
  error := output

def spawn (line : String) (sink : Option LogSink) : OnDesktop (Except SystemError Child) := do
  let output ← outputHandle sink
  match ← Desktop.createProcess (processStart line output) with
  | .error failure =>
    note .error .desktopCalls s!"create_process: {failure.message}"
    return .error (.code failure.code.toNat)
  | .ok information =>
    note .info .desktop s!"started child process {information.processId.toNat}"
    return .ok ⟨information.process, information.thread, information.processId⟩

/-- A child and its message queue on the desktop. -/
def services : Services Desktop Child Pump where
  poll := Child.poll
  release := Child.release
  dispatch := Pump.dispatch
  postQuit := Pump.postQuit

/-- Shows an error in a message box. -/
def showError (caption text : String) : OnDesktop Unit :=
  Desktop.messageBox errorBox (wide caption) (wide text)

def platform : Platform Desktop Child Pump where
  toServices := services
  prepareLog := Desktop.shareMode shareReadWrite
  spawn := spawn
  openPump := Pump.openFor
  showError := showError

end AppLauncher.Windows
