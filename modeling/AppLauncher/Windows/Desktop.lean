import AppLauncher.Windows.Call
import AppLauncher.World

/-!
# A desktop system that follows a script

Each function of the system records its call and answers as the script says. What the script leaves
open follows from what was done before: a class can be registered once, a window needs its class,
and a handle is a window's if that window was created.
-/

namespace AppLauncher.Windows

/-- A message that waits, for the window created last or for the thread. -/
structure QueuedMessage where
  number : UInt32
  wparam : UInt64
  lparam : Int64
  toThread : Bool
  deriving DecidableEq, Repr

/-- The answers of the system. An error code of 0 is success. The answers that have a default are
not used by the launcher for anything but to give them back to the system. -/
structure Script where
  moduleError : Option UInt32
  registerError : Option UInt32
  windowError : Option UInt32
  windowValid : Option Bool
  /-- The handle of the next window. -/
  nextWindow : Option WindowHandle
  spawnError : Option UInt32
  processId : UInt32
  /-- What the exit code of a process is at each query, or why it is not known. -/
  exitCodes : List (Except UInt32 UInt32)
  /-- What stands at the head of the queue each time a message is asked for. -/
  messages : List (Option QueuedMessage)
  closeErrors : List UInt32
  inheritError : Option UInt32
  /-- The handle of the program's own module. -/
  moduleHandle : SystemHandle := .number 0x400000
  /-- The handle of a new process. -/
  processHandle : SystemHandle := .number 0x50000100
  /-- The handle of a new process's first thread. -/
  threadHandle : SystemHandle := .number 0x50000200
  /-- Whether a window was visible before it is shown. -/
  wasVisible : Bool := false
  /-- Whether a message was made into characters, each time this is asked for. -/
  translations : List Bool := []
  /-- The result of the default procedure for a message that no window has a use for. -/
  defaultResult : Message → Int64 := fun message => 1000 + Int64.ofNat message.number.toNat

namespace Script

/-- The script that leaves everything open. -/
def unset : Script where
  moduleError := none
  registerError := none
  windowError := none
  windowValid := none
  nextWindow := none
  spawnError := none
  processId := 4242
  exitCodes := []
  messages := []
  closeErrors := []
  inheritError := none

end Script

/-- The state of the system. -/
structure Desktop where
  script : Script
  /-- The names of the registered classes. -/
  classes : List Wide
  /-- The windows, the last one first. -/
  windows : List WindowHandle
  calls : List Call

namespace Desktop

/-- A system in which nothing has happened. -/
def start (script : Script) : Desktop :=
  ⟨script, [], [], []⟩

/-- The handle of the next window when the script does not give one. -/
def freeWindow (desktop : Desktop) : WindowHandle :=
  Int64.ofNat (0x50010010 + 16 * desktop.windows.length)

end Desktop

abbrev OnDesktop := Acting Desktop

namespace Desktop

def current : OnDesktop Desktop :=
  return (← get).system

/-- Changes the state of the system. -/
def modifyDesktop (f : Desktop → Desktop) : OnDesktop Unit :=
  modify fun world => { world with system := f world.system }

/-- Changes the rest of the script. -/
def modifyScript (f : Script → Script) : OnDesktop Unit :=
  modifyDesktop fun desktop => { desktop with script := f desktop.script }

def record (call : Call) : OnDesktop Unit :=
  modifyDesktop fun desktop => { desktop with calls := desktop.calls ++ [call] }

/-- The answer of a function that gives an error code. -/
def answer (code : UInt32) : Except Failure Unit :=
  if code = 0 then .ok () else .error (.ofCode code)

/-- Asks for a way of sharing the file that is about to be opened. -/
def shareMode (mode : UInt32) : OnDesktop Unit :=
  record (.shareMode mode)

def setHandleInformation (handle : SystemHandle) (mask flags : UInt32) :
    OnDesktop (Except Failure Unit) := do
  let code := (← current).script.inheritError.getD 0
  record (.setHandleInformation handle mask flags code)
  return answer code

/-- What a new process is known by. -/
structure ProcessInformation where
  process : SystemHandle
  thread : SystemHandle
  processId : UInt32
  deriving DecidableEq, Repr

def createProcess (start : ProcessStart) : OnDesktop (Except Failure ProcessInformation) := do
  let script := (← current).script
  let code := script.spawnError.getD 0
  record (.createProcess start code)
  return (answer code).map fun _ =>
    ⟨script.processHandle, script.threadHandle, script.processId⟩

/-- Asks for the exit code of a process. -/
def getExitCodeProcess (handle : SystemHandle) : OnDesktop (Except Failure UInt32) := do
  let code := (← current).script.exitCodes.headD (.ok 0)
  modifyScript fun script => { script with exitCodes := script.exitCodes.tail }
  record (.getExitCodeProcess handle code)
  return code.mapError Failure.ofCode

def closeHandle (handle : SystemHandle) : OnDesktop (Except Failure Unit) := do
  let code := (← current).script.closeErrors.headD 0
  modifyScript fun script => { script with closeErrors := script.closeErrors.tail }
  record (.closeHandle handle code)
  return answer code

/-- Asks for the handle of the program's own module. -/
def getModuleHandle : OnDesktop (Except Failure SystemHandle) := do
  let script := (← current).script
  let code := script.moduleError.getD 0
  record (.getModuleHandle code)
  return (answer code).map fun _ => script.moduleHandle

/-- Registers a window class. A failure is an error of the host system. -/
def registerClass (start : ClassStart) : OnDesktop (Except SystemError Unit) := do
  let now ← current
  let name := Utf16.untilZero start.name
  let code := now.script.registerError.getD (if name ∈ now.classes then 1410 else 0)
  record (.registerClass start code)
  if code = 0 then
    modifyDesktop fun desktop => { desktop with classes := name :: desktop.classes }
    return .ok ()
  else return .error (.code code.toNat)

def createWindow (start : WindowStart) : OnDesktop (Except Failure WindowHandle) := do
  let now ← current
  let name := Utf16.untilZero start.className
  let code := now.script.windowError.getD (if name ∈ now.classes then 0 else 1407)
  record (.createWindow start code)
  if code = 0 then
    let window := now.script.nextWindow.getD now.freeWindow
    modifyDesktop fun desktop =>
      { desktop with
        windows := window :: desktop.windows
        script := { desktop.script with nextWindow := none } }
    return .ok window
  else return .error (.ofCode code)

/-- Shows a window, and says whether it was visible before. -/
def showWindow (window : WindowHandle) (command : UInt32) : OnDesktop Bool := do
  record (.showWindow window command)
  return (← current).script.wasVisible

/-- Asks whether a handle is a window's. -/
def isWindow (window : WindowHandle) : OnDesktop Bool := do
  let now ← current
  let valid := now.script.windowValid.getD (window ∈ now.windows)
  record (.isWindow window valid)
  return valid

/-- Takes the next message from the queue, if one waits. -/
def peekMessage : OnDesktop (Option Message) := do
  let now ← current
  let message := (now.script.messages.headD none).map fun queued =>
    let window := if queued.toThread then 0 else now.windows.headD 0
    ⟨window, queued.number, queued.wparam, queued.lparam⟩
  modifyScript fun script => { script with messages := script.messages.tail }
  record (.peekMessage message)
  return message

/-- Has key strokes in a message made into characters, and says whether there were any. -/
def translateMessage (message : Message) : OnDesktop Bool := do
  let answer := (← current).script.translations.headD false
  modifyScript fun script => { script with translations := script.translations.tail }
  record (.translateMessage message)
  return answer

/-- What is done with a message that a window has no use for. -/
def defaultProcedure (message : Message) : OnDesktop Int64 := do
  record (.defaultProcedure message)
  return (← current).script.defaultResult message

/-- Hands a message to the procedure of its window, if it is for one, and gives its result. -/
def dispatchMessage (procedure : Message → OnDesktop Int64) (message : Message) :
    OnDesktop Int64 := do
  record (.dispatchMessage message)
  let result ← if message.window = 0 then pure 0 else procedure message
  record (.dispatched result)
  return result

/-- Asks the queue to end. -/
def postQuitMessage (code : Int32) : OnDesktop Unit :=
  record (.postQuitMessage code)

/-- Shows a text with a caption until it is dismissed. -/
def messageBox (style : UInt32) (caption text : Wide) : OnDesktop Unit :=
  record (.messageBox style caption text)

end Desktop

end AppLauncher.Windows
