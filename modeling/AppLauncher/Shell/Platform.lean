import AppLauncher.Launch
import AppLauncher.Shell.Run

/-!
# Launching in a shell

The child is a shell that runs the command line as a script, with nothing to read, and with its
output in the log or nowhere. There is no desktop, so no events come. The script has run to its end
by the first poll.
-/

namespace AppLauncher.Shell

/-- A call of the launcher. -/
inductive Call where
  | spawn (line : String)
  | openPump (name : String)
  | dialog (caption text : String)
  deriving DecidableEq, Repr

/-- A call as a line of text. -/
def Call.line : Call → String
  | spawn line => "spawn " ++ line
  | openPump name => "pump " ++ name
  | dialog caption text => s!"dialog {caption}: {text}"

def record (call : Call) : Acting (List Call) Unit :=
  modify fun world => { world with system := world.system ++ [call] }

/-- The longest argument that a new process can take, in bytes. -/
def longestArgument : Nat := 131071

/-- The exit code of a shell that has ended. -/
def Ended.code : Ended → Option Int32
  | status n => some (Int32.ofNat n)
  | signal => none

/-- The variables that the launcher hands on to its children. -/
def environment : List (Text × Binding) :=
  [("PATH", "/usr/local/sbin:/usr/local/bin:/usr/sbin:/usr/bin:/sbin:/bin"), ("HOME", "/root")].map
    fun (name, value) => (name.toList, ⟨some value.toList, true, false⟩)

/-- A shell that has not begun: it reads nothing, and writes to the log if there is one. -/
def Session.fresh (files : FileSystem) (here : Place) (sink : Option LogSink) : Session :=
  let output : Stream := match sink with
    | some sink => .file sink.handle false false true
    | none => .null
  let directory := (here.path?.map fun path => Text.ofBytes path.bytes).getD []
  let place : List (Text × Binding) := [("PWD".toList, ⟨some directory, true, false⟩)]
  { files
    streams := [.null, output]
    process :=
      { name := ['s', 'h']
        number := "4242".toList
        isCopy := false
        here
        directory
        mask := 18
        descriptors := [(0, 0), (1, 1), (2, 1)]
        bindings := environment ++ place ++ initialBindings
        arguments := []
        functions := []
        documents := []
        flags := []
        status := 0
        substituted := 0
        traps := []
        signals := []
        jobs := []
        line := 1
        reached := 1
        command := none
        loops := 0
        calls := 0
        locals := []
        tested := false } }

/-- Runs a script in the working directory, with its output sent to the log if there is one. -/
def runChild (script : String) (sink : Option LogSink) : Acting (List Call) Ended := do
  let world ← get
  let (ended, shell) := (Session.fresh world.files world.here sink).run (Text.ofString script)
  set { world with files := shell.files }
  return ended

def spawn (line : String) (sink : Option LogSink) :
    Acting (List Call) (Except SystemError (Option Int32)) := do
  record (.spawn line)
  if line.toList.contains '\x00' then return .error .zeroInArgument
  else if longestArgument < line.utf8ByteSize then return .error .argumentTooLong
  else return .ok (← runChild line sink).code

/-- A shell that has ended, and no events. -/
def services : Services (List Call) (Option Int32) Unit where
  poll := fun code => return (.exited code, code)
  release := fun _ => return ()
  dispatch := fun pump _ => return (0, pump)
  postQuit := fun pump => return pump

/-- The platform whose children are shells. -/
def platform : Platform (List Call) (Option Int32) Unit where
  toServices := services
  prepareLog := return ()
  spawn := spawn
  openPump := fun name => record (.openPump name)
  showError := fun caption text => record (.dialog caption text)

end AppLauncher.Shell
