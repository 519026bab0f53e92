import AppLauncher.Launch

/-!
# A platform that follows a script

How the child answers, how the event queue serves, and whether the child can be started at all are
given in advance, and every call of the launcher is recorded, together with how much the log held by
then. So this platform shows what a launch does to its surroundings, step by step.

The child and the queue of a script may be any state machines (`Behaviour`); in the one called
`listed`, the child's answers are a list, and the events come from a `Source`.
-/

namespace AppLauncher.Scripted

/-- A call of the launcher, with the answer it got. -/
inductive Call where
  | status (answer : Poll)
  | dispatch (budget count : UInt64)
  | quit
  | release
  | spawn (line : String) (sink : Option Path)
  | openPump (name : String)
  | dialog (caption text : String)
  deriving DecidableEq, Repr

/-- A call, and how many events the log held by then. -/
structure Moment where
  call : Call
  told : Nat
  deriving DecidableEq, Repr

/-- An exit code, if there is one. -/
def codeText : Option Int32 → String
  | some code => toString code.toInt
  | none => "none"

/-- A call as lines of text. -/
def Call.lines : Call → List String
  | status .active => ["status active"]
  | status (.exited code) => ["status exited " ++ codeText code]
  | status (.failed _) => ["status failed"]
  | dispatch budget count => [s!"dispatch {budget.toNat} -> {count.toNat}"]
  | quit => ["quit"]
  | release => ["release"]
  | spawn line sink =>
    ["spawn " ++ line, "sink " ++ ((sink.map Path.display).getD "none")]
  | openPump name => ["pump " ++ name]
  | dialog caption text => [s!"dialog {caption}: {text}"]

/-- Where the events of a queue come from. -/
inductive Source where
  /-- There are never any events. -/
  | silent
  /-- So many events wait at every call. -/
  | constant (waiting : UInt64)
  /-- Events wait until they are served, and before each call more of them arrive. -/
  | queue (backlog : UInt64) (arrivals : List UInt64)
  /-- The counts are given, whatever the budget is. -/
  | raw (counts : List UInt64)
  deriving DecidableEq, Repr

/-- Serves events from a source: how many they were, and what is left. -/
def Source.take (budget : UInt64) : Source → UInt64 × Source
  | silent => (0, silent)
  | constant waiting => (min waiting budget, constant waiting)
  | queue backlog arrivals =>
    let waiting := backlog + arrivals.headD 0
    let count := min waiting budget
    (count, queue (waiting - count) arrivals.tail)
  | raw counts => (counts.headD 0, raw counts.tail)

/-- An event queue that counts its calls. -/
structure Pump where
  source : Source
  calls : Nat
  quits : Nat
  deriving DecidableEq, Repr

/-- A queue before its first call. -/
def Pump.ofSource (source : Source) : Pump :=
  ⟨source, 0, 0⟩

def record (call : Call) : Acting (List Moment) Unit :=
  modify fun world => { world with system := world.system ++ [⟨call, world.log.length⟩] }

/-- How a child and an event queue behave: what each call answers, and what is left of them. -/
structure Behaviour (C M : Type) where
  poll : C → Poll × C
  dispatch : M → UInt64 → UInt64 × M
  postQuit : M → M

namespace Behaviour

variable {C M : Type}

/-- The services of a child and an event queue, with every call recorded. -/
def services (behaviour : Behaviour C M) : Services (List Moment) C M where
  poll := fun child => do
    let (answer, child) := behaviour.poll child
    record (.status answer)
    return (answer, child)
  release := fun _ => record .release
  dispatch := fun pump budget => do
    let (count, pump) := behaviour.dispatch pump budget
    record (.dispatch budget count)
    return (count, pump)
  postQuit := fun pump => do
    record .quit
    return behaviour.postQuit pump

end Behaviour

/-- A child whose answers are a list; after the last one it has exited without a code. Its event
queue serves from a source. -/
def listed : Behaviour (List Poll) Pump where
  poll := fun answers => (answers.headD (.exited none), answers.tail)
  dispatch := fun pump budget =>
    let (count, source) := pump.source.take budget
    (count, { pump with source, calls := pump.calls + 1 })
  postQuit := fun pump => { pump with quits := pump.quits + 1 }

/-- What happens during a launch. -/
structure Script (C M : Type) where
  behaviour : Behaviour C M
  child : C
  pump : M
  /-- Why the child cannot be started. -/
  spawnError : Option SystemError
  /-- What the child writes. -/
  output : Bytes

variable {C M : Type}

/-- Starts the child of a script. -/
def spawn (script : Script C M) (line : String) (sink : Option LogSink) :
    Acting (List Moment) (Except SystemError C) := do
  record (.spawn line (sink.map LogSink.path))
  match script.spawnError, sink with
  | some error, _ => return .error error
  | none, none => return .ok script.child
  | none, some sink =>
    let _ ← sink.write script.output
    return .ok script.child

/-- Opens the event queue of a script. -/
def openPump (script : Script C M) (name : String) : Acting (List Moment) M := do
  record (.openPump name)
  return script.pump

/-- The platform that follows a script. -/
def platform (script : Script C M) : Platform (List Moment) C M where
  toServices := script.behaviour.services
  prepareLog := return ()
  spawn := spawn script
  openPump := openPump script
  showError := fun caption text => record (.dialog caption text)

end AppLauncher.Scripted
