import AppLauncher.World

/-!
# Watching the child

A supervisor owns the child and the event queue of the desktop. It polls: each step asks the child
once whether it has exited, and as long as it has not, a bounded number of events is served, so a
flood of events cannot put off the next poll. A poll that fails is a warning and counts as "still
running". The step that sees the exit serves no events: it tells the queue to quit, releases the
child and keeps the exit code. After that a supervisor does nothing any more.

Whoever has a supervisor may step it and look at it as often as he likes (`Operation`), and in the
end runs it or drops it (`Closing`). A child that is still there then is released.
-/

namespace AppLauncher

/-- What a child answers when it is asked for its state. -/
inductive Poll where
  | active
  /-- The child has exited; there is no code when a signal ended it. -/
  | exited (code : Option Int32)
  /-- The state could not be found out. -/
  | failed (reason : String)
  deriving DecidableEq, Repr

/-- What a supervisor uses: a child of type `C` and an event queue of type `M`. -/
structure Services (σ C M : Type) where
  /-- Asks the child for its state. -/
  poll : C → Acting σ (Poll × C)
  /-- Gives up what the child holds. -/
  release : C → Acting σ Unit
  /-- Serves at most so many events, and says how many they were. -/
  dispatch : M → UInt64 → Acting σ (UInt64 × M)
  /-- Tells the event queue that the launcher is about to end. -/
  postQuit : M → Acting σ M

/-- How a child is watched. -/
structure SupervisorConfig where
  /-- The nanoseconds between two polls. -/
  interval : Nat
  /-- The most events that are served between two polls. -/
  budget : UInt64
  deriving DecidableEq, Repr

namespace SupervisorConfig

/-- A tenth of a second, and 256 events. -/
def default : SupervisorConfig :=
  ⟨100000000, 256⟩

/-- The whole milliseconds between two polls. -/
def milliseconds (config : SupervisorConfig) : Nat :=
  config.interval / 1000000

end SupervisorConfig

/-- How far a supervisor is. -/
inductive Phase where
  | running
  | terminated
  deriving DecidableEq, Repr

/-- What a supervision came to. -/
structure Outcome where
  exitCode : Option Int32
  polls : UInt64
  eventsDispatched : UInt64
  deriving DecidableEq, Repr

/-- A child that is being watched. -/
structure Supervisor (C M : Type) where
  /-- The child, until it has been released. -/
  child : Option C
  pump : M
  config : SupervisorConfig
  phase : Phase
  polls : UInt64
  dispatched : UInt64
  /-- The exit code, once the child has exited with one. -/
  exitCode : Option Int32

namespace Supervisor

variable {σ C M : Type}

/-- A supervisor before its first poll. -/
def start (child : C) (pump : M) (config : SupervisorConfig) : Supervisor C M where
  child := some child
  pump := pump
  config := config
  phase := .running
  polls := 0
  dispatched := 0
  exitCode := none

/-- What the supervision has come to so far. -/
def outcome (s : Supervisor C M) : Outcome :=
  ⟨s.exitCode, s.polls, s.dispatched⟩

/-- The first line about a supervision. -/
def startText (config : SupervisorConfig) : String :=
  s!"supervising child process, polling every {config.milliseconds}ms"

/-- The line about a poll that failed. -/
def failureText (reason : String) : String :=
  s!"could not query the child's exit status: {reason}"

/-- The last line about a child. -/
def exitText (code : Option Int32) (polls : UInt64) : String :=
  match code with
  | some c => s!"child process exited with code {c.toInt} after {polls.toNat} polls"
  | none => s!"child process exited without a code after {polls.toNat} polls"

/-- Releases the child, if there is one. -/
def release (services : Services σ C M) (s : Supervisor C M) : Acting σ Unit :=
  match s.child with
  | some child => services.release child
  | none => return ()

/-- Ends the supervision of a child that has exited. -/
def terminate (services : Services σ C M) (s : Supervisor C M) (code : Option Int32) :
    Acting σ (Supervisor C M) := do
  let pump ← services.postQuit s.pump
  s.release services
  note .info .supervisor (exitText code s.polls)
  return { s with child := none, pump, phase := .terminated, exitCode := code }

/-- Serves events, and goes on. -/
def serve (services : Services σ C M) (s : Supervisor C M) : Acting σ (Supervisor C M) := do
  let (count, pump) ← services.dispatch s.pump s.config.budget
  return { s with pump, dispatched := s.dispatched + count }

/-- Does what follows from an answer of the child. -/
def follow (services : Services σ C M) (s : Supervisor C M) (answer : Poll) :
    Acting σ (Supervisor C M) :=
  match answer with
  | .exited code => s.terminate services code
  | .active => s.serve services
  | .failed reason => do
    note .warn .supervisor (failureText reason)
    s.serve services

/-- One poll and what follows from it. -/
def step (services : Services σ C M) (s : Supervisor C M) : Acting σ (Supervisor C M) :=
  match s.phase with
  | .terminated => return s
  | .running => do
    let s := { s with polls := s.polls + 1 }
    match s.child with
    | none => s.serve services
    | some child =>
      let (answer, child) ← services.poll child
      { s with child := some child }.follow services answer

/-- A terminated supervisor does nothing any more. -/
theorem step_of_terminated {services : Services σ C M} {s : Supervisor C M}
    (ended : s.phase = .terminated) : s.step services = pure s := by
  simp [step, ended]

/-- Steps until the child has exited. -/
def watch (services : Services σ C M) (s : Supervisor C M) (world : World σ) :
    Option (Supervisor C M × World σ) :=
  let (s, world) := s.step services world
  match s.phase with
  | .terminated => some (s, world)
  | .running => s |>.watch services world
partial_fixpoint

/-- Watches the child to its end. -/
def run (services : Services σ C M) (s : Supervisor C M) : Waiting σ Outcome := do
  note .info .supervisor (startText s.config)
  let s ← (s.watch services : Waiting σ _)
  s.release services
  return s.outcome

/-! ## Supervisors in use -/

/-- What can be done with a supervisor that stays in use. -/
inductive Operation where
  | step
  | phase
  | outcome
  | pump
  deriving DecidableEq, Repr

/-- What an operation answers. -/
inductive Answer (M : Type) where
  | phase (phase : Phase)
  | outcome (outcome : Outcome)
  | pump (pump : M)

def perform (services : Services σ C M) (s : Supervisor C M) :
    Operation → Acting σ (Answer M × Supervisor C M)
  | .step => do
    let s ← s.step services
    return (.phase s.phase, s)
  | .phase => return (.phase s.phase, s)
  | .outcome => return (.outcome s.outcome, s)
  | .pump => return (.pump s.pump, s)

def performAll (services : Services σ C M) :
    Supervisor C M → List Operation → Acting σ (List (Answer M) × Supervisor C M)
  | s, [] => return ([], s)
  | s, operation :: rest => do
    let (answer, s) ← s.perform services operation
    let (answers, s) ← performAll services s rest
    return (answer :: answers, s)

/-- How the use of a supervisor ends. -/
inductive Closing where
  | run
  | drop
  deriving DecidableEq, Repr

/-- Ends the use of a supervisor. Only a run has an outcome. -/
def close (services : Services σ C M) (s : Supervisor C M) : Closing → Waiting σ (Option Outcome)
  | .run => do return some (← s.run services)
  | .drop => do
    s.release services
    return none

end Supervisor

end AppLauncher
