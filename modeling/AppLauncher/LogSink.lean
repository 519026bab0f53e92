import AppLauncher.World

/-!
# The log of the child

The file `<profile>/<name>.log` receives what the child writes. It is emptied for every launch. A
launch goes on without it when it cannot be opened.
-/

namespace AppLauncher

/-- The open log of a child, and the path that it was opened by. -/
structure LogSink where
  path : Path
  handle : Handle
  deriving DecidableEq, Repr

namespace LogSink

/-- The log of a launcher. -/
def pathFor (profile : Path) (name : String) : Path :=
  profile.join (.ofString (name ++ ".log"))

/-- Opens the log of a launcher, empty. -/
def open? {σ : Type} (profile : Path) (name : String) : Acting σ (Option LogSink) := do
  let world ← get
  let path := pathFor profile name
  match world.files.openEmpty world.here path with
  | .ok (handle, files) =>
    set { world with files }
    note .info .logSink s!"redirecting child output to {path.display}"
    return some ⟨path, handle⟩
  | .error reason =>
    note .warn .logSink
      s!"could not open {path.display}, child output will not be captured: {reason.message}"
    return none

/-- Writes to the log at its own offset. -/
def write {σ : Type} (sink : LogSink) (data : Bytes) : Acting σ LogSink := do
  let world ← get
  let (handle, files) := world.files.write sink.handle data
  set { world with files }
  return { sink with handle }

end LogSink

end AppLauncher
