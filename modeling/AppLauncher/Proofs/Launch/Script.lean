import AppLauncher.Proofs.FileSystem.Frame
import AppLauncher.Proofs.Supervision.Course

/-!
# Launches on a scripted platform

What the calls of a scripted platform come to, with what they record: starting the child
(`started_of_spawn`, `unstarted_of_spawn`), opening the event queue and showing an error. A child
writes its output to the log and to no other file. A child that exits some day is seen to exit
(`exits_of_script`).

`Sample` is one small launch, for statements that need one.
-/

namespace AppLauncher.Scripted

variable {C M : Type}

/-! ## What has happened -/

/-- The world with other files and another working directory. -/
def moved (world : World (List Moment)) (files : FileSystem) (here : Place) :
    World (List Moment) :=
  { world with files, here }

theorem moved_replay (world : World (List Moment)) (happenings : List Happening)
    (files : FileSystem) (here : Place) :
    moved (replay world happenings) files here = replay (moved world files here) happenings := by
  induction happenings generalizing world with
  | nil => rfl
  | cons h rest ih =>
    rw [replay_cons, ih, replay_cons]
    cases h <;> rfl

/-- Between two worlds this has happened, and nothing else but changes of the files and of the
working directory. -/
def Happened (world after : World (List Moment)) (history : List Happening) : Prop :=
  after = replay (moved world after.files after.here) history

namespace Happened

variable {world between after : World (List Moment)} {first second : List Happening}

theorem of_replay (world : World (List Moment)) (files : FileSystem) (here : Place)
    (history : List Happening) :
    Happened world (replay (moved world files here) history) history := by
  rw [Happened, replay_files, replay_here]
  rfl

/-- What happens without a change of the files or of the working directory. -/
theorem replay (world : World (List Moment)) (history : List Happening) :
    Happened world (Scripted.replay world history) history :=
  of_replay world world.files world.here history

theorem trans (happened : Happened world between first) (later : Happened between after second) :
    Happened world after (first ++ second) := by
  have start : moved between after.files after.here =
      Scripted.replay (moved world after.files after.here) first := by
    rw [Happened] at happened
    rw [happened]
    exact moved_replay _ first after.files after.here
  rw [Happened, replay_append, ← start]
  exact later

/-- What has happened between two worlds is one thing only. -/
theorem unique (happened : Happened world after first) (happened' : Happened world after second) :
    first = second :=
  replay_injective _ (happened.symm.trans happened')

end Happened

/-! ## The calls of a platform -/

/-- The event about a log that was opened. -/
def redirectedEvent (path : Path) : Event :=
  ⟨.info, .logSink, s!"redirecting child output to {path.display}"⟩

/-- The event about a log that could not be opened. -/
def uncapturedEvent (path : Path) (reason : SystemError) : Event :=
  ⟨.warn, .logSink,
    s!"could not open {path.display}, child output will not be captured: {reason.message}"⟩

/-- The files after a child has written its output to the log, if there is one. -/
def written (output : Bytes) (sink : Option LogSink) (files : FileSystem) : FileSystem :=
  match sink with
  | some sink => (files.write sink.handle output).2
  | none => files

section Calls

variable (script : Script C M) (world : World (List Moment))

theorem openLog_ok {profile : Path} {name : String} {handle : Handle} {files : FileSystem}
    (opens :
      world.files.openEmpty world.here (LogSink.pathFor profile name) = .ok (handle, files)) :
    (platform script).openLog profile name world =
      (some ⟨LogSink.pathFor profile name, handle⟩,
        replay (moved world files world.here)
          [.event (redirectedEvent (LogSink.pathFor profile name))]) := by
  change LogSink.open? profile name world = _
  rw [LogSink.open?, acting_get]
  simp only [opens]
  rfl

theorem openLog_error {profile : Path} {name : String} {reason : SystemError}
    (fails : world.files.openEmpty world.here (LogSink.pathFor profile name) = .error reason) :
    (platform script).openLog profile name world =
      (none, replay world [.event (uncapturedEvent (LogSink.pathFor profile name) reason)]) := by
  change LogSink.open? profile name world = _
  rw [LogSink.open?, acting_get]
  simp only [fails]
  rfl

/-- Whether the child is started does not depend on the world. -/
theorem spawn_fst (line : String) (sink : Option LogSink) :
    ((platform script).spawn line sink world).1 = match script.spawnError with
      | some reason => .error reason
      | none => .ok script.child := by
  obtain ⟨behaviour, child, pump, spawnError, output⟩ := script
  cases spawnError <;> cases sink <;> rfl

/-- A child that cannot be started has written nothing. -/
theorem unstarted_of_spawn {line : String} {sink : Option LogSink} {reason : SystemError}
    {after : World (List Moment)}
    (spawns : (platform script).spawn line sink world = (.error reason, after)) :
    after = replay world [.call (.spawn line (sink.map LogSink.path))] := by
  obtain ⟨behaviour, child, pump, spawnError, output⟩ := script
  cases spawnError with
  | some error => cases sink <;> exact (Prod.mk.inj spawns).2.symm
  | none => cases sink <;> cases (Prod.mk.inj spawns).1

/-- A child that was started is the one of the script, and has written its output to the log. -/
theorem started_of_spawn {line : String} {sink : Option LogSink} {child : C}
    {after : World (List Moment)}
    (spawns : (platform script).spawn line sink world = (.ok child, after)) :
    child = script.child ∧
      after = replay (moved world (written script.output sink world.files) world.here)
        [.call (.spawn line (sink.map LogSink.path))] := by
  obtain ⟨behaviour, started, pump, spawnError, output⟩ := script
  cases spawnError with
  | some error => cases sink <;> cases (Prod.mk.inj spawns).1
  | none =>
    have same : (.ok started : Except SystemError C) = .ok child := by
      cases sink <;> exact (Prod.mk.inj spawns).1
    refine ⟨(Except.ok.inj same).symm, ?_⟩
    cases sink <;> exact (Prod.mk.inj spawns).2.symm

theorem openPump_eq (name : String) :
    (platform script).openPump name world =
      (script.pump, replay world [.call (.openPump name)]) := rfl

theorem report_eq (e : LaunchError) :
    ((platform script).report e world).2 =
      replay world [.event ⟨.error, .launch, s!"{e.caption}: {e.message}"⟩,
        .call (.dialog e.caption e.message)] := rfl

end Calls

theorem frame_of_written (output : Bytes) (sink : LogSink) (files : FileSystem) :
    FileSystem.SameBut sink.handle.location files (written output (some sink) files) :=
  FileSystem.frame_of_write files sink.handle output

theorem exits_of_script {script : Script C M}
    (exits : ∃ n code, script.behaviour.answer n script.child = .exited code) {line : String}
    {sink : Option LogSink} {before spawned : World (List Moment)} {child : C}
    (spawns : (platform script).spawn line sink before = (.ok child, spawned)) (budget : UInt64)
    (pump : M) (world : World (List Moment)) :
    Supervisor.Exits (platform script).toServices budget child pump world := by
  rw [(started_of_spawn script before spawns).1]
  exact Behaviour.exits_of_answer exits budget pump world

end AppLauncher.Scripted

namespace AppLauncher.Sample

open Scripted (Script Moment Pump listed)

/-- A child that is active once, and then exits with 7. -/
def script : Script (List Poll) Pump :=
  ⟨listed, [.active, .exited (some 7)], .ofSource .silent, none, Utf8.ofString "done"⟩

/-- A launcher in `/app` that is given one argument. -/
def request : LaunchRequest :=
  ⟨[Utf8.ofString "/app/tool", Utf8.ofString "-v"], some (.ofString "/app"), .default⟩

/-- The same launcher, with an argument that has a space in it, and an empty one. -/
def spacedRequest : LaunchRequest :=
  ⟨[Utf8.ofString "/app/tool", Utf8.ofString "a b", Utf8.ofString ""], some (.ofString "/app"),
    .default⟩

/-- The command line of this launcher is `run`. -/
def world : World (List Moment) where
  files := ⟨[([Utf8.ofString "app"], .directory),
    ([Utf8.ofString "app", Utf8.ofString "lib"], .directory),
    ([Utf8.ofString "app", Utf8.ofString "lib", Utf8.ofString "tool.ini"],
      .file 0 (Utf8.ofString "run"))], 1⟩
  here := .live []
  executableDirectory := ⟨[]⟩
  log := []
  system := []

end AppLauncher.Sample
