import AppLauncher.Proofs.Launch.CommandLine

/-!
# A launch without the path of its log

A launch names its log in two places: in the event about the opened log, and in the call that starts
the child. `unnamed` is the world without these texts. What happens later does not depend on them,
so two launches that look the same before the supervision look the same at their end
(`launch_unnamed`).
-/

namespace AppLauncher.Scripted

open Platform (Prepared)

variable {C M : Type}

/-- An event without the text that names the log. -/
def hideText (event : Event) : Event :=
  if event.origin = .logSink then { event with text := "" } else event

@[simp] theorem hideText_redirected (path : Path) :
    hideText (redirectedEvent path) = ⟨.info, .logSink, ""⟩ := if_pos rfl

@[simp] theorem hideText_uncaptured (path : Path) (reason : SystemError) :
    hideText (uncapturedEvent path reason) = ⟨.warn, .logSink, ""⟩ := if_pos rfl

/-- A call without the path of the log. -/
def hidePath : Call → Call
  | .spawn line sink => .spawn line (sink.map fun _ => ⟨[]⟩)
  | call => call

/-- The world as it looks to someone who cannot read the path of the log. -/
def unnamed (world : World (List Moment)) : World (List Moment) :=
  { world with
    log := world.log.map hideText
    system := world.system.map fun moment => { moment with call := hidePath moment.call } }

/-- A happening without the path of the log. -/
def Happening.hide : Happening → Happening
  | event e => event (hideText e)
  | call c => call (hidePath c)

section Unnamed

variable (world : World (List Moment))

theorem unnamed_addTo (h : Happening) : unnamed (h.addTo world) = h.hide.addTo (unnamed world) := by
  cases h with
  | event e => simp [unnamed, Happening.addTo, Happening.hide, World.noteAll]
  | call c => simp [unnamed, Happening.addTo, Happening.hide]

theorem unnamed_replay (history : List Happening) :
    unnamed (replay world history) = replay (unnamed world) (history.map Happening.hide) := by
  induction history generalizing world with
  | nil => rfl
  | cons h rest ih => rw [replay_cons, ih, unnamed_addTo, List.map_cons, replay_cons]

theorem unnamed_noteAll (events : List Event) :
    unnamed (world.noteAll events) = (unnamed world).noteAll (events.map hideText) := by
  simp [unnamed, World.noteAll]

theorem unnamed_moved (files : FileSystem) (here : Place) :
    unnamed (moved world files here) = moved (unnamed world) files here := rfl

end Unnamed

/-! ## Worlds that look the same -/

section Alike

variable {script : Script C M} {world other : World (List Moment)}

theorem parts_of_unnamed (same : unnamed world = unnamed other) :
    world.files = other.files ∧ world.here = other.here ∧
      world.executableDirectory = other.executableDirectory :=
  ⟨(congrArg World.files same :), (congrArg World.here same :),
    (congrArg World.executableDirectory same :)⟩

/-- A supervision looks the same from worlds that look the same. -/
theorem run_unnamed {s : Supervisor C M} {config : SupervisorConfig}
    (starts : s = .start script.child script.pump config)
    (same : unnamed world = unnamed other) :
    (s.run (platform script).toServices world).map (fun r => (r.1, unnamed r.2)) =
      (s.run (platform script).toServices other).map (fun r => (r.1, unnamed r.2)) := by
  rw [starts]
  change Option.map _ (Supervisor.run script.behaviour.services _ world) =
    Option.map _ (Supervisor.run script.behaviour.services _ other)
  rcases run_everywhere script.behaviour script.child script.pump config with
    endless | ⟨outcome, history, ran⟩
  · rw [endless, endless]
  · rw [ran, ran, Option.map_some, Option.map_some, unnamed_replay, unnamed_replay, same]

/-- Launches look the same if they do before the supervision. -/
theorem launch_unnamed {request request' : LaunchRequest}
    {result : Except LaunchError (Supervisor C M)} {ready ready' : World (List Moment)}
    (prepared : Prepared (platform script) request world result ready)
    (prepared' : Prepared (platform script) request' other result ready')
    (same : unnamed ready = unnamed ready') :
    ((platform script).launch request world).map (fun r => (r.1, unnamed r.2)) =
      ((platform script).launch request' other).map (fun r => (r.1, unnamed r.2)) := by
  cases result with
  | error e =>
    rw [launch_of_error prepared, launch_of_error prepared', Option.map_some, Option.map_some,
      unnamed_replay, unnamed_replay, same]
  | ok s =>
    have ran := congrArg (Option.map fun r : Outcome × World (List Moment) => ((0 : Int32), r.2))
      (run_unnamed (supervisor_of_prepared prepared) same)
    rw [Platform.launch_eq, Platform.launch_eq, Platform.supervise_eq, Platform.supervise_eq,
      prepared.run, prepared'.run]
    simpa only [Option.map_map, Function.comp_def] using ran

/-- There is no log, or one and the same file is open, under whatever path. -/
inductive SameLog : Option LogSink → Option LogSink → Prop where
  | none : SameLog none none
  | some (handle : Handle) (path path' : Path) :
      SameLog (some ⟨path, handle⟩) (some ⟨path', handle⟩)

theorem SameLog.hidePath {sink sink' : Option LogSink} (sameLog : SameLog sink sink')
    (line : String) : hidePath (.spawn line (sink.map LogSink.path)) =
      Scripted.hidePath (.spawn line (sink'.map LogSink.path)) := by
  cases sameLog <;> rfl

theorem SameLog.written {sink sink' : Option LogSink} (sameLog : SameLog sink sink')
    (output : Bytes) (files : FileSystem) :
    written output sink files = Scripted.written output sink' files := by
  cases sameLog <;> rfl

/-- The start of a child looks the same, whatever the path of the log is. -/
theorem spawn_unnamed (same : unnamed world = unnamed other) {sink sink' : Option LogSink}
    (sameLog : SameLog sink sink') (line : String) {result : Except SystemError C}
    {spawned : World (List Moment)}
    (spawns : (platform script).spawn line sink world = (result, spawned)) :
    ∃ spawned', (platform script).spawn line sink' other = (result, spawned') ∧
      unnamed spawned = unnamed spawned' := by
  rcases spawns' : (platform script).spawn line sink' other with ⟨result', spawned'⟩
  have sameResult : result = result' := by
    have first := spawn_fst script world line sink
    have first' := spawn_fst script other line sink'
    rw [spawns] at first
    rw [spawns'] at first'
    exact first.trans first'.symm
  subst sameResult
  refine ⟨spawned', rfl, ?_⟩
  cases result with
  | error reason =>
    rw [unstarted_of_spawn script world spawns, unstarted_of_spawn script other spawns',
      unnamed_replay, unnamed_replay, same]
    exact congrArg (fun call => replay (unnamed other) [.call call]) (sameLog.hidePath line)
  | ok child =>
    obtain ⟨sameFiles, sameHere, -⟩ := parts_of_unnamed same
    rw [(started_of_spawn script world spawns).2, (started_of_spawn script other spawns').2,
      unnamed_replay, unnamed_replay, unnamed_moved, unnamed_moved, same, sameFiles, sameHere,
      sameLog.written]
    exact congrArg (fun call => replay _ [.call call]) (sameLog.hidePath line)

end Alike

end AppLauncher.Scripted
