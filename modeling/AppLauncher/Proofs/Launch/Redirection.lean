import AppLauncher.Proofs.FileSystem.Emptied
import AppLauncher.Proofs.Launch.CommandLine

/-!
# Redirecting the output decides nothing else

The log of the child is opened before the install directory and the configuration are looked at, in
the same file system. But whether and where it can be opened decides nothing: the stages after it
come to the same for any two profiles, as long as the log is not written over the configuration
file. `Undisturbed` says what is left of the world once the log has been opened or not; from there
on, every stage comes to what it would have come to before (`SameDirectories.entered`,
`Undisturbed.read_iff`).

**`launch_beside_log`**: two launches with different profiles have the same result, up to the reason
that the system gives, and make the same calls, except for where the output goes.
-/

namespace AppLauncher

/-- An error with another reason of the system in place of its own. -/
def LaunchError.withSource (source : SystemError) : LaunchError → LaunchError
  | .installDirectory path _ => .installDirectory path source
  | .spawn line _ => .spawn line source
  | e => e

namespace LaunchError

variable (source : SystemError) (e : LaunchError)

@[simp] theorem caption_withSource : (e.withSource source).caption = e.caption := by
  cases e <;> rfl

@[simp] theorem message_withSource : (e.withSource source).message = e.message := by
  cases e <;> rfl

@[simp] theorem exitCode_withSource : (e.withSource source).exitCode = e.exitCode := by
  cases e <;> rfl

end LaunchError

namespace Scripted

open Platform (Opened Configured Prepared lineOf readyWorld)
open InstallDirectory (Entered Barred enteredWorld)
open AppLauncher.Configuration (file readEvents)
open FileSystem (Target DifferInFile)

variable {C M : Type}

/-! ## Calls without the log -/

/-- A call without the log that the output goes to. -/
def withoutSink : Call → Call
  | .spawn line _ => .spawn line none
  | call => call

/-- The calls that were made, without the log. -/
def callsSeen (world : World (List Moment)) : List Call :=
  world.system.map fun moment => withoutSink moment.call

/-- What a result and the calls before it are to the user: an exit status, and with an error the
dialog about it. -/
def reported : Except LaunchError Outcome × List Call → Int32 × List Call
  | (.ok _, calls) => (0, calls)
  | (.error e, calls) => (e.exitCode, calls ++ [dialogOf e])

section CallsSeen

variable {world after : World (List Moment)} {history : List Happening}

theorem callsSeen_replay (world : World (List Moment)) (history : List Happening) :
    callsSeen (replay world history) =
      callsSeen world ++ (callsOf history).map withoutSink := by
  have calls := congrArg (List.map withoutSink) (replay_calls world history)
  simpa [callsSeen, Function.comp_def] using calls

theorem callsSeen_of_happened (happened : Happened world after history) :
    callsSeen after = callsSeen world ++ (callsOf history).map withoutSink := by
  rw [happened, callsSeen_replay]
  rfl

end CallsSeen

/-! ## What opening the log leaves alone -/

/-- Two worlds in which paths lead to the same directories. -/
structure SameDirectories (world other : World (List Moment)) : Prop where
  here : other.here = world.here
  executableDirectory : other.executableDirectory = world.executableDirectory
  directory_iff : ∀ p place, world.files.directory world.here p = .ok place ↔
    other.files.directory other.here p = .ok place

section SameDirectories

variable {world other after : World (List Moment)} {program directory path : Path} {place : Place}
  {reason : SystemError}

theorem SameDirectories.symm (same : SameDirectories world other) : SameDirectories other world :=
  ⟨same.here.symm, same.executableDirectory.symm, fun p place => (same.directory_iff p place).symm⟩

theorem SameDirectories.trans (same : SameDirectories world other)
    (same' : SameDirectories other after) : SameDirectories world after :=
  ⟨same'.here.trans same.here, same'.executableDirectory.trans same.executableDirectory,
    fun p place => (same.directory_iff p place).trans (same'.directory_iff p place)⟩

theorem SameDirectories.entered (same : SameDirectories world other)
    (entered : Entered world program directory place) : Entered other program directory place := by
  obtain ⟨located, leads⟩ := entered
  rw [← same.here, ← same.executableDirectory] at located
  exact ⟨located, (same.directory_iff directory place).1 leads⟩

/-- The path that cannot be entered is the same, but the reason may differ: what was missing in one
world can be a file in the other. -/
theorem SameDirectories.barred (same : SameDirectories world other)
    (barred : Barred world program path reason) :
    ∃ reason', Barred other program path reason' := by
  cases barred with
  | unlocated fails =>
    rw [← same.here, ← same.executableDirectory] at fails
    rw [← same.executableDirectory]
    exact ⟨reason, .unlocated fails⟩
  | closed located fails =>
    rw [← same.here, ← same.executableDirectory] at located
    cases leads : other.files.directory other.here path with
    | error reason' => exact ⟨reason', .closed located leads⟩
    | ok place =>
      rw [(same.directory_iff path place).2 leads] at fails
      cases fails

end SameDirectories

/-- The log of a launcher does not stand where its configuration file is. -/
def SparesConfiguration (world : World (List Moment)) (args : List Bytes) (profile : Path) : Prop :=
  ∀ program rest directory place location id contents, args = program :: rest →
    Entered world ⟨program⟩ directory place →
    world.files.Target world.here (LogSink.pathFor profile (Invocation.nameOf ⟨program⟩)) location →
    world.files.resolve (.live []) .use (file directory (Invocation.nameOf ⟨program⟩)) ≠
      .ok (.file location id contents)

/-- The world after the log at a path has been opened, or could not be opened. -/
structure Undisturbed (world opened : World (List Moment)) (log : Path) : Prop where
  here : opened.here = world.here
  executableDirectory : opened.executableDirectory = world.executableDirectory
  calls : callsSeen opened = callsSeen world
  files : opened.files = world.files ∨
    ∃ handle, world.files.openEmpty world.here log = .ok (handle, opened.files)

section Undisturbed

variable {script : Script C M} {config : SupervisorConfig} {args : List Bytes}
  {world opened : World (List Moment)} {profile log program directory path : Path} {place : Place}
  {invocation : Invocation} {sink : Option LogSink} {contents : Bytes}

theorem undisturbed_of_opened
    (reaches : Opened (platform script) ⟨args, some profile, config⟩ world invocation sink opened) :
    Undisturbed world opened (LogSink.pathFor profile invocation.launcherName) := by
  obtain ⟨here, executableDirectory, event, -, -, happened⟩ := happened_of_opened reaches
  refine ⟨here, executableDirectory, ?_, ?_⟩
  · rw [callsSeen_of_happened happened]
    exact List.append_nil _
  · obtain ⟨-, profile', known, opens⟩ := reaches
    obtain rfl := Option.some.inj known
    cases found : world.files.openEmpty world.here
        (LogSink.pathFor profile invocation.launcherName) with
    | error reason =>
      rw [openLog_error script world found] at opens
      obtain ⟨-, rfl⟩ := Prod.mk.inj opens
      exact .inl (replay_files _ _)
    | ok result =>
      obtain ⟨handle, files⟩ := result
      rw [openLog_ok script world found] at opens
      obtain ⟨-, rfl⟩ := Prod.mk.inj opens
      exact .inr ⟨handle, by rw [replay_files]; rfl⟩

theorem Undisturbed.sameDirectories (undisturbed : Undisturbed world opened log) :
    SameDirectories world opened := by
  refine ⟨undisturbed.here, undisturbed.executableDirectory, fun p place => ?_⟩
  rw [undisturbed.here]
  rcases undisturbed.files with same | ⟨handle, opens⟩
  · rw [same]
  · exact (FileSystem.differInFile_of_openEmpty opens).2.directory_eq_ok_iff

theorem Undisturbed.read_iff
    (undisturbed : Undisturbed world opened
      (LogSink.pathFor profile (Invocation.nameOf ⟨program.bytes⟩)))
    (spares : SparesConfiguration world args profile) {rest : List Bytes}
    (is : args = program.bytes :: rest) (entered : Entered world program directory place)
    (filled : contents ≠ []) :
    opened.files.read (.live []) (file directory (Invocation.nameOf program)) = .ok contents ↔
      world.files.read (.live []) (file directory (Invocation.nameOf program)) = .ok contents := by
  rcases undisturbed.files with same | ⟨handle, opens⟩
  · rw [same]
  · constructor
    · intro read
      exact FileSystem.read_of_openEmpty opens read filled
    · intro read
      obtain ⟨target, differ⟩ := FileSystem.differInFile_of_openEmpty opens
      obtain ⟨location, id, leads⟩ := FileSystem.resolve_of_read read
      refine differ.read leads ?_
      rintro rfl
      exact spares _ _ _ _ _ _ _ is entered target leads

end Undisturbed

/-! ## Two profiles -/

section Profiles

variable {script : Script C M} {config : SupervisorConfig} {args : List Bytes}
  {world opened : World (List Moment)} {profile profile' directory : Path} {place : Place}
  {invocation : Invocation} {sink : Option LogSink} {contents : Bytes}

/-- With another profile the log is opened, or not, as well. -/
theorem exists_opened
    (reaches : Opened (platform script) ⟨args, some profile, config⟩ world invocation sink opened)
    (profile' : Path) :
    ∃ sink' opened',
      Opened (platform script) ⟨args, some profile', config⟩ world invocation sink' opened' ∧
        SameDirectories opened opened' ∧ callsSeen opened = callsSeen opened' := by
  rcases opens : (platform script).openLog profile' invocation.launcherName world with
    ⟨sink', opened'⟩
  have reaches' : Opened (platform script) ⟨args, some profile', config⟩ world invocation sink'
      opened' := ⟨reaches.args, profile', rfl, opens⟩
  have undisturbed := undisturbed_of_opened reaches
  have undisturbed' := undisturbed_of_opened reaches'
  exact ⟨sink', opened', reaches',
    undisturbed.sameDirectories.symm.trans undisturbed'.sameDirectories,
    undisturbed.calls.trans undisturbed'.calls.symm⟩

section Spared

variable (spares : SparesConfiguration world args profile)
  (spares' : SparesConfiguration world args profile')
include spares spares'

theorem read_beside {sink' : Option LogSink} {opened' : World (List Moment)}
    (reaches : Opened (platform script) ⟨args, some profile, config⟩ world invocation sink opened)
    (reaches' :
      Opened (platform script) ⟨args, some profile', config⟩ world invocation sink' opened')
    (entered : Entered opened invocation.program directory place) (filled : contents ≠ []) :
    opened.files.read (.live []) (file directory invocation.launcherName) = .ok contents ↔
      opened'.files.read (.live []) (file directory invocation.launcherName) = .ok contents := by
  have undisturbed := undisturbed_of_opened reaches
  have entered' : Entered world invocation.program directory place :=
    undisturbed.sameDirectories.symm.entered entered
  exact (undisturbed.read_iff spares reaches.args entered' filled).trans
    ((undisturbed_of_opened reaches').read_iff spares' reaches.args entered' filled).symm

theorem configured_beside
    (reaches : Configured (platform script) ⟨args, some profile, config⟩ world invocation sink
      opened directory place contents) :
    ∃ sink' opened', Configured (platform script) ⟨args, some profile', config⟩ world invocation
        sink' opened' directory place contents ∧
      callsSeen opened = callsSeen opened' := by
  obtain ⟨sink', opened', reaches', same, calls⟩ := exists_opened reaches.toOpened profile'
  have read := (read_beside spares spares' reaches.toOpened reaches' reaches.entered
    reaches.filled).1 reaches.read
  exact ⟨sink', opened', ⟨reaches', same.entered reaches.entered, read, reaches.filled⟩, calls⟩

end Spared

/-- Starting the child is one call, and what it answers does not depend on where the output goes. -/
theorem spawn_beside {before before' spawned : World (List Moment)} {line : String}
    {result : Except SystemError C} (calls : callsSeen before = callsSeen before')
    (sink' : Option LogSink)
    (spawns : (platform script).spawn line sink before = (result, spawned)) :
    ∃ spawned', (platform script).spawn line sink' before' = (result, spawned') ∧
      callsSeen spawned = callsSeen spawned' := by
  have recorded : ∀ {sink : Option LogSink} {before spawned : World (List Moment)},
      (platform script).spawn line sink before = (result, spawned) →
      callsSeen spawned = callsSeen before ++ [.spawn line none] := by
    intro sink before spawned spawns
    cases result with
    | error reason =>
      rw [unstarted_of_spawn script before spawns, callsSeen_replay]
      rfl
    | ok child =>
      rw [(started_of_spawn script before spawns).2, callsSeen_replay]
      rfl
  rcases spawns' : (platform script).spawn line sink' before' with ⟨result', spawned'⟩
  have first := spawn_fst script before line sink
  have first' := spawn_fst script before' line sink'
  rw [spawns] at first
  rw [spawns'] at first'
  obtain rfl : result = result' := first.trans first'.symm
  exact ⟨spawned', rfl, by rw [recorded spawns, recorded spawns', calls]⟩

/-- The stages before the supervision come to the same with another profile, up to the reason why a
directory cannot be entered. -/
theorem prepared_beside (spares : SparesConfiguration world args profile)
    (spares' : SparesConfiguration world args profile')
    {result : Except LaunchError (Supervisor C M)} {ready : World (List Moment)}
    (prepared : Prepared (platform script) ⟨args, some profile, config⟩ world result ready) :
    ∃ result' ready',
      Prepared (platform script) ⟨args, some profile', config⟩ world result' ready' ∧
      callsSeen ready = callsSeen ready' ∧
      ∀ source, result.mapError (LaunchError.withSource source) =
        result'.mapError (LaunchError.withSource source) := by
  cases prepared with
  | noArguments none => exact ⟨_, world, .noArguments none, rfl, fun _ => rfl⟩
  | notText args notText => exact ⟨_, world, .notText args notText, rfl, fun _ => rfl⟩
  | noProfile args none => cases none
  | barred reaches barred =>
    obtain ⟨sink', opened', reaches', same, calls⟩ := exists_opened reaches profile'
    obtain ⟨reason', barred'⟩ := same.barred barred
    exact ⟨_, opened', .barred reaches' barred', calls, fun _ => rfl⟩
  | unconfigured reaches entered unread =>
    obtain ⟨sink', opened', reaches', same, calls⟩ := exists_opened reaches profile'
    refine ⟨_, _, .unconfigured reaches' (same.entered entered) ?_, calls, fun _ => rfl⟩
    intro contents read'
    by_contra filled
    exact filled (unread contents
      ((read_beside spares spares' reaches reaches' entered filled).2 read'))
  | @unstarted invocation sink opened _ directory place contents reason reaches spawns =>
    obtain ⟨sink', opened', reaches', calls⟩ := configured_beside spares spares' reaches
    have calls : callsSeen (readyWorld opened invocation directory place contents) =
        callsSeen (readyWorld opened' invocation directory place contents) := calls
    obtain ⟨spawned', spawns', sameCalls⟩ := spawn_beside calls sink' spawns
    exact ⟨_, spawned', .unstarted reaches' spawns', sameCalls, fun _ => rfl⟩
  | @started invocation sink opened spawned _ directory place contents child pump reaches spawns
      opens =>
    obtain ⟨sink', opened', reaches', calls⟩ := configured_beside spares spares' reaches
    have calls : callsSeen (readyWorld opened invocation directory place contents) =
        callsSeen (readyWorld opened' invocation directory place contents) := calls
    obtain ⟨spawned', spawns', sameCalls⟩ := spawn_beside calls sink' spawns
    rw [openPump_eq] at opens
    obtain ⟨rfl, rfl⟩ := Prod.mk.inj opens
    refine ⟨_, _, .started reaches' spawns' (openPump_eq script spawned' _), ?_, fun _ => rfl⟩
    rw [callsSeen_replay, callsSeen_replay, sameCalls]

/-- What a launch comes to, up to the reason that the system gives, and the calls that it makes. -/
theorem supervise_beside (spares : SparesConfiguration world args profile)
    (spares' : SparesConfiguration world args profile') (source : SystemError) :
    (((platform script).supervise ⟨args, some profile, config⟩).run world).map
        (fun r => (r.1.mapError (LaunchError.withSource source), callsSeen r.2)) =
      (((platform script).supervise ⟨args, some profile', config⟩).run world).map
        (fun r => (r.1.mapError (LaunchError.withSource source), callsSeen r.2)) := by
  obtain ⟨result, ready, prepared⟩ := Platform.exists_prepared (platform script)
    ⟨args, some profile, config⟩ world
  obtain ⟨result', ready', prepared', calls, same⟩ := prepared_beside spares spares' prepared
  rw [Platform.supervise_eq, Platform.supervise_eq, prepared.run, prepared'.run]
  have same := same source
  cases result with
  | error e =>
    cases result' with
    | ok s' => cases same
    | error e' =>
      obtain same : e.withSource source = e'.withSource source := Except.error.inj same
      simp only [Option.map_some, Except.mapError, same, calls]
  | ok s =>
    cases result' with
    | error e' => cases same
    | ok s' =>
      obtain rfl := Except.ok.inj same
      rw [supervisor_of_prepared prepared]
      change ((Supervisor.run script.behaviour.services _ ready).map _).map _ =
        ((Supervisor.run script.behaviour.services _ ready').map _).map _
      rcases run_everywhere script.behaviour script.child script.pump config with
        endless | ⟨outcome, history, ran⟩
      · rw [endless, endless]
      · simp only [ran, Option.map_some, callsSeen_replay, calls]

/-- What a launch tells of its result, and the calls that it makes. -/
theorem launch_seen (source : SystemError) (request : LaunchRequest) :
    ((platform script).launch request world).map (fun r => (r.1, callsSeen r.2)) =
      ((((platform script).supervise request).run world).map fun r =>
        (r.1.mapError (LaunchError.withSource source), callsSeen r.2)).map reported := by
  rw [Platform.launch_eq, Option.map_map, Option.map_map]
  congr 1
  funext ⟨result, after⟩
  cases result with
  | ok outcome => rfl
  | error e =>
    simp [reported, Except.mapError, report_eq, callsSeen_replay, withoutSink, dialogOf]

theorem launch_beside (spares : SparesConfiguration world args profile)
    (spares' : SparesConfiguration world args profile') :
    ((platform script).launch ⟨args, some profile, config⟩ world).map
        (fun r => (r.1, callsSeen r.2)) =
      ((platform script).launch ⟨args, some profile', config⟩ world).map
        (fun r => (r.1, callsSeen r.2)) := by
  rw [launch_seen .missing, launch_seen .missing, supervise_beside spares spares']

/-- Whatever has happened of a launch by some time, happens with another profile as well, up to
where the output goes. -/
theorem underway_beside (spares : SparesConfiguration world args profile)
    (spares' : SparesConfiguration world args profile') {history : List Happening}
    (underway : Underway script ⟨args, some profile, config⟩ world history) :
    ∃ history', Underway script ⟨args, some profile', config⟩ world history' ∧
      (callsOf history).map withoutSink = (callsOf history').map withoutSink := by
  cases underway with
  | @ended status final _ comes happened =>
    have beside : some (status, callsSeen final) =
        ((platform script).launch ⟨args, some profile', config⟩ world).map
          (fun r => (r.1, callsSeen r.2)) := by
      rw [← launch_beside spares spares', comes]
      rfl
    obtain ⟨⟨status', final'⟩, comes', same⟩ := Option.map_eq_some_iff.1 beside.symm
    obtain ⟨history', happened'⟩ := happened_of_launch comes'
    obtain ⟨-, calls⟩ := Prod.mk.inj same
    rw [callsSeen_of_happened happened, callsSeen_of_happened happened'] at calls
    exact ⟨history', .ended comes' happened', (List.append_cancel_left calls).symm⟩
  | @watching s s' _ now _ polls prepared stepped happened =>
    obtain ⟨result, after, is⟩ := Platform.exists_prepared (platform script)
      ⟨args, some profile, config⟩ world
    obtain ⟨rfl, rfl⟩ := Prod.mk.inj (is.run.symm.trans prepared)
    obtain ⟨result', ready', is', calls, same⟩ := prepared_beside spares spares' is
    cases result' with
    | error e => cases same .missing
    | ok s'' =>
      obtain rfl := supervisor_of_prepared is
      obtain rfl := supervisor_of_prepared is'
      have started : Progress script.behaviour script.child script.pump config
          (.start script.child script.pump config) [] := progress_start
      obtain ⟨_, more, reached, -⟩ := started.steps polls
      obtain ⟨-, rfl⟩ := Prod.mk.inj (stepped.symm.trans (reached _))
      obtain ⟨before', happened'⟩ := happened_of_prepared is'
      have now' := happened'.trans ((Happened.replay ready'
        [.event (Supervisor.startEvent config)]).trans (.replay _ more))
      have calls' : callsSeen (replay (after.noteAll [Supervisor.startEvent config]) more) =
          callsSeen (replay (replay ready' [.event (Supervisor.startEvent config)]) more) := by
        rw [callsSeen_replay, callsSeen_replay]
        exact congrArg (· ++ _) calls
      rw [callsSeen_of_happened happened, callsSeen_of_happened now'] at calls'
      exact ⟨_, .watching polls is'.run (reached _) now', List.append_cancel_left calls'⟩

end Profiles

/-! ## Where the output goes -/

section Sink

variable {script : Script C M} {config : SupervisorConfig} {args : List Bytes}
  {world : World (List Moment)} {profile : Path}

/-- A child that was started writes to the log of the launcher if it could be opened. -/
theorem sink_of_spawned {history : List Happening} {line : String} {sink : Option Path}
    (underway : Underway script ⟨args, some profile, config⟩ world history)
    (spawned : .call (.spawn line sink) ∈ history) :
    ∃ program rest, args = program :: rest ∧
      sink =
        match world.files.openEmpty world.here
          (LogSink.pathFor profile (Invocation.nameOf ⟨program⟩)) with
        | .ok _ => some (LogSink.pathFor profile (Invocation.nameOf ⟨program⟩))
        | .error _ => none := by
  obtain ⟨_, _, _, _, _, _, _, _, reaches, -, -, -, -, rfl⟩ := underway.started spawned
  obtain ⟨program, rest, profile', is, known, log⟩ := logOpened_of_opened reaches.toOpened
  obtain rfl := Option.some.inj known
  refine ⟨program, rest, is, ?_⟩
  dsimp only at log
  cases found : world.files.openEmpty world.here
      (LogSink.pathFor profile (Invocation.nameOf ⟨program⟩)) with
  | ok result =>
    simp only [found] at log
    rw [log.1]
    rfl
  | error reason =>
    simp only [found] at log
    rw [log.1]
    rfl

theorem ne_missingProfile {result : Except LaunchError Outcome} {final : World (List Moment)}
    (comes : ((platform script).supervise ⟨args, some profile, config⟩).run world =
      some (result, final)) :
    result ≠ .error .missingProfile := by
  rintro rfl
  cases Platform.supervise_eq_some_iff.1 comes with
  | stopped prepared =>
    cases prepared with
    | noProfile texts none => cases none

theorem missingProfile_of_none {invocation : Invocation}
    (parses : Invocation.parse args = .ok invocation) :
    ((platform script).supervise ⟨args, none, config⟩).run world =
      some (.error .missingProfile, world) := by
  obtain ⟨result, ready, prepared⟩ := Platform.exists_prepared (platform script)
    ⟨args, none, config⟩ world
  have unknown : ∀ {invocation sink opened},
      ¬ Opened (platform script) ⟨args, none, config⟩ world invocation sink opened := by
    rintro _ _ _ ⟨-, _, known, -⟩
    cases known
  cases prepared with
  | noArguments none =>
    obtain rfl : args = [] := none
    cases parses
  | notText is notText =>
    obtain rfl : args = _ := is
    rw [Invocation.parse_notText _ _ notText] at parses
    cases parses
  | noProfile is none => exact Platform.supervise_eq_some_iff.2 (.stopped (.noProfile is none))
  | barred reaches | unconfigured reaches => exact absurd reaches unknown
  | unstarted reaches | started reaches => exact absurd reaches.toOpened unknown

end Sink

/-- **Redirecting the output decides nothing else.** Two launches that differ in the profile come to
the same exit status and to the same outcome or error, up to the reason of the system in it, and
make the same calls in the same order, except that the log is another one, or none, where the child
is started. This holds of a launch that ends as well as of one that goes on for ever, at any time.
A child writes to `<profile>/<name>.log` exactly if that could be opened. The profile stops a launch
only if none is known at all. -/
theorem launch_beside_log (script : Script C M) (config : SupervisorConfig)
    (world : World (List Moment)) (args : List Bytes) :
    (∀ profile profile', SparesConfiguration world args profile →
      SparesConfiguration world args profile' →
      (∀ source,
        (((platform script).supervise ⟨args, some profile, config⟩).run world).map
            (fun r => (r.1.mapError (LaunchError.withSource source), callsSeen r.2)) =
          (((platform script).supervise ⟨args, some profile', config⟩).run world).map
            (fun r => (r.1.mapError (LaunchError.withSource source), callsSeen r.2))) ∧
      ((platform script).launch ⟨args, some profile, config⟩ world).map
          (fun r => (r.1, callsSeen r.2)) =
        ((platform script).launch ⟨args, some profile', config⟩ world).map
          (fun r => (r.1, callsSeen r.2)) ∧
      ∀ history, Underway script ⟨args, some profile, config⟩ world history →
        ∃ history', Underway script ⟨args, some profile', config⟩ world history' ∧
          (callsOf history).map withoutSink = (callsOf history').map withoutSink) ∧
    (∀ profile history line sink, Underway script ⟨args, some profile, config⟩ world history →
      .call (.spawn line sink) ∈ history →
      ∃ program rest, args = program :: rest ∧
        sink =
          match world.files.openEmpty world.here
            (LogSink.pathFor profile (Invocation.nameOf ⟨program⟩)) with
          | .ok _ => some (LogSink.pathFor profile (Invocation.nameOf ⟨program⟩))
          | .error _ => none) ∧
    (∀ profile result final,
      ((platform script).supervise ⟨args, some profile, config⟩).run world = some (result, final) →
      result ≠ .error .missingProfile) ∧
    (∀ invocation, Invocation.parse args = .ok invocation →
      ((platform script).supervise ⟨args, none, config⟩).run world =
        some (.error .missingProfile, world)) := by
  refine ⟨fun profile profile' spares spares' => ⟨?_, ?_, ?_⟩, ?_, ?_, ?_⟩
  · exact supervise_beside spares spares'
  · exact launch_beside spares spares'
  · exact fun history underway => underway_beside spares spares' underway
  · exact fun profile history line sink underway spawned => sink_of_spawned underway spawned
  · exact fun profile result final comes => ne_missingProfile comes
  · exact fun invocation parses => missingProfile_of_none parses

/-- A log that does not stand at `/app/lib/tool.ini` is not the configuration of the sample. -/
theorem spares_sample {profile : Path}
    (apart : ¬ Sample.world.files.Target (.live [])
      (LogSink.pathFor profile (Invocation.nameOf (.ofString "/app/tool")))
      [Utf8.ofString "app", Utf8.ofString "lib", Utf8.ofString "tool.ini"]) :
    SparesConfiguration Sample.world Sample.request.args profile := by
  intro program rest directory place location id contents is entered target leads
  obtain ⟨rfl, -⟩ := List.cons.inj is
  have located := entered.located
  rw [show InstallDirectory.absolute _ _ = .ok (Path.ofString "/app") from by decide] at located
  obtain rfl := Except.ok.inj located
  obtain ⟨rfl, -, -⟩ := Reached.file.inj (Except.ok.inj leads)
  exact apart target

/-- In one of the two directories the log can be opened, and in the other it cannot. -/
theorem launch_beside_log_of_missing :
    (∃ result, Sample.world.files.openEmpty (.live [])
      (LogSink.pathFor (.ofString "/app") "tool") = .ok result) ∧
    (∃ reason, Sample.world.files.openEmpty (.live [])
      (LogSink.pathFor (.ofString "/missing") "tool") = .error reason) ∧
    ((platform Sample.script).launch ⟨Sample.request.args, some (.ofString "/app"), .default⟩
        Sample.world).map (fun r => (r.1, callsSeen r.2)) =
      ((platform Sample.script).launch ⟨Sample.request.args, some (.ofString "/missing"), .default⟩
        Sample.world).map (fun r => (r.1, callsSeen r.2)) := by
  have spares : SparesConfiguration Sample.world Sample.request.args (.ofString "/app") := by
    refine spares_sample ?_
    rintro (⟨id, contents, leads⟩ | leads)
    · cases leads
    · cases leads
  have spares' : SparesConfiguration Sample.world Sample.request.args (.ofString "/missing") := by
    refine spares_sample ?_
    rintro (⟨id, contents, leads⟩ | leads)
    · cases leads
    · cases leads
  exact ⟨⟨_, rfl⟩, ⟨_, rfl⟩, ((launch_beside_log Sample.script .default Sample.world
    Sample.request.args).1 _ _ spares spares').2.1⟩

end Scripted

end AppLauncher
