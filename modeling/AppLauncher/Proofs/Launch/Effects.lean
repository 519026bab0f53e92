import AppLauncher.Proofs.FileSystem.Contents
import AppLauncher.Proofs.Launch.Verdict
import AppLauncher.Proofs.Supervision.Life

/-!
# What a launch leaves behind

On a scripted platform, everything that a launch does can be seen afterwards: in the files, in the
working directory, and in the happenings. `Effects` says which effects belong to which result;
`KeptButLog` says that no file but the log of the launcher differs.

**`launch_effects`**: a launch has exactly the effects of the stages that it went through, and one
that fails tells the log and then the user, and does nothing after that.
-/

namespace AppLauncher.Scripted

open Platform (Opened Configured Prepared Verdict lineOf readyWorld)
open InstallDirectory (Entered Barred enterEvent enteredWorld)
open AppLauncher.Configuration (file readEvents)
open FileSystem (Alike SameBut)

variable {C M : Type}

/-- A call that belongs to the supervision of a child. -/
def Call.isSupervision : Call → Bool
  | status _ | dispatch _ _ | quit | release => true
  | _ => false

/-- The dialog about an error. -/
def dialogOf (e : LaunchError) : Call :=
  .dialog e.caption e.message

/-- The working directory is the install directory of the launcher, as it was found from where the
launch began. -/
def InInstallDirectory (request : LaunchRequest) (world : World (List Moment))
    (files : FileSystem) (here : Place) : Prop :=
  ∃ program rest directory, request.args = program :: rest ∧
    InstallDirectory.absolute world.here
      (InstallDirectory.derive world.executableDirectory ⟨program⟩) = .ok directory ∧
    files.directory world.here directory = .ok here

/-- The log of the launcher was opened empty, and nothing else was done to the files; or it could
not be opened, and nothing was done to them at all. -/
def LogOpened (request : LaunchRequest) (world : World (List Moment)) (sink : Option LogSink)
    (files : FileSystem) : Prop :=
  ∃ program rest profile, request.args = program :: rest ∧ request.profile = some profile ∧
    let path := LogSink.pathFor profile (Invocation.nameOf ⟨program⟩)
    match world.files.openEmpty world.here path with
    | .ok (handle, opened) => sink = some ⟨path, handle⟩ ∧ files = opened
    | .error _ => sink = none ∧ files = world.files

/-- The effects of a launch with a certain result: on the files, on the working directory, and in
the calls that were made. -/
def Effects (script : Script C M) (request : LaunchRequest) (world : World (List Moment))
    (files : FileSystem) (here : Place) (calls : List Call) : Except LaunchError Outcome → Prop
  | .error (.invalidArguments reason) =>
    files = world.files ∧ here = world.here ∧
      calls = [dialogOf (.invalidArguments reason)]
  | .error .missingProfile =>
    files = world.files ∧ here = world.here ∧ calls = [dialogOf .missingProfile]
  | .error (.installDirectory path reason) =>
    (∃ sink, LogOpened request world sink files) ∧ here = world.here ∧
      calls = [dialogOf (.installDirectory path reason)]
  | .error (.missingConfiguration path) =>
    (∃ sink, LogOpened request world sink files) ∧ InInstallDirectory request world files here ∧
      calls = [dialogOf (.missingConfiguration path)]
  | .error (.spawn line reason) =>
    ∃ sink, LogOpened request world sink files ∧ InInstallDirectory request world files here ∧
      calls = [.spawn line (sink.map LogSink.path), dialogOf (.spawn line reason)]
  | .ok _ =>
    ∃ sink opened, LogOpened request world sink opened ∧
      files = written script.output sink opened ∧ InInstallDirectory request world files here ∧
      ∃ line name supervision,
        calls = .spawn line (sink.map LogSink.path) :: .openPump name :: supervision ∧
        (∀ call ∈ supervision, call.isSupervision = true) ∧ supervision.count .release = 1

/-- Nothing differs from the files of the world but what stands where the log of the launcher leads
to. -/
def KeptButLog (request : LaunchRequest) (world : World (List Moment)) (files : FileSystem) :
    Prop :=
  ∀ location, files.node? location ≠ world.files.node? location →
    ∃ program rest profile, request.args = program :: rest ∧ request.profile = some profile ∧
      world.files.Target world.here
        (LogSink.pathFor profile (Invocation.nameOf ⟨program⟩)) location

section Opened

variable {script : Script C M} {request : LaunchRequest} {world opened : World (List Moment)}
  {invocation : Invocation} {sink : Option LogSink}

/-- Opening the log tells one event, and changes neither the working directory nor any file but the
log. -/
theorem happened_of_opened
    (reaches : Opened (platform script) request world invocation sink opened) :
    opened.here = world.here ∧ opened.executableDirectory = world.executableDirectory ∧
      ∃ event : Event, event.level ≠ .error ∧ event.origin = .logSink ∧
        Happened world opened [.event event] := by
  obtain ⟨-, profile, -, opens⟩ := reaches
  cases found : world.files.openEmpty world.here
      (LogSink.pathFor profile invocation.launcherName) with
  | error reason =>
    rw [openLog_error script world found] at opens
    obtain ⟨rfl, rfl⟩ := Prod.mk.inj opens
    exact ⟨rfl, rfl, _, by simp [uncapturedEvent], rfl, .replay world _⟩
  | ok result =>
    rw [openLog_ok script world found] at opens
    obtain ⟨rfl, rfl⟩ := Prod.mk.inj opens
    exact ⟨rfl, rfl, _, by simp [redirectedEvent], rfl, .of_replay world result.2 world.here _⟩

theorem logOpened_of_opened
    (reaches : Opened (platform script) request world invocation sink opened) :
    LogOpened request world sink opened.files := by
  obtain ⟨args, profile, known, opens⟩ := reaches
  refine ⟨_, _, profile, args, known, ?_⟩
  change match world.files.openEmpty world.here
      (LogSink.pathFor profile invocation.launcherName) with
    | .ok (handle, after) => _
    | .error _ => _
  cases found : world.files.openEmpty world.here
      (LogSink.pathFor profile invocation.launcherName) with
  | error reason =>
    rw [openLog_error script world found] at opens
    obtain ⟨rfl, rfl⟩ := Prod.mk.inj opens
    exact ⟨rfl, rfl⟩
  | ok result =>
    rw [openLog_ok script world found] at opens
    obtain ⟨rfl, rfl⟩ := Prod.mk.inj opens
    exact ⟨rfl, rfl⟩

/-- Nothing but the log differs when the log has been opened, nor when the child has written to
it. -/
theorem LogOpened.kept {files : FileSystem} (opened : LogOpened request world sink files)
    (output : Bytes) :
    KeptButLog request world files ∧ KeptButLog request world (written output sink files) := by
  obtain ⟨program, rest, profile, args, known, opened⟩ := opened
  cases found : world.files.openEmpty world.here
      (LogSink.pathFor profile (Invocation.nameOf ⟨program⟩)) with
  | error reason =>
    simp only [found] at opened
    obtain ⟨rfl, rfl⟩ := opened
    exact ⟨fun _ differs => absurd rfl differs, fun _ differs => absurd rfl differs⟩
  | ok result =>
    obtain ⟨handle, after⟩ := result
    simp only [found] at opened
    obtain ⟨rfl, rfl⟩ := opened
    obtain ⟨target, kept⟩ := FileSystem.frame_of_openEmpty found
    have located : ∀ {files' : FileSystem}, SameBut handle.location world.files files' →
        KeptButLog request world files' := fun {files'} same location differs => by
      have here : location = handle.location := by
        refine Classical.byContradiction fun apart => differs (same location apart)
      exact ⟨_, _, profile, args, known, here ▸ target⟩
    exact ⟨located kept, located (kept.trans (frame_of_written output ⟨_, handle⟩ files))⟩

theorem alike_written (output : Bytes) (sink : Option LogSink) (files : FileSystem) :
    Alike files (written output sink files) := by
  cases sink with
  | none => exact .refl files
  | some sink => exact FileSystem.alike_of_write files sink.handle output

/-- Where a launch has entered its install directory, it stays, whatever the files hold. -/
theorem inInstallDirectory_of_entered
    (reaches : Opened (platform script) request world invocation sink opened) {directory : Path}
    {place : Place} (entered : Entered opened invocation.program directory place)
    {files : FileSystem} (alike : Alike opened.files files) :
    InInstallDirectory request world files place := by
  obtain ⟨here, executableDirectory, -⟩ := happened_of_opened reaches
  obtain ⟨located, leads⟩ := entered
  rw [here, executableDirectory] at located
  rw [here, FileSystem.directory_alike alike] at leads
  exact ⟨_, _, directory, reaches.args, located, leads⟩

end Opened

/-! ## The calls of a supervision -/

theorem callsOf_courseOf (config : SupervisorConfig) (polls : UInt64) (rounds : List Round)
    (code : Option Int32) :
    callsOf (courseOf config polls rounds code) =
      roundCalls config.budget rounds ++ exitCalls code := by
  rw [courseOf, callsOf_append, callsOf_event, callsOf_rounds]
  rfl

theorem isSupervision_of_mem {budget : UInt64} {rounds : List Round} {code : Option Int32}
    {call : Call} (among : call ∈ roundCalls budget rounds ++ exitCalls code) :
    call.isSupervision = true := by
  rcases List.mem_append.1 among with among | among
  · obtain ⟨r, -, at_r⟩ := List.mem_flatMap.1 among
    simp only [List.mem_cons, List.not_mem_nil, or_false] at at_r
    rcases at_r with rfl | rfl <;> rfl
  · simp only [exitCalls, List.mem_cons, List.not_mem_nil, or_false] at among
    rcases among with rfl | rfl | rfl <;> rfl

/-- A child that exits some day is watched to its end, by calls of the supervision alone, and is
released once. -/
theorem run_of_script {script : Script C M}
    (exits : ∃ n code, script.behaviour.answer n script.child = .exited code)
    (config : SupervisorConfig) (world : World (List Moment)) :
    ∃ outcome history,
      (Supervisor.start script.child script.pump config).run (platform script).toServices world =
        some (outcome, replay world history) ∧
      (∀ call ∈ callsOf history, call.isSupervision = true) ∧
      (callsOf history).count .release = 1 := by
  obtain ⟨k, code, goesOn, exit⟩ := Behaviour.exists_first_exit exits
  have ran := run_of_answers script.behaviour script.pump config world goesOn exit 0 0
  refine ⟨_, _, ran, ?_, ?_⟩
  · rw [callsOf_courseOf]
    exact fun call among => isSupervision_of_mem among
  · rw [callsOf_courseOf]
    exact (complete_of_exit config.budget _ code).releasedOnce

/-! ## Histories without errors -/

/-- Events that tell of no error have happened, and no calls. -/
def Told (world after : World (List Moment)) : Prop :=
  ∃ events : List Event, (∀ event ∈ events, event.level ≠ .error) ∧
    Happened world after (events.map .event)

theorem Told.trans {world between after : World (List Moment)} (first : Told world between)
    (later : Told between after) : Told world after := by
  obtain ⟨events, quiet, happened⟩ := first
  obtain ⟨more, quiet', happened'⟩ := later
  refine ⟨events ++ more, ?_, by rw [List.map_append]; exact happened.trans happened'⟩
  intro event among
  rcases List.mem_append.1 among with among | among
  · exact quiet event among
  · exact quiet' event among

theorem told_noteAll (world : World (List Moment)) {events : List Event}
    (quiet : ∀ event ∈ events, event.level ≠ .error) : Told world (world.noteAll events) :=
  ⟨events, quiet, by rw [← replay_events]; exact .replay world _⟩

theorem told_enteredWorld (world : World (List Moment)) (directory : Path) (place : Place) :
    Told world (enteredWorld world directory place) :=
  ⟨[enterEvent directory], by simp [enterEvent],
    .of_replay world world.files place [.event (enterEvent directory)]⟩

theorem level_of_readEvents (file : Path) (read : Except SystemError Bytes) :
    ∀ event ∈ readEvents file read, event.level ≠ .error := by
  rcases read with reason | _ | _ <;> simp [readEvents]

theorem level_of_quoteWarnings (args : List String) :
    ∀ event ∈ Platform.quoteWarnings args, event.level ≠ .error := by
  intro event among
  obtain ⟨arg, -, rfl⟩ := List.mem_map.1 among
  nofun

section Stages

variable {script : Script C M} {request : LaunchRequest} {world opened after : World (List Moment)}
  {invocation : Invocation} {sink : Option LogSink} {directory : Path} {place : Place}
  {contents : Bytes}

theorem told_of_opened (reaches : Opened (platform script) request world invocation sink opened) :
    Told world opened := by
  obtain ⟨-, -, event, quiet, -, happened⟩ := happened_of_opened reaches
  exact ⟨[event], by simpa using quiet, happened⟩

theorem told_of_configured (reaches :
    Configured (platform script) request world invocation sink opened directory place contents) :
    Told world (readyWorld opened invocation directory place contents) := by
  have entered := (told_of_opened reaches.toOpened).trans
    (told_enteredWorld opened directory place)
  refine entered.trans (told_noteAll _ fun event among => ?_)
  rcases List.mem_append.1 among with among | among
  · rcases List.mem_append.1 among with among | among
    · exact level_of_readEvents _ _ event among
    · exact level_of_quoteWarnings _ event among
  · obtain rfl := List.mem_singleton.1 among
    nofun

/-- What the stages before the supervision leave behind when one of them fails. -/
theorem effects_of_stopped {e : LaunchError}
    (prepared : Prepared (platform script) request world (.error e) after) :
    ∃ before, Happened world after before ∧ (∀ event ∈ eventsOf before, event.level ≠ .error) ∧
      KeptButLog request world after.files ∧
      Effects script request world after.files after.here (callsOf before ++ [dialogOf e])
        (.error e) := by
  have kept : KeptButLog request world world.files := fun _ differs => absurd rfl differs
  cases prepared with
  | noArguments none => exact ⟨[], .replay world [], by simp, kept, rfl, rfl, rfl⟩
  | notText args notText => exact ⟨[], .replay world [], by simp, kept, rfl, rfl, rfl⟩
  | noProfile args none => exact ⟨[], .replay world [], by simp, kept, rfl, rfl, rfl⟩
  | barred reaches barred =>
    have log := logOpened_of_opened reaches
    obtain ⟨events, quiet, happened⟩ := told_of_opened reaches
    exact ⟨events.map .event, happened, by simpa using quiet, (log.kept []).1, ⟨_, log⟩,
      (happened_of_opened reaches).1, by simp⟩
  | unconfigured reaches entered unread =>
    have log := logOpened_of_opened reaches
    obtain ⟨events, quiet, happened⟩ := (told_of_opened reaches).trans
      ((told_enteredWorld _ _ _).trans (told_noteAll _ (level_of_readEvents _ _)))
    exact ⟨events.map .event, happened, by simpa using quiet, (log.kept []).1, ⟨_, log⟩,
      inInstallDirectory_of_entered reaches entered (.refl _), by simp⟩
  | @unstarted invocation sink opened _ directory place contents reason reaches spawns =>
    have log := logOpened_of_opened reaches.toOpened
    obtain ⟨events, quiet, happened⟩ := told_of_configured reaches
    obtain rfl := unstarted_of_spawn script _ spawns
    refine ⟨events.map .event ++ [.call (.spawn (lineOf contents invocation.passthrough)
      (sink.map LogSink.path))], happened.trans (.replay _ _), ?_, ?_, sink, ?_, ?_, ?_⟩
    · simpa using quiet
    · rw [replay_files]
      exact (log.kept []).1
    · rw [replay_files]
      exact log
    · rw [replay_files, replay_here]
      exact inInstallDirectory_of_entered reaches.toOpened reaches.entered (.refl _)
    · simp

/-- What the stages before the supervision leave behind when all of them pass, and what the
supervision then does. -/
theorem effects_of_watched (exits : ∃ n code, script.behaviour.answer n script.child = .exited code)
    {s : Supervisor C M} (prepared : Prepared (platform script) request world (.ok s) after) :
    ∃ outcome final history, s.run (platform script).toServices after = some (outcome, final) ∧
      Happened world final history ∧ KeptButLog request world final.files ∧
      Effects script request world final.files final.here (callsOf history) (.ok outcome) := by
  cases prepared with
  | @started invocation sink opened spawned _ directory place contents child pump reaches spawns
      opens =>
    have log := logOpened_of_opened reaches.toOpened
    obtain ⟨events, quiet, happened⟩ := told_of_configured reaches
    obtain ⟨rfl, spawned_eq⟩ := started_of_spawn script _ spawns
    rw [openPump_eq] at opens
    obtain ⟨rfl, rfl⟩ := Prod.mk.inj opens
    obtain ⟨outcome, history, ran, supervision, released⟩ :=
      run_of_script exits request.supervision
        (replay spawned [.call (.openPump invocation.launcherName)])
    have starts : Happened (readyWorld opened invocation directory place contents) spawned
        [.call (.spawn (lineOf contents invocation.passthrough) (sink.map LogSink.path))] := by
      rw [spawned_eq]
      exact .of_replay _ _ _ _
    have files : spawned.files = written script.output sink opened.files := by
      rw [spawned_eq, replay_files]
      rfl
    have here : spawned.here = place := by
      rw [spawned_eq, replay_here]
      rfl
    refine ⟨outcome, _, _, ran, ((happened.trans starts).trans (.replay _ _)).trans (.replay _ _),
      ?_, sink, opened.files, log, ?_, ?_, lineOf contents invocation.passthrough,
      invocation.launcherName, callsOf history, ?_, supervision, released⟩
    · rw [replay_files, replay_files, files]
      exact (log.kept script.output).2
    · rw [replay_files, replay_files, files]
    · rw [replay_files, replay_files, replay_here, replay_here, files, here]
      exact inInstallDirectory_of_entered reaches.toOpened reaches.entered
        (alike_written script.output sink _)
    · simp

/-- What the files hold does not matter to why an install directory cannot be entered. -/
theorem barred_alike {other : World (List Moment)} {program path : Path} {reason : SystemError}
    (barred : Barred world program path reason) (here : other.here = world.here)
    (executableDirectory : other.executableDirectory = world.executableDirectory)
    (alike : Alike world.files other.files) : Barred other program path reason := by
  cases barred with
  | unlocated fails =>
    rw [← here, ← executableDirectory] at fails
    rw [← executableDirectory]
    exact .unlocated fails
  | closed located fails =>
    rw [← here, ← executableDirectory] at located
    rw [← here, FileSystem.directory_alike alike] at fails
    exact .closed located fails

/-- A launch that cannot enter its install directory has read no file: whatever the files hold, it
stops with the same error, and the same has happened. -/
theorem stopped_alike {path : Path} {reason : SystemError} {before : List Happening}
    (prepared :
      Prepared (platform script) request world (.error (.installDirectory path reason)) after)
    (happened : Happened world after before) {files : FileSystem}
    (alike : Alike world.files files) :
    ∃ after', Prepared (platform script) request (moved world files world.here)
        (.error (.installDirectory path reason)) after' ∧
      Happened (moved world files world.here) after' before := by
  cases prepared with
  | @barred invocation sink _ _ _ reaches barred =>
  obtain ⟨args, profile, known, opens⟩ := reaches
  -- The log is opened in both worlds, or in neither, and what is told about it is the same.
  rcases FileSystem.openEmpty_alike alike world.here
      (LogSink.pathFor profile invocation.launcherName) with
    ⟨source, found, found'⟩ | ⟨handle, opened, opened', found, found', alike'⟩
  · rw [openLog_error script world found] at opens
    obtain ⟨rfl, rfl⟩ := Prod.mk.inj opens
    obtain rfl := happened.unique (.replay world _)
    have reaches' : Opened (platform script) request (moved world files world.here) invocation
        none _ := ⟨args, profile, known, openLog_error script (moved world files world.here) found'⟩
    exact ⟨_, .barred reaches' (barred_alike barred rfl rfl alike), .replay _ _⟩
  · rw [openLog_ok script world found] at opens
    obtain ⟨rfl, rfl⟩ := Prod.mk.inj opens
    obtain rfl := happened.unique (.of_replay world opened world.here _)
    have reaches' :
        Opened (platform script) request (moved world files world.here) invocation _ _ :=
      ⟨args, profile, known, openLog_ok script (moved world files world.here) found'⟩
    exact ⟨_, .barred reaches' (barred_alike barred rfl rfl alike'),
      .of_replay (moved world files world.here) opened' world.here _⟩

end Stages

theorem launch_of_error {script : Script C M} {request : LaunchRequest}
    {world after : World (List Moment)} {e : LaunchError}
    (prepared : Prepared (platform script) request world (.error e) after) :
    (platform script).launch request world =
      some (e.exitCode, replay after [.event ⟨.error, .launch, s!"{e.caption}: {e.message}"⟩,
        .call (.dialog e.caption e.message)]) := by
  rw [Platform.launch_eq, Platform.supervise_eq_some_iff.2 (.stopped prepared),
    ← report_eq script after e]
  rfl

theorem launch_eq_none {script : Script C M} {request : LaunchRequest}
    {world ready : World (List Moment)} {s : Supervisor C M}
    (prepared : Prepared (platform script) request world (.ok s) ready)
    (runs : ∀ n code, script.behaviour.answer n script.child ≠ .exited code) :
    (platform script).launch request world = none := by
  have unended : s.run (platform script).toServices ready = none := by
    cases prepared with
    | @started _ _ _ _ _ _ _ _ child pump reaches spawns opens =>
    obtain ⟨rfl, -⟩ := started_of_spawn script _ spawns
    have started : Progress script.behaviour script.child pump request.supervision
        (.start script.child pump request.supervision) [] := progress_start
    exact started.run_eq_none runs ready
  rw [Platform.launch_eq, Platform.supervise_eq, prepared.run]
  simp only [unended]
  rfl

/-- **What a launch leaves behind.** A launch on a scripted platform comes to an end with the
effects that belong to its result, unless its child is started and never exits. Nothing differs in
the files but the log of the launcher. A launch that fails tells the log one error, after everything
else, and then shows the dialog about it as its last call. One that cannot enter its install
directory has read no file. -/
theorem launch_effects (script : Script C M) (request : LaunchRequest)
    (world : World (List Moment)) :
    (∃ result status final history,
      (∃ after, ((platform script).supervise request).run world = some (result, after)) ∧
      (platform script).launch request world = some (status, final) ∧
      Happened world final history ∧
      Effects script request world final.files final.here (callsOf history) result ∧
      KeptButLog request world final.files ∧
      (∀ e, result = .error e → ∃ before,
        history = before ++ [.event ⟨.error, .launch, s!"{e.caption}: {e.message}"⟩,
          .call (.dialog e.caption e.message)] ∧
        ∀ event ∈ eventsOf before, event.level ≠ .error) ∧
      (∀ path reason, result = .error (.installDirectory path reason) →
        ∀ files, Alike world.files files →
          ∃ final', (platform script).launch request (moved world files world.here) =
              some (status, final') ∧
            Happened (moved world files world.here) final' history)) ∨
    ((platform script).launch request world = none ∧
      (∃ s ready, Prepared (platform script) request world (.ok s) ready) ∧
      ∀ n code, script.behaviour.answer n script.child ≠ .exited code) := by
  obtain ⟨prepared, ready, is⟩ := Platform.exists_prepared (platform script) request world
  cases prepared with
  | ok s =>
    by_cases exits : ∃ n code, script.behaviour.answer n script.child = .exited code
    case neg =>
      have runs : ∀ n code, script.behaviour.answer n script.child ≠ .exited code := by
        simpa using exits
      exact .inr ⟨launch_eq_none is runs, ⟨s, ready, is⟩, runs⟩
    obtain ⟨outcome, final, history, ran, happened, kept, effects⟩ := effects_of_watched exits is
    have comes : ((platform script).supervise request).run world = some (.ok outcome, final) :=
      Platform.supervise_eq_some_iff.2 (.watched is ran)
    refine .inl ⟨.ok outcome, 0, final, history, ⟨final, comes⟩, ?_, happened, effects, kept,
      nofun, nofun⟩
    rw [Platform.launch_eq, comes]
    rfl
  | error e =>
    obtain ⟨before, happened, quiet, kept, effects⟩ := effects_of_stopped is
    have comes : ((platform script).supervise request).run world = some (.error e, ready) :=
      Platform.supervise_eq_some_iff.2 (.stopped is)
    refine .inl ⟨.error e, e.exitCode, _, _, ⟨ready, comes⟩, launch_of_error is,
      happened.trans (.replay ready _), ?_, ?_, ?_, ?_⟩
    · rw [replay_files, replay_here, callsOf_append]
      exact effects
    · rw [replay_files]
      exact kept
    · rintro _ ⟨⟩
      exact ⟨before, rfl, quiet⟩
    · rintro path reason ⟨⟩ files alike
      obtain ⟨after', prepared', happened'⟩ := stopped_alike is happened alike
      exact ⟨_, launch_of_error prepared',
        happened'.trans (.replay after' _)⟩

end AppLauncher.Scripted
