import AppLauncher.Proofs.Launch.CommandLine
import AppLauncher.Proofs.Windows.Supervision

/-!
# A launch on the desktop

A launch on the desktop does what a launch on the scripted platform does. Up to the start of the
child the two do the very same, because no stage before it asks the system for anything
(`prepared_mirrors`); from there on each call of the scripted platform is made by calls of the
system.

**`launch_refines`**: the exit codes, the messages and the error at the start of the child settle
one launch on the scripted platform, and every desktop with these answers makes this launch,
whatever else it answers.
-/

namespace AppLauncher.Windows

open Platform (Opened Configured Prepared lineOf readyWorld)
open InstallDirectory (Entered Barred enterEvent enteredWorld)
open AppLauncher.Configuration (file readEvents)
open Scripted (Moment Happening replay)

/-- The script of the scripted platform that has the answers of a desktop. Nobody writes to the log
but the child itself. -/
def Script.shadow (script : Script) :
    Scripted.Script (List (Except UInt32 UInt32)) (List (Option QueuedMessage)) :=
  ⟨answering, script.exitCodes, script.messages, creationError script.spawnError, []⟩

theorem answering_exits (codes : List (Except UInt32 UInt32)) :
    ∃ n code, answering.answer n codes = .exited code := by
  induction codes with
  | nil => exact ⟨0, some 0, rfl⟩
  | cons code rest ih =>
    obtain ⟨n, exitCode, exits⟩ := ih
    exact ⟨n + 1, exitCode, exits⟩

/-! ## The stages before the supervision -/

/-- Opening the log does not depend on what the platform keeps. -/
theorem open?_withSystem {σ τ : Type} (profile : Path) (name : String) (world : World σ)
    (system : τ) :
    LogSink.open? profile name (world.withSystem system) =
      ((LogSink.open? profile name world).1,
        (LogSink.open? profile name world).2.withSystem system) := by
  rw [LogSink.open?, LogSink.open?, acting_get, acting_get]
  cases opened : world.files.openEmpty world.here (LogSink.pathFor profile name) with
  | error reason =>
    simp only [World.withSystem, opened]
    rfl
  | ok result =>
    simp only [World.withSystem, opened]
    rfl

section Stages

variable {script : Script} {request : LaunchRequest} {world opened ready : World (List Moment)}
  {invocation : Invocation} {sink : Option LogSink} {directory : Path} {place : Place}
  {contents : Bytes} {desktop : Desktop}

/-- The desktop once the log is about to be opened. -/
def Desktop.sharing (desktop : Desktop) : Desktop :=
  { desktop with calls := desktop.calls ++ [.shareMode shareReadWrite] }

/-- Opening the log on the desktop and on the scripted platform comes to the same. -/
theorem opened_on_desktop
    (reaches : Opened (Scripted.platform script.shadow) request world invocation sink opened)
    (desktop : Desktop) :
    opened.system = world.system ∧
      Opened platform request (world.withSystem desktop) invocation sink
        (opened.withSystem desktop.sharing) := by
  obtain ⟨args, profile, known, opens⟩ := reaches
  have shadowed : LogSink.open? profile invocation.launcherName world = (sink, opened) := opens
  have kept := open?_withSystem profile invocation.launcherName world world.system
  have same := open?_withSystem profile invocation.launcherName world desktop.sharing
  rw [shadowed] at kept same
  exact ⟨congrArg (fun r => r.2.system) (shadowed.symm.trans kept), args, profile, known, same⟩

theorem barred_on_desktop {program path : Path} {reason : SystemError}
    (barred : Barred opened program path reason) (desktop : Desktop) :
    Barred (opened.withSystem desktop) program path reason := by
  cases barred with
  | unlocated fails => exact .unlocated fails
  | closed located fails => exact .closed located fails

theorem configured_on_desktop
    (reaches : Configured (Scripted.platform script.shadow) request world invocation sink opened
      directory place contents) (desktop : Desktop) :
    Configured platform request (world.withSystem desktop) invocation sink
      (opened.withSystem desktop.sharing) directory place contents where
  toOpened := (opened_on_desktop reaches.toOpened desktop).2
  entered := ⟨reaches.entered.located, reaches.entered.leads⟩
  read := reaches.read
  filled := reaches.filled

/-- As long as the scripted platform has recorded nothing, a world on the desktop mirrors it that
differs in nothing but the desktop. -/
theorem mirrors_of_system (child : Child) {world : World (List Moment)}
    (recorded : world.system = []) (desktop : Desktop) :
    Mirrors child desktop.calls (world.withSystem desktop) world := by
  have start := Mirrors.start child (world.withSystem desktop)
  have same : (world.withSystem desktop).withSystem [] = world := by
    rw [← recorded]
    rfl
  rwa [same] at start

theorem write_nil (files : FileSystem) (handle : Handle) : (files.write handle []).2 = files := by
  rw [FileSystem.write]
  split <;> simp

/-- The shadow of a child writes nothing. -/
theorem written_nil (sink : Option LogSink) (files : FileSystem) :
    Scripted.written [] sink files = files := by
  cases sink with
  | none => rfl
  | some sink => exact write_nil files sink.handle

theorem mirrors_ready (recorded : world.system = [])
    (reaches : Configured (Scripted.platform script.shadow) request world invocation sink opened
      directory place contents) (child : Child) (desktop : Desktop) :
    Mirrors child desktop.sharing.calls
      ((readyWorld opened invocation directory place contents).withSystem desktop.sharing)
      (readyWorld opened invocation directory place contents) := by
  have kept : (readyWorld opened invocation directory place contents).system = [] :=
    (opened_on_desktop reaches.toOpened desktop).1.trans recorded
  exact mirrors_of_system child kept desktop.sharing

/-- The shadow of a child is started, or not, as the desktop has it. -/
theorem creationError_of_spawn {line : String} {before after : World (List Moment)}
    {answer : Except SystemError (List (Except UInt32 UInt32))}
    (spawns : (Scripted.platform script.shadow).spawn line sink before = (answer, after)) :
    (∀ reason, answer = .error reason → creationError script.spawnError = some reason) ∧
      ∀ child, answer = .ok child → creationError script.spawnError = none := by
  have first := Scripted.spawn_fst script.shadow before line sink
  rw [spawns, show script.shadow.spawnError = creationError script.spawnError from rfl] at first
  subst first
  cases creationError script.spawnError with
  | none => exact ⟨nofun, fun _ _ => rfl⟩
  | some reason => exact ⟨fun _ same => congrArg some (Except.error.inj same), nofun⟩

/-- **The stages before the supervision.** They fail on the desktop as they do on the scripted
platform, or they end in a supervisor of the desktop's child. -/
theorem prepared_mirrors {result : Except LaunchError (Supervisor _ _)} (desktop : Desktop)
    (recorded : world.system = [])
    (prepared : Prepared (Scripted.platform desktop.script.shadow) request world result ready) :
    ∃ opening pump ready', (opening = [] ∨ opening = [.shareMode shareReadWrite]) ∧
      Prepared platform request (world.withSystem desktop)
        (result.map fun _ => .start desktop.script.child pump request.supervision) ready' ∧
      Mirrors desktop.script.child (desktop.calls ++ opening) ready' ready ∧
      Answers ready' desktop.script.exitCodes desktop.script.messages := by
  have nothing : Mirrors desktop.script.child (desktop.calls ++ []) (world.withSystem desktop)
      world := by
    rw [List.append_nil]
    exact mirrors_of_system _ recorded desktop
  have sameScript (world : World (List Moment)) :
      (world.withSystem desktop.sharing).system.script = desktop.script := rfl
  cases prepared with
  | noArguments missing => exact ⟨[], ⟨none⟩, _, .inl rfl, .noArguments missing, nothing, rfl, rfl⟩
  | notText args notText =>
    exact ⟨[], ⟨none⟩, _, .inl rfl, .notText args notText, nothing, rfl, rfl⟩
  | noProfile args missing =>
    exact ⟨[], ⟨none⟩, _, .inl rfl, .noProfile args missing, nothing, rfl, rfl⟩
  | barred reaches barred =>
    obtain ⟨kept, reaches'⟩ := opened_on_desktop reaches desktop
    exact ⟨_, ⟨none⟩, _, .inr rfl, .barred reaches' (barred_on_desktop barred _),
      mirrors_of_system _ (kept.trans recorded) desktop.sharing, rfl, rfl⟩
  | @unconfigured invocation sink opened directory place reaches entered unread =>
    obtain ⟨kept, reaches'⟩ := opened_on_desktop reaches desktop
    have entered' :
        Entered (opened.withSystem desktop.sharing) invocation.program directory place :=
      ⟨entered.located, entered.leads⟩
    let told := (enteredWorld opened directory place).noteAll
      (readEvents (file directory invocation.launcherName)
        (opened.files.read (.live []) (file directory invocation.launcherName)))
    have kept' : told.system = [] := kept.trans recorded
    exact ⟨_, ⟨none⟩, _, .inr rfl, .unconfigured reaches' entered' unread,
      mirrors_of_system _ kept' desktop.sharing, rfl, rfl⟩
  | @unstarted invocation sink opened after directory place contents reason reaches spawns =>
    have mirrors := mirrors_ready recorded reaches desktop.script.child desktop
    obtain rfl := Scripted.unstarted_of_spawn _ _ spawns
    obtain ⟨output, calls, after, spawns', inherits, acted⟩ :=
      acted_spawn (lineOf contents invocation.passthrough) sink
        ((readyWorld opened invocation directory place contents).withSystem desktop.sharing)
    have creates := (creationError_of_spawn spawns).1 reason rfl
    rw [sameScript, creates] at spawns'
    exact ⟨_, ⟨none⟩, after, .inr rfl, .unstarted (configured_on_desktop reaches desktop) spawns',
      mirrors.call (.spawn _ _ inherits) acted, acted.exitCodes, acted.messages⟩
  | @started invocation sink opened spawned after directory place contents child pump reaches spawns
      opens =>
    have mirrors := mirrors_ready recorded reaches desktop.script.child desktop
    have creates := (creationError_of_spawn spawns).2 child rfl
    obtain ⟨rfl, rfl⟩ := Scripted.started_of_spawn _ _ spawns
    rw [Scripted.openPump_eq] at opens
    obtain ⟨rfl, rfl⟩ := Prod.mk.inj opens
    obtain ⟨output, calls, after, spawns', inherits, acted⟩ :=
      acted_spawn (lineOf contents invocation.passthrough) sink
        ((readyWorld opened invocation directory place contents).withSystem desktop.sharing)
    rw [sameScript, creates] at spawns'
    obtain ⟨pump, final, windowCalls, opens', aboutWindow, -, acted'⟩ :=
      acted_openFor invocation.launcherName after
    have started := (mirrors.call (.spawn _ _ inherits) acted).call
      (.openPump invocation.launcherName aboutWindow) acted'
    refine ⟨_, pump, final, .inr rfl,
      .started (configured_on_desktop reaches desktop) spawns' opens', ?_, ?_, ?_⟩
    · have unchanged : Scripted.moved (readyWorld opened invocation directory place contents)
          (Scripted.written desktop.script.shadow.output sink
            (readyWorld opened invocation directory place contents).files)
          (readyWorld opened invocation directory place contents).here =
          readyWorld opened invocation directory place contents := by
        have kept := written_nil sink (readyWorld opened invocation directory place contents).files
        change Scripted.moved _ (Scripted.written [] sink _) _ = _
        rw [kept]
        rfl
      rw [unchanged]
      exact started
    · exact acted'.exitCodes.trans acted.exitCodes
    · exact acted'.messages.trans acted.messages

end Stages

/-! ## The whole launch -/

/-- The desktop with other answers about the exit code, about messages and about the start of a
child. -/
def Desktop.withAnswers (desktop : Desktop) (codes : List (Except UInt32 UInt32))
    (messages : List (Option QueuedMessage)) (spawnError : Option UInt32) : Desktop :=
  { desktop with
    script := { desktop.script with exitCodes := codes, messages, spawnError } }

/-- A launch that fails is told to the log and shown to the user, in both worlds. -/
theorem mirrors_report {child : Child} {before : List Call} {world : World Desktop}
    {shadow : World (List Moment)} (mirrors : Mirrors child before world shadow) (e : LaunchError) :
    Mirrors child before (platform.report e world).2 (replay shadow
      [.event ⟨.error, .launch, s!"{e.caption}: {e.message}"⟩,
        .call (.dialog e.caption e.message)]) := by
  have told := mirrors.tell [⟨.error, .launch, s!"{e.caption}: {e.message}"⟩]
  have shown : ActedAside (world.noteAll [⟨.error, .launch, s!"{e.caption}: {e.message}"⟩])
      (platform.report e world).2
      [.messageBox errorBox (wide e.caption) (wide e.message)] := .of_system rfl
  exact told.call (.dialog e.caption e.message) shown

/-- **A launch on the desktop is a launch on the scripted platform.** Of a launch on the desktop,
the exit codes, the messages and the error at the start of the child settle the result, the exit
status, the files, the working directory, the events that are not about the desktop, and the calls
of the scripted platform, each of which is made by a block of calls of the system. Nothing else that
the system answers changes any of this. -/
theorem launch_refines (codes : List (Except UInt32 UInt32))
    (messages : List (Option QueuedMessage)) (spawnError : Option UInt32)
    (request : LaunchRequest) (world : World Unit) :
    let scripted := Scripted.platform
      (Scripted.Script.mk answering codes messages (creationError spawnError) [])
    ∃ result watched status shadow,
      (scripted.supervise request).run (world.withSystem []) = some (result, watched) ∧
      scripted.launch request (world.withSystem []) = some (status, shadow) ∧
      ∀ desktop : Desktop, ∃ watched' final opening blocks,
        (platform.supervise request).run
          (world.withSystem (desktop.withAnswers codes messages spawnError)) =
            some (result, watched') ∧
        platform.launch request
          (world.withSystem (desktop.withAnswers codes messages spawnError)) =
            some (status, final) ∧
        final.files = shadow.files ∧ final.here = shadow.here ∧
        ownEvents final.log = ownEvents shadow.log ∧
        (opening = [] ∨ opening = [.shareMode shareReadWrite]) ∧
        List.Forall₂ (Performs desktop.script.child) (shadow.system.map Moment.call) blocks ∧
        final.system.calls = desktop.calls ++ opening ++ blocks.flatten := by
  intro scripted
  obtain ⟨result, ready, prepared⟩ :=
    Platform.exists_prepared scripted request (world.withSystem [])
  have onDesktop := fun desktop : Desktop =>
    prepared_mirrors (desktop.withAnswers codes messages spawnError) rfl prepared
  cases result with
  | error e =>
    have stops : (scripted.supervise request).run (world.withSystem []) = some (.error e, ready) :=
      Platform.supervise_eq_some_iff.2 (.stopped prepared)
    refine ⟨.error e, ready, e.exitCode, _, stops, Scripted.launch_of_error prepared, ?_⟩
    intro desktop
    obtain ⟨opening, pump, ready', isOpening, prepared', mirrors, -⟩ := onDesktop desktop
    have stops' : (platform.supervise request).run
        (world.withSystem (desktop.withAnswers codes messages spawnError)) =
          some (.error e, ready') := Platform.supervise_eq_some_iff.2 (.stopped prepared')
    have reported := mirrors_report mirrors e
    obtain ⟨blocks, performed, made⟩ := reported.calls
    refine ⟨ready', _, opening, blocks, stops', ?_, reported.files, reported.here, reported.log,
      isOpening, performed, made⟩
    rw [Platform.launch_eq, stops']
    rfl
  | ok s =>
    obtain rfl := Scripted.supervisor_of_prepared prepared
    obtain ⟨k, code, goesOn, exits⟩ := Scripted.Behaviour.exists_first_exit (answering_exits codes)
    have ran :=
      Scripted.run_of_answers answering messages request.supervision ready goesOn exits 0 0
    have watched : (scripted.supervise request).run (world.withSystem []) = some (.ok _, _) :=
      Platform.supervise_eq_some_iff.2 (.watched prepared ran)
    refine ⟨_, _, 0, _, watched, by rw [Platform.launch_eq, watched]; rfl, ?_⟩
    intro desktop
    obtain ⟨opening, pump, ready', isOpening, prepared', mirrors, answers⟩ := onDesktop desktop
    obtain ⟨outcome, final, ran', ranShadow, -, -, ended⟩ :=
      run_mirrors pump request.supervision mirrors answers goesOn exits
    -- The scripted platform has one outcome, so each desktop has it too.
    obtain ⟨rfl, -⟩ := Prod.mk.inj (Option.some.inj (ran.symm.trans ranShadow))
    have watched' : (platform.supervise request).run
        (world.withSystem (desktop.withAnswers codes messages spawnError)) =
          some (.ok _, final) := Platform.supervise_eq_some_iff.2 (.watched prepared' ran')
    obtain ⟨blocks, performed, made⟩ := ended.calls
    refine ⟨final, final, opening, blocks, watched', ?_, ended.files, ended.here, ended.log,
      isOpening, performed, made⟩
    rw [Platform.launch_eq, watched']
    rfl

end AppLauncher.Windows
