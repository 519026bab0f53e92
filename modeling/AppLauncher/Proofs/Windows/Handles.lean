import AppLauncher.Proofs.Launch.Effects
import AppLauncher.Proofs.Windows.ExitCode
import AppLauncher.Proofs.Windows.Launch

/-!
# The handles of a launch

A launch deals with three handles of the system: that of the log, which the child is to inherit, and
those of the process and of its first thread, which the launch has to give back. `Course` says
in which calls it does so, from its beginning to its end, and `Discipline` what follows from this for
each of the handles.

**`handles_of_launch`**: every launch keeps to the discipline, whatever the system answers.
-/

namespace AppLauncher.Windows

open Platform (Opened Configured Prepared lineOf readyWorld)
open Scripted (roundCalls exitCalls courseOf)

/-! ## Calls that matter here -/

namespace Call

/-- A call that starts a process. -/
def isCreation : Call → Bool
  | createProcess _ _ => true
  | _ => false

/-- A call made while a process is watched: it asks for the state of that process, or for something
else. -/
def Watches (process : SystemHandle) (call : Call) : Prop :=
  call.isAside = true ∨ ∃ answer, call = getExitCodeProcess process answer

variable {call : Call} {process : SystemHandle}

theorem isCreation_of_isAside (aside : call.isAside = true) : call.isCreation = false := by
  cases call <;> first | rfl | cases aside

theorem Watches.isCreation (watches : call.Watches process) : call.isCreation = false := by
  rcases watches with aside | ⟨answer, rfl⟩
  · exact isCreation_of_isAside aside
  · rfl

theorem Watches.isEnding (watches : call.Watches process) : call.isEnding = false := by
  rcases watches with aside | ⟨answer, rfl⟩
  · exact isEnding_of_isAside aside
  · rfl

end Call

/-! ## The output of the child -/

/-- The log that a launch opens for its child. -/
def logOf (request : LaunchRequest) (world : World Desktop) : Option LogSink :=
  match Invocation.parse request.args, request.profile with
  | .ok invocation, some profile => (platform.openLog profile invocation.launcherName world).1
  | _, _ => none

/-- The standard handles of a process that is created after these calls: no input, and for output
and errors the log, exactly if its handle has been made inheritable. -/
structure StandardHandles (sink : Option LogSink) (before : List Call) (start : ProcessStart) :
    Prop where
  inherits : start.inherits = true
  input : start.input = .null
  error : start.error = start.output
  log : ∀ file, start.output = .file file ↔ ∃ s, sink = some s ∧ s.handle = file ∧
    .setHandleInformation (.file file) inheritFlag inheritFlag 0 ∈ before
  null : start.output = .null ↔ ∀ s, sink = some s →
    .setHandleInformation (.file s.handle) inheritFlag inheritFlag 0 ∉ before

/-- The calls by which a launch comes to the handle for its child's output. -/
def readying (asked : List Call) : List Call :=
  .shareMode shareReadWrite :: asked

section Inherits

variable {sink : Option LogSink} {output : SystemHandle} {asked : List Call}

theorem Inherits.standardHandles (inherits : Inherits sink output asked) (line : String) :
    StandardHandles sink (readying asked) (processStart line output) := by
  cases inherits with
  | unlogged => exact ⟨rfl, rfl, rfl, by simp [processStart], by simp [processStart]⟩
  | logged sink code =>
    by_cases done : code = 0
    · subst done
      refine ⟨rfl, rfl, rfl, ?_, ?_⟩
      · intro file
        simp [processStart, readying, eq_comm]
      · simp [processStart, readying]
    · refine ⟨rfl, rfl, rfl, ?_, ?_⟩
      · intro file
        simp [processStart, readying, done, Ne.symm done]
      · simp [processStart, readying, done, Ne.symm done]

/-- Before a process is created, none is asked for its state, and nothing is ended. -/
theorem Inherits.readying (inherits : Inherits sink output asked) :
    ∀ call ∈ readying asked,
      call.isCreation = false ∧ call.isQuery = false ∧ call.isEnding = false := by
  intro call among
  rcases List.mem_cons.1 among with rfl | among
  · exact ⟨rfl, rfl, rfl⟩
  cases inherits with
  | unlogged => cases among
  | logged sink code =>
    obtain rfl := List.mem_singleton.1 among
    exact ⟨rfl, rfl, rfl⟩

end Inherits

/-! ## The course of a launch -/

/-- The calls that end the watching of a process. -/
def ending (process thread : SystemHandle) (closed closed' : UInt32) : List Call :=
  [.postQuitMessage 0, .closeHandle process closed, .closeHandle thread closed']

/-- How a launch with a certain log deals with handles, from its first call to its last. -/
inductive Course (script : Script) (sink : Option LogSink) :
    Except LaunchError Outcome → List Call → Prop where
  /-- No stage of the launch came to the start of a child. -/
  | unstarted {e : LaunchError} {calls : List Call} (aside : ∀ call ∈ calls, call.isAside = true) :
      Course script sink (.error e) calls
  /-- The child could not be started. -/
  | refused {output : SystemHandle} {asked later : List Call} {code : UInt32} (line : String)
      (inherits : Inherits sink output asked) (fails : code ≠ 0)
      (aside : ∀ call ∈ later, call.isAside = true) :
      Course script sink (.error (.spawn line (.code (Failure.ofCode code).code.toNat)))
        (readying asked ++ Call.createProcess (processStart line output) code :: later)
  /-- The child was watched to its end. -/
  | watched {output : SystemHandle} {asked watching : List Call} {outcome : Outcome}
      (line : String) (inherits : Inherits sink output asked)
      (watches : ∀ call ∈ watching, call.Watches script.processHandle) (closed closed' : UInt32) :
      Course script sink (.ok outcome)
        (readying asked ++ Call.createProcess (processStart line output) 0 ::
          (watching ++ ending script.processHandle script.threadHandle closed closed'))

theorem isCreation_of_mem_ending {process thread : SystemHandle} {closed closed' : UInt32}
    {call : Call} (among : call ∈ ending process thread closed closed') :
    call.isCreation = false := by
  simp only [ending, List.mem_cons, List.not_mem_nil, or_false] at among
  rcases among with rfl | rfl | rfl <;> rfl

/-- After a failure, nothing is done with handles. -/
theorem Course.append_aside {script : Script} {sink : Option LogSink} {e : LaunchError}
    {calls : List Call} (course : Course script sink (.error e) calls) {call : Call}
    (isAside : call.isAside = true) : Course script sink (.error e) (calls ++ [call]) := by
  have more : ∀ {earlier : List Call}, (∀ call ∈ earlier, call.isAside = true) →
      ∀ call' ∈ earlier ++ [call], call'.isAside = true := by
    intro earlier aside call' among
    rcases List.mem_append.1 among with among | among
    · exact aside call' among
    · rwa [List.mem_singleton.1 among]
  cases course with
  | unstarted aside => exact .unstarted (more aside)
  | refused line inherits fails aside =>
    rw [List.append_assoc]
    exact .refused line inherits fails (more aside)

/-! ## The stages before the supervision -/

section Stages

variable {request : LaunchRequest} {world opened ready : World Desktop} {invocation : Invocation}
  {sink : Option LogSink} {directory : Path} {place : Place} {contents : Bytes}

/-- Once the log has been opened, nothing has been asked of the system but how it is shared. -/
theorem system_of_opened (reaches : Opened platform request world invocation sink opened) :
    opened.system = world.system.sharing ∧ logOf request world = sink := by
  obtain ⟨args, profile, known, opens⟩ := reaches
  let shared := world.withSystem world.system.sharing
  have sharesFirst : platform.openLog profile invocation.launcherName world =
      LogSink.open? profile invocation.launcherName shared := rfl
  have kept := open?_withSystem profile invocation.launcherName shared world.system.sharing
  change LogSink.open? profile invocation.launcherName shared = _ at kept
  rw [← sharesFirst, opens] at kept
  constructor
  · exact congrArg (fun r => r.2.system) kept
  · rw [logOf, args, Invocation.parse_texts, known]
    exact congrArg Prod.fst opens

theorem creationError_eq_some {code : Option UInt32} {reason : SystemError}
    (fails : creationError code = some reason) :
    code.getD 0 ≠ 0 ∧ reason = .code (Failure.ofCode (code.getD 0)).code.toNat := by
  rw [creationError] at fails
  split at fails
  · cases fails
  · exact ⟨by assumption, (Option.some.inj fails).symm⟩

theorem creationError_eq_none {code : Option UInt32} (works : creationError code = none) :
    code.getD 0 = 0 := by
  rw [creationError] at works
  split at works
  · assumption
  · cases works

/-- The calls of a spawn, in a launch that has come so far. -/
theorem calls_of_spawn
    (reaches : Configured platform request world invocation sink opened directory place contents) :
    ∃ output asked after, spawn (lineOf contents invocation.passthrough) sink
        (readyWorld opened invocation directory place contents) =
        (match creationError world.system.script.spawnError with
          | some reason => .error reason
          | none => .ok world.system.script.child, after) ∧
      Inherits (logOf request world) output asked ∧
      after.system.calls = world.system.calls ++ (readying asked ++
        [Call.createProcess (processStart (lineOf contents invocation.passthrough) output)
          (world.system.script.spawnError.getD 0)]) := by
  obtain ⟨system, sinkOf⟩ := system_of_opened reaches.toOpened
  obtain ⟨output, asked, after, spawns, inherits, acted⟩ :=
    acted_spawn (lineOf contents invocation.passthrough) sink
      (readyWorld opened invocation directory place contents)
  have ready : (readyWorld opened invocation directory place contents).system =
      world.system.sharing := system
  rw [ready] at spawns
  refine ⟨output, asked, after, spawns, sinkOf ▸ inherits, ?_⟩
  rw [acted.calls, ready]
  simp [Desktop.sharing, readying]

/-- A launch that stops before the supervision has asked for the sharing of its log at most, or it
has not been able to start its child. -/
theorem stopped_cases {e : LaunchError}
    (prepared : Prepared platform request world (.error e) ready) :
    (∃ made, (made = [] ∨ made = [.shareMode shareReadWrite]) ∧
      ready.system.calls = world.system.calls ++ made) ∨
    ∃ invocation sink opened directory place contents reason,
      Configured platform request world invocation sink opened directory place contents ∧
      spawn (lineOf contents invocation.passthrough) sink
        (readyWorld opened invocation directory place contents) = (.error reason, ready) ∧
      e = .spawn (lineOf contents invocation.passthrough) reason := by
  cases prepared with
  | noArguments none => exact .inl ⟨[], .inl rfl, by simp⟩
  | notText args notText => exact .inl ⟨[], .inl rfl, by simp⟩
  | noProfile args none => exact .inl ⟨[], .inl rfl, by simp⟩
  | barred reaches barred =>
    exact .inl ⟨_, .inr rfl, congrArg Desktop.calls (system_of_opened reaches).1⟩
  | unconfigured reaches entered unread =>
    exact .inl ⟨_, .inr rfl, congrArg Desktop.calls (system_of_opened reaches).1⟩
  | unstarted reaches spawns => exact .inr ⟨_, _, _, _, _, _, _, reaches, spawns, rfl⟩

/-- A launch that stops before the supervision. -/
theorem course_of_stopped {e : LaunchError}
    (prepared : Prepared platform request world (.error e) ready) :
    ∃ made, ready.system.calls = world.system.calls ++ made ∧
      Course world.system.script (logOf request world) (.error e) made := by
  rcases stopped_cases prepared with
    ⟨made, atMost, calls⟩ | ⟨_, _, _, _, _, _, reason, reaches, spawns, rfl⟩
  · refine ⟨made, calls, .unstarted ?_⟩
    rcases atMost with rfl | rfl <;> simp [Call.isAside]
  · obtain ⟨output, asked, after, spawns', inherits, calls⟩ := calls_of_spawn reaches
    obtain ⟨answers, rfl⟩ := Prod.mk.inj (spawns'.symm.trans spawns)
    refine ⟨_, calls, ?_⟩
    cases creates : creationError world.system.script.spawnError with
    | none =>
      rw [creates] at answers
      cases answers
    | some reason =>
      rw [creates] at answers
      obtain rfl := Except.error.inj answers
      obtain ⟨fails, rfl⟩ := creationError_eq_some creates
      exact .refused _ inherits fails (by simp)

/-- A launch that comes to the supervision. -/
theorem course_of_started {s : Supervisor Child Pump}
    (prepared : Prepared platform request world (.ok s) ready) :
    ∃ pump line output asked aboutWindow,
      s = .start world.system.script.child pump request.supervision ∧
      Inherits (logOf request world) output asked ∧
      (∀ call ∈ aboutWindow, call.isAside = true) ∧
      ready.system.calls = world.system.calls ++ (readying asked ++
        Call.createProcess (processStart line output) 0 :: aboutWindow) := by
  cases prepared with
  | @started invocation sink opened spawned _ directory place contents child pump reaches spawns
      opens =>
  obtain ⟨output, asked, after, spawns', inherits, calls⟩ := calls_of_spawn reaches
  obtain ⟨answers, rfl⟩ := Prod.mk.inj (spawns'.symm.trans spawns)
  obtain ⟨pump, final, windowCalls, opens', aboutWindow, -, acted⟩ :=
    acted_openFor invocation.launcherName after
  obtain ⟨rfl, rfl⟩ := Prod.mk.inj (opens'.symm.trans opens)
  cases creates : creationError world.system.script.spawnError with
  | some reason =>
    rw [creates] at answers
    cases answers
  | none =>
    rw [creates] at answers
    obtain rfl := Except.ok.inj answers
    refine ⟨_, lineOf contents invocation.passthrough, output, asked, windowCalls, rfl, inherits,
      ?_, ?_⟩
    · exact fun call among => Call.isAside_of_isAboutWindow (aboutWindow call among)
    · rw [acted.calls, calls, creationError_eq_none creates]
      simp

end Stages

/-! ## The supervision -/

section Supervision

variable {child : Child}

/-- A poll asks for the state of the child, and serving events does nothing with it. -/
theorem watches_of_performs {c : Scripted.Call} {calls : List Call}
    (performs : Performs child c calls) (goesOn : c.isStatus = true ∨ c.isDispatch = true) :
    ∀ call ∈ calls, call.Watches child.process := by
  have asks : ∀ answer, ∀ call ∈ [Call.getExitCodeProcess child.process answer],
      call.Watches child.process := by
    intro answer call among
    exact .inr ⟨answer, List.mem_singleton.1 among⟩
  cases performs with
  | unknown code => exact asks _
  | active => exact asks _
  | exited code terminated => exact asks _
  | dispatch serving => exact fun call among => .inl (aside_of_serving serving call among)
  | _ => simp [Scripted.Call.isStatus, Scripted.Call.isDispatch] at goesOn

/-- By which calls of the system a supervision is made: questions about the child and messages that
are served, and at the end of it all the queue is told to quit and both handles are closed. -/
theorem calls_of_supervision {scripted : List Scripted.Call} {blocks : List (List Call)}
    (goesOn : ∀ c ∈ scripted, c.isStatus = true ∨ c.isDispatch = true)
    (performed : List.Forall₂ (Performs child) (scripted ++ [Scripted.Call.quit, .release]) blocks) :
    ∃ watching closed closed', (∀ call ∈ watching, call.Watches child.process) ∧
      blocks.flatten = watching ++ ending child.process child.thread closed closed' := by
  induction scripted generalizing blocks with
  | nil =>
    obtain - | ⟨quits, performed⟩ := performed
    obtain - | ⟨released, performed⟩ := performed
    cases performed
    cases quits
    obtain ⟨closed, closed'⟩ := released
    exact ⟨[], _, _, by simp, rfl⟩
  | cons c rest ih =>
    obtain - | ⟨first, performed⟩ := performed
    obtain ⟨watching, closed, closed', watches, flat⟩ :=
      ih (fun c' among => goesOn c' (List.mem_cons_of_mem c among)) performed
    have now := watches_of_performs first (goesOn c List.mem_cons_self)
    refine ⟨_, closed, closed', ?_, by rw [List.flatten_cons, flat, ← List.append_assoc]⟩
    intro call among
    rcases List.mem_append.1 among with among | among
    · exact now call among
    · exact watches call among

theorem polled_or_served (budget : UInt64) (rounds : List Round) (code : Option Int32) :
    ∀ c ∈ roundCalls budget rounds ++ [Scripted.Call.status (.exited code)],
      c.isStatus = true ∨ c.isDispatch = true := by
  intro c among
  rcases List.mem_append.1 among with among | among
  · obtain ⟨r, -, among⟩ := List.mem_flatMap.1 among
    rcases List.mem_pair.1 among with rfl | rfl
    · exact .inl rfl
    · exact .inr rfl
  · obtain rfl := List.mem_singleton.1 among
    exact .inl rfl

/-- Every supervision comes to its end, because the answers about the exit code do. -/
theorem calls_of_run (child : Child) (pump : Pump) (config : SupervisorConfig)
    (world : World Desktop) :
    ∃ outcome after watching closed closed',
      (Supervisor.start child pump config).run services world = some (outcome, after) ∧
      (∀ call ∈ watching, call.Watches child.process) ∧
      after.system.calls = world.system.calls ++
        (watching ++ ending child.process child.thread closed closed') := by
  obtain ⟨k, code, goesOn, exits⟩ :=
    Scripted.Behaviour.exists_first_exit (answering_exits world.system.script.exitCodes)
  obtain ⟨outcome, after, ran, -, -, -, mirrors⟩ :=
    run_mirrors pump config (.start child world) ⟨rfl, rfl⟩ goesOn exits
  obtain ⟨blocks, performed, made⟩ := mirrors.calls
  rw [Scripted.replay_calls, Scripted.callsOf_courseOf] at performed
  let rounds := answering.rounds config.budget k world.system.script.exitCodes
    world.system.script.messages
  have performed' : List.Forall₂ (Performs child)
      (roundCalls config.budget rounds ++ [Scripted.Call.status (.exited code)] ++
        [Scripted.Call.quit, .release]) blocks := by
    rw [List.append_assoc]
    exact performed
  obtain ⟨watching, closed, closed', watches, flat⟩ :=
    calls_of_supervision (polled_or_served config.budget rounds code) performed'
  exact ⟨outcome, after, watching, closed, closed', ran, watches, by rw [made, flat]⟩

end Supervision

/-- A launch that stops before the supervision ends with a dialog. -/
theorem launch_of_stopped {request : LaunchRequest} {world ready : World Desktop} {e : LaunchError}
    (prepared : Prepared platform request world (.error e) ready) :
    (platform.supervise request).run world = some (.error e, ready) ∧
      ∃ final, platform.launch request world = some (e.exitCode, final) ∧
        final.system.calls = ready.system.calls ++
          [.messageBox errorBox (wide e.caption) (wide e.message)] := by
  have stops : (platform.supervise request).run world = some (.error e, ready) :=
    Platform.supervise_eq_some_iff.2 (.stopped prepared)
  refine ⟨stops, (platform.report e ready).2, ?_, rfl⟩
  rw [Platform.launch_eq, stops]
  rfl

/-- A launch whose child was watched to its end does nothing more. -/
theorem launch_of_watched {request : LaunchRequest} {world ready after : World Desktop}
    {s : Supervisor Child Pump} {outcome : Outcome}
    (prepared : Prepared platform request world (.ok s) ready)
    (ran : s.run services ready = some (outcome, after)) :
    (platform.supervise request).run world = some (.ok outcome, after) ∧
      platform.launch request world = some (0, after) := by
  have watched : (platform.supervise request).run world = some (.ok outcome, after) :=
    Platform.supervise_eq_some_iff.2 (.watched prepared ran)
  refine ⟨watched, ?_⟩
  rw [Platform.launch_eq, watched]
  rfl

/-- **The course of a launch.** Every launch comes to its end, and its calls are those of a course.
-/
theorem course_of_launch (request : LaunchRequest) (world : World Desktop) :
    ∃ result watched status final made,
      (platform.supervise request).run world = some (result, watched) ∧
      platform.launch request world = some (status, final) ∧
      final.system.calls = world.system.calls ++ made ∧
      Course world.system.script (logOf request world) result made := by
  obtain ⟨result, ready, prepared⟩ := Platform.exists_prepared platform request world
  cases result with
  | error e =>
    obtain ⟨made, calls, course⟩ := course_of_stopped prepared
    obtain ⟨stops, final, launched, shown⟩ := launch_of_stopped prepared
    have isAside : (Call.messageBox errorBox (wide e.caption) (wide e.message)).isAside = true := rfl
    refine ⟨_, ready, _, final, _, stops, launched, ?_, course.append_aside isAside⟩
    rw [shown, calls, List.append_assoc]
  | ok s =>
    obtain ⟨pump, line, output, asked, aboutWindow, rfl, inherits, aside, calls⟩ :=
      course_of_started prepared
    obtain ⟨outcome, after, watching, closed, closed', ran, watches, made⟩ :=
      calls_of_run world.system.script.child pump request.supervision ready
    obtain ⟨watched, launched⟩ := launch_of_watched prepared ran
    have watches' : ∀ call ∈ aboutWindow ++ watching,
        call.Watches world.system.script.processHandle := by
      intro call among
      rcases List.mem_append.1 among with among | among
      · exact .inl (aside call among)
      · exact watches call among
    refine ⟨_, after, 0, after, _, watched, launched, ?_,
      .watched line inherits watches' closed closed'⟩
    rw [made, calls]
    simp [Script.child]

/-! ## The discipline -/

/-- What a launch keeps to in its calls, whatever it comes to. -/
structure Discipline (script : Script) (sink : Option LogSink)
    (result : Except LaunchError Outcome) (made : List Call) : Prop where
  createdOnce : made.countP Call.isCreation ≤ 1
  standardHandles : ∀ before start code after,
    made = before ++ .createProcess start code :: after → StandardHandles sink before start
  /-- A child is started even if it cannot inherit the log. -/
  notPrevented : ∀ before handle mask flags code after,
    made = before ++ .setHandleInformation handle mask flags code :: after →
      ∃ start code', .createProcess start code' ∈ after
  /-- Without a child there is no handle to use or to close. -/
  refused : (∀ start, .createProcess start 0 ∉ made) →
    ∀ call ∈ made, call.isQuery = false ∧ call.isEnding = false
  /-- A child that cannot be started leaves the code for the reason. -/
  reason : ∀ start code, .createProcess start code ∈ made → code ≠ 0 →
    ∃ line n, result = .error (.spawn line (.code n)) ∧
      n = (Failure.ofCode code).result.toNat % 65536 ∧ (code.toNat < 65536 → n = code.toNat)
  /-- The process is asked for its state as long as it is watched; then both handles are closed. -/
  released : ∀ start, .createProcess start 0 ∈ made →
    ∃ outcome before watching closed closed', result = .ok outcome ∧
      made = before ++ Call.createProcess start 0 ::
        (watching ++ ending script.processHandle script.threadHandle closed closed') ∧
      (∀ call ∈ before, call.isQuery = false ∧ call.isEnding = false) ∧
      (∀ call ∈ watching, call.isEnding = false) ∧
      ∀ handle answer, .getExitCodeProcess handle answer ∈ watching →
        handle = script.processHandle

namespace Failure

theorem toNat_half (x : UInt32) : (x &&& 0xFFFF).toNat = x.toNat % 2 ^ 16 := by
  rw [UInt32.toNat_and]
  exact Nat.and_two_pow_sub_one_eq_mod _ 16

/-- The low half of a result is the low half of the code that it was made of. -/
theorem toNat_result_ofCode (code : UInt32) :
    (ofCode code).result.toNat % 2 ^ 16 = code.toNat % 2 ^ 16 := by
  rw [ofCode, UInt32.toNat_or, toNat_half, Nat.or_mod_two_pow, Nat.mod_mod]
  exact Nat.zero_or _

theorem toNat_code (failure : Failure) :
    failure.code.toNat = failure.result.toNat % 65536 := toNat_half failure.result

theorem code_ofCode {code : UInt32} (small : code.toNat < 65536) :
    (ofCode code).code.toNat = code.toNat := by
  rw [toNat_code]
  exact (toNat_result_ofCode code).trans (Nat.mod_eq_of_lt small)

end Failure

section Discipline

variable {script : Script} {sink : Option LogSink} {before later : List Call} {start : ProcessStart}
  {code : UInt32}

/-- What was created is known when nothing else was created. -/
theorem creation_unique {before' later' : List Call} {start' : ProcessStart} {code' : UInt32}
    (noneBefore : ∀ call ∈ before, call.isCreation = false)
    (noneLater : ∀ call ∈ later, call.isCreation = false)
    (same : before ++ .createProcess start code :: later =
      before' ++ .createProcess start' code' :: later') :
    before = before' ∧ start = start' ∧ code = code' ∧ later = later' := by
  have notBefore : Call.createProcess start' code' ∉ before :=
    fun among => Bool.noConfusion (noneBefore _ among)
  have notLater : Call.createProcess start' code' ∉ later :=
    fun among => Bool.noConfusion (noneLater _ among)
  obtain ⟨isBefore, isCreation, isLater⟩ :=
    (List.append_cons_inj_of_notMem notBefore notLater).1 same
  cases isCreation
  exact ⟨isBefore, rfl, rfl, isLater⟩

theorem creation_of_mem {start' : ProcessStart} {code' : UInt32}
    (noneBefore : ∀ call ∈ before, call.isCreation = false)
    (noneLater : ∀ call ∈ later, call.isCreation = false)
    (among : .createProcess start' code' ∈ before ++ .createProcess start code :: later) :
    start' = start ∧ code' = code := by
  obtain ⟨before', later', same⟩ := List.append_of_mem among
  obtain ⟨-, rfl, rfl, -⟩ := creation_unique noneBefore noneLater same
  exact ⟨rfl, rfl⟩

/-- A call that cannot come after the creation comes before it. -/
theorem creation_after {call : Call} {before' later' : List Call}
    (noneBefore : ∀ call ∈ before, call.isCreation = false)
    (noneLater : ∀ call ∈ later, call.isCreation = false)
    (same : before ++ .createProcess start code :: later = before' ++ call :: later')
    (differs : call ≠ .createProcess start code) (notLater : call ∉ later) :
    .createProcess start code ∈ later' := by
  have among : Call.createProcess start code ∈ before' ++ call :: later' := by
    rw [← same]
    simp
  rcases List.mem_append.1 among with among | among
  · obtain ⟨earlier, between, rfl⟩ := List.append_of_mem among
    rw [List.append_assoc, List.cons_append] at same
    obtain ⟨-, -, -, rfl⟩ := creation_unique noneBefore noneLater same
    exact absurd (by simp) notLater
  · rcases List.mem_cons.1 among with rfl | among
    · exact absurd rfl differs
    · exact among

theorem countP_creation
    (noneBefore : ∀ call ∈ before, call.isCreation = false)
    (noneLater : ∀ call ∈ later, call.isCreation = false) :
    (before ++ .createProcess start code :: later).countP Call.isCreation = 1 := by
  have none : ∀ calls : List Call, (∀ call ∈ calls, call.isCreation = false) →
      calls.countP Call.isCreation = 0 := by
    intro calls others
    exact List.countP_eq_zero.2 fun call among => by simp [others call among]
  rw [List.countP_append, List.countP_cons, none before noneBefore, none later noneLater]
  rfl

end Discipline

/-- A launch whose calls are a course keeps to the discipline. -/
theorem Course.discipline {script : Script} {sink : Option LogSink}
    {result : Except LaunchError Outcome} {made : List Call}
    (course : Course script sink result made) : Discipline script sink result made := by
  cases course with
  | unstarted aside =>
    have noCreation : ∀ start code, .createProcess start code ∉ made :=
      fun start code among => Bool.noConfusion (aside _ among)
    refine ⟨?_, ?_, ?_, ?_, ?_, ?_⟩
    · have none : made.countP Call.isCreation = 0 := List.countP_eq_zero.2 fun call among => by
        simp [Call.isCreation_of_isAside (aside call among)]
      rw [none]
      exact Nat.zero_le 1
    · rintro before start code after rfl
      exact absurd (by simp) (noCreation start code)
    · rintro before handle mask flags code after rfl
      exact Bool.noConfusion (aside (.setHandleInformation handle mask flags code) (by simp))
    · intro _ call among
      exact ⟨Call.isQuery_of_isAside (aside call among), Call.isEnding_of_isAside (aside call among)⟩
    · intro start code among
      exact absurd among (noCreation start code)
    · intro start among
      exact absurd among (noCreation start 0)
  | @refused output asked later code line inherits fails aside =>
    have noneBefore := fun call among => (inherits.readying call among).1
    have noneLater := fun call among => Call.isCreation_of_isAside (aside call among)
    refine ⟨(countP_creation noneBefore noneLater).le, ?_, ?_, ?_, ?_, ?_⟩
    · intro before start code' after same
      obtain ⟨rfl, rfl, rfl, -⟩ := creation_unique noneBefore noneLater same
      exact inherits.standardHandles line
    · intro before handle mask flags code' after same
      have notLater : .setHandleInformation handle mask flags code' ∉ later :=
        fun among => Bool.noConfusion (aside _ among)
      exact ⟨_, _, creation_after noneBefore noneLater same nofun notLater⟩
    · intro _ call among
      rcases List.mem_append.1 among with among | among
      · exact (inherits.readying call among).2
      rcases List.mem_cons.1 among with rfl | among
      · exact ⟨rfl, rfl⟩
      · exact ⟨Call.isQuery_of_isAside (aside call among),
          Call.isEnding_of_isAside (aside call among)⟩
    · intro start code' among _
      obtain ⟨-, rfl⟩ := creation_of_mem noneBefore noneLater among
      exact ⟨line, _, rfl, Failure.toNat_code _, Failure.code_ofCode⟩
    · intro start among
      exact absurd (creation_of_mem noneBefore noneLater among).2.symm fails
  | @watched output asked watching outcome line inherits watches closed closed' =>
    have noneBefore := fun call among => (inherits.readying call among).1
    have noneLater : ∀ call ∈ watching ++
        ending script.processHandle script.threadHandle closed closed',
        call.isCreation = false := by
      intro call among
      rcases List.mem_append.1 among with among | among
      · exact (watches call among).isCreation
      · exact isCreation_of_mem_ending among
    refine ⟨(countP_creation noneBefore noneLater).le, ?_, ?_, ?_, ?_, ?_⟩
    · intro before start code' after same
      obtain ⟨rfl, rfl, rfl, -⟩ := creation_unique noneBefore noneLater same
      exact inherits.standardHandles line
    · intro before handle mask flags code' after same
      refine ⟨_, _, creation_after noneBefore noneLater same nofun ?_⟩
      intro among
      rcases List.mem_append.1 among with among | among
      · rcases watches _ among with aside | ⟨_, same⟩
        · cases aside
        · cases same
      · exact absurd among (by simp [ending])
    · intro none
      exact absurd (by simp) (none (processStart line output))
    · intro start code' among fails
      exact absurd (creation_of_mem noneBefore noneLater among).2 fails
    · intro start among
      obtain ⟨rfl, -⟩ := creation_of_mem noneBefore noneLater among
      refine ⟨outcome, _, watching, closed, closed', rfl, rfl,
        fun call among => (inherits.readying call among).2,
        fun call among => (watches call among).isEnding, ?_⟩
      intro handle answer among
      rcases watches _ among with aside | ⟨_, same⟩
      · cases aside
      · cases same
        rfl

/-- **The handles of a launch.** Whatever the system answers, a launch comes to its end, and in all
its calls it keeps to the discipline: it creates one process at most, whose output is the log exactly
if the log's handle has been made inheritable; when this fails it leaves the reason and uses no
handle of a process; and otherwise it asks for the state of this process until it tells the queue to
quit, and then closes the handle of the process and that of its thread, each of them once, even if
closing the first one fails. -/
theorem handles_of_launch (request : LaunchRequest) (world : World Desktop) :
    ∃ result watched status final made,
      (platform.supervise request).run world = some (result, watched) ∧
      platform.launch request world = some (status, final) ∧
      final.system.calls = world.system.calls ++ made ∧
      Discipline world.system.script (logOf request world) result made := by
  obtain ⟨result, watched, status, final, made, supervised, launched, calls, course⟩ :=
    course_of_launch request world
  exact ⟨result, watched, status, final, made, supervised, launched, calls, course.discipline⟩

end AppLauncher.Windows
