import AppLauncher.Proofs.Launch.Script
import AppLauncher.Proofs.Launch.Stages

/-!
# What a launch comes to

`Prepared` says what comes of the stages before the supervision: the error of the first stage that
fails, or a supervisor, and the world that is left. Its cases exclude each other, because each of
them has the stages before it pass. `Verdict` adds the supervision.

**`supervise_verdict`**: a launch whose child exits some day comes to exactly one verdict, and its
exit status is zero exactly when the child was watched to its end.
-/

namespace AppLauncher.Platform

open InstallDirectory (Entered Barred enteredWorld)
open AppLauncher.Configuration (file readEvents)

variable {σ C M : Type}

/-- The arguments are texts, there is a profile, and the log has been opened or not. -/
structure Opened (platform : Platform σ C M) (request : LaunchRequest) (world : World σ)
    (invocation : Invocation) (sink : Option LogSink) (opened : World σ) : Prop where
  args : request.args = invocation.program.bytes :: invocation.passthrough.map Utf8.ofString
  log : ∃ profile, request.profile = some profile ∧
    platform.openLog profile invocation.launcherName world = (sink, opened)

/-- The install directory has been entered as well, and its configuration file holds something. -/
structure Configured (platform : Platform σ C M) (request : LaunchRequest) (world : World σ)
    (invocation : Invocation) (sink : Option LogSink) (opened : World σ) (directory : Path)
    (place : Place) (contents : Bytes) : Prop
    extends Opened platform request world invocation sink opened where
  entered : Entered opened invocation.program directory place
  read : opened.files.read (.live []) (file directory invocation.launcherName) = .ok contents
  filled : contents ≠ []

/-- The child's command line: the contents of the configuration file as text, and after it each
argument between quotes. -/
def lineOf (contents : Bytes) (args : List String) : String :=
  Utf8.toStringLossy contents ++ String.join (args.map fun arg => " \"" ++ arg ++ "\"")

/-- The world right before the child is started. -/
def readyWorld (opened : World σ) (invocation : Invocation) (directory : Path) (place : Place)
    (contents : Bytes) : World σ :=
  (enteredWorld opened directory place).noteAll
    (readEvents (file directory invocation.launcherName) (.ok contents) ++
      quoteWarnings invocation.passthrough ++
      [⟨.info, .launch, s!"launching: {lineOf contents invocation.passthrough}"⟩])

/-- What comes of the stages before the supervision. -/
inductive Prepared (platform : Platform σ C M) (request : LaunchRequest) (world : World σ) :
    Except LaunchError (Supervisor C M) → World σ → Prop where
  | noArguments (none : request.args = []) :
      Prepared platform request world
        (.error (.invalidArguments "the launcher path is missing")) world
  | notText {program : Bytes} {texts : List String} {arg : Bytes} {rest : List Bytes}
      (args : request.args = program :: texts.map Utf8.ofString ++ arg :: rest)
      (notText : ¬ Utf8.IsText arg) :
      Prepared platform request world
        (.error (Invocation.notUnicode (texts.length + 1) arg)) world
  | noProfile {program : Bytes} {texts : List String}
      (args : request.args = program :: texts.map Utf8.ofString) (none : request.profile = none) :
      Prepared platform request world (.error .missingProfile) world
  | barred {invocation : Invocation} {sink : Option LogSink} {opened : World σ} {path : Path}
      {reason : SystemError} (reaches : Opened platform request world invocation sink opened)
      (barred : Barred opened invocation.program path reason) :
      Prepared platform request world (.error (.installDirectory path reason)) opened
  | unconfigured {invocation : Invocation} {sink : Option LogSink} {opened : World σ}
      {directory : Path} {place : Place}
      (reaches : Opened platform request world invocation sink opened)
      (entered : Entered opened invocation.program directory place)
      (unread : ∀ contents, opened.files.read (.live [])
        (file directory invocation.launcherName) = .ok contents → contents = []) :
      Prepared platform request world
        (.error (.missingConfiguration
          (.ofString ("lib/" ++ invocation.launcherName ++ ".ini"))))
        ((enteredWorld opened directory place).noteAll
          (readEvents (file directory invocation.launcherName)
            (opened.files.read (.live []) (file directory invocation.launcherName))))
  | unstarted {invocation : Invocation} {sink : Option LogSink} {opened after : World σ}
      {directory : Path} {place : Place} {contents : Bytes} {reason : SystemError}
      (reaches : Configured platform request world invocation sink opened directory place contents)
      (spawns : platform.spawn (lineOf contents invocation.passthrough) sink
        (readyWorld opened invocation directory place contents) = (.error reason, after)) :
      Prepared platform request world
        (.error (.spawn (lineOf contents invocation.passthrough) reason)) after
  | started {invocation : Invocation} {sink : Option LogSink} {opened spawned after : World σ}
      {directory : Path} {place : Place} {contents : Bytes} {child : C} {pump : M}
      (reaches : Configured platform request world invocation sink opened directory place contents)
      (spawns : platform.spawn (lineOf contents invocation.passthrough) sink
        (readyWorld opened invocation directory place contents) = (.ok child, spawned))
      (opens : platform.openPump invocation.launcherName spawned = (pump, after)) :
      Prepared platform request world (.ok (.start child pump request.supervision)) after

section Prepare

variable {platform : Platform σ C M} {request : LaunchRequest} {world opened after : World σ}
  {invocation : Invocation} {sink : Option LogSink} {directory path : Path} {place : Place}
  {contents : Bytes} {reason : SystemError}

theorem parse_run (args : request.args =
    invocation.program.bytes :: invocation.passthrough.map Utf8.ofString) (world : World σ) :
    (liftM (Invocation.parse request.args) : Launching σ Invocation).run world =
      (.ok invocation, world) := by
  rw [args, Invocation.parse_texts]
  rfl

/-- Up to the install directory, a launch that has opened its log comes to what entering comes to.
-/
theorem Opened.settle (reaches : Opened platform request world invocation sink opened) :
    (platform.settle request).run world =
      (InstallDirectory.enter invocation.program >>= fun directory =>
        return ⟨invocation, sink, directory⟩ : Launching σ Site).run opened := by
  obtain ⟨args, profile, known, opens⟩ := reaches
  have logged : (liftM (platform.openLog profile invocation.launcherName) :
      Launching σ (Option LogSink)).run world = (.ok sink, opened) := by
    rw [launching_lift, opens]
  rw [Platform.settle, launching_bind_ok (parse_run args world), known]
  exact launching_bind_ok logged

theorem settle_of_parse {e : LaunchError} (refuses : Invocation.parse request.args = .error e) :
    (platform.settle request).run world = (.error e, world) := by
  have stops : (liftM (Invocation.parse request.args) : Launching σ Invocation).run world =
      (.error e, world) := by
    rw [refuses]
    rfl
  exact launching_bind_error stops

theorem Opened.settle_entered (reaches : Opened platform request world invocation sink opened)
    (entered : Entered opened invocation.program directory place) :
    (platform.settle request).run world =
      (.ok ⟨invocation, sink, directory⟩, enteredWorld opened directory place) := by
  rw [reaches.settle, launching_bind_ok entered.run]
  rfl

theorem Configured.prepare
    (reaches : Configured platform request world invocation sink opened directory place contents) :
    (platform.prepare request).run world =
      (platform.start request.supervision ⟨invocation, sink, directory⟩
        (lineOf contents invocation.passthrough)).run
          (readyWorld opened invocation directory place contents) := by
  have absolute := InstallDirectory.isAbsolute_of_absolute reaches.entered.located
  have noSlash := Invocation.slash_notMem_nameOf invocation.program
  have read : (Configuration.readCommand directory invocation.launcherName).run
      (enteredWorld opened directory place) =
      (.ok (Utf8.toStringLossy contents), (enteredWorld opened directory place).noteAll
        (readEvents (file directory invocation.launcherName) (.ok contents))) :=
    Configuration.readCommand_ok noSlash absolute reaches.read reaches.filled
  have line : (commandLine ⟨invocation, sink, directory⟩ : Launching σ String).run
      (enteredWorld opened directory place) =
      (.ok (lineOf contents invocation.passthrough),
        readyWorld opened invocation directory place contents) := by
    rw [commandLine, launching_bind_ok read,
      launching_bind_ok (launching_noteAll _ _), readyWorld, World.noteAll_append,
      World.noteAll_append, lineOf, ← CommandLine.build_eq_join]
    rfl
  rw [Platform.prepare, launching_bind_ok (reaches.settle_entered reaches.entered),
    launching_bind_ok line]

/-- What comes of the stages is what the relation says. -/
theorem Prepared.run {result : Except LaunchError (Supervisor C M)}
    (prepared : Prepared platform request world result after) :
    (platform.prepare request).run world = (result, after) := by
  cases prepared with
  | noArguments none =>
    exact launching_bind_error (settle_of_parse (by rw [none]; rfl))
  | notText args notText =>
    refine launching_bind_error (settle_of_parse ?_)
    rw [args, Invocation.parse_notText _ _ notText]
  | @noProfile program texts args none =>
    let invocation : Invocation := ⟨⟨program⟩, texts⟩
    have args : request.args =
        invocation.program.bytes :: invocation.passthrough.map Utf8.ofString := args
    refine launching_bind_error ?_
    rw [Platform.settle, launching_bind_ok (parse_run args world), none]
    rfl
  | barred reaches barred =>
    refine launching_bind_error ?_
    rw [reaches.settle, launching_bind_error barred.run]
  | @unconfigured invocation sink opened directory place reaches entered unread =>
    have absolute := InstallDirectory.isAbsolute_of_absolute entered.located
    have noSlash := Invocation.slash_notMem_nameOf invocation.program
    rw [Platform.prepare, launching_bind_ok (reaches.settle_entered entered)]
    refine launching_bind_error (launching_bind_error ?_)
    exact Configuration.readCommand_error noSlash absolute unread
  | unstarted reaches spawns =>
    rw [reaches.prepare, Platform.start, launching_bind_ok (launching_lift_eq spawns)]
    rfl
  | started reaches spawns opens =>
    rw [reaches.prepare, Platform.start, launching_bind_ok (launching_lift_eq spawns)]
    exact launching_bind_ok (launching_lift_eq opens)

/-- Something always comes of the stages. -/
theorem exists_prepared (platform : Platform σ C M) (request : LaunchRequest) (world : World σ) :
    ∃ result after, Prepared platform request world result after := by
  cases args : request.args with
  | nil => exact ⟨_, _, .noArguments args⟩
  | cons program rest =>
  rcases Utf8.texts_or_notText rest with ⟨texts, rfl⟩ | ⟨texts, arg, more, rfl, notText⟩
  case inr => exact ⟨_, _, .notText args notText⟩
  cases known : request.profile with
  | none => exact ⟨_, _, .noProfile args known⟩
  | some profile =>
  rcases opens : platform.openLog profile (Invocation.nameOf ⟨program⟩) world with ⟨sink, opened⟩
  have reaches : Opened platform request world ⟨⟨program⟩, texts⟩ sink opened :=
    ⟨args, profile, known, opens⟩
  rcases InstallDirectory.entered_or_barred opened ⟨program⟩ with
    ⟨directory, place, entered⟩ | ⟨path, reason, barred⟩
  case inr => exact ⟨_, _, .barred reaches barred⟩
  by_cases unread : ∀ contents, opened.files.read (.live [])
      (file directory (Invocation.nameOf ⟨program⟩)) = .ok contents → contents = []
  case pos => exact ⟨_, _, .unconfigured reaches entered unread⟩
  obtain ⟨contents, read, filled⟩ : ∃ contents, opened.files.read (.live [])
      (file directory (Invocation.nameOf ⟨program⟩)) = .ok contents ∧ contents ≠ [] := by
    simpa using unread
  have configured : Configured platform request world ⟨⟨program⟩, texts⟩ sink opened directory
      place contents := ⟨reaches, entered, read, filled⟩
  rcases spawns : platform.spawn (lineOf contents texts) sink
    (readyWorld opened ⟨⟨program⟩, texts⟩ directory place contents) with ⟨reason | child, spawned⟩
  · exact ⟨_, _, .unstarted configured spawns⟩
  · exact ⟨_, _, .started configured spawns rfl⟩

end Prepare

/-! ## The whole launch -/

/-- What a launch comes to: the error of the first stage that fails, or what the supervision comes
to. -/
inductive Verdict (platform : Platform σ C M) (request : LaunchRequest) (world : World σ) :
    Except LaunchError Outcome → World σ → Prop where
  | stopped {e : LaunchError} {after : World σ}
      (prepared : Prepared platform request world (.error e) after) :
      Verdict platform request world (.error e) after
  | watched {s : Supervisor C M} {ready after : World σ} {outcome : Outcome}
      (prepared : Prepared platform request world (.ok s) ready)
      (ran : s.run platform.toServices ready = some (outcome, after)) :
      Verdict platform request world (.ok outcome) after

section Verdict

variable {platform : Platform σ C M} {request : LaunchRequest} {world after : World σ}
  {result : Except LaunchError Outcome}

theorem supervise_eq (platform : Platform σ C M) (request : LaunchRequest) (world : World σ) :
    (platform.supervise request).run world = match (platform.prepare request).run world with
      | (.error e, after) => some (.error e, after)
      | (.ok s, after) =>
        (s.run platform.toServices after).map fun r => (.ok r.1, r.2) := by
  rw [Platform.supervise, supervising_bind, supervising_lift_launching]
  rcases (platform.prepare request).run world with ⟨_ | s, after⟩
  · rfl
  · exact supervising_lift_waiting _ _

theorem launch_eq (platform : Platform σ C M) (request : LaunchRequest) (world : World σ) :
    platform.launch request world = ((platform.supervise request).run world).map fun
      | (.ok _, after) => (0, after)
      | (.error e, after) => (e.exitCode, (platform.report e after).2) := by
  rw [Platform.launch, waiting_bind, Option.map_eq_bind]
  congr 1
  funext r
  rcases r with ⟨_ | _, _⟩ <;> rfl

/-- A launch comes to a result exactly when this is its verdict. -/
theorem supervise_eq_some_iff :
    (platform.supervise request).run world = some (result, after) ↔
      Verdict platform request world result after := by
  constructor
  · intro comes
    obtain ⟨prepared, ready, is⟩ := exists_prepared platform request world
    rw [supervise_eq, is.run] at comes
    cases prepared with
    | error e =>
      obtain ⟨rfl, rfl⟩ := Prod.mk.inj (Option.some.inj comes)
      exact .stopped is
    | ok s =>
      obtain ⟨⟨outcome, world'⟩, ran, same⟩ := Option.map_eq_some_iff.1 comes
      obtain ⟨rfl, rfl⟩ := Prod.mk.inj same
      exact .watched is ran
  · intro verdict
    cases verdict with
    | stopped prepared => rw [supervise_eq, prepared.run]
    | watched prepared ran =>
      rw [supervise_eq, prepared.run]
      exact Option.map_eq_some_iff.2 ⟨_, ran, rfl⟩

/-- The arguments are to blame exactly when there are none, or when one after the first is no
text. -/
theorem Verdict.blames_arguments_iff (verdict : Verdict platform request world result after) :
    (∃ reason, result = .error (.invalidArguments reason)) ↔
      request.args = [] ∨ ∃ arg ∈ request.args.tail, ¬ Utf8.IsText arg := by
  have texts_fine : ∀ {program : Bytes} {texts : List String},
      request.args = program :: texts.map Utf8.ofString →
      ¬ (request.args = [] ∨ ∃ arg ∈ request.args.tail, ¬ Utf8.IsText arg) := by
    rintro program texts args (none | ⟨arg, among, notText⟩)
    · rw [args] at none
      cases none
    · rw [args, List.tail_cons] at among
      obtain ⟨text, -, rfl⟩ := List.mem_map.1 among
      exact notText ⟨text, rfl⟩
  constructor
  · rintro ⟨reason, rfl⟩
    cases verdict with
    | stopped prepared =>
    cases prepared with
    | noArguments none => exact .inl none
    | notText args notText =>
      refine .inr ⟨_, ?_, notText⟩
      rw [args]
      simp
  · intro bad
    cases verdict with
    | watched prepared ran =>
      cases prepared with
      | started reaches spawns opens => exact absurd bad (texts_fine reaches.args)
    | stopped prepared =>
      cases prepared with
      | noArguments none => exact ⟨_, rfl⟩
      | notText args notText => exact ⟨_, rfl⟩
      | noProfile args none => exact absurd bad (texts_fine args)
      | barred reaches barred => exact absurd bad (texts_fine reaches.args)
      | unconfigured reaches entered unread => exact absurd bad (texts_fine reaches.args)
      | unstarted reaches spawns => exact absurd bad (texts_fine reaches.args)

end Verdict

/-- **What a launch comes to.** On a platform whose children exit some day, every launch comes to
the one verdict that fits it: the error of the first stage that fails, or what the supervision comes
to. The exit status is zero if the child was watched to its end, whatever its own exit code was, and
otherwise that of the error, which is never zero. -/
theorem supervise_verdict (platform : Platform σ C M) (request : LaunchRequest) (world : World σ)
    (exits : ∀ line sink before child spawned name pump ready,
      platform.spawn line sink before = (.ok child, spawned) →
      platform.openPump name spawned = (pump, ready) →
      Supervisor.Exits platform.toServices request.supervision.budget child pump
        (ready.noteAll [Supervisor.startEvent request.supervision])) :
    ∃ result after,
      (platform.supervise request).run world = some (result, after) ∧
      Verdict platform request world result after ∧
      (∀ other world', Verdict platform request world other world' →
        other = result ∧ world' = after) ∧
      ((∃ reason, result = .error (.invalidArguments reason)) ↔
        request.args = [] ∨ ∃ arg ∈ request.args.tail, ¬ Utf8.IsText arg) ∧
      (∀ outcome, result = .ok outcome → platform.launch request world = some (0, after)) ∧
      (∀ e, result = .error e → e.exitCode ≠ 0 ∧
        platform.launch request world = some (e.exitCode, (platform.report e after).2)) := by
  obtain ⟨result, after, verdict⟩ :
      ∃ result after, Verdict platform request world result after := by
    obtain ⟨prepared, ready, is⟩ := exists_prepared platform request world
    cases prepared with
    | error e => exact ⟨_, _, .stopped is⟩
    | ok s =>
      cases is with
      | started reaches spawns opens =>
        obtain ⟨outcome, after, ran⟩ :=
          Supervisor.run_of_exits (exits _ _ _ _ _ _ _ _ spawns opens)
        exact ⟨_, _, .watched (.started reaches spawns opens) ran⟩
  have comes := supervise_eq_some_iff.2 verdict
  refine ⟨result, after, comes, verdict, ?_, verdict.blames_arguments_iff, ?_, ?_⟩
  · intro other world' verdict'
    have same := comes.symm.trans (supervise_eq_some_iff.2 verdict')
    obtain ⟨rfl, rfl⟩ := Prod.mk.inj (Option.some.inj same)
    exact ⟨rfl, rfl⟩
  · rintro outcome rfl
    rw [launch_eq, comes]
    rfl
  · rintro e rfl
    refine ⟨e.exitCode_ne_zero, ?_⟩
    rw [launch_eq, comes]
    rfl

/-- The child of the sample exits with 7, and the launcher with 0. -/
theorem supervise_verdict_of_sample :
    ∃ outcome after,
      ((Scripted.platform Sample.script).supervise Sample.request).run Sample.world =
        some (.ok outcome, after) ∧
      (Scripted.platform Sample.script).launch Sample.request Sample.world = some (0, after) := by
  obtain ⟨result, after, comes, -, -, -, zero, -⟩ :=
    supervise_verdict (Scripted.platform Sample.script) Sample.request Sample.world
      fun _ _ _ _ _ _ pump _ spawns _ =>
        Scripted.exits_of_script (Scripted.listed_exits _) spawns _ pump _
  have prepared : ∃ s ready, ((Scripted.platform Sample.script).prepare Sample.request).run
      Sample.world = (.ok s, ready) := ⟨_, _, rfl⟩
  obtain ⟨s, ready, prepared⟩ := prepared
  have ran := comes
  rw [supervise_eq, prepared] at ran
  obtain ⟨⟨outcome, world'⟩, -, same⟩ := Option.map_eq_some_iff.1 ran
  obtain ⟨rfl, rfl⟩ := Prod.mk.inj same
  exact ⟨outcome, world', comes, zero outcome rfl⟩

end AppLauncher.Platform
