import AppLauncher.Proofs.FileSystem.Emptied
import AppLauncher.Proofs.Launch.Effects
import AppLauncher.Proofs.Text.Words

/-!
# The command line that a child is started with

A launch that comes to start its child has read a configuration file that holds something. This is
not the log, which was emptied before, so the file held the same when the launch began
(`read_before`). Everything that has happened by then is known (`happened_of_configured`), and no
later event warns of a quote.

**`spawned_line`**: the child is started with the contents of the file as text and every argument
between quotes, after one warning for each argument with a quote in it. Without such arguments the
line falls into the words of the file and the arguments, if the file leaves quoting off.
-/

namespace AppLauncher.Scripted

open Platform (Opened Configured Prepared lineOf readyWorld)
open InstallDirectory (Entered enterEvent enteredWorld)
open AppLauncher.Configuration (file readEvents)
open Supervisor (startEvent exitEvent)

variable {C M : Type}

/-- The warning about an argument with a quote in it. -/
def quoteWarning (arg : String) : Event :=
  ⟨.warn, .launch, s!"argument contains an unescaped quote: {arg}"⟩

/-- The last event before a child is started. -/
def launchingEvent (line : String) : Event :=
  ⟨.info, .launch, s!"launching: {line}"⟩

section Before

variable {script : Script C M} {request : LaunchRequest} {world opened after : World (List Moment)}
  {invocation : Invocation} {sink : Option LogSink} {directory : Path} {place : Place}
  {contents : Bytes}

/-- What is read of the configuration once the log has been opened, could be read before. -/
theorem read_before (reaches :
    Configured (platform script) request world invocation sink opened directory place contents) :
    world.files.read (.live []) (file directory invocation.launcherName) = .ok contents := by
  obtain ⟨program, rest, profile, args, known, log⟩ := logOpened_of_opened reaches.toOpened
  dsimp only at log
  cases found : world.files.openEmpty world.here
      (LogSink.pathFor profile (Invocation.nameOf ⟨program⟩)) with
  | error reason =>
    simp only [found] at log
    rw [← log.2]
    exact reaches.read
  | ok result =>
    simp only [found] at log
    have read := reaches.read
    rw [log.2] at read
    exact FileSystem.read_of_openEmpty found read reaches.filled

theorem quoteWarnings_eq (args : List String) :
    Platform.quoteWarnings args =
      (args.filter fun arg => arg.toList.contains '"').map quoteWarning := rfl

/-- Everything that has happened when the child is about to be started. -/
theorem happened_of_configured (reaches :
    Configured (platform script) request world invocation sink opened directory place contents) :
    ∃ early : List Event, (∀ event ∈ early, event.origin ≠ .launch) ∧
      Happened world (readyWorld opened invocation directory place contents)
        ((early ++
          (invocation.passthrough.filter fun arg => arg.toList.contains '"').map quoteWarning ++
          [launchingEvent (lineOf contents invocation.passthrough)]).map .event) := by
  obtain ⟨-, -, logged, -, fromLog, happened⟩ := happened_of_opened reaches.toOpened
  have entered : Happened opened (enteredWorld opened directory place)
      [.event (enterEvent directory)] :=
    .of_replay opened opened.files place [.event (enterEvent directory)]
  let told := readEvents (file directory invocation.launcherName) (.ok contents) ++
    Platform.quoteWarnings invocation.passthrough ++
      [launchingEvent (lineOf contents invocation.passthrough)]
  have ready : Happened (enteredWorld opened directory place)
      (readyWorld opened invocation directory place contents) (told.map .event) := by
    have noted : readyWorld opened invocation directory place contents =
        Scripted.replay (enteredWorld opened directory place) (told.map .event) := by
      rw [replay_events]
      rfl
    rw [noted]
    exact .replay _ _
  refine ⟨logged :: enterEvent directory ::
    readEvents (file directory invocation.launcherName) (.ok contents), ?_, ?_⟩
  · intro event among
    rcases List.mem_cons.1 among with rfl | among
    · rw [fromLog]
      decide
    rcases List.mem_cons.1 among with rfl | among
    · nofun
    cases contents with
    | nil => cases among
    | cons b rest =>
      obtain rfl := List.mem_singleton.1 among
      nofun
  · have whole := happened.trans (entered.trans ready)
    simp only [told, quoteWarnings_eq] at whole
    simpa only [List.map_append, List.map_cons, List.map_nil, List.cons_append, List.nil_append,
      List.append_assoc] using whole

/-- Where only events were told, no child was started. -/
theorem spawnFree_of_told (told : Told world after) :
    ∃ history, Happened world after history ∧
      ∀ line path, .call (.spawn line path) ∉ history := by
  obtain ⟨events, -, happened⟩ := told
  exact ⟨events.map .event, happened, by simp⟩

end Before

/-! ## What comes after the start -/

/-- No warning about a quote is among some happenings. -/
def QuoteFree (history : List Happening) : Prop :=
  ∀ arg, .event (quoteWarning arg) ∉ history

/-- Happenings that can follow the start of a child: no other child is started. -/
structure Afterwards (history : List Happening) : Prop where
  quoteFree : QuoteFree history
  spawnFree : ∀ line path, .call (.spawn line path) ∉ history

theorem Afterwards.append {first second : List Happening} (before : Afterwards first)
    (after : Afterwards second) : Afterwards (first ++ second) where
  quoteFree arg among := (List.mem_append.1 among).elim (before.quoteFree arg) (after.quoteFree arg)
  spawnFree line path among :=
    (List.mem_append.1 among).elim (before.spawnFree line path) (after.spawnFree line path)

theorem afterwards_rounds (budget : UInt64) (rounds : List Round) :
    Afterwards (rounds.flatMap (roundHappenings budget)) := by
  constructor
  · intro arg among
    obtain ⟨r, -, among⟩ := List.mem_flatMap.1 among
    rw [roundHappenings_eq] at among
    cases answer : r.answer <;> simp [answer, quoteWarning] at among
  · intro line path among
    obtain ⟨r, -, among⟩ := List.mem_flatMap.1 among
    rw [roundHappenings_eq] at among
    cases answer : r.answer <;> simp [answer] at among

theorem afterwards_progress {b : Behaviour C M} {child : C} {pump : M} {config : SupervisorConfig}
    {s : Supervisor C M} {history : List Happening}
    (progress : Progress b child pump config s history) : Afterwards history := by
  cases progress with
  | rounds n goesOn => exact afterwards_rounds _ _
  | exit k code goesOn exits =>
    refine (afterwards_rounds _ _).append ⟨fun arg among => ?_, fun line path among => ?_⟩
    · simp [exitHappenings, exitEvent, quoteWarning] at among
    · simp [exitHappenings] at among

/-- What a launch that stops tells of it. -/
theorem afterwards_report (e : LaunchError) :
    Afterwards [.event ⟨.error, .launch, s!"{e.caption}: {e.message}"⟩,
      .call (.dialog e.caption e.message)] := by
  constructor
  · intro arg among
    simp [quoteWarning] at among
  · intro line path among
    simp at among

/-! ## The whole launch -/

/-- What may have happened of a launch by some time: all of it, if it has ended, or else what
happened until some poll of the child. -/
inductive Underway (script : Script C M) (request : LaunchRequest) (world : World (List Moment)) :
    List Happening → Prop where
  | ended {status : Int32} {final : World (List Moment)} {history : List Happening}
      (comes : (platform script).launch request world = some (status, final))
      (happened : Happened world final history) : Underway script request world history
  | watching {s s' : Supervisor C M} {ready now : World (List Moment)} {history : List Happening}
      (polls : Nat) (prepared : ((platform script).prepare request).run world = (.ok s, ready))
      (stepped : s.steps (platform script).toServices polls
        (ready.noteAll [startEvent request.supervision]) = (s', now))
      (happened : Happened world now history) : Underway script request world history

section Launch

variable {script : Script C M} {request : LaunchRequest} {world ready : World (List Moment)}

/-- A supervisor that has been prepared watches the child of the script. -/
theorem supervisor_of_prepared {s : Supervisor C M}
    (prepared : Prepared (platform script) request world (.ok s) ready) :
    s = .start script.child script.pump request.supervision := by
  cases prepared with
  | started reaches spawns opens =>
    obtain ⟨rfl, -⟩ := started_of_spawn script _ spawns
    rw [openPump_eq] at opens
    rw [(Prod.mk.inj opens).1]

/-- What the stages before the supervision leave: no child was started, or it was with the command
line that the stages before came to. -/
theorem spawned_of_prepared {result : Except LaunchError (Supervisor C M)}
    (prepared : Prepared (platform script) request world result ready) :
    (∃ before, Happened world ready before ∧ ∀ line path, .call (.spawn line path) ∉ before) ∨
    ∃ invocation sink opened directory place contents later,
      Configured (platform script) request world invocation sink opened directory place contents ∧
      Happened (readyWorld opened invocation directory place contents) ready
        (.call (.spawn (lineOf contents invocation.passthrough) (sink.map LogSink.path)) ::
          later) ∧
      Afterwards later := by
  have nothing : Told world world := ⟨[], nofun, .replay world []⟩
  cases prepared with
  | noArguments none => exact .inl (spawnFree_of_told nothing)
  | notText args notText => exact .inl (spawnFree_of_told nothing)
  | noProfile args none => exact .inl (spawnFree_of_told nothing)
  | barred reaches barred => exact .inl (spawnFree_of_told (told_of_opened reaches))
  | unconfigured reaches entered unread =>
    exact .inl (spawnFree_of_told ((told_of_opened reaches).trans
      ((told_enteredWorld _ _ _).trans (told_noteAll _ (level_of_readEvents _ _)))))
  | unstarted reaches spawns =>
    obtain rfl := unstarted_of_spawn script _ spawns
    exact .inr ⟨_, _, _, _, _, _, [], reaches, .replay _ _, nofun, nofun⟩
  | @started invocation _ _ _ _ _ _ _ _ _ reaches spawns opens =>
    obtain ⟨-, rfl⟩ := started_of_spawn script _ spawns
    rw [openPump_eq] at opens
    obtain ⟨-, rfl⟩ := Prod.mk.inj opens
    refine .inr ⟨_, _, _, _, _, _, [.call (.openPump invocation.launcherName)], reaches, ?_, ?_⟩
    · exact (Happened.of_replay _ _ _ _).trans (.replay _ _)
    · exact ⟨by simp [QuoteFree], by simp⟩

/-- Something has happened by the time of the supervision. -/
theorem happened_of_prepared {result : Except LaunchError (Supervisor C M)}
    (prepared : Prepared (platform script) request world result ready) :
    ∃ before, Happened world ready before := by
  rcases spawned_of_prepared prepared with ⟨before, happened, -⟩ |
    ⟨_, _, _, _, _, _, _, reaches, starts, -⟩
  · exact ⟨before, happened⟩
  · obtain ⟨_, -, happened⟩ := happened_of_configured reaches
    exact ⟨_, happened.trans starts⟩

/-- A launch that ends after a supervisor has been prepared, ends with its run. -/
theorem run_of_launch {s : Supervisor C M} {status : Int32} {final : World (List Moment)}
    (prepared : Prepared (platform script) request world (.ok s) ready)
    (comes : (platform script).launch request world = some (status, final)) :
    ∃ outcome, s.run (platform script).toServices ready = some (outcome, final) := by
  rw [Platform.launch_eq, Platform.supervise_eq, prepared.run] at comes
  obtain ⟨⟨outcome, after⟩, ran, same⟩ : ∃ ran,
      s.run (platform script).toServices ready = some ran ∧ (0, ran.2) = (status, final) := by
    simpa using comes
  obtain ⟨-, rfl⟩ := Prod.mk.inj same
  exact ⟨outcome, ran⟩

/-- After the stages before the supervision, whatever happens can follow the start of a child. -/
theorem Underway.split {history : List Happening} (underway : Underway script request world history)
    {result : Except LaunchError (Supervisor C M)}
    (prepared : Prepared (platform script) request world result ready) {before : List Happening}
    (happened : Happened world ready before) :
    ∃ rest, history = before ++ rest ∧ Afterwards rest := by
  cases underway with
  | @ended status final _ comes happened' =>
    cases result with
    | error e =>
      have stops := launch_of_error prepared
      obtain ⟨-, rfl⟩ := Prod.mk.inj (Option.some.inj (comes.symm.trans stops))
      exact ⟨_, happened'.unique (happened.trans (.replay ready _)), afterwards_report e⟩
    | ok s =>
      obtain ⟨outcome, ran⟩ := run_of_launch prepared comes
      obtain rfl := supervisor_of_prepared prepared
      obtain ⟨s', more, -, -, rfl, progress⟩ := progress_start.run ran
      refine ⟨_, happened'.unique (happened.trans (.replay ready _)), ?_⟩
      have first : Afterwards [.event (startEvent request.supervision)] :=
        ⟨by simp [QuoteFree, quoteWarning, startEvent], by simp⟩
      exact first.append (afterwards_progress progress)
  | @watching s s' ready' now _ polls prepared' stepped happened' =>
    obtain ⟨rfl, rfl⟩ := Prod.mk.inj (prepared.run.symm.trans prepared')
    obtain rfl := supervisor_of_prepared prepared
    obtain ⟨s'', more, reached, progress⟩ := progress_start.steps polls
    obtain ⟨-, rfl⟩ := Prod.mk.inj
      (stepped.symm.trans (reached (replay ready [.event (startEvent request.supervision)])))
    rw [← replay_append] at happened'
    refine ⟨_, happened'.unique (happened.trans (.replay ready _)), ?_⟩
    have first : Afterwards [.event (startEvent request.supervision)] :=
      ⟨by simp [QuoteFree, quoteWarning, startEvent], by simp⟩
    exact first.append (afterwards_progress progress)

/-- Between the beginning and the end of a launch something has happened. -/
theorem happened_of_launch {status : Int32} {final : World (List Moment)}
    (comes : (platform script).launch request world = some (status, final)) :
    ∃ history, Happened world final history := by
  obtain ⟨result, ready, prepared⟩ := Platform.exists_prepared (platform script) request world
  obtain ⟨before, happened⟩ := happened_of_prepared prepared
  cases result with
  | error e =>
    rw [launch_of_error prepared] at comes
    obtain ⟨-, rfl⟩ := Prod.mk.inj (Option.some.inj comes)
    exact ⟨_, happened.trans (.replay ready _)⟩
  | ok s =>
    obtain ⟨outcome, ran⟩ := run_of_launch prepared comes
    obtain rfl := supervisor_of_prepared prepared
    obtain ⟨s', more, -, -, rfl, -⟩ := progress_start.run ran
    exact ⟨_, happened.trans (.replay ready _)⟩

/-- A child that was started was started once, with the command line and the log that the stages
before came to. -/
theorem Underway.started {history : List Happening} {line : String} {path : Option Path}
    (underway : Underway script request world history)
    (spawned : .call (.spawn line path) ∈ history) :
    ∃ invocation sink opened directory place contents before later,
      Configured (platform script) request world invocation sink opened directory place contents ∧
      Happened world (readyWorld opened invocation directory place contents) before ∧
      history = before ++ .call (.spawn line path) :: later ∧ Afterwards later ∧
      line = lineOf contents invocation.passthrough ∧ path = sink.map LogSink.path := by
  obtain ⟨result, ready, prepared⟩ := Platform.exists_prepared (platform script) request world
  rcases spawned_of_prepared prepared with ⟨before, happened, none⟩ |
    ⟨invocation, sink, opened, directory, place, contents, later, reaches, starts, afterwards⟩
  · obtain ⟨rest, rfl, afterwards⟩ := underway.split prepared happened
    exact absurd spawned fun among =>
      (List.mem_append.1 among).elim (none line path) (afterwards.spawnFree line path)
  obtain ⟨early, -, happened⟩ := happened_of_configured reaches
  obtain ⟨rest, rfl, afterwards'⟩ := underway.split prepared (happened.trans starts)
  -- The one start of a child in the history is the one that was found.
  have same : line = lineOf contents invocation.passthrough ∧ path = sink.map LogSink.path := by
    have last := (afterwards.append afterwards').spawnFree line path
    rw [List.append_assoc, List.mem_append, List.cons_append, List.mem_cons] at spawned
    rcases spawned with among | same | among
    · simp at among
    · simpa using same
    · exact absurd among last
  obtain ⟨rfl, rfl⟩ := same
  refine ⟨invocation, sink, opened, directory, place, contents, _, later ++ rest, reaches, happened,
    ?_, afterwards.append afterwards', rfl, rfl⟩
  rw [List.append_assoc, List.cons_append]

end Launch

/-- **The command line of a child.** A launch that starts a child, whether it ends or goes on for
ever, starts it with what its configuration file held when the launch began, decoded as text and not
trimmed, and with the arguments after it, each between quotes. Right before, it has told one warning
for each argument with a quote in it, in their order, and then the command line; there are no other
such warnings. If there are none at all, and the file leaves quoting off, then the words of the line
are those of the file and the arguments. -/
theorem spawned_line {script : Script C M} {request : LaunchRequest} {world : World (List Moment)}
    {history : List Happening} {line : String} {path : Option Path}
    (underway : Underway script request world history)
    (spawned : .call (.spawn line path) ∈ history) :
    ∃ (program : Bytes) (texts : List String) (directory : Path) (contents : Bytes)
        (before later : List Happening),
      request.args = program :: texts.map Utf8.ofString ∧
      InstallDirectory.absolute world.here
        (InstallDirectory.derive world.executableDirectory ⟨program⟩) = .ok directory ∧
      world.files.read (.live [])
        (directory.join (.ofString ("lib/" ++ Invocation.nameOf ⟨program⟩ ++ ".ini"))) =
          .ok contents ∧
      contents ≠ [] ∧
      line = Utf8.toStringLossy contents ++
        String.join (texts.map fun arg => " \"" ++ arg ++ "\"") ∧
      history = before ++ ((texts.filter fun arg => arg.toList.contains '"').map quoteWarning ++
        [launchingEvent line]).map .event ++ .call (.spawn line path) :: later ∧
      QuoteFree before ∧ QuoteFree later ∧
      (QuoteFree history → (Utf8.toStringLossy contents).toList.count '"' % 2 = 0 →
        Words.split line.toList =
          Words.split (Utf8.toStringLossy contents).toList ++ texts.map String.toList) := by
  obtain ⟨invocation, sink, opened, directory, place, contents, before, later, reaches, happened,
    rfl, afterwards, rfl, rfl⟩ := underway.started spawned
  obtain ⟨early, apart, happened'⟩ := happened_of_configured reaches
  obtain rfl := happened.unique happened'
  have located := reaches.entered.located
  obtain ⟨sameHere, sameExecutable, -⟩ := happened_of_opened reaches.toOpened
  rw [sameHere, sameExecutable] at located
  refine ⟨_, invocation.passthrough, directory, contents, early.map .event, later, reaches.args,
    located, read_before reaches, reaches.filled, rfl, ?_, ?_, afterwards.quoteFree, ?_⟩
  · simp
  · intro arg among
    obtain ⟨event, isEarly, same⟩ := List.mem_map.1 among
    obtain rfl := Happening.event.inj same
    exact apart _ isEarly rfl
  · intro free even
    -- An argument with a quote in it would have been warned about.
    have plain : ∀ arg ∈ invocation.passthrough, CommandLine.hasEmbeddedQuote arg = false := by
      intro arg isArg
      refine Bool.eq_false_iff.2 fun holds => free arg ?_
      have told : quoteWarning arg ∈
          (invocation.passthrough.filter fun arg => arg.toList.contains '"').map quoteWarning :=
        List.mem_map_of_mem (List.mem_filter.2 ⟨isArg, holds⟩)
      simp only [List.map_append, List.mem_append]
      exact .inl (.inl (.inr (List.mem_map_of_mem told)))
    rw [lineOf, ← CommandLine.build_eq_join]
    exact Words.split_build (by simp [Words.isBalanced, even]) plain

/-- A launch of the sample starts a child. -/
theorem exists_spawned_of_spaces :
    ∃ history line path, Underway Sample.script Sample.spacedRequest Sample.world history ∧
      .call (.spawn line path) ∈ history := by
  obtain ⟨s, ready, passes⟩ :
      ∃ s ready, ((platform Sample.script).prepare Sample.spacedRequest).run Sample.world =
        (.ok s, ready) := ⟨_, _, rfl⟩
  obtain ⟨result, ready', prepared⟩ :=
    Platform.exists_prepared (platform Sample.script) Sample.spacedRequest Sample.world
  obtain ⟨rfl, rfl⟩ := Prod.mk.inj (prepared.run.symm.trans passes)
  cases prepared with
  | @started invocation sink opened spawned _ directory place contents child pump reaches spawns
      opens =>
    obtain ⟨early, -, happened⟩ := happened_of_configured reaches
    obtain ⟨-, spawned_eq⟩ := started_of_spawn Sample.script _ spawns
    have starts : Happened (readyWorld opened invocation directory place contents) spawned
        [.call (.spawn (lineOf contents invocation.passthrough) (sink.map LogSink.path))] := by
      rw [spawned_eq]
      exact .of_replay _ _ _ _
    rw [openPump_eq] at opens
    obtain ⟨-, rfl⟩ := Prod.mk.inj opens
    have prepared := (happened.trans starts).trans
      (.replay spawned [.call (.openPump invocation.launcherName)])
    have watched := prepared.trans
      (.replay _ [.event (startEvent Sample.spacedRequest.supervision)])
    exact ⟨_, lineOf contents invocation.passthrough, sink.map LogSink.path,
      .watching 0 passes rfl watched, by simp⟩

/-- Each of the two arguments is one word. -/
theorem spawned_line_of_spaces :
    ∃ history path, Underway Sample.script Sample.spacedRequest Sample.world history ∧
      .call (.spawn "run \"a b\" \"\"" path) ∈ history ∧ QuoteFree history ∧
      Words.split "run \"a b\" \"\"".toList = ["run".toList, "a b".toList, []] := by
  obtain ⟨history, line, path, underway, spawned⟩ := exists_spawned_of_spaces
  obtain ⟨program, texts, directory, contents, before, later, args, located, read, -, lineEq, eq,
    free, free', words⟩ := spawned_line underway spawned
  obtain ⟨rfl, rest⟩ := List.cons.inj args
  obtain rfl : ["a b", ""] = texts := List.map_injective_iff.2 Utf8.ofString_injective rest
  obtain rfl : Path.ofString "/app" = directory := by
    rw [show InstallDirectory.absolute _ _ = .ok (Path.ofString "/app") from by decide] at located
    exact Except.ok.inj located
  obtain rfl : Utf8.ofString "run" = contents := Except.ok.inj read
  have line_eq : line = "run \"a b\" \"\"" := by
    rw [lineEq]
    decide
  have quoteFree : QuoteFree history := by
    rw [eq]
    intro arg among
    rcases List.mem_append.1 among with among | among
    · rcases List.mem_append.1 among with among | among
      · exact free arg among
      · simp [quoteWarning, launchingEvent] at among
    · rcases List.mem_cons.1 among with same | among
      · cases same
      · exact free' arg among
  subst line_eq
  refine ⟨_, _, underway, spawned, quoteFree, ?_⟩
  rw [words quoteFree (by decide)]
  decide

end AppLauncher.Scripted
