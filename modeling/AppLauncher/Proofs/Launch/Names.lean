import AppLauncher.Program
import AppLauncher.Proofs.Launch.Effects
import AppLauncher.Proofs.Path.Entries

/-!
# What is named after a launcher

A launcher takes its name from the path it was started by, and everything that belongs to it is
found by this name: the configuration file, the log of the child, the event queue, and the
diagnostic log of the program. `Shows` says of one happening that it shows no other name, and
`GoesBy` says of all the stages before the supervision that they go by one name.

**`name_of_launcher`**: whatever path a launcher is started by, its files are entries of the
directories they belong in, and the name can be read back from each of them.
-/

namespace AppLauncher.Platform

theorem Opened.launcherName_eq {σ C M : Type} {platform : Platform σ C M}
    {request : LaunchRequest} {world opened : World σ} {invocation : Invocation}
    {sink : Option LogSink} (reaches : Opened platform request world invocation sink opened) :
    invocation.launcherName = Program.nameOf request.args := by
  rw [Program.nameOf, reaches.args]
  rfl

end AppLauncher.Platform

namespace AppLauncher.Scripted

open Platform (Opened Configured Prepared lineOf readyWorld)
open InstallDirectory (Entered enterEvent enteredWorld)
open AppLauncher.Configuration (file readEvents)

variable {C M : Type}

/-- An event about the log of the child at some path. -/
def IsAboutLog (event : Event) (path : Path) : Prop :=
  event = redirectedEvent path ∨ ∃ reason, event = uncapturedEvent path reason

/-- Where an event shows the name of a launcher, it shows this one. -/
structure EventShows (name : String) (profile : Option Path) (event : Event) : Prop where
  log : event.origin = .logSink →
    ∃ p, profile = some p ∧ IsAboutLog event (LogSink.pathFor p name)
  configuration : event.origin = .configuration →
    ∃ (directory : Path) (read : Except SystemError Bytes),
      event ∈ readEvents (directory.join (Configuration.path name)) read

/-- Where a happening shows the name of a launcher, it shows this one. -/
def Shows (name : String) (profile : Option Path) : Happening → Prop
  | .event event => EventShows name profile event
  | .call (.openPump other) => other = name
  | .call (.spawn _ sink) => ∀ path, sink = some path →
    ∃ p, profile = some p ∧ path = LogSink.pathFor p name
  | .call _ => True

/-- Happenings that begin with the log of the launcher, and show no other name. -/
structure Named (name : String) (profile : Option Path) (history : List Happening) : Prop where
  logged : ∃ p event rest, profile = some p ∧ history = .event event :: rest ∧
    IsAboutLog event (LogSink.pathFor p name)
  shows : ∀ h ∈ history, Shows name profile h

/-- The stages before the supervision, with this result and these happenings, go by one name: the
log is opened by it as soon as the arguments and the profile are there, and the event queue once the
child has been started. -/
structure GoesBy (name : String) (request : LaunchRequest)
    (result : Except LaunchError (Supervisor C M)) (history : List Happening) : Prop where
  named : ((∃ reason, result = .error (.invalidArguments reason)) ∨
    result = .error .missingProfile) ∧ history = [] ∨ Named name request.profile history
  unconfigured : ∀ path, result = .error (.missingConfiguration path) →
    path = Configuration.path name
  served : ∀ s, result = .ok s → .call (.openPump name) ∈ history

section Shows

variable {name : String} {profile : Option Path}

theorem eventShows_of_origin {event : Event} (noLog : event.origin ≠ .logSink)
    (noConfiguration : event.origin ≠ .configuration) : EventShows name profile event :=
  ⟨fun log => absurd log noLog, fun configuration => absurd configuration noConfiguration⟩

theorem eventShows_readEvents (noSlash : '/' ∉ name.toList) (directory : Path)
    (read : Except SystemError Bytes) :
    ∀ event ∈ readEvents (file directory name) read, EventShows name profile event := by
  intro event among
  have origin : event.origin = .configuration := by
    rcases read with reason | _ | _ <;> simp [readEvents] at among <;> simp [among]
  constructor
  · intro log
    rw [origin] at log
    cases log
  · intro _
    rw [← Configuration.file_eq directory noSlash] at among
    exact ⟨directory, read, among⟩

theorem Named.append {first more : List Happening} (named : Named name profile first)
    (shows : ∀ h ∈ more, Shows name profile h) : Named name profile (first ++ more) := by
  obtain ⟨⟨p, event, rest, known, rfl, aboutLog⟩, showsFirst⟩ := named
  constructor
  · exact ⟨p, event, rest ++ more, known, rfl, aboutLog⟩
  · intro h among
    rcases List.mem_append.1 among with among | among
    · exact showsFirst h among
    · exact shows h among

theorem Named.append_events {first : List Happening} {events : List Event}
    (named : Named name profile first) (shows : ∀ e ∈ events, EventShows name profile e) :
    Named name profile (first ++ events.map .event) := by
  apply named.append
  intro h among
  obtain ⟨e, isEvent, rfl⟩ := List.mem_map.1 among
  exact shows e isEvent

end Shows

theorem Happened.noteAll {world between : World (List Moment)} {history : List Happening}
    (happened : Happened world between history) (events : List Event) :
    Happened world (between.noteAll events) (history ++ events.map .event) := by
  rw [← replay_events]
  exact happened.trans (.replay between _)

section Stages

variable {script : Script C M} {request : LaunchRequest} {world opened after : World (List Moment)}
  {invocation : Invocation} {sink : Option LogSink} {directory : Path} {place : Place}
  {contents : Bytes}

/-- Opening the log is told with the path in the profile, which is also the path of the sink. -/
theorem named_of_opened
    (reaches : Opened (platform script) request world invocation sink opened) :
    ∃ history, Happened world opened history ∧
      Named invocation.launcherName request.profile history ∧
      ∀ line, Shows invocation.launcherName request.profile
        (.call (.spawn line (sink.map LogSink.path))) := by
  obtain ⟨-, profile, known, opens⟩ := reaches
  let path := LogSink.pathFor profile invocation.launcherName
  have named : ∀ event, IsAboutLog event path → event.origin = .logSink →
      Named invocation.launcherName request.profile [.event event] := by
    intro event aboutLog origin
    refine ⟨⟨profile, event, [], known, rfl, aboutLog⟩, ?_⟩
    intro h among
    obtain rfl := List.mem_singleton.1 among
    refine ⟨fun _ => ⟨profile, known, aboutLog⟩, ?_⟩
    intro configuration
    rw [origin] at configuration
    cases configuration
  cases found : world.files.openEmpty world.here path with
  | error reason =>
    rw [openLog_error script world found] at opens
    obtain ⟨rfl, rfl⟩ := Prod.mk.inj opens
    exact ⟨_, .replay world _, named _ (.inr ⟨reason, rfl⟩) rfl, fun _ => nofun⟩
  | ok result =>
    rw [openLog_ok script world found] at opens
    obtain ⟨rfl, rfl⟩ := Prod.mk.inj opens
    refine ⟨_, .of_replay world result.2 world.here _, named _ (.inl rfl) rfl, ?_⟩
    intro line other same
    exact ⟨profile, known, (Option.some.inj same).symm⟩

/-- Entering the install directory shows no name. -/
theorem named_of_entered
    (reaches : Opened (platform script) request world invocation sink opened) (directory : Path)
    (place : Place) :
    ∃ history, Happened world (enteredWorld opened directory place) history ∧
      Named invocation.launcherName request.profile history ∧
      ∀ line, Shows invocation.launcherName request.profile
        (.call (.spawn line (sink.map LogSink.path))) := by
  obtain ⟨history, happened, named, spawned⟩ := named_of_opened reaches
  have entered : Happened opened (enteredWorld opened directory place)
      [.event (enterEvent directory)] :=
    .of_replay opened opened.files place [.event (enterEvent directory)]
  refine ⟨_, happened.trans entered, ?_, spawned⟩
  apply named.append
  intro h among
  obtain rfl := List.mem_singleton.1 among
  exact eventShows_of_origin nofun nofun

theorem named_of_configured (reaches :
    Configured (platform script) request world invocation sink opened directory place contents) :
    ∃ history, Happened world (readyWorld opened invocation directory place contents) history ∧
      Named invocation.launcherName request.profile history ∧
      ∀ line, Shows invocation.launcherName request.profile
        (.call (.spawn line (sink.map LogSink.path))) := by
  have noSlash := Invocation.slash_notMem_nameOf invocation.program
  obtain ⟨history, happened, named, spawned⟩ := named_of_entered reaches.toOpened directory place
  refine ⟨_, happened.noteAll _, named.append_events ?_, spawned⟩
  intro event among
  rcases List.mem_append.1 among with among | among
  · rcases List.mem_append.1 among with among | among
    · exact eventShows_readEvents noSlash directory _ event among
    · obtain ⟨arg, -, rfl⟩ := List.mem_map.1 among
      exact eventShows_of_origin nofun nofun
  · obtain rfl := List.mem_singleton.1 among
    exact eventShows_of_origin nofun nofun

/-- **The stages of a launch go by one name**, and it is the one that the program has for it. -/
theorem goesBy_of_prepared {result : Except LaunchError (Supervisor C M)}
    (prepared : Prepared (platform script) request world result after) :
    ∃ history, Happened world after history ∧
      GoesBy (Program.nameOf request.args) request result history := by
  cases prepared with
  | noArguments none =>
    exact ⟨[], .replay world [], .inl ⟨.inl ⟨_, rfl⟩, rfl⟩, nofun, nofun⟩
  | notText args notText =>
    exact ⟨[], .replay world [], .inl ⟨.inl ⟨_, rfl⟩, rfl⟩, nofun, nofun⟩
  | noProfile args none =>
    exact ⟨[], .replay world [], .inl ⟨.inr rfl, rfl⟩, nofun, nofun⟩
  | barred reaches barred =>
    rw [← reaches.launcherName_eq]
    obtain ⟨history, happened, named, -⟩ := named_of_opened reaches
    exact ⟨history, happened, .inr named, nofun, nofun⟩
  | @unconfigured invocation sink opened directory place reaches entered unread =>
    rw [← reaches.launcherName_eq]
    have noSlash : '/' ∉ invocation.launcherName.toList := Invocation.slash_notMem_nameOf _
    obtain ⟨history, happened, named, -⟩ := named_of_entered reaches directory place
    refine ⟨_, happened.noteAll _, .inr (named.append_events ?_), ?_, nofun⟩
    · exact eventShows_readEvents noSlash directory _
    · intro path same
      rw [Configuration.path_eq noSlash]
      simpa using same.symm
  | unstarted reaches spawns =>
    rw [← reaches.launcherName_eq]
    obtain rfl := unstarted_of_spawn script _ spawns
    obtain ⟨history, happened, named, spawned⟩ := named_of_configured reaches
    refine ⟨_, happened.trans (.replay _ _), .inr (named.append ?_), nofun, nofun⟩
    intro h among
    obtain rfl := List.mem_singleton.1 among
    exact spawned _
  | @started invocation sink opened spawned _ directory place contents child pump reaches spawns
      opens =>
    rw [← reaches.launcherName_eq]
    obtain ⟨-, spawned_eq⟩ := started_of_spawn script _ spawns
    rw [openPump_eq] at opens
    obtain ⟨-, rfl⟩ := Prod.mk.inj opens
    obtain ⟨history, happened, named, showsSpawn⟩ := named_of_configured reaches
    have starts : Happened (readyWorld opened invocation directory place contents) spawned
        [.call (.spawn (lineOf contents invocation.passthrough) (sink.map LogSink.path))] := by
      rw [spawned_eq]
      exact .of_replay _ _ _ _
    refine ⟨_, (happened.trans starts).trans (.replay spawned _),
      .inr ((named.append ?_).append ?_), nofun, ?_⟩
    · intro h among
      obtain rfl := List.mem_singleton.1 among
      exact showsSpawn _
    · intro h among
      obtain rfl := List.mem_singleton.1 among
      rfl
    · intro s _
      simp

end Stages

end AppLauncher.Scripted

namespace AppLauncher.Invocation

open Scripted (Script Moment Happened GoesBy)

variable {C M : Type}

/-- What was parsed goes by the name that the program found. -/
theorem nameOf_of_parse {args : List Bytes} {invocation : Invocation}
    (parsed : parse args = .ok invocation) : Program.nameOf args = invocation.launcherName := by
  cases args with
  | nil => cases parsed
  | cons program rest =>
    rw [parse] at parsed
    cases reads : readTexts 1 rest with
    | error e =>
      rw [reads] at parsed
      cases parsed
    | ok texts =>
      rw [reads] at parsed
      obtain rfl := Except.ok.inj parsed
      rfl

/-- **The name of a launcher.** It is not empty and has no slash, so the configuration file is an
entry of the directory `lib`, seen from the install directory or from anywhere else, and the log is
an entry of the profile, however these directories are written. A launcher that is called like one
of these files has the same name, and two launchers with different names have different files. The
name that the program finds in the arguments is the one that a launch goes by. -/
theorem name_of_launcher (program directory profile : Path) :
    let name := nameOf program
    (name ≠ "" ∧ '/' ∉ name.toList) ∧
    Path.Entry (.ofString "lib") (Utf8.ofString (name ++ ".ini")) (Configuration.path name) ∧
    Path.Entry (directory.join (.ofString "lib")) (Utf8.ofString (name ++ ".ini"))
      (directory.join (Configuration.path name)) ∧
    Path.Entry profile (Utf8.ofString (name ++ ".log")) (LogSink.pathFor profile name) ∧
    (nameOf (Configuration.path name) = name ∧
      nameOf (directory.join (Configuration.path name)) = name ∧
      nameOf (LogSink.pathFor profile name) = name) ∧
    (∀ other, nameOf other ≠ name →
      Configuration.path (nameOf other) ≠ Configuration.path name ∧
      directory.join (Configuration.path (nameOf other)) ≠
        directory.join (Configuration.path name) ∧
      LogSink.pathFor profile (nameOf other) ≠ LogSink.pathFor profile name) ∧
    (∀ args invocation, parse args = .ok invocation →
      Program.nameOf args = invocation.launcherName) ∧
    ∀ (script : Script C M) (request : LaunchRequest) (world : World (List Moment)),
      ∃ result ready history,
        ((Scripted.platform script).prepare request).run world = (result, ready) ∧
        Happened world ready history ∧
        GoesBy (Program.nameOf request.args) request result history := by
  intro name
  have filled : ∀ p, nameOf p ≠ "" := nameOf_ne_empty
  have noSlash : ∀ p, '/' ∉ (nameOf p).toList := slash_notMem_nameOf
  have relative : ∀ p, nameOf (Configuration.path (nameOf p)) = nameOf p := fun p =>
    isExtension_ini.nameOf_entry (filled p) (Configuration.entry_path (noSlash p))
  have file : ∀ p, nameOf (directory.join (Configuration.path (nameOf p))) = nameOf p := fun p =>
    isExtension_ini.nameOf_entry (filled p) (Configuration.entry_file (noSlash p) directory)
  have log : ∀ p, nameOf (LogSink.pathFor profile (nameOf p)) = nameOf p := fun p =>
    isExtension_log.nameOf_entry (filled p) (LogSink.entry_pathFor (noSlash p) profile)
  refine ⟨⟨filled program, noSlash program⟩, Configuration.entry_path (noSlash program),
    Configuration.entry_file (noSlash program) directory,
    LogSink.entry_pathFor (noSlash program) profile,
    ⟨relative program, file program, log program⟩, ?_, fun _ _ => nameOf_of_parse, ?_⟩
  · intro other differs
    refine ⟨fun same => differs ?_, fun same => differs ?_, fun same => differs ?_⟩
    · rw [← relative other, same, relative program]
    · rw [← file other, same, file program]
    · rw [← log other, same, log program]
  · intro script request world
    obtain ⟨result, ready, prepared⟩ :=
      Platform.exists_prepared (Scripted.platform script) request world
    obtain ⟨history, happened, goesBy⟩ := Scripted.goesBy_of_prepared prepared
    exact ⟨result, ready, history, prepared.run, happened, goesBy⟩

end AppLauncher.Invocation
