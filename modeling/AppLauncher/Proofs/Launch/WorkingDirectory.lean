import AppLauncher.Proofs.FileSystem.Standing
import AppLauncher.Proofs.Launch.Elsewhere
import AppLauncher.Proofs.Launch.Unnamed

/-!
# Where a launch begins

The working directory that a launch begins in matters to the relative paths that it is given, and to
nothing else. With absolute paths it does not matter at all. Relative ones can be joined to it
beforehand, and the launch looks the same to someone who cannot read the path of the log
(`launch_joined`).

**`launch_from_directory`** says both. The joined path of the log must not be too long for the
system when the relative one is not: `launch_of_tooLong` is a launch where it is.
-/

namespace AppLauncher.Scripted

open Platform (Opened Configured Prepared readyWorld)
open InstallDirectory (Entered Barred derive enteredWorld)
open FileSystem (Standing pathLimit)

variable {C M : Type}

/-- A relative program with a directory, and a relative profile, in a working directory that
stands. -/
structure SeenFrom (l : Location) (world : World (List Moment)) (program profile : Path) :
    Prop where
  here : world.here = .live l
  standing : Standing world.files l
  relative : program.isAbsolute = false
  parent : ∃ parent, program.parent? = some parent ∧ parent.bytes ≠ []
  relativeProfile : profile.isAbsolute = false

/-- The log of a launcher with a program and a profile. -/
def logPath (program profile : Path) : Path :=
  LogSink.pathFor profile (Invocation.nameOf program)

/-- The path of the log does not get too long for the system by being joined to a directory. -/
def LogFits (l : Location) (program profile : Path) : Prop :=
  (logPath program profile).bytes.length < pathLimit →
    (l.path.join (logPath program profile)).bytes.length < pathLimit

/-- A launch with a program, further arguments and a profile. -/
def requestOf (config : SupervisorConfig) (program profile : Path) (rest : List Bytes) :
    LaunchRequest :=
  ⟨program.bytes :: rest, some profile, config⟩

section Joined

variable {script : Script C M} {config : SupervisorConfig} {l : Location}
  {world opened : World (List Moment)} {program profile directory : Path} {place : Place}
  {rest : List Bytes} {texts : List String} {sink : Option LogSink}

theorem SeenFrom.nameOf (seen : SeenFrom l world program profile) :
    Invocation.nameOf (l.path.join program) = Invocation.nameOf program := by
  obtain ⟨parent, has, nonempty⟩ := seen.parent
  obtain ⟨first, before, last, ends, -⟩ := Path.ends_of_parent? has nonempty
  exact Invocation.nameOf_joined seen.standing.names seen.relative ends

theorem SeenFrom.launcherName (seen : SeenFrom l world program profile) (texts : List String) :
    Invocation.launcherName ⟨l.path.join program, texts⟩ =
      Invocation.launcherName ⟨program, texts⟩ := seen.nameOf

theorem SeenFrom.located (seen : SeenFrom l world program profile) (executableDirectory : Path) :
    InstallDirectory.absolute (.live l) (derive executableDirectory (l.path.join program)) =
      InstallDirectory.absolute (.live l) (derive executableDirectory program) := by
  obtain ⟨parent, has, nonempty⟩ := seen.parent
  obtain ⟨first, before, last, ends, -⟩ := Path.ends_of_parent? has nonempty
  exact InstallDirectory.absolute_joined seen.standing.names seen.relative ends _ (.live l)

theorem SeenFrom.joinedLog (seen : SeenFrom l world program profile) :
    logPath (l.path.join program) (l.path.join profile) =
      l.path.join (logPath program profile) := by
  rw [logPath, seen.nameOf]
  exact LogSink.pathFor_joined seen.relativeProfile (Invocation.slash_notMem_nameOf program) l.path

/-- The log is the same file, as long as its joined path is not too long. -/
theorem SeenFrom.openEmpty (seen : SeenFrom l world program profile)
    (fits : LogFits l program profile) :
    world.files.openEmpty world.here (logPath (l.path.join program) (l.path.join profile)) =
      world.files.openEmpty world.here (logPath program profile) := by
  have relativeName : (Path.ofString (Invocation.nameOf program ++ ".log")).isAbsolute = false :=
    LogSink.relative_file (Invocation.slash_notMem_nameOf program)
  have relative : (logPath program profile).isAbsolute = false :=
    Path.join_relative seen.relativeProfile relativeName
  have filled : (logPath program profile).bytes ≠ [] := by
    rw [logPath, LogSink.pathFor, Path.join_of_relative relativeName, Path.ofString,
      Utf8.ofString_append]
    simp [show Utf8.ofString ".log" ≠ [] by decide]
  rw [seen.joinedLog, seen.here]
  exact FileSystem.openEmpty_joined seen.standing relative filled fits (.live l)

theorem opened_joined (seen : SeenFrom l world program profile)
    (fits : LogFits l program profile)
    (reaches : Opened (platform script) (requestOf config program profile rest) world
      ⟨program, texts⟩ sink opened) :
    ∃ sink' opened', Opened (platform script)
        (requestOf config (l.path.join program) (l.path.join profile) rest) world
        ⟨l.path.join program, texts⟩ sink' opened' ∧
      SameLog sink sink' ∧ unnamed opened = unnamed opened' := by
  obtain ⟨args, profile', known, opens⟩ := reaches
  obtain rfl := Option.some.inj known
  have sameArgs : (l.path.join program).bytes :: rest =
      (l.path.join program).bytes :: texts.map Utf8.ofString :=
    congrArg _ (List.cons.inj args).2
  have same := seen.openEmpty fits
  cases found : world.files.openEmpty world.here (logPath program profile) with
  | error reason =>
    rw [Invocation.launcherName, openLog_error script world found] at opens
    obtain ⟨rfl, rfl⟩ := Prod.mk.inj opens
    refine ⟨_, _, ⟨sameArgs, _, rfl, openLog_error script world (same.trans found)⟩, .none, ?_⟩
    rw [unnamed_replay, unnamed_replay]
    simp only [List.map_cons, List.map_nil, Happening.hide, hideText_uncaptured]
  | ok result =>
    obtain ⟨handle, files⟩ := result
    rw [Invocation.launcherName, openLog_ok script world found] at opens
    obtain ⟨rfl, rfl⟩ := Prod.mk.inj opens
    refine ⟨_, _, ⟨sameArgs, _, rfl, openLog_ok script world (same.trans found)⟩, .some _ _ _, ?_⟩
    rw [unnamed_replay, unnamed_replay]
    simp only [List.map_cons, List.map_nil, Happening.hide, hideText_redirected]

theorem program_of_opened {invocation : Invocation}
    (reaches : Opened (platform script) (requestOf config program profile rest) world invocation
      sink opened) : ∃ texts, invocation = ⟨program, texts⟩ := by
  obtain ⟨⟨bytes⟩, texts⟩ := invocation
  obtain rfl : program.bytes = bytes := (List.cons.inj reaches.args).1
  exact ⟨texts, rfl⟩

section Alike

variable {opened' : World (List Moment)} (same : unnamed opened = unnamed opened')

include same

theorem enteredWorld_unnamed (directory : Path) (place : Place) :
    unnamed (enteredWorld opened directory place) =
      unnamed (enteredWorld opened' directory place) := by
  rw [enteredWorld, enteredWorld, unnamed_noteAll, unnamed_noteAll]
  exact congrArg (fun w => World.noteAll { w with here := place } _) same

theorem readyWorld_unnamed (seen : SeenFrom l world program profile) (directory : Path)
    (place : Place) (contents : Bytes) :
    unnamed (readyWorld opened ⟨program, texts⟩ directory place contents) =
      unnamed (readyWorld opened' ⟨l.path.join program, texts⟩ directory place contents) := by
  have sameName := seen.launcherName texts
  rw [readyWorld, readyWorld, sameName, unnamed_noteAll, unnamed_noteAll,
    enteredWorld_unnamed same]

theorem entered_joined (seen : SeenFrom l world program profile) (here : opened.here = .live l)
    (entered : Entered opened program directory place) :
    Entered opened' (l.path.join program) directory place := by
  obtain ⟨sameFiles, sameHere, sameExecutable⟩ := parts_of_unnamed same
  obtain ⟨located, leads⟩ := entered
  constructor
  · rw [← sameHere, here, ← sameExecutable, seen.located, ← here]
    exact located
  · rw [← sameFiles, ← sameHere]
    exact leads

theorem barred_joined (seen : SeenFrom l world program profile) (here : opened.here = .live l)
    {path : Path} {reason : SystemError} (barred : Barred opened program path reason) :
    Barred opened' (l.path.join program) path reason := by
  obtain ⟨sameFiles, sameHere, sameExecutable⟩ := parts_of_unnamed same
  cases barred with
  | unlocated fails =>
    -- The working directory has a path.
    rw [here, InstallDirectory.absolute] at fails
    split at fails <;> cases fails
  | closed located fails =>
    refine .closed ?_ ?_
    · rw [← sameHere, here, ← sameExecutable, seen.located, ← here]
      exact located
    · rw [← sameFiles, ← sameHere]
      exact fails

end Alike

theorem configured_joined (seen : SeenFrom l world program profile)
    (fits : LogFits l program profile) {contents : Bytes}
    (reaches : Configured (platform script) (requestOf config program profile rest) world
      ⟨program, texts⟩ sink opened directory place contents) :
    ∃ sink' opened', Configured (platform script)
        (requestOf config (l.path.join program) (l.path.join profile) rest) world
        ⟨l.path.join program, texts⟩ sink' opened' directory place contents ∧
      SameLog sink sink' ∧ unnamed opened = unnamed opened' := by
  obtain ⟨sink', opened', reaches', sameLog, same⟩ := opened_joined seen fits reaches.toOpened
  have here : opened.here = .live l := (happened_of_opened reaches.toOpened).1.trans seen.here
  obtain ⟨sameFiles, -, -⟩ := parts_of_unnamed same
  have sameName := seen.launcherName texts
  refine ⟨sink', opened', ⟨reaches', entered_joined same seen here reaches.entered, ?_,
    reaches.filled⟩, sameLog, same⟩
  rw [sameName, ← sameFiles]
  exact reaches.read

/-- The stages before the supervision come to the same with joined paths. -/
theorem prepared_joined (seen : SeenFrom l world program profile)
    (fits : LogFits l program profile)
    {result : Except LaunchError (Supervisor C M)} {ready : World (List Moment)}
    (prepared : Prepared (platform script) (requestOf config program profile rest) world result
      ready) :
    ∃ ready', Prepared (platform script)
        (requestOf config (l.path.join program) (l.path.join profile) rest) world result ready' ∧
      unnamed ready = unnamed ready' := by
  have hereOf : ∀ {invocation sink opened}, Opened (platform script)
      (requestOf config program profile rest) world invocation sink opened →
      opened.here = .live l :=
    fun reaches => (happened_of_opened reaches).1.trans seen.here
  cases prepared with
  | noArguments none => cases none
  | notText args notText =>
    exact ⟨world, .notText (congrArg (_ :: ·) (List.cons.inj args).2) notText, rfl⟩
  | noProfile args none => cases none
  | barred reaches barred =>
    obtain ⟨texts, rfl⟩ := program_of_opened reaches
    obtain ⟨sink', opened', reaches', -, same⟩ := opened_joined seen fits reaches
    exact ⟨opened', .barred reaches' (barred_joined same seen (hereOf reaches) barred), same⟩
  | @unconfigured _ sink opened directory place reaches entered unread =>
    obtain ⟨texts, rfl⟩ := program_of_opened reaches
    obtain ⟨sink', opened', reaches', -, same⟩ := opened_joined seen fits reaches
    obtain ⟨sameFiles, -, -⟩ := parts_of_unnamed same
    have sameName := seen.launcherName texts
    have prepared' := Prepared.unconfigured reaches'
      (entered_joined same seen (hereOf reaches) entered)
      (by rw [sameName, ← sameFiles]; exact unread)
    rw [sameName, ← sameFiles] at prepared'
    refine ⟨_, prepared', ?_⟩
    rw [unnamed_noteAll, unnamed_noteAll, enteredWorld_unnamed same]
  | @unstarted _ sink opened _ directory place contents reason reaches spawns =>
    obtain ⟨texts, rfl⟩ := program_of_opened reaches.toOpened
    obtain ⟨sink', opened', reaches', sameLog, same⟩ := configured_joined seen fits reaches
    obtain ⟨spawned', spawns', sameSpawned⟩ :=
      spawn_unnamed (readyWorld_unnamed same seen directory place contents) sameLog _ spawns
    have prepared' := Prepared.unstarted reaches' spawns'
    exact ⟨spawned', prepared', sameSpawned⟩
  | @started _ sink opened spawned _ directory place contents child pump reaches spawns opens =>
    obtain ⟨texts, rfl⟩ := program_of_opened reaches.toOpened
    obtain ⟨sink', opened', reaches', sameLog, same⟩ := configured_joined seen fits reaches
    obtain ⟨spawned', spawns', sameSpawned⟩ :=
      spawn_unnamed (readyWorld_unnamed same seen directory place contents) sameLog _ spawns
    have sameName := seen.launcherName texts
    rw [openPump_eq] at opens
    obtain ⟨rfl, rfl⟩ := Prod.mk.inj opens
    have prepared' := Prepared.started reaches' spawns' (openPump_eq script spawned' _)
    refine ⟨_, prepared', ?_⟩
    rw [unnamed_replay, unnamed_replay, sameSpawned, sameName]

/-- With relative paths a launch comes to what it comes to with the joined ones. -/
theorem launch_joined (seen : SeenFrom l world program profile)
    (fits : LogFits l program profile) :
    ((platform script).launch (requestOf config program profile rest) world).map
        (fun r => (r.1, unnamed r.2)) =
      ((platform script).launch
        (requestOf config (l.path.join program) (l.path.join profile) rest) world).map
        (fun r => (r.1, unnamed r.2)) := by
  obtain ⟨result, ready, prepared⟩ := Platform.exists_prepared (platform script)
    (requestOf config program profile rest) world
  obtain ⟨ready', prepared', same⟩ := prepared_joined seen fits prepared
  exact launch_unnamed prepared prepared' same

end Joined

/-- **Where a launch begins.** The working directory matters as the base of relative paths only.
With an absolute profile, and a program that is absolute or was found through the search path, a
launch comes to the same from any two directories, one that is gone among them; if it never enters
its install directory, it stays where it began. With a relative program and a relative profile, a
launch in a directory that stands comes to what it comes to with the joined paths, but for the texts
that name the log, as long as the path of the log does not get too long by it. -/
theorem launch_from_directory (script : Script C M) (config : SupervisorConfig)
    (world : World (List Moment)) :
    (∀ (args : List Bytes) (profile : Option Path) (there : Place),
      world.executableDirectory.isAbsolute = true →
      (∀ program rest, args = program :: rest → Path.isAbsolute ⟨program⟩ = true ∨
        ∀ parent, Path.parent? ⟨program⟩ = some parent → parent.bytes = []) →
      (∀ path, profile = some path → path.isAbsolute = true) →
      (platform script).launch ⟨args, profile, config⟩ { world with here := there } =
          (platform script).launch ⟨args, profile, config⟩ world ∨
        ∃ status final events,
          (platform script).launch ⟨args, profile, config⟩ world = some (status, final) ∧
          (platform script).launch ⟨args, profile, config⟩ { world with here := there } =
            some (status, { final with here := there }) ∧
          final.here = world.here ∧ final.log = world.log ++ events ∧
          ∀ event ∈ events, event.origin ≠ .installDirectory) ∧
    (∀ (l : Location) (program profile : Path) (rest : List Bytes),
      SeenFrom l world program profile →
      LogFits l program profile →
      ((platform script).launch ⟨program.bytes :: rest, some profile, config⟩ world).map
          (fun r => (r.1, unnamed r.2)) =
        ((platform script).launch
          ⟨(l.path.join program).bytes :: rest, some (l.path.join profile), config⟩ world).map
          (fun r => (r.1, unnamed r.2))) := by
  constructor
  · intro args profile there executable anchored absolute
    refine launch_elsewhere ?_ absolute there
    intro program rest is
    exact InstallDirectory.isAbsolute_derive executable (anchored program rest is)
  · intro l program profile rest seen fits
    exact launch_joined seen fits

/-! ## Two launches of a sample -/

/-- The directory of the sample. -/
def appDirectory : Location :=
  [Utf8.ofString "app"]

/-- The sample, seen from a working directory. -/
def sampleFrom (here : Place) : World (List Moment) :=
  { Sample.world with here, executableDirectory := appDirectory.path }

theorem standing_appDirectory {files : FileSystem}
    (there : files.node? appDirectory = some .directory) : Standing files appDirectory := by
  constructor
  · intro s among
    obtain rfl := List.mem_singleton.1 among
    exact ⟨by decide, by decide, by decide, by decide, by decide, by decide⟩
  · intro above before
    rcases List.prefix_cons_iff.1 before with rfl | ⟨rest, rfl, inside⟩
    · exact FileSystem.node?_root files
    · obtain rfl := List.prefix_nil.1 inside
      exact there

theorem seenFrom_sample :
    SeenFrom appDirectory (sampleFrom (.live appDirectory)) (.ofString "./tool")
      (.ofString ".") :=
  ⟨rfl, standing_appDirectory rfl, by decide, ⟨.ofString ".", by decide, by decide⟩, by decide⟩

/-- With its full path the sample can be launched from a directory that is gone, and in its own
directory it can be launched as `./tool`. -/
theorem launch_from_directory_of_sample :
    ((platform Sample.script).launch Sample.request (sampleFrom ⟨[[0x74]], 1⟩)).map Prod.fst =
        ((platform Sample.script).launch Sample.request (sampleFrom (.live []))).map Prod.fst ∧
      ((platform Sample.script).launch
          ⟨[Utf8.ofString "./tool"], some (.ofString "."), .default⟩
          (sampleFrom (.live appDirectory))).map (fun r => (r.1, unnamed r.2)) =
        ((platform Sample.script).launch
          ⟨[Utf8.ofString "/app/./tool"], some (.ofString "/app/."), .default⟩
          (sampleFrom (.live appDirectory))).map (fun r => (r.1, unnamed r.2)) := by
  constructor
  · have absolute : ∀ path, Sample.request.profile = some path → path.isAbsolute = true := by
      rintro path ⟨⟩
      rfl
    have anchored : ∀ program rest, Sample.request.args = program :: rest →
        Path.isAbsolute ⟨program⟩ = true ∨
          ∀ parent, Path.parent? ⟨program⟩ = some parent → parent.bytes = [] := by
      rintro program rest ⟨⟩
      exact .inl rfl
    rcases (launch_from_directory Sample.script .default (sampleFrom (.live []))).1
        Sample.request.args Sample.request.profile ⟨[[0x74]], 1⟩ rfl anchored absolute with
      same | ⟨status, final, events, comes, comes', -⟩
    · exact congrArg (Option.map Prod.fst) same
    · exact (congrArg (Option.map Prod.fst) comes').trans
        (congrArg (Option.map Prod.fst) comes).symm
  · exact (launch_from_directory Sample.script .default (sampleFrom (.live appDirectory))).2
      appDirectory (.ofString "./tool") (.ofString ".") [] seenFrom_sample (fun _ => by decide)

/-! ## A path that gets too long -/

/-- A profile that is the working directory, written with many slashes. -/
def slashedProfile (n : Nat) : Path :=
  ⟨Path.dot ++ List.replicate n Path.slash⟩

/-- A launcher `t` in a directory that is not there. -/
def strayProgram : Path :=
  .ofString "x/t"

/-- There is nothing but an empty directory, and it is the working directory. -/
def emptyWorld : World (List Moment) where
  files := ⟨[(appDirectory, .directory)], 0⟩
  here := .live appDirectory
  executableDirectory := appDirectory.path
  log := []
  system := []

/-- Where the log of this launcher stands. -/
def strayLog : Location :=
  appDirectory ++ [Utf8.ofString "t.log"]

section TooLong

variable {n : Nat}

/-- The working directory is seen from itself. -/
theorem seenFrom_slashed (n : Nat) :
    SeenFrom appDirectory emptyWorld strayProgram (slashedProfile n) :=
  ⟨rfl, standing_appDirectory rfl, by decide, ⟨.ofString "x", by decide, by decide⟩, rfl⟩

theorem logPath_slashed (n : Nat) :
    logPath strayProgram (slashedProfile (n + 1)) =
      ⟨Path.dot ++ List.replicate (n + 1) Path.slash ++ Utf8.ofString "t.log"⟩ := by
  have name : Path.ofString (Invocation.nameOf strayProgram ++ ".log") = .ofString "t.log" := by
    decide
  have base : (slashedProfile (n + 1)).base = (slashedProfile (n + 1)).bytes := by
    refine if_pos (.inr ?_)
    rw [slashedProfile, List.replicate_succ', ← List.append_assoc]
    exact List.getLast?_concat
  rw [logPath, LogSink.pathFor, name, Path.join_of_relative (by decide), base]
  rfl

theorem steps_slashed (n : Nat) :
    (logPath strayProgram (slashedProfile (n + 1))).steps = [Path.dot, Utf8.ofString "t.log"] := by
  rw [logPath_slashed, FileSystem.steps_of_slashes Path.dot (by decide)]
  decide

theorem length_slashed (n : Nat) :
    (logPath strayProgram (slashedProfile (n + 1))).bytes.length = n + 7 := by
  have name : (Utf8.ofString "t.log").length = 5 := by decide
  rw [logPath_slashed, List.length_append, List.length_append, List.length_replicate, name]
  simp [Path.dot]
  omega

theorem zero_notMem_slashed (n : Nat) :
    0 ∉ (logPath strayProgram (slashedProfile (n + 1))).bytes := by
  have inName : 0 ∉ Utf8.ofString "t.log" := by decide
  have inSlashes : 0 ∉ List.replicate (n + 1) Path.slash := by
    intro among
    cases List.eq_of_mem_replicate among
  rw [logPath_slashed]
  simp [inName, inSlashes, Path.dot, Path.point]

theorem openEmpty_slashed (short : n + 7 < pathLimit) :
    emptyWorld.files.openEmpty emptyWorld.here (logPath strayProgram (slashedProfile (n + 1))) =
      .ok (⟨strayLog, 0, 0⟩, emptyWorld.files.create strayLog []) := by
  have length := length_slashed n
  have filled : (logPath strayProgram (slashedProfile (n + 1))).bytes ≠ [] := by
    intro nothing
    rw [nothing] at length
    cases length
  have zeroFree : ¬ (logPath strayProgram (slashedProfile (n + 1))).bytes.contains 0 = true := by
    rw [List.contains_iff_mem]
    exact zero_notMem_slashed n
  have relative : (logPath strayProgram (slashedProfile (n + 1))).isAbsolute = false := by
    rw [logPath_slashed]
    rfl
  have passes : FileSystem.checkPath (logPath strayProgram (slashedProfile (n + 1))) = .ok () := by
    rw [FileSystem.checkPath, if_neg zeroFree, if_neg filled, length,
      if_neg (Nat.not_le.2 short)]
  have resolved : emptyWorld.files.resolve emptyWorld.here .create
      (logPath strayProgram (slashedProfile (n + 1))) = .ok (.vacant strayLog) := by
    rw [FileSystem.resolve, passes, steps_slashed, FileSystem.startOf, relative]
    rfl
  rw [FileSystem.openEmpty, resolved]
  rfl

theorem openEmpty_joinedSlashed (long : pathLimit ≤ n + 12) :
    emptyWorld.files.openEmpty emptyWorld.here
        (appDirectory.path.join (logPath strayProgram (slashedProfile (n + 1)))) =
      .error .nameTooLong := by
  have base : appDirectory.path.base = Utf8.ofString "/app/" := by decide
  have relative : (logPath strayProgram (slashedProfile (n + 1))).isAbsolute = false := by
    rw [logPath_slashed]
    rfl
  have length : (Utf8.ofString "/app/").length = 5 := by decide
  have zeroFree : ¬ (Utf8.ofString "/app/" ++
      (logPath strayProgram (slashedProfile (n + 1))).bytes).contains 0 = true := by
    rw [List.contains_iff_mem, List.mem_append, not_or]
    exact ⟨by decide, zero_notMem_slashed n⟩
  have filled : Utf8.ofString "/app/" ++
      (logPath strayProgram (slashedProfile (n + 1))).bytes ≠ [] :=
    List.append_ne_nil_of_left_ne_nil (by decide) _
  have tooLong : pathLimit ≤ (Utf8.ofString "/app/" ++
      (logPath strayProgram (slashedProfile (n + 1))).bytes).length := by
    rw [List.length_append, length, length_slashed]
    omega
  rw [Path.join_of_relative relative, base, FileSystem.openEmpty, FileSystem.resolve,
    FileSystem.checkPath, if_neg zeroFree, if_neg filled, if_pos tooLong]
  rfl

end TooLong

/-- Whether its log was made or not, this launcher cannot enter its install directory. -/
theorem barred_stray {opened : World (List Moment)} {program : Path}
    (is : program = strayProgram ∨ program = appDirectory.path.join strayProgram)
    (here : opened.here = emptyWorld.here)
    (files : opened.files = emptyWorld.files ∨
      opened.files = emptyWorld.files.create strayLog []) :
    Barred opened program (.ofString "/app/x") .missing := by
  refine .closed ?_ ?_
  · rw [here]
    rcases is with rfl | rfl <;> rfl
  · rw [here]
    rcases files with files | files <;> rw [files] <;> rfl

theorem launch_stray {request : LaunchRequest} {sink : Option LogSink}
    {opened : World (List Moment)} {program directory : Path}
    (reaches : Opened (platform Sample.script) request emptyWorld ⟨program, []⟩ sink opened)
    (barred : Barred opened program directory .missing) :
    ((platform Sample.script).launch request emptyWorld).map (fun r => r.2.files.node? strayLog) =
      some (opened.files.node? strayLog) := by
  rw [launch_of_error (.barred reaches barred), Option.map_some, replay_files]

/-- The relative path of a log can be short enough when the joined one is too long. Then the log is
made by one launch, and not by the other. -/
theorem launch_of_tooLong :
    SeenFrom appDirectory emptyWorld strayProgram (slashedProfile 4089) ∧
      ((platform Sample.script).launch
          ⟨[strayProgram.bytes], some (slashedProfile 4089), .default⟩ emptyWorld).map
        (fun r => r.2.files.node? strayLog) = some (some (.file 0 [])) ∧
      ((platform Sample.script).launch
          ⟨[(appDirectory.path.join strayProgram).bytes],
            some (appDirectory.path.join (slashedProfile 4089)), .default⟩ emptyWorld).map
        (fun r => r.2.files.node? strayLog) = some none := by
  have seen := seenFrom_slashed 4089
  refine ⟨seen, ?_, ?_⟩
  · have made := openEmpty_slashed (show 4088 + 7 < pathLimit by decide)
    have reaches : Opened (platform Sample.script)
        ⟨[strayProgram.bytes], some (slashedProfile 4089), .default⟩ emptyWorld ⟨strayProgram, []⟩
        _ _ := ⟨rfl, _, rfl, openLog_ok Sample.script emptyWorld made⟩
    rw [launch_stray reaches (barred_stray (.inl rfl) (replay_here _ _)
      (.inr (replay_files _ _))), replay_files]
    rfl
  · have fails : emptyWorld.files.openEmpty emptyWorld.here
        (logPath (appDirectory.path.join strayProgram)
          (appDirectory.path.join (slashedProfile 4089))) = .error .nameTooLong := by
      rw [seen.joinedLog]
      exact openEmpty_joinedSlashed (show pathLimit ≤ 4088 + 12 by decide)
    have reaches : Opened (platform Sample.script)
        ⟨[(appDirectory.path.join strayProgram).bytes],
          some (appDirectory.path.join (slashedProfile 4089)), .default⟩ emptyWorld
        ⟨appDirectory.path.join strayProgram, []⟩ _ _ :=
      ⟨rfl, _, rfl, openLog_error Sample.script emptyWorld fails⟩
    rw [launch_stray reaches (barred_stray (.inr rfl) (replay_here _ _)
      (.inl (replay_files _ _))), replay_files]
    rfl

end AppLauncher.Scripted
