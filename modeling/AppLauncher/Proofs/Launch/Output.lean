import AppLauncher.Proofs.FileSystem.Written
import AppLauncher.Proofs.Launch.CommandLine
import AppLauncher.Proofs.Launch.Effects

/-!
# The log and the output of the children

A log that could be opened is an empty file where its path leads, whatever stood there
(`LogSink.opened_of_open?`). The launcher does nothing to it afterwards: what it holds when the
launch has ended is what the child wrote through its handle (`Platform.captured_of_launch`), by the
time of its start or later while it was watched. This is so on every platform whose children write
to the log by this handle alone (`Platform.Redirects`), the scripted one among them.

**`log_holds_last_output`**: after any number of launches that go by the same log, it holds what the
last child wrote.
-/

namespace AppLauncher

open FileSystem (SameBut Through WaysKept startOf)

variable {σ C M : Type}

/-! ## Opening the log -/

/-- A file was opened empty where a path leads: the one that stood there, or a new one in the place
of none. Nothing else was done. -/
structure FileSystem.OpenedEmpty (files : FileSystem) (here : Place) (p : Path) (handle : Handle)
    (opened : FileSystem) : Prop where
  target : files.Target here p handle.location
  empty : opened.node? handle.location = some (.file handle.id [])
  leads : opened.resolve here .use p = .ok (.file handle.location handle.id [])
  others : SameBut handle.location files opened

theorem FileSystem.openedEmpty_of_openEmpty {files opened : FileSystem} {here : Place} {p : Path}
    {handle : Handle} (opens : files.openEmpty here p = .ok (handle, opened)) :
    OpenedEmpty files here p handle opened := by
  obtain ⟨target, others⟩ := frame_of_openEmpty opens
  have empty := node?_of_openEmpty opens
  have leads := (resolve_kept target (waysKept_of_openEmpty opens) empty).1
  exact ⟨target, empty, leads, others⟩

namespace LogSink

variable {world after : World σ} {profile : Path} {name : String} {sink : LogSink}

theorem open?_cases (profile : Path) (name : String) (world : World σ) :
    (∃ handle files events,
      world.files.openEmpty world.here (pathFor profile name) = .ok (handle, files) ∧
      open? profile name world =
        (some ⟨pathFor profile name, handle⟩, { world with files }.noteAll events)) ∨
    (∃ reason events,
      world.files.openEmpty world.here (pathFor profile name) = .error reason ∧
      open? profile name world = (none, world.noteAll events)) := by
  unfold open?
  rw [acting_get]
  cases opens : world.files.openEmpty world.here (pathFor profile name) with
  | ok result => exact .inl ⟨_, _, _, rfl, rfl⟩
  | error reason => exact .inr ⟨_, _, rfl, rfl⟩

theorem opened_of_open? (opens : open? profile name world = (some sink, after)) :
    sink.path = pathFor profile name ∧
      world.files.openEmpty world.here (pathFor profile name) = .ok (sink.handle, after.files) := by
  rcases open?_cases profile name world with ⟨handle, files, events, found, is⟩ | ⟨_, _, _, is⟩
  · rw [is] at opens
    cases opens
    exact ⟨rfl, found⟩
  · rw [is] at opens
    cases opens

theorem unopened_of_open? (fails : open? profile name world = (none, after)) :
    after.files = world.files := by
  rcases open?_cases profile name world with ⟨_, _, _, _, is⟩ | ⟨reason, events, -, is⟩
  · rw [is] at fails
    cases fails
  · rw [is] at fails
    obtain ⟨-, rfl⟩ := Prod.mk.inj fails
    rfl

theorem exists_open?_iff :
    (∃ sink after, open? profile name world = (some sink, after)) ↔
      ∃ location, world.files.Target world.here (pathFor profile name) location := by
  constructor
  · rintro ⟨sink, after, opens⟩
    obtain ⟨-, found⟩ := opened_of_open? opens
    exact ⟨_, (FileSystem.frame_of_openEmpty found).1⟩
  · rintro ⟨location, target⟩
    obtain ⟨handle, files, found, -⟩ := FileSystem.exists_openEmpty_iff.2 target
    rcases open?_cases profile name world with ⟨_, _, _, _, is⟩ | ⟨_, _, fails, -⟩
    · exact ⟨_, _, is⟩
    · rw [fails] at found
      cases found

end LogSink

/-! ## Platforms whose children write to the log -/

namespace Platform

/-- Whatever was done, the child may have gone on writing through its handle, and nothing else was
done to the file of the handle. -/
def GoesOn (through : σ → Handle → Prop) (output : σ → Bytes) (world after : World σ) : Prop :=
  ∀ handle, through world.system handle →
    ∃ pieces moved, Through handle world.files pieces moved after.files ∧
      through after.system moved ∧ output after.system = output world.system ++ pieces.flatten

/-- A child that is given a log writes to it through the log's handle, from its start on, and nobody
else does. What the platform keeps tells through which handle (`through`), and what the child has
written by now (`output`). -/
structure Redirects (platform : Platform σ C M) (through : σ → Handle → Prop)
    (output : σ → Bytes) : Prop where
  prepareLog : ∀ world, (platform.prepareLog world).2.files = world.files ∧
    (platform.prepareLog world).2.here = world.here
  spawn : ∀ line sink world child after,
    platform.spawn line (some sink) world = (.ok child, after) →
    ∃ pieces moved, Through sink.handle world.files pieces moved after.files ∧
      through after.system moved ∧ output after.system = pieces.flatten
  openPump : ∀ name world, GoesOn through output world (platform.openPump name world).2
  poll : ∀ child world, GoesOn through output world (platform.poll child world).2
  release : ∀ child world, GoesOn through output world (platform.release child world).2
  dispatch : ∀ pump budget world,
    GoesOn through output world (platform.dispatch pump budget world).2
  postQuit : ∀ pump world, GoesOn through output world (platform.postQuit pump world).2

/-- The log holds what the child has written by now. -/
structure Captured (through : σ → Handle → Prop) (output : σ → Bytes) (location : Location)
    (id : Nat) (world : World σ) : Prop where
  atEnd : through world.system ⟨location, id, (output world.system).length⟩
  holds : world.files.node? location = some (.file id (output world.system))

section Captured

variable {platform : Platform σ C M} {through : σ → Handle → Prop} {output : σ → Bytes}
  {location : Location} {id : Nat} {world after : World σ}

theorem GoesOn.captured (goesOn : GoesOn through output world after)
    (captured : Captured through output location id world) :
    Captured through output location id after := by
  obtain ⟨pieces, moved, written, known, more⟩ := goesOn _ captured.atEnd
  obtain ⟨rfl, holds⟩ := written.holds captured.holds rfl
  rw [← more] at known holds
  exact ⟨known, holds⟩

theorem Redirects.keeps (redirects : Redirects platform through output) (location : Location)
    (id : Nat) :
    Supervisor.Keeps platform.toServices (Captured through output location id) where
  noteAll := fun _ _ captured => ⟨captured.atEnd, captured.holds⟩
  poll := fun child world captured => (redirects.poll child world).captured captured
  release := fun child world captured => (redirects.release child world).captured captured
  dispatch := fun pump budget world captured =>
    (redirects.dispatch pump budget world).captured captured
  postQuit := fun pump world captured => (redirects.postQuit pump world).captured captured

/-- The world that a child has been started in. -/
theorem Redirects.captured_of_spawn (redirects : Redirects platform through output) {line : String}
    {sink : LogSink} {child : C} (empty : world.files.node? sink.handle.location =
      some (.file sink.handle.id [])) (atStart : sink.handle.offset = 0)
    (spawns : platform.spawn line (some sink) world = (.ok child, after)) :
    Captured through output sink.handle.location sink.handle.id after := by
  obtain ⟨pieces, moved, written, known, more⟩ := redirects.spawn _ _ _ _ _ spawns
  obtain ⟨rfl, holds⟩ := written.holds empty atStart
  rw [List.nil_append, ← more] at known holds
  exact ⟨known, holds⟩

/-- **The log of a launch.** When a launch has ended that watched its child to the end, the log
holds what the child wrote, and nothing else. -/
theorem captured_of_launch (redirects : Redirects platform through output)
    {request : LaunchRequest} {final : World σ} {program : Bytes} {rest : List Bytes}
    {profile : Path} {handle : Handle} {opened : FileSystem}
    (args : request.args = program :: rest) (known : request.profile = some profile)
    (opens : world.files.openEmpty world.here
      (LogSink.pathFor profile (Invocation.nameOf ⟨program⟩)) = .ok (handle, opened))
    (succeeds : platform.launch request world = some (0, final)) :
    Captured through output handle.location handle.id final := by
  rw [launch_eq] at succeeds
  obtain ⟨⟨result, ended⟩, supervised, same⟩ := Option.map_eq_some_iff.1 succeeds
  cases result with
  | error e => exact absurd (Prod.mk.inj same).1 e.exitCode_ne_zero
  | ok outcome =>
  obtain ⟨-, rfl⟩ := Prod.mk.inj same
  cases supervise_eq_some_iff.1 supervised with
  | watched prepared ran =>
  cases prepared with
  | @started invocation sink logged spawned ready directory place contents child pump reaches
      spawns opensPump =>
  obtain ⟨profile', known', opensLog⟩ := reaches.log
  obtain rfl := Option.some.inj (known.symm.trans known')
  obtain ⟨rfl, -⟩ := List.cons.inj (args.symm.trans reaches.args)
  -- The log is the one that could be opened when the launch began.
  obtain ⟨sameFiles, sameHere⟩ := redirects.prepareLog world
  rw [← sameFiles, ← sameHere] at opens
  have target := (FileSystem.frame_of_openEmpty opens).1
  have opensLog : LogSink.open? profile invocation.launcherName (platform.prepareLog world).2 =
      (sink, logged) := opensLog
  cases sink with
  | none =>
    obtain ⟨sink, after, is⟩ := LogSink.exists_open?_iff.2 ⟨_, target⟩
    cases is.symm.trans opensLog
  | some sink =>
  obtain ⟨-, found⟩ := LogSink.opened_of_open? opensLog
  obtain ⟨rfl, rfl⟩ := Prod.mk.inj (Except.ok.inj (opens.symm.trans found))
  have empty : (readyWorld logged invocation directory place contents).files.node?
      sink.handle.location = some (.file sink.handle.id []) :=
    FileSystem.node?_of_openEmpty opens
  have started := redirects.captured_of_spawn empty (FileSystem.offset_of_openEmpty opens) spawns
  have watched := (redirects.openPump invocation.launcherName spawned).captured started
  rw [opensPump] at watched
  exact (redirects.keeps _ _).run _ watched ran

end Captured

end Platform

/-! ## Launches in a row -/

section Launches

variable (here : Place) (profile : Path) (name : String)

/-- Launches that ended well, one after the other, of launchers with one name and one profile, each
of them in the files that the one before has left. What their children wrote is listed. The path of
the log starts at one place in all of them, and no child takes directories or links away. -/
inductive Launches (files : FileSystem) : List Bytes → FileSystem → Prop where
  | none : Launches files [] files
  | next {outputs : List Bytes} {σ C M : Type} {platform : Platform σ C M}
      {through : σ → Handle → Prop} {output : σ → Bytes} {request : LaunchRequest}
      {world final : World σ} {program : Bytes} {rest : List Bytes}
      (before : Launches files outputs world.files)
      (redirects : platform.Redirects through output)
      (args : request.args = program :: rest) (named : Invocation.nameOf ⟨program⟩ = name)
      (known : request.profile = some profile)
      (begins : startOf world.here (LogSink.pathFor profile name) =
        startOf here (LogSink.pathFor profile name))
      (succeeds : platform.launch request world = some (0, final))
      (stays : WaysKept world.files final.files) :
      Launches files (outputs ++ [output final.system]) final.files

variable {here profile name} {files files' : FileSystem} {outputs : List Bytes}
  {location : Location}

theorem FileSystem.resolve_of_startOf {there : Place} {p : Path}
    (begins : startOf there p = startOf here p) (purpose : Purpose) :
    files.resolve there purpose p = files.resolve here purpose p := by
  rw [resolve, resolve, begins]

/-- Where the log's path leads before the first launch, it leads after each of them, and there is
what the last child wrote. -/
theorem Launches.holds (launches : Launches here profile name files outputs files')
    (target : files.Target here (LogSink.pathFor profile name) location) :
    WaysKept files files' ∧ files'.Target here (LogSink.pathFor profile name) location ∧
      ∀ last, outputs.getLast? = some last →
        ∃ id, files'.node? location = some (.file id last) := by
  induction launches with
  | none => exact ⟨.refl files, target, nofun⟩
  | @next outputs σ C M platform through output request world final program rest before redirects
      args named known begins succeeds stays ih =>
    obtain ⟨ways, target', -⟩ := ih
    have openable : world.files.Target world.here (LogSink.pathFor profile name) location := by
      unfold FileSystem.Target
      rw [FileSystem.resolve_of_startOf begins]
      exact target'
    obtain ⟨handle, opened, opens, rfl⟩ := FileSystem.exists_openEmpty_iff.2 openable
    subst named
    have captured := Platform.captured_of_launch redirects args known opens succeeds
    have leads := (FileSystem.resolve_kept target' stays captured.holds).2
    refine ⟨ways.trans stays, .inl ⟨_, _, leads⟩, ?_⟩
    intro last isLast
    rw [List.getLast?_concat] at isLast
    obtain rfl := Option.some.inj isLast
    exact ⟨handle.id, captured.holds⟩

end Launches

/-! ## Launches on the scripted platform -/

namespace Scripted

variable {script : Script C M} {request : LaunchRequest} {world final : World (List Moment)}

theorem redirects (script : Script C M) :
    (platform script).Redirects (fun _ _ => True) (fun _ => script.output) := by
  have silent : ∀ {world after : World (List Moment)}, after.files = world.files →
      Platform.GoesOn (fun _ _ => True) (fun _ => script.output) world after := by
    intro world after same handle _
    exact ⟨[], handle, same ▸ .none, trivial, (List.append_nil _).symm⟩
  refine ⟨fun _ => ⟨rfl, rfl⟩, ?_, fun _ _ => silent rfl, fun _ _ => silent rfl,
    fun _ _ => silent rfl, fun _ _ _ => silent rfl, fun _ _ => silent rfl⟩
  intro line sink world child after spawns
  obtain ⟨-, is⟩ := started_of_spawn script world spawns
  have files : after.files = (world.files.write sink.handle script.output).2 := by
    rw [is, replay_files]
    rfl
  rw [files]
  exact ⟨_, _, .write .none script.output, trivial, (List.append_nil _).symm⟩

theorem waysKept_of_keptButLog {files : FileSystem} (kept : KeptButLog request world files) :
    WaysKept world.files files := by
  intro location
  by_cases same : files.node? location = world.files.node? location
  · exact .inr same
  · obtain ⟨_, _, _, -, -, target⟩ := kept location same
    exact .inl (FileSystem.leaf_of_target target)

theorem waysKept_of_launch {status : Int32}
    (comes : (platform script).launch request world = some (status, final)) :
    WaysKept world.files final.files := by
  obtain ⟨result, ready, prepared⟩ := Platform.exists_prepared (platform script) request world
  cases result with
  | error e =>
    obtain ⟨-, -, -, kept, -⟩ := effects_of_stopped prepared
    rw [launch_of_error prepared] at comes
    obtain ⟨-, rfl⟩ := Prod.mk.inj (Option.some.inj comes)
    rw [replay_files]
    exact waysKept_of_keptButLog kept
  | ok s =>
    by_cases exits : ∃ n code, script.behaviour.answer n script.child = .exited code
    · obtain ⟨outcome, after, -, ran, -, kept, -⟩ := effects_of_watched exits prepared
      rw [Platform.launch_eq, Platform.supervise_eq, prepared.run] at comes
      simp only [ran] at comes
      obtain ⟨-, rfl⟩ := Prod.mk.inj (Option.some.inj comes)
      exact waysKept_of_keptButLog kept
    · have runs : ∀ n code, script.behaviour.answer n script.child ≠ .exited code := by
        simpa using exits
      rw [launch_eq_none prepared runs] at comes
      cases comes

theorem launch_of_prepare (exits : ∃ n code, script.behaviour.answer n script.child = .exited code)
    {s : Supervisor C M} {ready : World (List Moment)}
    (passes : ((platform script).prepare request).run world = (.ok s, ready)) :
    ∃ final, (platform script).launch request world = some (0, final) ∧
      final.files = ready.files := by
  obtain ⟨result, after, prepared⟩ := Platform.exists_prepared (platform script) request world
  obtain ⟨rfl, rfl⟩ := Prod.mk.inj (prepared.run.symm.trans passes)
  obtain rfl := supervisor_of_prepared prepared
  obtain ⟨outcome, history, ran, -, -⟩ := run_of_script exits request.supervision after
  refine ⟨replay after history, ?_, replay_files after history⟩
  rw [Platform.launch_eq, Platform.supervise_eq, passes]
  simp only [ran]
  rfl

/-- On the scripted platform nothing more is asked of a launch than that it ends well. -/
theorem next_launch {here : Place} {profile : Path} {name : String} {files : FileSystem}
    {outputs : List Bytes} {program : Bytes} {rest : List Bytes}
    (succeeds : (platform script).launch request world = some (0, final))
    (before : Launches here profile name files outputs world.files)
    (args : request.args = program :: rest) (named : Invocation.nameOf ⟨program⟩ = name)
    (known : request.profile = some profile)
    (begins : startOf world.here (LogSink.pathFor profile name) =
      startOf here (LogSink.pathFor profile name)) :
    Launches here profile name files (outputs ++ [script.output]) final.files :=
  .next before (redirects script) args named known begins succeeds (waysKept_of_launch succeeds)

end Scripted

/-- **The log holds the output of the last child.** A log is opened exactly if its path leads to a
file, or to a free name in a directory, through whatever links. Then this file is there and is
empty, nothing else has changed, and it holds the data that is written through the handle, one piece
after the other, as long as nobody else opens or writes it; and the path leads to it as long as no
directory and no link on the way is changed. If it is not opened, no file has changed. So after any
number of launches that end well, with one name and one profile whose log could be opened before the
first of them, the log holds what the last child wrote. -/
theorem log_holds_last_output :
    (∀ {σ : Type} (profile : Path) (name : String) (world : World σ),
      let path := LogSink.pathFor profile name
      ((∃ sink after, LogSink.open? profile name world = (some sink, after)) ↔
        ∃ location, world.files.Target world.here path location) ∧
      (∀ sink after, LogSink.open? profile name world = (some sink, after) →
        sink.path = path ∧
        FileSystem.OpenedEmpty world.files world.here path sink.handle after.files ∧
        ∀ pieces moved files, Through sink.handle after.files pieces moved files →
          files.node? sink.handle.location = some (.file sink.handle.id pieces.flatten) ∧
          (WaysKept after.files files → files.read world.here path = .ok pieces.flatten)) ∧
      (∀ after, LogSink.open? profile name world = (none, after) →
        after.files = world.files)) ∧
    (∀ here profile name files outputs last files',
      let path := LogSink.pathFor profile name
      (∃ opened, files.openEmpty here path = .ok opened) →
      Launches here profile name files (outputs ++ [last]) files' →
      files'.read here path = .ok last ∧
        ∃ location id, files.Target here path location ∧
          files'.node? location = some (.file id last)) := by
  constructor
  · intro σ profile name world path
    refine ⟨LogSink.exists_open?_iff, ?_, fun after => LogSink.unopened_of_open?⟩
    intro sink after opens
    obtain ⟨named, found⟩ := LogSink.opened_of_open? opens
    have opened := FileSystem.openedEmpty_of_openEmpty found
    refine ⟨named, opened, ?_⟩
    intro pieces moved files written
    obtain ⟨-, holds⟩ := written.holds opened.empty (FileSystem.offset_of_openEmpty found)
    refine ⟨holds, fun ways => ?_⟩
    have kept := (FileSystem.waysKept_of_openEmpty found).trans ways
    exact FileSystem.read_kept opened.target kept holds
  · intro here profile name files outputs last files' path openable launches
    obtain ⟨⟨handle, opened⟩, opens⟩ := openable
    obtain ⟨target, -⟩ := FileSystem.frame_of_openEmpty opens
    obtain ⟨ways, -, holds⟩ := launches.holds target
    obtain ⟨id, stands⟩ := holds last List.getLast?_concat
    exact ⟨FileSystem.read_kept target ways stands, _, id, target, stands⟩

/-- Of two launches the second one has the shorter output, and nothing is left of the first. -/
theorem log_holds_last_output_of_two :
    ∃ files, Launches (.live []) (.ofString "/app") "tool" Sample.world.files
        [Utf8.ofString "done", Utf8.ofString "ok"] files ∧
      files.read (.live []) (LogSink.pathFor (.ofString "/app") "tool") =
        .ok (Utf8.ofString "ok") := by
  let script : Scripted.Script (List Poll) Scripted.Pump :=
    { Sample.script with output := Utf8.ofString "ok" }
  have named : Invocation.nameOf ⟨Utf8.ofString "/app/tool"⟩ = "tool" := by decide
  have passes : ((Scripted.platform Sample.script).prepare Sample.request).run Sample.world =
      (.ok _, _) := rfl
  obtain ⟨first, ends, left⟩ := Scripted.launch_of_prepare (Scripted.listed_exits _) passes
  have once : Launches (.live []) (.ofString "/app") "tool" Sample.world.files
      [Utf8.ofString "done"] first.files :=
    Scripted.next_launch ends .none rfl named rfl rfl
  let world : World (List Scripted.Moment) := { Sample.world with files := first.files }
  have passes' : ∃ s ready,
      ((Scripted.platform script).prepare Sample.request).run world = (.ok s, ready) := by
    simp only [world, left]
    exact ⟨_, _, rfl⟩
  obtain ⟨s, ready, passes'⟩ := passes'
  obtain ⟨second, ends', -⟩ := Scripted.launch_of_prepare (Scripted.listed_exits _) passes'
  have twice : Launches (.live []) (.ofString "/app") "tool" Sample.world.files
      ([Utf8.ofString "done"] ++ [Utf8.ofString "ok"]) second.files :=
    Scripted.next_launch ends' once rfl named rfl rfl
  exact ⟨_, twice, (log_holds_last_output.2 _ _ _ _ _ _ _ ⟨_, rfl⟩ twice).1⟩

end AppLauncher
