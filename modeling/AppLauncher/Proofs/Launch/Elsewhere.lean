import AppLauncher.Proofs.FileSystem.Standing
import AppLauncher.Proofs.Launch.CommandLine

/-!
# Launches from another directory

A launch with absolute paths comes to the same from everywhere (`launch_elsewhere`). It stops before
it has gone anywhere, or it enters its install directory, and from there on nothing is left of where
it began. An install directory that has been entered stands (`upright_of_entered`).
-/

namespace AppLauncher.Scripted

open Platform (Opened Prepared)
open InstallDirectory (Entered Barred derive)
open FileSystem (Upright ZeroFree)

variable {C M : Type}

/-- The world with another working directory. -/
def movedTo (world : World (List Moment)) (there : Place) : World (List Moment) :=
  { world with here := there }

theorem movedTo_replay (world : World (List Moment)) (history : List Happening) (there : Place) :
    movedTo (replay world history) there = replay (movedTo world there) history := by
  have sameFiles : movedTo (replay world history) there =
      moved (replay world history) world.files there := by
    rw [moved, ← replay_files world history]
    rfl
  exact sameFiles.trans (moved_replay world history world.files there)

section Elsewhere

variable {script : Script C M} {request : LaunchRequest} {world : World (List Moment)}

theorem openLog_elsewhere {profile : Path} {name : String} {sink : Option LogSink}
    {opened : World (List Moment)} (absolute : profile.isAbsolute = true) (there : Place)
    (opens : (platform script).openLog profile name world = (sink, opened)) :
    (platform script).openLog profile name (movedTo world there) =
      (sink, movedTo opened there) := by
  have same : world.files.openEmpty there (LogSink.pathFor profile name) =
      world.files.openEmpty world.here (LogSink.pathFor profile name) :=
    FileSystem.openEmpty_of_isAbsolute (Path.isAbsolute_join absolute) there world.here
  cases found : world.files.openEmpty world.here (LogSink.pathFor profile name) with
  | error reason =>
    rw [openLog_error script world found] at opens
    obtain ⟨rfl, rfl⟩ := Prod.mk.inj opens
    rw [openLog_error script (movedTo world there) (same.trans found), movedTo_replay]
  | ok result =>
    obtain ⟨handle, files⟩ := result
    rw [openLog_ok script world found] at opens
    obtain ⟨rfl, rfl⟩ := Prod.mk.inj opens
    rw [openLog_ok script (movedTo world there) (same.trans found), movedTo_replay]
    rfl

theorem sameHost_movedTo (world : World (List Moment)) (there : Place) :
    InstallDirectory.SameHost world (movedTo world there) := ⟨rfl, rfl⟩

/-- The directory that a launch has entered stands. -/
theorem upright_of_entered {program directory : Path} {place : Place}
    (zeroFree : ZeroFree world.files) (entered : Entered world program directory place) :
    Upright world.files place := by
  have absolute := InstallDirectory.isAbsolute_of_absolute entered.located
  have leads := entered.leads
  rw [FileSystem.directory_of_isAbsolute absolute world.here (.live [])] at leads
  exact FileSystem.upright_of_directory zeroFree ⟨rfl, FileSystem.standing_root _⟩ leads

/-- The launch has stopped before it went anywhere. -/
structure Stayed (script : Script C M) (request : LaunchRequest) (world : World (List Moment))
    (there : Place) (e : LaunchError) (events : List Event) (after : World (List Moment)) :
    Prop where
  prepared : Prepared (platform script) request world (.error e) after
  prepared' : Prepared (platform script) request (movedTo world there) (.error e)
    (movedTo after there)
  here : after.here = world.here
  log : after.log = world.log ++ events
  unentered : ∀ event ∈ events, event.origin ≠ .installDirectory

/-- With absolute paths, the stages before the supervision come to the same from everywhere, unless
they stop before the launch has gone anywhere. -/
theorem prepare_elsewhere
    (anchored : ∀ program rest, request.args = program :: rest →
      (derive world.executableDirectory ⟨program⟩).isAbsolute = true)
    (absolute : ∀ profile, request.profile = some profile → profile.isAbsolute = true)
    (there : Place) :
    ((platform script).prepare request).run (movedTo world there) =
        ((platform script).prepare request).run world ∨
      ∃ e events after, Stayed script request world there e events after := by
  obtain ⟨result, after, prepared⟩ := Platform.exists_prepared (platform script) request world
  -- Once the directory is entered, nothing is left of where the launch began.
  have entering : ∀ {invocation sink opened directory place},
      Opened (platform script) request world invocation sink opened →
      Entered opened invocation.program directory place →
      ((platform script).prepare request).run (movedTo world there) =
        ((platform script).prepare request).run world := by
    intro invocation sink opened directory place reaches entered
    obtain ⟨args, profile, known, opens⟩ := id reaches
    have reaches' : Opened (platform script) request (movedTo world there) invocation sink
        (movedTo opened there) :=
      ⟨args, profile, known, openLog_elsewhere (absolute profile known) there opens⟩
    have sameExecutable := (happened_of_opened reaches).2.1
    have entered' : Entered (movedTo opened there) invocation.program directory place :=
      entered.of_sameHost (sameHost_movedTo _ there)
        (by rw [sameExecutable]; exact anchored _ _ args)
    have settled : ((platform script).settle request).run (movedTo world there) =
        ((platform script).settle request).run world :=
      (reaches'.settle_entered entered').trans (reaches.settle_entered entered).symm
    rw [Platform.prepare, launching_bind, launching_bind, settled]
  cases prepared with
  | noArguments none =>
    exact .inr ⟨_, [], world, .noArguments none, .noArguments none, rfl, by simp, by simp⟩
  | notText args notText =>
    exact .inr ⟨_, [], world, .notText args notText, .notText args notText, rfl, by simp, by simp⟩
  | noProfile args none =>
    exact .inr ⟨_, [], world, .noProfile args none, .noProfile args none, rfl, by simp, by simp⟩
  | barred reaches barred =>
    obtain ⟨args, profile, known, opens⟩ := id reaches
    obtain ⟨sameHere, sameExecutable, event, -, origin, happened⟩ := happened_of_opened reaches
    have opens' := openLog_elsewhere (absolute profile known) there opens
    have barred' := barred.of_sameHost (sameHost_movedTo _ there)
      (by rw [sameExecutable]; exact anchored _ _ args)
    refine .inr ⟨_, [event], _, .barred reaches barred,
      .barred ⟨args, profile, known, opens'⟩ barred', sameHere, ?_, ?_⟩
    · rw [happened, replay_log]
      rfl
    · simp [origin]
  | unconfigured reaches entered unread => exact .inl (entering reaches entered)
  | unstarted reaches spawns => exact .inl (entering reaches.toOpened reaches.entered)
  | started reaches spawns opens => exact .inl (entering reaches.toOpened reaches.entered)

/-- With absolute paths, a launch comes to the same from everywhere, but for its final working
directory if it never goes anywhere. -/
theorem launch_elsewhere
    (anchored : ∀ program rest, request.args = program :: rest →
      (derive world.executableDirectory ⟨program⟩).isAbsolute = true)
    (absolute : ∀ profile, request.profile = some profile → profile.isAbsolute = true)
    (there : Place) :
    (platform script).launch request (movedTo world there) =
        (platform script).launch request world ∨
      ∃ status final events,
        (platform script).launch request world = some (status, final) ∧
        (platform script).launch request (movedTo world there) =
          some (status, movedTo final there) ∧
        final.here = world.here ∧ final.log = world.log ++ events ∧
        ∀ event ∈ events, event.origin ≠ .installDirectory := by
  rcases prepare_elsewhere anchored absolute there with same | ⟨e, events, after, stayed⟩
  · rw [Platform.launch_eq, Platform.launch_eq, Platform.supervise_eq, Platform.supervise_eq, same]
    exact .inl rfl
  · have stops := launch_of_error stayed.prepared
    have stops' := launch_of_error stayed.prepared'
    refine .inr ⟨_, _, events ++ [⟨.error, .launch, s!"{e.caption}: {e.message}"⟩], stops, ?_, ?_,
      ?_, ?_⟩
    · rw [stops', movedTo_replay]
    · rw [replay_here, stayed.here]
    · rw [replay_log, stayed.log, List.append_assoc]
      rfl
    · intro event among
      rcases List.mem_append.1 among with among | among
      · exact stayed.unentered event among
      · rw [List.mem_singleton.1 among]
        nofun

end Elsewhere

end AppLauncher.Scripted
