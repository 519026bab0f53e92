import AppLauncher.Proofs.Launch.Stages
import AppLauncher.Proofs.Path.Joined

/-!
# Launchers in one process

Threads of one process share its working directory. Each of them enters the install directory of its
program and then reads its command line, and between any two steps of it the others may change the
working directory (`Threads.run`). The first step takes the directory as an absolute path, and from
there on nothing is looked up from where the process happens to be, so a step comes to the same as it
does for a thread that is alone (`Task.ComesTo.step`).

**`interleaved_entries`**: whatever the order of the steps, each thread gets what it gets alone, and
the process is left where the last change has taken it.
-/

namespace AppLauncher

open InstallDirectory (Entered Barred SameHost derive enter locate change enteredWorld)
open AppLauncher.Configuration (readCommand)

variable {σ ι : Type}

/-! ## Threads -/

/-- What a thread has to do: to enter the install directory of a program, and to read the command
line of a launcher there. -/
structure Task where
  program : Path
  name : String

/-- How far a thread has come. -/
inductive Stage where
  | begun
  | located (directory : Path)
  | entered (directory : Path)
  | barred (e : LaunchError)
  | answered (directory : Path) (answer : Except LaunchError String)

namespace Stage

/-- What a thread has got from entering. -/
def directory? : Stage → Option (Except LaunchError Path)
  | entered directory | answered directory _ => some (.ok directory)
  | barred e => some (.error e)
  | _ => none

/-- What a thread has got from reading. -/
def command? : Stage → Option (Except LaunchError String)
  | answered _ answer => some answer
  | _ => none

end Stage

/-- One step of a thread: it finds its directory, changes to it, or reads its file. -/
def Task.step (task : Task) : Stage → Acting σ Stage
  | .begun => do
    match ← (locate task.program).run with
    | .ok directory => return .located directory
    | .error e => return .barred e
  | .located directory => do
    match ← (change directory).run with
    | .ok () => return .entered directory
    | .error e => return .barred e
  | .entered directory => do
    return .answered directory (← (readCommand directory task.name).run)
  | stage => return stage

/-- The threads of a process, and the world that they share. -/
structure Threads (ι σ : Type) where
  stages : ι → Stage
  world : World σ

namespace Threads

variable [DecidableEq ι] (tasks : ι → Task)

/-- One step of one thread. -/
def step (threads : Threads ι σ) (i : ι) : Threads ι σ :=
  let (stage, world) := (tasks i).step (threads.stages i) threads.world
  ⟨Function.update threads.stages i stage, world⟩

/-- All threads from their beginning, with one step for each entry of the schedule. -/
def run (world : World σ) (schedule : List ι) : Threads ι σ :=
  schedule.foldl (step tasks) ⟨fun _ => .begun, world⟩

@[simp] theorem step_stages (threads : Threads ι σ) (i : ι) :
    (threads.step tasks i).stages = Function.update threads.stages i
      ((tasks i).step (threads.stages i) threads.world).1 := rfl

@[simp] theorem step_world (threads : Threads ι σ) (i : ι) :
    (threads.step tasks i).world = ((tasks i).step (threads.stages i) threads.world).2 := rfl

theorem run_concat (world : World σ) (schedule : List ι) (i : ι) :
    run tasks world (schedule ++ [i]) = (run tasks world schedule).step tasks i := by
  rw [run, List.foldl_append]
  rfl

end Threads

/-! ## One thread -/

namespace Task

variable {task : Task} {world other : World σ}

/-- What a file of an absolute install directory holds is read from everywhere. -/
theorem readCommand_of_sameHost {directory : Path} (same : SameHost world other)
    (absolute : directory.isAbsolute = true) (name : String) :
    ((readCommand directory name).run other).1 = ((readCommand directory name).run world).1 ∧
      SameHost world ((readCommand directory name).run other).2 ∧
      ((readCommand directory name).run other).2.here = other.here := by
  have read : other.files.read other.here (directory.join (Configuration.path name)) =
      world.files.read world.here (directory.join (Configuration.path name)) := by
    rw [same.files]
    exact FileSystem.read_of_isAbsolute (Path.isAbsolute_join absolute) other.here world.here
  rw [Configuration.readCommand_run, Configuration.readCommand_run, read]
  exact ⟨rfl, ⟨same.files, same.executableDirectory⟩, rfl⟩

/-- What a thread has come to after so many steps of its own, by what the host has for it. -/
inductive ComesTo (task : Task) (world : World σ) : Nat → Stage → Prop where
  | begun : ComesTo task world 0 .begun
  | located {directory : Path}
      (is : InstallDirectory.absolute world.here
        (derive world.executableDirectory task.program) = .ok directory) :
      ComesTo task world 1 (.located directory)
  | unlocated {reason : SystemError} (n : Nat)
      (fails : InstallDirectory.absolute world.here
        (derive world.executableDirectory task.program) = .error reason) :
      ComesTo task world (n + 1)
        (.barred (.installDirectory (derive world.executableDirectory task.program) reason))
  | closed {directory : Path} {reason : SystemError} (n : Nat)
      (is : InstallDirectory.absolute world.here
        (derive world.executableDirectory task.program) = .ok directory)
      (fails : world.files.directory world.here directory = .error reason) :
      ComesTo task world (n + 2) (.barred (.installDirectory directory reason))
  | entered {directory : Path} {place : Place}
      (entered : Entered world task.program directory place) :
      ComesTo task world 2 (.entered directory)
  | answered {directory : Path} {place : Place} (n : Nat)
      (entered : Entered world task.program directory place) :
      ComesTo task world (n + 3)
        (.answered directory ((readCommand directory task.name).run world).1)

/-- What a step of a thread does, from wherever the others have left the process: the thread comes to
what comes next, and the process goes to another directory if this is the step that enters. -/
structure Steps (task : Task) (world other : World σ) (n : Nat) (stage : Stage) : Prop where
  reached : ComesTo task world (n + 1) (task.step stage other).1
  same : SameHost world (task.step stage other).2
  changes : ∀ directory place, n = 1 → Entered world task.program directory place →
    (task.step stage other).2.here = place
  stays : (n = 1 → ∀ directory place, ¬ Entered world task.program directory place) →
    (task.step stage other).2.here = other.here

/-- A step that does not enter leaves the process where it is. -/
theorem Steps.of_staying {n : Nat} {stage stage' : Stage} {after : World σ}
    (step : task.step stage other = (stage', after)) (reached : ComesTo task world (n + 1) stage')
    (same : SameHost world after) (here : after.here = other.here)
    (notNow : n = 1 → ∀ directory place, ¬ Entered world task.program directory place) :
    Steps task world other n stage := by
  refine ⟨by rwa [step], by rwa [step], ?_, fun _ => by rwa [step]⟩
  intro directory place now entered
  exact absurd entered (notNow now directory place)

/-- **A step of a thread** comes to the same wherever the process is. -/
theorem ComesTo.step {n : Nat} {stage : Stage} (reached : ComesTo task world n stage)
    (same : SameHost world other)
    (absolute : (derive world.executableDirectory task.program).isAbsolute = true) :
    Steps task world other n stage := by
  have located := same.located absolute
  cases reached with
  | begun =>
    cases is : InstallDirectory.absolute world.here
        (derive world.executableDirectory task.program) with
    | error reason =>
      have step : task.step .begun other = (.barred
          (.installDirectory (derive world.executableDirectory task.program) reason), other) := by
        rw [Task.step, acting_bind, InstallDirectory.locate_run_error (located.trans is),
          same.executableDirectory]
        rfl
      exact .of_staying step (.unlocated 0 is) same rfl nofun
    | ok directory =>
      have step : task.step .begun other = (.located directory, other) := by
        rw [Task.step, acting_bind, InstallDirectory.locate_run (located.trans is)]
        rfl
      exact .of_staying step (.located is) same rfl nofun
  | @located directory is =>
    have leads : other.files.directory other.here directory =
        world.files.directory world.here directory := by
      rw [same.files]
      exact FileSystem.directory_of_isAbsolute (InstallDirectory.isAbsolute_of_absolute is) _ _
    cases found : world.files.directory world.here directory with
    | error reason =>
      have step : task.step (.located directory) other =
          (.barred (.installDirectory directory reason), other) := by
        rw [Task.step, acting_bind, InstallDirectory.change_run_error (leads.trans found)]
        rfl
      refine .of_staying step (.closed 0 is found) same rfl ?_
      rintro - directory' place ⟨is', leads'⟩
      obtain rfl := Except.ok.inj (is.symm.trans is')
      rw [found] at leads'
      cases leads'
    | ok place =>
      have entered : Entered world task.program directory place := ⟨is, found⟩
      have step : task.step (.located directory) other =
          (.entered directory, enteredWorld other directory place) := by
        rw [Task.step, acting_bind, InstallDirectory.change_run (leads.trans found)]
        rfl
      refine ⟨?_, ?_, ?_, fun stays => absurd entered (stays rfl directory place)⟩
      · rw [step]
        exact .entered entered
      · rw [step]
        exact ⟨same.files, same.executableDirectory⟩
      · rintro directory' place' - ⟨is', leads'⟩
        obtain rfl := Except.ok.inj (is.symm.trans is')
        obtain rfl := Except.ok.inj (found.symm.trans leads')
        rw [step]
        rfl
  | unlocated n fails =>
    refine .of_staying rfl (.unlocated (n + 1) fails) same rfl ?_
    rintro - directory place ⟨is, -⟩
    rw [fails] at is
    cases is
  | closed n is fails => exact .of_staying rfl (.closed (n + 1) is fails) same rfl (by omega)
  | @entered directory place entered =>
    have isAbsolute := InstallDirectory.isAbsolute_of_absolute entered.located
    obtain ⟨answer, same', here⟩ := readCommand_of_sameHost same isAbsolute task.name
    have step : task.step (.entered directory) other =
        (.answered directory ((readCommand directory task.name).run world).1,
          ((readCommand directory task.name).run other).2) := by
      rw [Task.step, acting_bind, answer]
      rfl
    exact .of_staying step (.answered 0 entered) same' here (by omega)
  | answered n entered =>
    exact .of_staying rfl (.answered (n + 1) entered) same rfl (by omega)

/-- A thread that has come so far has what it would have alone, wherever it had begun. -/
structure AsAlone (task : Task) (world : World σ) (n : Nat) (stage : Stage) : Prop where
  entry : ∀ answer, stage.directory? = some answer → ∀ there,
    ((enter task.program).run { world with here := there }).1 = answer
  directory : ∀ directory, stage.directory? = some (.ok directory) → ∀ there,
    InstallDirectory.absolute there (derive world.executableDirectory task.program) =
      .ok directory
  command : ∀ directory answer, stage.directory? = some (.ok directory) →
    stage.command? = some answer → ∀ there,
      ((readCommand directory task.name).run { world with here := there }).1 = answer
  entered : 2 ≤ n → stage.directory?.isSome
  answered : 3 ≤ n → stage.command?.isSome ∨ ∃ e, stage.directory? = some (.error e)

theorem ComesTo.asAlone {n : Nat} {stage : Stage} (reached : ComesTo task world n stage)
    (absolute : (derive world.executableDirectory task.program).isAbsolute = true) :
    AsAlone task world n stage := by
  have elsewhere : ∀ there, SameHost world { world with here := there } := fun _ => ⟨rfl, rfl⟩
  have barred : ∀ {path : Path} {reason : SystemError}, Barred world task.program path reason →
      ∀ n, AsAlone task world n (.barred (.installDirectory path reason)) := by
    intro path reason barred n
    refine ⟨?_, nofun, nofun, fun _ => rfl, fun _ => .inr ⟨_, rfl⟩⟩
    intro answer same there
    obtain rfl := Option.some.inj same
    rw [(barred.of_sameHost (elsewhere there) absolute).run]
  -- Both a thread that has entered and one that has read keep their directory.
  have entered : ∀ {directory : Path} {place : Place},
      Entered world task.program directory place → ∀ {answer : Except LaunchError Path},
      some (.ok directory) = some answer → ∀ there,
        ((enter task.program).run { world with here := there }).1 = answer ∧
        InstallDirectory.absolute there (derive world.executableDirectory task.program) =
          .ok directory := by
    intro directory place entered answer same there
    obtain rfl := Option.some.inj same
    have entered' := entered.of_sameHost (elsewhere there) absolute
    exact ⟨by rw [entered'.run], entered'.located⟩
  cases reached with
  | begun => exact ⟨nofun, nofun, nofun, by omega, by omega⟩
  | located is => exact ⟨nofun, nofun, nofun, by omega, by omega⟩
  | unlocated n fails => exact barred (.unlocated fails) (n + 1)
  | closed n is fails => exact barred (.closed is fails) (n + 2)
  | entered is =>
    refine ⟨fun _ same there => (entered is same there).1, ?_, nofun, fun _ => rfl, by omega⟩
    intro directory same there
    obtain rfl := Except.ok.inj (Option.some.inj same)
    exact (entered is rfl there).2
  | answered n is =>
    refine ⟨fun _ same there => (entered is same there).1, ?_, ?_, fun _ => rfl,
      fun _ => .inl rfl⟩
    · intro directory same there
      obtain rfl := Except.ok.inj (Option.some.inj same)
      exact (entered is rfl there).2
    · intro directory answer same same' there
      obtain rfl := Except.ok.inj (Option.some.inj same)
      obtain rfl := Option.some.inj same'
      have isAbsolute := InstallDirectory.isAbsolute_of_absolute is.located
      exact (readCommand_of_sameHost (elsewhere there) isAbsolute task.name).1

end Task

/-! ## All threads -/

namespace Threads

open AppLauncher.Task (ComesTo Steps AsAlone)

/-- The last entry of a list is the one that is looked at, or comes after it. -/
theorem concat_eq_append_cons {xs before later : List ι} {i j : ι}
    (is : xs ++ [i] = before ++ j :: later) :
    (before = xs ∧ j = i) ∨ ∃ later', later = later' ++ [i] ∧ xs = before ++ j :: later' := by
  rcases List.eq_nil_or_concat later with rfl | ⟨later', last, rfl⟩
  · obtain ⟨rfl, same⟩ := List.append_inj' is rfl
    exact .inl ⟨rfl, (List.cons.inj same).1.symm⟩
  · rw [List.concat_eq_append, ← List.cons_append, ← List.append_assoc] at is
    obtain ⟨rfl, same⟩ := List.append_inj' is rfl
    obtain rfl := (List.cons.inj same).1
    exact .inr ⟨later', List.concat_eq_append, rfl⟩

variable [DecidableEq ι] {tasks : ι → Task} {world : World σ}

/-- After a part of the schedule, a thread makes the step by which it enters, and the process is left
at some place. -/
def Enters (tasks : ι → Task) (world : World σ) (before : List ι) (i : ι) (place : Place) : Prop :=
  before.count i = 1 ∧ ∃ directory after,
    (enter (tasks i).program).run world = (.ok directory, after) ∧ after.here = place

theorem enters_iff {before : List ι} {i : ι} {place : Place} :
    Enters tasks world before i place ↔
      before.count i = 1 ∧ ∃ directory, Entered world (tasks i).program directory place := by
  refine and_congr_right fun _ => ?_
  constructor
  · rintro ⟨directory, after, enters, rfl⟩
    rcases InstallDirectory.entered_or_barred world (tasks i).program with
      ⟨directory', place, entered⟩ | ⟨path, reason, barred⟩
    · rw [entered.run] at enters
      obtain ⟨-, rfl⟩ := Prod.mk.inj enters
      exact ⟨directory', entered⟩
    · rw [barred.run] at enters
      cases (Prod.mk.inj enters).1
  · rintro ⟨directory, entered⟩
    exact ⟨directory, _, entered.run, rfl⟩

/-- The process is where the last thread that has entered its directory has taken it, or, if there is
none, where it was. -/
inductive LeftAt (tasks : ι → Task) (world : World σ) (schedule : List ι) : Place → Prop where
  | moved {before later : List ι} {i : ι} {place : Place} (is : schedule = before ++ i :: later)
      (enters : Enters tasks world before i place)
      (last : ∀ between j rest other, later = between ++ j :: rest →
        ¬ Enters tasks world (before ++ i :: between) j other) :
      LeftAt tasks world schedule place
  | unmoved (none : ∀ before i later place, schedule = before ++ i :: later →
      ¬ Enters tasks world before i place) :
      LeftAt tasks world schedule world.here

/-- A step that does not enter moves nothing. -/
theorem LeftAt.concat {schedule : List ι} {here : Place} {i : ι}
    (left : LeftAt tasks world schedule here)
    (stays : ∀ place, ¬ Enters tasks world schedule i place) :
    LeftAt tasks world (schedule ++ [i]) here := by
  cases left with
  | @moved before later j _ is enters last =>
    refine .moved (by rw [is, List.append_assoc, List.cons_append]) enters ?_
    intro between k rest other splits
    rcases concat_eq_append_cons splits with ⟨rfl, rfl⟩ | ⟨rest', -, splits'⟩
    · rw [← is]
      exact stays other
    · exact last between k rest' other splits'
  | unmoved none =>
    refine .unmoved fun before j later place splits => ?_
    rcases concat_eq_append_cons splits with ⟨rfl, rfl⟩ | ⟨later', -, splits'⟩
    · exact stays place
    · exact none before j later' place splits'

variable (absolute : ∀ i, (derive world.executableDirectory (tasks i).program).isAbsolute = true)
include absolute

/-- Each thread comes as far as its own steps take it, and the files stay as they are. -/
theorem comesTo_of_run (schedule : List ι) :
    SameHost world (run tasks world schedule).world ∧
      ∀ i, ComesTo (tasks i) world (schedule.count i) ((run tasks world schedule).stages i) := by
  induction schedule using List.reverseRecOn with
  | nil => exact ⟨⟨rfl, rfl⟩, fun i => .begun⟩
  | append_singleton schedule i ih =>
    obtain ⟨same, reached⟩ := ih
    have steps := (reached i).step same (absolute i)
    rw [run_concat]
    refine ⟨steps.same, fun j => ?_⟩
    rw [List.count_append]
    by_cases isThis : j = i
    · subst isThis
      simpa using steps.reached
    · have other : [i].count j = 0 := List.count_eq_zero.2 (by simpa using isThis)
      simpa [isThis, other] using reached j

theorem leftAt_of_run (schedule : List ι) :
    LeftAt tasks world schedule (run tasks world schedule).world.here := by
  induction schedule using List.reverseRecOn with
  | nil => exact .unmoved (by simp)
  | append_singleton schedule i ih =>
    obtain ⟨same, reached⟩ := comesTo_of_run absolute schedule
    have steps := (reached i).step same (absolute i)
    rw [run_concat]
    by_cases enters : ∃ place, Enters tasks world schedule i place
    · obtain ⟨place, enters⟩ := enters
      obtain ⟨now, directory, entered⟩ := enters_iff.1 enters
      have here : ((run tasks world schedule).step tasks i).world.here = place :=
        steps.changes directory place now entered
      rw [here]
      exact .moved rfl enters (by simp)
    · have here : ((run tasks world schedule).step tasks i).world.here =
          (run tasks world schedule).world.here := by
        refine steps.stays fun now directory place entered => enters ⟨place, ?_⟩
        exact enters_iff.2 ⟨now, directory, entered⟩
      rw [here]
      exact ih.concat fun place enters' => enters ⟨place, enters'⟩

end Threads

/-- **Launchers in one process.** Let any number of threads have absolute programs, the
executable's directory being absolute if it is asked for, and let the process take their steps in any
order. The files stay as they are. What a thread gets from entering
and from reading is what it gets alone, wherever it had begun: its own directory as an absolute path,
or the error, and the command line that is there, or the error. After two steps of its own it has
entered or failed, after three it has read. The process is left where the last thread to enter its
directory has taken it. -/
theorem interleaved_entries [DecidableEq ι] (tasks : ι → Task) (world : World σ)
    (programs : ∀ i, (tasks i).program.isAbsolute = true)
    (executable : ∀ i, (∀ parent, (tasks i).program.parent? = some parent → parent.bytes = []) →
      world.executableDirectory.isAbsolute = true)
    (schedule : List ι) :
    let final := Threads.run tasks world schedule
    final.world.files = world.files ∧
    (∀ i, Task.AsAlone (tasks i) world (schedule.count i) (final.stages i)) ∧
    Threads.LeftAt tasks world schedule final.world.here := by
  intro final
  have absolute : ∀ i, (derive world.executableDirectory (tasks i).program).isAbsolute = true :=
    fun i => InstallDirectory.isAbsolute_derive_of_bare (executable i) (.inl (programs i))
  obtain ⟨same, comesTo⟩ := Threads.comesTo_of_run absolute schedule
  refine ⟨same.files, fun i => ?_, Threads.leftAt_of_run absolute schedule⟩
  exact (comesTo i).asAlone (absolute i)

/-- Two launchers in two directories. -/
def twoTasks : Bool → Task
  | false => ⟨.ofString "/a/x.exe", "x"⟩
  | true => ⟨.ofString "/b/y.exe", "y"⟩

/-- One of the two has something to launch. -/
def twoDirectories : World Unit where
  files := ⟨[([Utf8.ofString "a"], .directory), ([Utf8.ofString "b"], .directory),
    ([Utf8.ofString "a", Utf8.ofString "lib"], .directory),
    ([Utf8.ofString "a", Utf8.ofString "lib", Utf8.ofString "x.ini"],
      .file 0 (Utf8.ofString "tool"))], 1⟩
  here := .live []
  executableDirectory := .ofString "/bin"
  log := []
  system := ()

/-- One launcher finds its directory, and then the other one enters its own before it goes on. -/
theorem interleaved_entries_of_two :
    let final := Threads.run twoTasks twoDirectories [false, true, true, false, false]
    (final.stages false).command? = some (.ok "tool") ∧
      (final.stages true).directory? = some (.ok (.ofString "/b")) := by
  intro final
  obtain ⟨-, alone, -⟩ := interleaved_entries twoTasks twoDirectories (by decide)
    (fun _ _ => rfl) [false, true, true, false, false]
  have enters : ∀ i, (final.stages i).directory? =
      some ((enter (twoTasks i).program).run twoDirectories).1 := by
    intro i
    have steps : 2 ≤ [false, true, true, false, false].count i := by revert i; decide
    obtain ⟨answer, got⟩ := Option.isSome_iff_exists.1 ((alone i).entered steps)
    rw [got, ← (alone i).entry answer got twoDirectories.here]
  have first : (final.stages false).directory? = some (.ok (.ofString "/a")) :=
    (enters false).trans (by decide +kernel)
  have second : (final.stages true).directory? = some (.ok (.ofString "/b")) :=
    (enters true).trans (by decide +kernel)
  refine ⟨?_, second⟩
  rcases (alone false).answered (by decide) with reads | ⟨e, fails⟩
  · obtain ⟨answer, got⟩ := Option.isSome_iff_exists.1 reads
    rw [got, ← (alone false).command _ answer first got twoDirectories.here]
    decide +kernel
  · rw [first] at fails
    cases fails

end AppLauncher
