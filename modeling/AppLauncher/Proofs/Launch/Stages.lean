import AppLauncher.Launch
import AppLauncher.Proofs.FileSystem.Frame
import AppLauncher.Proofs.Path.Slashes
import AppLauncher.Proofs.Steps

/-!
# The stages of a launch

What each stage comes to, as a condition on the world that it starts in, together with the world
that it leaves: the arguments (`parse_texts`, `parse_notText`), the install directory (`Entered`,
`Barred`) and the configured command line (`readCommand_ok`, `readCommand_error`). A stage that
fails changes nothing but the log.
-/

namespace AppLauncher

variable {σ C M : Type}

/-! ## Arguments -/

/-- Arguments are texts up to the first one that is none. -/
theorem Utf8.texts_or_notText (args : List Bytes) :
    (∃ texts : List String, args = texts.map ofString) ∨
      ∃ (texts : List String) (arg : Bytes) (rest : List Bytes),
        args = texts.map ofString ++ arg :: rest ∧ ¬ IsText arg := by
  induction args with
  | nil => exact .inl ⟨[], rfl⟩
  | cons arg rest ih =>
    cases reads : toString? arg with
    | none => exact .inr ⟨[], arg, rest, rfl, toString?_eq_none_iff.1 reads⟩
    | some text =>
      obtain rfl := toString?_eq_some_iff.1 reads
      rcases ih with ⟨texts, rfl⟩ | ⟨texts, other, more, rfl, notText⟩
      · exact .inl ⟨text :: texts, rfl⟩
      · exact .inr ⟨text :: texts, other, more, rfl, notText⟩

namespace Invocation

theorem readTexts_texts (position : Nat) (texts : List String) :
    readTexts position (texts.map Utf8.ofString) = .ok texts := by
  induction texts generalizing position with
  | nil => rfl
  | cons text rest ih =>
    rw [List.map_cons, readTexts, Utf8.toString?_eq_some_iff.2 rfl, ih]
    rfl

theorem readTexts_notText (position : Nat) (texts : List String) {arg : Bytes}
    (notText : ¬ Utf8.IsText arg) (rest : List Bytes) :
    readTexts position (texts.map Utf8.ofString ++ arg :: rest) =
      .error (notUnicode (position + texts.length) arg) := by
  induction texts generalizing position with
  | nil =>
    rw [List.map_nil, List.nil_append, readTexts, Utf8.toString?_eq_none_iff.2 notText]
    rfl
  | cons text more ih =>
    rw [List.map_cons, List.cons_append, readTexts, Utf8.toString?_eq_some_iff.2 rfl, ih,
      List.length_cons, Nat.add_assoc, Nat.add_comm 1]
    rfl

theorem parse_texts (invocation : Invocation) :
    parse (invocation.program.bytes :: invocation.passthrough.map Utf8.ofString) =
      .ok invocation := by
  rw [parse, readTexts_texts]
  rfl

/-- The first argument that is no text is named by its position. -/
theorem parse_notText (program : Bytes) (texts : List String) {arg : Bytes}
    (notText : ¬ Utf8.IsText arg) (rest : List Bytes) :
    parse (program :: texts.map Utf8.ofString ++ arg :: rest) =
      .error (notUnicode (texts.length + 1) arg) := by
  rw [List.cons_append, parse, readTexts_notText 1 texts notText rest, Nat.add_comm 1]
  rfl

end Invocation

/-! ## The install directory -/

namespace InstallDirectory

/-- The event about a new working directory. -/
def enterEvent (directory : Path) : Event :=
  ⟨.info, .installDirectory, s!"working directory: {directory.display}"⟩

/-- The install directory can be entered: as an absolute path it leads to a directory. -/
structure Entered (world : World σ) (program directory : Path) (place : Place) : Prop where
  located : absolute world.here (derive world.executableDirectory program) = .ok directory
  leads : world.files.directory world.here directory = .ok place

/-- The install directory cannot be entered: the path that is told, and the reason. -/
inductive Barred (world : World σ) (program : Path) : Path → SystemError → Prop where
  | unlocated {reason : SystemError}
      (fails : absolute world.here (derive world.executableDirectory program) = .error reason) :
      Barred world program (derive world.executableDirectory program) reason
  | closed {directory : Path} {reason : SystemError}
      (located : absolute world.here (derive world.executableDirectory program) = .ok directory)
      (fails : world.files.directory world.here directory = .error reason) :
      Barred world program directory reason

/-- The world after its working directory was changed. -/
def enteredWorld (world : World σ) (directory : Path) (place : Place) : World σ :=
  { world with here := place }.noteAll [enterEvent directory]

theorem entered_or_barred (world : World σ) (program : Path) :
    (∃ directory place, Entered world program directory place) ∨
      ∃ path reason, Barred world program path reason := by
  cases located : absolute world.here (derive world.executableDirectory program) with
  | error reason => exact .inr ⟨_, reason, .unlocated located⟩
  | ok directory =>
    cases leads : world.files.directory world.here directory with
    | error reason => exact .inr ⟨directory, reason, .closed located leads⟩
    | ok place => exact .inl ⟨directory, place, located, leads⟩

/-- Two worlds that differ in nothing but the working directory, the log and what the platform
keeps. -/
structure SameHost (world other : World σ) : Prop where
  files : other.files = world.files
  executableDirectory : other.executableDirectory = world.executableDirectory

/-- A directory that is written as an absolute path is the same one from everywhere. -/
theorem absolute_elsewhere {written : Path} (isAbsolute : written.isAbsolute = true)
    (here there : Place) : absolute here written = absolute there written := by
  rw [absolute, absolute, if_pos isAbsolute, if_pos isAbsolute]

section SameHost

variable {world other : World σ} {program directory path : Path} {place : Place}
  {reason : SystemError} (same : SameHost world other)
  (absolute : (derive world.executableDirectory program).isAbsolute = true)
include same absolute

theorem SameHost.located :
    InstallDirectory.absolute other.here (derive other.executableDirectory program) =
      InstallDirectory.absolute world.here (derive world.executableDirectory program) := by
  rw [same.executableDirectory]
  exact absolute_elsewhere absolute other.here world.here

/-- An install directory that is written as an absolute path is entered from everywhere. -/
theorem Entered.of_sameHost (entered : Entered world program directory place) :
    Entered other program directory place where
  located := (same.located absolute).trans entered.located
  leads := by
    rw [same.files, FileSystem.directory_of_isAbsolute (isAbsolute_of_absolute entered.located)
      other.here world.here]
    exact entered.leads

theorem Barred.of_sameHost (barred : Barred world program path reason) :
    Barred other program path reason := by
  have located := same.located absolute
  cases barred with
  | unlocated fails =>
    rw [← same.executableDirectory]
    exact .unlocated (located.trans fails)
  | closed is fails =>
    refine .closed (located.trans is) ?_
    rw [same.files, FileSystem.directory_of_isAbsolute (isAbsolute_of_absolute is) other.here
      world.here]
    exact fails

end SameHost

section Enter

variable {world : World σ} {program directory path : Path} {place : Place} {reason : SystemError}

theorem locate_run (located :
    absolute world.here (derive world.executableDirectory program) = .ok directory) :
    (locate program).run world = (.ok directory, world) := by
  rw [locate, launching_get]
  simp only [located]
  rfl

theorem locate_run_error (fails :
    absolute world.here (derive world.executableDirectory program) = .error reason) :
    (locate program).run world =
      (.error (.installDirectory (derive world.executableDirectory program) reason), world) := by
  rw [locate, launching_get]
  simp only [fails]
  rfl

theorem change_run (leads : world.files.directory world.here directory = .ok place) :
    (change directory).run world = (.ok (), enteredWorld world directory place) := by
  rw [change, launching_get, leads]
  rfl

theorem change_run_error (fails : world.files.directory world.here directory = .error reason) :
    (change directory).run world = (.error (.installDirectory directory reason), world) := by
  rw [change, launching_get, fails]
  rfl

theorem Entered.run (entered : Entered world program directory place) :
    (enter program).run world = (.ok directory, enteredWorld world directory place) := by
  rw [enter, launching_bind_ok (locate_run entered.located),
    launching_bind_ok (change_run entered.leads)]
  rfl

theorem Barred.run (barred : Barred world program path reason) :
    (enter program).run world = (.error (.installDirectory path reason), world) := by
  cases barred with
  | unlocated fails => exact launching_bind_error (locate_run_error fails)
  | closed located fails =>
    rw [enter, launching_bind_ok (locate_run located),
      launching_bind_error (change_run_error fails)]

end Enter

end InstallDirectory

/-! ## The configured command line -/

namespace Configuration

/-- The file that holds the command line of a launcher. -/
def file (directory : Path) (name : String) : Path :=
  directory.join (.ofString ("lib/" ++ name ++ ".ini"))

/-- What the log is told when the file was read, or could not be read. A file that holds nothing is
not told. -/
def readEvents (file : Path) : Except SystemError Bytes → List Event
  | .error reason =>
    [⟨.warn, .configuration, s!"could not read {file.display}: {reason.message}"⟩]
  | .ok [] => []
  | .ok _ => [⟨.info, .configuration, s!"loaded command line from {file.display}"⟩]

/-- What reading the command line comes to, for what was read of the file. -/
def answer (name : String) : Except SystemError Bytes → Except LaunchError String
  | .error _ | .ok [] => .error (.missingConfiguration (path name))
  | .ok contents => .ok (Utf8.toStringLossy contents)

section Read

variable {world : World σ} {directory : Path} {name : String} {contents : Bytes}

/-- What is read of the file settles everything, because a file that holds something is a text that
is not empty. -/
theorem readCommand_run (directory : Path) (name : String) (world : World σ) :
    let file := directory.join (path name)
    let read := world.files.read world.here file
    (readCommand directory name).run world =
      (answer name read, world.noteAll (readEvents file read)) := by
  intro file read
  rw [readCommand, launching_get]
  dsimp only
  cases found : world.files.read world.here (directory.join (path name)) with
  | error reason =>
    have failed : read = .error reason := found
    rw [failed]
    rfl
  | ok contents =>
    have succeeded : read = .ok contents := found
    rw [succeeded, launching_bind]
    cases contents with
    | nil => exact congrArg (Prod.mk _) (World.noteAll_nil world).symm
    | cons b rest =>
      have filled : (Utf8.toStringLossy (b :: rest)).isEmpty = false := by
        rw [Bool.eq_false_iff, ne_eq, String.isEmpty_iff]
        exact Utf8.toStringLossy_ne_empty (List.cons_ne_nil b rest)
      change (if (Utf8.toStringLossy (b :: rest)).isEmpty = true then _ else _ :
        Launching σ String).run world = _
      rw [filled]
      rfl

theorem file_eq (directory : Path) (noSlash : '/' ∉ name.toList) :
    directory.join (path name) = file directory name := by
  rw [file, path_eq noSlash]

theorem read_file (files : FileSystem) (absolute : directory.isAbsolute = true) (here : Place) :
    files.read here (file directory name) = files.read (.live []) (file directory name) :=
  FileSystem.read_of_isAbsolute (Path.isAbsolute_join absolute) here (.live [])

/-- A file that holds something is read as text, with nothing trimmed. -/
theorem readCommand_ok (noSlash : '/' ∉ name.toList) (absolute : directory.isAbsolute = true)
    (read : world.files.read (.live []) (file directory name) = .ok contents)
    (filled : contents ≠ []) :
    (readCommand directory name).run world =
      (.ok (Utf8.toStringLossy contents),
        world.noteAll (readEvents (file directory name) (.ok contents))) := by
  obtain ⟨b, rest, rfl⟩ := List.exists_cons_of_ne_nil filled
  rw [readCommand_run, file_eq directory noSlash, read_file world.files absolute world.here, read]
  rfl

/-- A file that holds nothing or cannot be read stops the launch. -/
theorem readCommand_error (noSlash : '/' ∉ name.toList) (absolute : directory.isAbsolute = true)
    (unread : ∀ contents, world.files.read (.live []) (file directory name) = .ok contents →
      contents = []) :
    (readCommand directory name).run world =
      (.error (.missingConfiguration (.ofString ("lib/" ++ name ++ ".ini"))),
        world.noteAll (readEvents (file directory name)
          (world.files.read (.live []) (file directory name)))) := by
  rw [← path_eq noSlash, readCommand_run, file_eq directory noSlash,
    read_file world.files absolute world.here]
  cases read : world.files.read (.live []) (file directory name) with
  | error reason => rfl
  | ok contents =>
    obtain rfl := unread contents read
    rfl

end Read

end Configuration

/-! ## The child's command line -/

theorem CommandLine.build_eq_join (base : String) (args : List String) :
    build base args = base ++ String.join (args.map fun arg => " \"" ++ arg ++ "\"") := by
  have folds : ∀ (line : String) (words : List String),
      words.foldl (· ++ ·) line = line ++ String.join words := by
    intro line words
    induction words generalizing line with
    | nil => exact String.append_empty.symm
    | cons word rest ih =>
      have joined : String.join (word :: rest) = word ++ String.join rest := by
        change rest.foldl (· ++ ·) ("" ++ word) = _
        rw [ih, String.empty_append]
      rw [List.foldl_cons, ih, joined, String.append_assoc]
  rw [build, ← folds, List.foldl_map]
  rfl

end AppLauncher
