import AppLauncher.Proofs.Launch.Stages
import AppLauncher.Proofs.Text.IllFormed

/-!
# Reading the configured command line

What a launcher is configured with is the text of its file, and nothing else: no part of it is
trimmed, and only bytes that are no text are replaced (`IsTextOf`). An empty file is like none, but
only a file that cannot be read is warned of.

**`command_of_file`**: a command line is read exactly if the file can be read and holds something,
and this changes nothing but the log.
-/

namespace AppLauncher.Configuration

variable {σ : Type}

/-- A text is what a file with these contents is read as. -/
structure IsTextOf (contents : Bytes) (command : String) : Prop where
  filled : command ≠ ""
  shows : Utf8.Shows contents command.toList
  verbatim : Utf8.ofString command = contents ↔ Utf8.IsText contents
  stable : Utf8.toStringLossy (Utf8.ofString command) = command

theorem isTextOf_toStringLossy {contents : Bytes} (filled : contents ≠ []) :
    IsTextOf contents (Utf8.toStringLossy contents) := by
  refine ⟨Utf8.toStringLossy_ne_empty filled, ?_, ⟨fun same => ⟨_, same⟩, ?_⟩,
    Utf8.toStringLossy_ofString _⟩
  · rw [Utf8.shows_iff, Utf8.toStringLossy, String.toList_ofList]
  · rintro ⟨s, rfl⟩
    rw [Utf8.toStringLossy_ofString]

/-- A file has one text. -/
theorem eq_of_shows {contents : Bytes} {command : String}
    (shows : Utf8.Shows contents command.toList) : Utf8.toStringLossy contents = command := by
  rw [Utf8.toStringLossy, Utf8.shows_iff.1 shows, String.ofList_toList]

theorem answer_eq_ok_iff {name command : String} {read : Except SystemError Bytes} :
    answer name read = .ok command ↔
      ∃ contents, read = .ok contents ∧ contents ≠ [] ∧ Utf8.Shows contents command.toList := by
  rcases read with reason | _ | ⟨b, rest⟩
  · simp [answer]
  · simp [answer]
  · constructor
    · intro answers
      obtain rfl := Except.ok.inj answers
      have filled := List.cons_ne_nil b rest
      exact ⟨_, rfl, filled, (isTextOf_toStringLossy filled).shows⟩
    · rintro ⟨contents, read, -, shows⟩
      obtain rfl := Except.ok.inj read
      exact congrArg Except.ok (eq_of_shows shows)

theorem answer_eq_error_iff {name : String} {e : LaunchError} {read : Except SystemError Bytes} :
    answer name read = .error e ↔
      e = .missingConfiguration (path name) ∧ ∀ contents, read = .ok contents → contents = [] := by
  rcases read with reason | _ | ⟨b, rest⟩
  · simp [answer, eq_comm]
  · simp [answer, eq_comm]
  · simp [answer]

/-- **The configured command line.** It is read exactly if the file `lib/<name>.ini` of the install
directory can be read and holds a byte or more. Then it is the text of what the file holds: each
encoding of a character kept in its place, one replacement for each ill-formed part, never empty,
the very contents exactly if these are a text, and read as itself when it is written again. In all
other cases the launch stops with the path of the file, seen from the install directory. There is a
warning exactly if the file could not be read, and neither files nor the working directory change.
-/
theorem command_of_file (directory : Path) (name : String) (world : World σ) :
    let file := directory.join (path name)
    let read := world.files.read world.here file
    ∃ result after events, (readCommand directory name).run world = (result, after) ∧
      (∀ command, result = .ok command ↔
        ∃ contents, read = .ok contents ∧ contents ≠ [] ∧ Utf8.Shows contents command.toList) ∧
      (∀ command contents, result = .ok command → read = .ok contents →
        IsTextOf contents command) ∧
      (∀ e, result = .error e ↔
        e = .missingConfiguration (path name) ∧ ∀ contents, read = .ok contents → contents = []) ∧
      (∀ reason, read = .error reason →
        events = [⟨.warn, .configuration, s!"could not read {file.display}: {reason.message}"⟩]) ∧
      (∀ contents, read = .ok contents → ∀ event ∈ events, event.level ≠ .warn) ∧
      after.log = world.log ++ events ∧ after.files = world.files ∧ after.here = world.here ∧
      ('/' ∉ name.toList → path name = .ofString ("lib/" ++ name ++ ".ini") ∧
        file = directory.join (.ofString ("lib/" ++ name ++ ".ini"))) := by
  intro file read
  refine ⟨answer name read, world.noteAll (readEvents file read), readEvents file read,
    readCommand_run directory name world, fun _ => answer_eq_ok_iff, ?_,
    fun _ => answer_eq_error_iff, ?_, ?_, rfl, rfl, rfl, ?_⟩
  · intro command contents answers found
    obtain ⟨contents', found', filled, shows⟩ := answer_eq_ok_iff.1 answers
    obtain rfl := Except.ok.inj (found.symm.trans found')
    rw [← eq_of_shows shows]
    exact isTextOf_toStringLossy filled
  · intro reason failed
    rw [failed]
    rfl
  · intro contents found event among
    rw [found] at among
    cases contents with
    | nil => cases among
    | cons b rest =>
      rw [List.mem_singleton.1 among]
      simp
  · intro noSlash
    have here := path_eq noSlash
    exact ⟨here, congrArg directory.join here⟩

end AppLauncher.Configuration
