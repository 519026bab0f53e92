import AppLauncher.World

/-!
# The configured command line

Each launcher has a file `lib/<name>.ini` in its install directory, whose whole contents are the
command line of the child. Bytes that are not text are replaced, and nothing is trimmed. A launch
goes on only if the file holds something.
-/

namespace AppLauncher.Configuration

/-- The file of a launcher, seen from the install directory. -/
def path (name : String) : Path :=
  (Path.ofString "lib").join (.ofString (name ++ ".ini"))

/-- Reads the command line of a launcher. A file that cannot be read counts as an empty one, with a
warning. -/
def readCommand {σ : Type} (installDirectory : Path) (name : String) : Launching σ String := do
  let world ← get
  let file := installDirectory.join (path name)
  let command ← match world.files.read world.here file with
    | .ok contents => pure (Utf8.toStringLossy contents)
    | .error reason => do
      note .warn .configuration s!"could not read {file.display}: {reason.message}"
      pure ""
  if command.isEmpty then throw (.missingConfiguration (path name))
  note .info .configuration s!"loaded command line from {file.display}"
  return command

end AppLauncher.Configuration
