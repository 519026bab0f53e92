import AppLauncher.FileSystem.SystemError
import AppLauncher.Path.Basic

/-!
# Why a launch stops

Each cause has the text and the caption of the dialog that tells the user, and the exit status of
the launcher. No exit status is zero, so a launch that fails is told apart from one that succeeds.
-/

namespace AppLauncher

/-- A failure that stops a launch before the child runs. -/
inductive LaunchError where
  | invalidArguments (reason : String)
  | missingProfile
  | installDirectory (path : Path) (source : SystemError)
  | missingConfiguration (path : Path)
  | spawn (commandLine : String) (source : SystemError)
  deriving DecidableEq, Repr

namespace LaunchError

/-- The text of the dialog. A child that could not be started is shown as the command line that was
tried, without the system's reason. -/
def message : LaunchError → String
  | invalidArguments reason => s!"Unable to parse command line: {reason}"
  | missingProfile => "Unable to obtain user profile."
  | installDirectory path _ => s!"Unable to locate to executable path {path.display}"
  | missingConfiguration path => s!"Unable to find {path.display}"
  | spawn commandLine _ => commandLine

/-- The caption of the dialog. -/
def caption : LaunchError → String
  | invalidArguments _ => "Error"
  | missingProfile | installDirectory _ _ => "Startup Error"
  | missingConfiguration _ => "Missing or Damaged .ini File"
  | spawn _ _ => "Unable to Launch"

/-- The exit status of the launcher. -/
def exitCode : LaunchError → Int32
  | invalidArguments _ | missingConfiguration _ => 10
  | missingProfile => 11
  | installDirectory _ _ => 12
  | spawn _ _ => -1

/-- The system's reason, where there is one. -/
def source? : LaunchError → Option SystemError
  | installDirectory _ source | spawn _ source => some source
  | _ => none

theorem exitCode_ne_zero (e : LaunchError) : e.exitCode ≠ 0 := by
  cases e <;> simp [exitCode]

end LaunchError

end AppLauncher
