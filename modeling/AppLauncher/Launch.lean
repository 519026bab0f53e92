import AppLauncher.CommandLine
import AppLauncher.Configuration
import AppLauncher.InstallDirectory
import AppLauncher.Invocation
import AppLauncher.Platform

/-!
# A launch from beginning to end

`supervise` goes through the stages in their order: the arguments, the user profile with the log,
the install directory, the configured command line, the child, and the supervision until the child
exits. The first stage that fails stops the launch. `launch` tells the user of a failure and gives
the exit status, which is zero whenever the child ran, whatever its own exit code was.
-/

namespace AppLauncher

/-- What is to be launched, and how the child is watched. -/
structure LaunchRequest where
  /-- The launcher's own arguments, its own path first. -/
  args : List Bytes
  /-- The directory of the user profile, if it is known. -/
  profile : Option Path
  supervision : SupervisorConfig
  deriving Repr

namespace LaunchRequest

/-- The request that the arguments and the profile in the environment make. -/
def ofEnvironment (args : List Bytes) (profile : Option Bytes) : LaunchRequest :=
  ⟨args, profile.map Path.mk, .default⟩

end LaunchRequest

namespace Platform

variable {σ C M : Type}

/-- A warning for every argument that may be read in other words than it was given. -/
def quoteWarnings (args : List String) : List Event :=
  (args.filter CommandLine.hasEmbeddedQuote).map fun arg =>
    ⟨.warn, .launch, s!"argument contains an unescaped quote: {arg}"⟩

/-- Opens the log of the child. -/
def openLog (platform : Platform σ C M) (profile : Path) (name : String) :
    Acting σ (Option LogSink) := do
  platform.prepareLog
  LogSink.open? profile name

/-- What is settled once a launch has entered its install directory. -/
structure Site where
  invocation : Invocation
  sink : Option LogSink
  directory : Path

/-- The stages up to the install directory. -/
def settle (platform : Platform σ C M) (request : LaunchRequest) : Launching σ Site := do
  let invocation ← Invocation.parse request.args
  let some profile := request.profile | throw .missingProfile
  let sink ← platform.openLog profile invocation.launcherName
  let directory ← InstallDirectory.enter invocation.program
  return ⟨invocation, sink, directory⟩

/-- The child's command line: the configured one with the arguments. -/
def commandLine (site : Site) : Launching σ String := do
  let base ← Configuration.readCommand site.directory site.invocation.launcherName
  noteAll (quoteWarnings site.invocation.passthrough)
  let line := CommandLine.build base site.invocation.passthrough
  note .info .launch s!"launching: {line}"
  return line

/-- Starts the child, and opens the event queue that it is watched with. -/
def start (platform : Platform σ C M) (config : SupervisorConfig) (site : Site) (line : String) :
    Launching σ (Supervisor C M) := do
  match ← platform.spawn line site.sink with
  | .error source => throw (.spawn line source)
  | .ok child =>
    let pump ← platform.openPump site.invocation.launcherName
    return .start child pump config

/-- Every stage before the supervision. -/
def prepare (platform : Platform σ C M) (request : LaunchRequest) :
    Launching σ (Supervisor C M) := do
  let site ← platform.settle request
  let line ← commandLine site
  platform.start request.supervision site line

/-- Launches the child and watches it until it exits. -/
def supervise (platform : Platform σ C M) (request : LaunchRequest) : Supervising σ Outcome := do
  let supervisor ← platform.prepare request
  supervisor.run platform.toServices

/-- Tells the user of a failure. -/
def report (platform : Platform σ C M) (error : LaunchError) : Acting σ Unit := do
  note .error .launch s!"{error.caption}: {error.message}"
  platform.showError error.caption error.message

/-- Runs a whole launch, and gives the exit status. -/
def launch (platform : Platform σ C M) (request : LaunchRequest) : Waiting σ Int32 := do
  match ← (platform.supervise request).run with
  | .ok _ => return 0
  | .error error =>
    platform.report error
    return error.exitCode

end Platform

end AppLauncher
