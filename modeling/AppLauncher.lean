import AppLauncher.CommandLine
import AppLauncher.Configuration
import AppLauncher.Diagnostics.Directive
import AppLauncher.Diagnostics.Filter
import AppLauncher.Diagnostics.Pattern
import AppLauncher.Diagnostics.Record
import AppLauncher.FileSystem.Access
import AppLauncher.FileSystem.Basic
import AppLauncher.FileSystem.Maintenance
import AppLauncher.FileSystem.Resolve
import AppLauncher.FileSystem.SystemError
import AppLauncher.InstallDirectory
import AppLauncher.Invocation
import AppLauncher.Launch
import AppLauncher.LaunchError
import AppLauncher.Log
import AppLauncher.LogSink
import AppLauncher.Main
import AppLauncher.Path.Basic
import AppLauncher.Platform
import AppLauncher.Program
import AppLauncher.Proofs.Configuration
import AppLauncher.Proofs.FileSystem.Contents
import AppLauncher.Proofs.FileSystem.Emptied
import AppLauncher.Proofs.FileSystem.Frame
import AppLauncher.Proofs.FileSystem.Routes
import AppLauncher.Proofs.FileSystem.Standing
import AppLauncher.Proofs.FileSystem.Written
import AppLauncher.Proofs.Invocation
import AppLauncher.Proofs.Launch.CommandLine
import AppLauncher.Proofs.Launch.Effects
import AppLauncher.Proofs.Launch.Elsewhere
import AppLauncher.Proofs.Launch.Entering
import AppLauncher.Proofs.Launch.Interleaved
import AppLauncher.Proofs.Launch.Names
import AppLauncher.Proofs.Launch.Output
import AppLauncher.Proofs.Launch.Redirection
import AppLauncher.Proofs.Launch.Script
import AppLauncher.Proofs.Launch.Stages
import AppLauncher.Proofs.Launch.Unnamed
import AppLauncher.Proofs.Launch.Verdict
import AppLauncher.Proofs.Launch.WorkingDirectory
import AppLauncher.Proofs.Path.Components
import AppLauncher.Proofs.Path.Entries
import AppLauncher.Proofs.Path.Joined
import AppLauncher.Proofs.Path.Rooted
import AppLauncher.Proofs.Path.Segments
import AppLauncher.Proofs.Path.Slashes
import AppLauncher.Proofs.Program
import AppLauncher.Proofs.Steps
import AppLauncher.Proofs.Supervision.Budget
import AppLauncher.Proofs.Supervision.Course
import AppLauncher.Proofs.Supervision.Life
import AppLauncher.Proofs.Supervision.Recorded
import AppLauncher.Proofs.Supervision.Rounds
import AppLauncher.Proofs.Supervision.Stepping
import AppLauncher.Proofs.Text.IllFormed
import AppLauncher.Proofs.Text.Utf16
import AppLauncher.Proofs.Text.Utf8
import AppLauncher.Proofs.Text.Words
import AppLauncher.Proofs.Windows.Actions
import AppLauncher.Proofs.Windows.ExitCode
import AppLauncher.Proofs.Windows.Handles
import AppLauncher.Proofs.Windows.Launch
import AppLauncher.Proofs.Windows.Messages
import AppLauncher.Proofs.Windows.Supervision
import AppLauncher.Proofs.Windows.Texts
import AppLauncher.Scripted
import AppLauncher.Shell.Arithmetic
import AppLauncher.Shell.Builtin
import AppLauncher.Shell.Condition
import AppLauncher.Shell.Escape
import AppLauncher.Shell.Expand
import AppLauncher.Shell.Fields
import AppLauncher.Shell.Format
import AppLauncher.Shell.Glob
import AppLauncher.Shell.Pathnames
import AppLauncher.Shell.Platform
import AppLauncher.Shell.Process
import AppLauncher.Shell.Reader
import AppLauncher.Shell.Redirect
import AppLauncher.Shell.Run
import AppLauncher.Shell.Script
import AppLauncher.Shell.Text
import AppLauncher.Shell.Tool.Basic
import AppLauncher.Shell.Tool.Files
import AppLauncher.Shell.Tool.Streams
import AppLauncher.Supervisor
import AppLauncher.Text.Alphanumeric
import AppLauncher.Text.Blank
import AppLauncher.Text.Hex
import AppLauncher.Text.Utf16
import AppLauncher.Text.Utf8
import AppLauncher.Text.Words
import AppLauncher.Windows.Call
import AppLauncher.Windows.Desktop
import AppLauncher.Windows.Platform
import AppLauncher.Windows.TrackingWindow
import AppLauncher.World
