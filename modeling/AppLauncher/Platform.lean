import AppLauncher.LogSink
import AppLauncher.Supervisor

/-!
# What a launch needs of the system

A platform starts the child, opens the event queue and shows the error dialog, and it brings the
services by which the child is watched. The launcher is written for every platform: the real
desktop, a shell, or a script of answers.
-/

namespace AppLauncher

/-- A system to launch on. -/
structure Platform (σ C M : Type) extends Services σ C M where
  /-- What is done before the log of the child is opened. -/
  prepareLog : Acting σ Unit
  /-- Starts a command line, with the child's output sent to the log if there is one. -/
  spawn : String → Option LogSink → Acting σ (Except SystemError C)
  /-- Opens the event queue for the launcher of the given name. -/
  openPump : String → Acting σ M
  /-- Shows an error, with a caption and a text, until the user has dismissed it. -/
  showError : String → String → Acting σ Unit

end AppLauncher
