import AppLauncher.Windows.Desktop

/-!
# The tracking window

A minimised window without content. It is there so that the task bar has something to show for the
launcher. Its class is named after the launcher.
-/

namespace AppLauncher.Windows

/-- The style of a window without a frame. -/
def popup : UInt32 := 0x80000000

/-- The style of a window with a system menu. -/
def systemMenu : UInt32 := 0x00080000

/-- The command that shows a window minimised. -/
def showMinimized : UInt32 := 2

/-- The message that a window is being created. -/
def messageCreate : UInt32 := 1

/-- The message that a window is being destroyed. -/
def messageDestroy : UInt32 := 2

/-- The message that a window has a new size. -/
def messageSize : UInt32 := 5

namespace TrackingWindow

/-- The window procedure. There is nothing to lay out, so a window's beginning, end and size mean
nothing; all else is left to the system. -/
def procedure (message : Message) : OnDesktop Int64 :=
  if message.number = messageCreate ∨ message.number = messageSize
      ∨ message.number = messageDestroy then
    return 0
  else Desktop.defaultProcedure message

/-- The class name of the window, as a zero-terminated buffer. -/
def className (launcherName : String) : Wide :=
  Utf16.encode (launcherName ++ "NullWin\x00").toList

/-- Creates the window of a launcher, or says why there is none. -/
def create (launcherName : String) : OnDesktop (Except String WindowHandle) := do
  let name := className launcherName
  match ← Desktop.getModuleHandle with
  | .error failure => return .error failure.message
  | .ok own =>
    match ← Desktop.registerClass ⟨name, 0, own, true⟩ with
    | .error error => return .error error.message
    | .ok () =>
      match ← Desktop.createWindow ⟨name, 0, popup ||| systemMenu, own⟩ with
      | .error failure => return .error failure.message
      | .ok window =>
        let _ ← Desktop.showWindow window showMinimized
        note .info .trackingWindow s!"created tracking window {windowText window}"
        return .ok window

end TrackingWindow

end AppLauncher.Windows
