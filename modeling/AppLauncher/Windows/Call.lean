import AppLauncher.FileSystem.Access
import AppLauncher.Text.Hex
import AppLauncher.Text.Utf16

/-!
# Calls of the desktop system

The functions of the desktop system that the launcher uses, with the arguments it gives and the
answer it gets. Texts are zero-terminated buffers of 16-bit units, and a reader of one sees what
stands before its first zero.
-/

namespace AppLauncher.Windows

abbrev Wide := List UInt16

/-- A text as a zero-terminated buffer. -/
def wide (text : String) : Wide :=
  Utf16.wide text.toList

/-- What a reader of a buffer sees. -/
def Wide.shown (buffer : Wide) : String :=
  String.ofList (Utf16.read buffer)

/-- A failed call. Error codes become results with the code in the low half. -/
structure Failure where
  result : UInt32
  deriving DecidableEq, Repr

namespace Failure

/-- The result of an error code. -/
def ofCode (code : UInt32) : Failure :=
  ⟨0x80070000 ||| (code &&& 0xFFFF)⟩

/-- The error code in a result. -/
def code (failure : Failure) : UInt32 :=
  failure.result &&& 0xFFFF

/-- The text of a failure. -/
def message (failure : Failure) : String :=
  s!"simulated error {failure.code.toNat} ({Hex.word failure.result.toNat})"

end Failure

/-- A handle of the system. -/
inductive SystemHandle where
  | null
  | number (value : UInt64)
  /-- The handle of an open file. -/
  | file (handle : Handle)
  deriving DecidableEq, Repr

/-- A handle as a number; a file is shown by its path. -/
def SystemHandle.shown : SystemHandle → String
  | null => "0x0"
  | number value => Hex.lower value.toNat
  | file handle => (Location.path handle.location).display

abbrev WindowHandle := Int64

/-- The handle of a window as a number. -/
def windowText (window : WindowHandle) : String :=
  Hex.lower window.toUInt64.toNat

/-- A message in the queue of a thread. -/
structure Message where
  /-- The window that the message is for, 0 when it is for the thread itself. -/
  window : WindowHandle
  number : UInt32
  wparam : UInt64
  lparam : Int64
  deriving DecidableEq, Repr

/-- What a new process is started with. -/
structure ProcessStart where
  commandLine : Wide
  /-- Whether the process gets the handles that can be inherited. -/
  inherits : Bool
  creationFlags : UInt32
  /-- The size of the record of the fields that follow. -/
  startupSize : UInt32
  startupFlags : UInt32
  input : SystemHandle
  output : SystemHandle
  error : SystemHandle
  deriving DecidableEq, Repr

/-- What a new window class is registered with. -/
structure ClassStart where
  name : Wide
  style : UInt32
  instanceHandle : SystemHandle
  /-- Whether the class has a window procedure. -/
  hasProcedure : Bool
  deriving DecidableEq, Repr

/-- What a new window is created with; it has no title, no size, no parent and no menu. -/
structure WindowStart where
  className : Wide
  extendedStyle : UInt32
  style : UInt32
  instanceHandle : SystemHandle
  deriving DecidableEq, Repr

/-- A call of a function of the system. An answer that is an error code is 0 for success. -/
inductive Call where
  | shareMode (mode : UInt32)
  | setHandleInformation (handle : SystemHandle) (mask flags : UInt32) (code : UInt32)
  | createProcess (start : ProcessStart) (code : UInt32)
  | getExitCodeProcess (handle : SystemHandle) (answer : Except UInt32 UInt32)
  | closeHandle (handle : SystemHandle) (code : UInt32)
  | getModuleHandle (code : UInt32)
  | registerClass (start : ClassStart) (code : UInt32)
  | createWindow (start : WindowStart) (code : UInt32)
  | showWindow (window : WindowHandle) (command : UInt32)
  | isWindow (window : WindowHandle) (answer : Bool)
  | peekMessage (answer : Option Message)
  | translateMessage (message : Message)
  | dispatchMessage (message : Message)
  | defaultProcedure (message : Message)
  /-- The end of a `dispatchMessage`, with the window procedure's result. -/
  | dispatched (result : Int64)
  | postQuitMessage (code : Int32)
  | messageBox (style : UInt32) (caption text : Wide)

namespace Call

/-- A number in hexadecimal. -/
def flags (value : UInt32) : String :=
  Hex.lower value.toNat

/-- A call as lines of text. -/
def lines : Call → List String
  | shareMode mode => ["share_mode " ++ flags mode]
  | setHandleInformation handle mask set code =>
    [s!"SetHandleInformation {handle.shown} mask={mask.toNat} flags={set.toNat} -> {code.toNat}"]
  | createProcess start code =>
    ["CreateProcessW application=null directory=null" ++
        s!" inherit={start.inherits} flags={flags start.creationFlags}" ++
        s!" cb={start.startupSize.toNat} startup={flags start.startupFlags}" ++
        s!" in={start.input.shown} out={start.output.shown} err={start.error.shown}" ++
        s!" -> {code.toNat}",
      "command line " ++ start.commandLine.shown]
  | getExitCodeProcess handle (.ok code) =>
    [s!"GetExitCodeProcess {handle.shown} -> code {code.toNat}"]
  | getExitCodeProcess handle (.error code) =>
    [s!"GetExitCodeProcess {handle.shown} -> error {code.toNat}"]
  | closeHandle handle code => [s!"CloseHandle {handle.shown} -> {code.toNat}"]
  | getModuleHandle code => [s!"GetModuleHandleW null -> {code.toNat}"]
  | registerClass start code =>
    [s!"RegisterClassW {start.name.shown} style={flags start.style}" ++
      s!" instance={start.instanceHandle.shown} proc={start.hasProcedure} -> {code.toNat}"]
  | createWindow start code =>
    [s!"CreateWindowExW {start.className.shown} title=null" ++
      s!" ex_style={flags start.extendedStyle} style={flags start.style}" ++
      " at=0,0 size=0,0 parent=0x0 menu=0x0" ++
      s!" instance={start.instanceHandle.shown} -> {code.toNat}"]
  | showWindow window command => [s!"ShowWindow {windowText window} {command.toNat}"]
  | isWindow window answer => [s!"IsWindow {windowText window} -> {answer}"]
  | peekMessage none => ["PeekMessageW 0x0 0 0 1 -> none"]
  | peekMessage (some message) => [s!"PeekMessageW 0x0 0 0 1 -> {message.number.toNat}"]
  | translateMessage message => [s!"TranslateMessage {message.number.toNat}"]
  | dispatchMessage message => [s!"DispatchMessageW {message.number.toNat}"]
  | defaultProcedure message =>
    [s!"DefWindowProcW {windowText message.window} {message.number.toNat}" ++
      s!" {message.wparam.toNat} {message.lparam.toInt}"]
  | dispatched result => [s!"dispatched {result.toInt}"]
  | postQuitMessage code => [s!"PostQuitMessage {code.toInt}"]
  | messageBox style caption text =>
    [s!"MessageBoxW 0x0 style={flags style}", "caption " ++ caption.shown, "text " ++ text.shown]

end Call

end AppLauncher.Windows
