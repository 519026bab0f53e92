/-!
# Log events

What the launcher tells its log: a level, the part of the launcher that speaks, and one line of
text. Events are kept in the order in which they happen.
-/

namespace AppLauncher

/-- How serious an event is. -/
inductive Level where
  | error
  | warn
  | info
  | debug
  | trace
  deriving DecidableEq, Repr

namespace Level

/-- The name of a level in a log line. -/
def name : Level → String
  | error => "ERROR"
  | warn => "WARN"
  | info => "INFO"
  | debug => "DEBUG"
  | trace => "TRACE"

/-- How much a level lets through: the more serious a level, the smaller its rank. -/
def rank : Level → Nat
  | error => 1
  | warn => 2
  | info => 3
  | debug => 4
  | trace => 5

end Level

/-- The part of the launcher that an event comes from. -/
inductive Origin where
  | program
  /-- The program as it breaks down. -/
  | breakdown
  | launch
  | logSink
  | installDirectory
  | configuration
  | supervisor
  | desktop
  | desktopCalls
  | trackingWindow
  deriving DecidableEq, Repr

/-- The name of a part in a log line, by which a filter selects it. -/
def Origin.target : Origin → String
  | program | breakdown => "relang"
  | launch => "relang_launcher::launcher"
  | logSink => "relang_launcher::log_sink"
  | installDirectory => "relang_launcher::install_dir"
  | configuration => "relang_launcher::config"
  | supervisor => "relang_launcher::supervisor"
  | desktop => "relang_launcher::win32"
  | desktopCalls => "relang_launcher::windows_api"
  | trackingWindow => "relang_launcher::tracking_window"

/-- The names of what an event from a part consists of. A breakdown says where in the program it
was. -/
def Origin.fields : Origin → List String
  | breakdown => ["message", "panic.file", "panic.line", "panic.column"]
  | _ => ["message"]

/-- Something that happened. -/
structure Event where
  level : Level
  origin : Origin
  text : String
  deriving DecidableEq, Repr

/-- An event as one line, without its origin. -/
def Event.line (e : Event) : String :=
  e.level.name ++ " " ++ e.text

end AppLauncher
