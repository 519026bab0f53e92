import AppLauncher.FileSystem.Access
import AppLauncher.Shell.Script

/-!
# A running shell

A shell has files, streams and the process that it is. A stream is something that was opened once;
the descriptors of a process lead to streams, and a process that was copied from another one shares
them with it, offsets and all. Commands run one after the other, also those of a pipeline.

`Running` is a step of a shell. It can end early with a `Leave`: out of loops and functions, or out
of the process.
-/

namespace AppLauncher.Shell

/-- Something that was opened. -/
inductive Stream where
  /-- It holds nothing and keeps nothing. -/
  | null
  | file (handle : Handle) (appends reads writes : Bool)
  | directory
  /-- Text that waits to be read. -/
  | source (rest : Text)
  /-- Text that has been written. -/
  | sink (written : Text)
  deriving Repr

/-- A variable. -/
structure Binding where
  /-- The value, once there is one. -/
  value : Option Text
  exported : Bool
  readOnly : Bool
  deriving Repr

/-- What a process has for itself. -/
structure Process where
  /-- The name that messages begin with. -/
  name : Text
  number : Text
  /-- Whether it was copied from another process, for commands apart from the others. -/
  isCopy : Bool
  here : Place
  /-- The path of the directory, by the names that led there. -/
  directory : Text
  /-- What is denied to others in the modes of new files. -/
  mask : Nat
  descriptors : List (Nat × Nat)
  bindings : List (Text × Binding)
  arguments : List Text
  functions : List (Text × Command)
  /-- The documents of the scripts that have been read. -/
  documents : List (Nat × Word)
  /-- The letters of the options that are on. -/
  flags : List Char
  /-- The status of the last command. -/
  status : Nat
  /-- The status of the last commands whose output was put into the current command. -/
  substituted : Nat
  /-- What is done on signals, and at the end as on signal 0. -/
  traps : List (Nat × Text)
  /-- Signals that have come and have not been dealt with. -/
  signals : List Nat
  /-- The statuses of the commands that were started in the background. -/
  jobs : List Nat
  /-- The line that messages name. -/
  line : Nat
  /-- The line that the script has been read up to. -/
  reached : Nat
  /-- The command that messages name. -/
  command : Option Text
  /-- How many loops are around. -/
  loops : Nat
  /-- How many functions are around. -/
  calls : Nat
  /-- The variables to be put back at the end of each function. -/
  locals : List (List (Text × Option Binding))
  /-- Whether a failure is only looked at, and does not end a cautious shell. -/
  tested : Bool

/-- A shell, and what it works on. -/
structure Session where
  files : FileSystem
  streams : List Stream
  process : Process

/-- Why a command does not go on. -/
inductive Leave where
  | breaking (loops : Nat)
  | continuing (loops : Nat)
  | returning
  /-- The process ends with its status. -/
  | exiting
  /-- A mistake that ends the process, unless the command around it takes the blame. -/
  | failing
  /-- A signal ends the process. -/
  | killed (signal : Nat)
  deriving DecidableEq, Repr

abbrev Running := ExceptT Leave (StateM Session)

def process : Running Process :=
  return (← get).process

def modifyProcess (f : Process → Process) : Running Unit :=
  modify fun shell => { shell with process := f shell.process }

def setStatus (status : Nat) : Running Unit :=
  modifyProcess fun p => { p with status }

/-! ## Streams -/

/-- Adds a stream, and gives its number. -/
def addStream (stream : Stream) : Running Nat := do
  let shell ← get
  set { shell with streams := shell.streams ++ [stream] }
  return shell.streams.length

/-- Leads a descriptor to a stream, or to nothing. -/
def setDescriptor (descriptor : Nat) (stream : Option Nat) : Running Unit :=
  modifyProcess fun p =>
    let others := p.descriptors.filter (·.1 ≠ descriptor)
    { p with descriptors := (stream.map fun n => (descriptor, n)).toList ++ others }

/-- The stream that a descriptor leads to, with its number. -/
def stream? (descriptor : Nat) : Running (Option (Nat × Stream)) := do
  let shell ← get
  return (shell.process.descriptors.lookup descriptor).bind fun n =>
    shell.streams[n]?.map (n, ·)

/-- Puts a stream in place of what it was. -/
def setStream (n : Nat) (stream : Stream) : Running Unit :=
  modify fun shell => { shell with streams := shell.streams.set n stream }

/-- The contents of the file that a handle was opened on. -/
def fileContents (files : FileSystem) (handle : Handle) : Bytes :=
  match files.node? handle.location with
  | some (.file id contents) => if id = handle.id then contents else []
  | _ => []

/-- Writes to a descriptor, and tells whether that was possible. -/
def write (descriptor : Nat) (data : Text) : Running Bool := do
  match ← stream? descriptor with
  | some (_, .null) => return true
  | some (n, .sink written) =>
    setStream n (.sink (written ++ data))
    return true
  | some (n, .file handle appends reads true) =>
    let shell ← get
    let offset := if appends then (fileContents shell.files handle).length else handle.offset
    let (handle, files) := shell.files.write { handle with offset } data.toBytes
    set { shell with files }
    setStream n (.file handle appends reads true)
    return true
  | _ => return false

/-- What can still be read from a descriptor; nothing if it cannot be read. -/
def unread? (descriptor : Nat) : Running (Option Text) := do
  match ← stream? descriptor with
  | some (_, .null) => return some []
  | some (_, .source rest) => return some rest
  | some (_, .file handle _ true _) =>
    let contents := fileContents (← get).files handle
    return some (Text.ofBytes (contents.drop handle.offset))
  | _ => return none

/-- Takes some characters from a descriptor. -/
def consume (descriptor count : Nat) : Running Unit := do
  match ← stream? descriptor with
  | some (n, .source rest) => setStream n (.source (rest.drop count))
  | some (n, .file handle appends reads writes) =>
    setStream n (.file { handle with offset := handle.offset + count } appends reads writes)
  | _ => return ()

/-! ## Messages -/

/-- Tells of a mistake on the line that is being run. -/
def complain (text : Text) : Running Unit := do
  let p ← process
  let command := match p.command with
    | some name => name ++ ": ".toList
    | none => []
  let place := p.name ++ ": ".toList ++ Text.ofNat p.line ++ ": ".toList
  let _ ← write 2 (place ++ command ++ text ++ ['\n'])

/-- Tells of a mistake, and leaves. -/
def fail {α : Type} (text : Text) : Running α := do
  complain text
  setStatus 2
  throw .failing

/-! ## Variables and options -/

def Process.has (p : Process) (flag : Char) : Bool :=
  p.flags.contains flag

def Process.value? (p : Process) (name : Text) : Option Text :=
  (p.bindings.lookup name).bind (·.value)

/-- The letters of all options, in the order in which they are shown. -/
def optionLetters : List Char :=
  "efIimnsxvVECabup".toList

/-- The number of a process in the background, by its place among those that were started. -/
def jobNumber (place : Nat) : Text :=
  Text.ofNat (5000 + place)

/-- The value of a parameter that is one text. -/
def Process.parameter? (p : Process) (name : Text) : Option Text :=
  match name with
  | ['#'] => some (Text.ofNat p.arguments.length)
  | ['?'] => some (Text.ofNat p.status)
  | ['$'] => some p.number
  | ['-'] => some (optionLetters.filter p.has)
  | ['!'] => if p.jobs.isEmpty then none else some (jobNumber p.jobs.length)
  | ['0'] => some p.name
  | c :: _ =>
    if c.isDigit then p.arguments[Text.digits name - 1]? else p.value? name
  | [] => none

/-- The characters that fields end at. -/
def Process.separators (p : Process) : Text :=
  (p.value? "IFS".toList).getD [' ', '\t', '\n']

/-- The process with a variable changed or removed. -/
def Process.bind (p : Process) (name : Text) (binding : Option Binding) : Process :=
  let others := p.bindings.filter (·.1 ≠ name)
  { p with bindings := (binding.map (name, ·)).toList ++ others }

def setVariable (name value : Text) : Running Unit := do
  let p ← process
  let old := p.bindings.lookup name
  if old.any (·.readOnly) then fail (name ++ ": is read only".toList)
  let exported := p.has 'a' || old.any (·.exported)
  modifyProcess fun p => p.bind name (some ⟨some value, exported, false⟩)

def unsetVariable (name : Text) : Running Unit := do
  let p ← process
  if (p.bindings.lookup name).any (·.readOnly) then fail (name ++ ": is read only".toList)
  modifyProcess fun p => p.bind name none

/-! ## Copies of a process -/

/-- The process that a copy begins as: it keeps only those traps that ignore a signal. -/
def Process.copied (p : Process) : Process :=
  { p with isCopy := true, traps := p.traps.filter fun trap => trap.1 ≠ 0 && trap.2.isEmpty }

/-- The variables that every shell has. -/
def initialBindings : List (Text × Binding) :=
  [("IFS", " \t\n"), ("OPTIND", "1"), ("PS1", "# "), ("PS2", "> "), ("PS4", "+ ")].map
    fun (name, value) => (name.toList, ⟨some value.toList, false, false⟩)

/-- The process of a shell that is started by this one. -/
def Process.started (p : Process) (name : Text) : Process :=
  { p with
    name
    number := p.number ++ ['1']
    isCopy := false
    bindings :=
      (p.bindings.filter (·.2.exported)).map (fun b => (b.1, { b.2 with readOnly := false }))
        ++ initialBindings
    functions := []
    status := 0
    substituted := 0
    traps := p.traps.filter fun trap => trap.1 ≠ 0 && trap.2.isEmpty
    signals := []
    jobs := []
    line := 1
    reached := 1
    command := none
    loops := 0
    calls := 0
    locals := []
    tested := false }

/-- Runs a step in another process, which takes the place of this one for the time. What it does to
files and streams is kept, its status becomes that of this one, and signals that were sent to this
one from a copy have come. Gives the signal that ended the other process, if one did. -/
def within (start : Process) (step : Running Unit) : Running (Option Nat) := fun shell =>
  let (result, after) := step.run { shell with process := start }
  let sent := if start.isCopy then after.process.signals else shell.process.signals
  let process := { shell.process with status := after.process.status, signals := sent }
  let signal := match result with
    | .error (.killed signal) => some signal
    | _ => none
  (.ok signal, { after with process })

/-- Does something after a step, however the step ends. -/
def ensuring {α : Type} (after : Running Unit) (step : Running α) : Running α := fun shell =>
  let (result, shell) := step.run shell
  (result, (after.run shell).2)

end AppLauncher.Shell
