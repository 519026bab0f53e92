import AppLauncher.Shell.Condition
import AppLauncher.Shell.Fields
import AppLauncher.Shell.Format
import AppLauncher.Shell.Process

/-!
# Commands of the shell itself

The commands that a shell does without another program, as far as they run no commands in their
turn. Each takes its arguments and gives its status.
-/

namespace AppLauncher.Shell

/-- A command of the shell itself. -/
abbrev Builtin := List Text → Running Nat

namespace Builtin

/-! ## Arguments and output -/

/-- Prints text, which gives status 1 if that is not possible. -/
def emit (text : Text) : Running Nat := do
  if text.isEmpty then return 0
  else if ← write 1 text then return 0
  else
    complain (((← process).command.getD []) ++ ": I/O error".toList)
    return 1

/-- Takes the options that stand before other arguments. -/
def options (allowed : List Char) : List Text → Running (List Char × List Text)
  | [] => return ([], [])
  | ('-' :: letter :: more) :: rest => do
    if letter = '-' ∧ more = [] then return ([], rest)
    else
      match (letter :: more).find? fun c => !allowed.contains c with
      | some bad => fail ("Illegal option -".toList ++ [bad])
      | none =>
        let (found, rest) ← options allowed rest
        return (letter :: more ++ found, rest)
  | rest => return ([], rest)

/-- The number that an argument is. -/
def number (arg : Text) : Running Nat := do
  match Condition.number arg with
  | .ok n =>
    if 0 ≤ n ∧ n < 2147483648 then return n.toNat
    else fail ("Illegal number: ".toList ++ arg)
  | .error message => fail message

/-- The number that the first argument is, or another one if there is no argument. -/
def numberOr (otherwise : Nat) (args : List Text) : Running Nat :=
  match args with
  | [] => return otherwise
  | arg :: _ => number arg

/-- Text as a script has to say it. -/
def inQuotes (text : Text) : Text :=
  let step (c : Char) (state : List Text × Bool) : List Text × Bool :=
    let isQuote := c == '\''
    match state with
    | (run :: runs, wasQuote) =>
      if wasQuote = isQuote then ((c :: run) :: runs, isQuote) else ([c] :: run :: runs, isQuote)
    | ([], _) => ([[c]], isQuote)
  let runs := (text.foldr step ([], false)).1
  let quote (run : Text) : Text :=
    if run.head? = some '\'' then '"' :: run ++ ['"'] else '\'' :: run ++ ['\'']
  match runs with
  | [] => ['\'', '\'']
  | first :: _ =>
    (if first.head? = some '\'' then ['\'', '\''] else []) ++ runs.flatMap quote

/-! ## Printing -/

def echo : Builtin := fun args =>
  match args with
  | ['-', 'n'] :: rest => emit (Escape.echo [] rest)
  | _ => emit (Escape.echo ['\n'] args)

def printf : Builtin := fun args => do
  let (_, args) ← options [] args
  match args with
  | [] => fail "usage: printf format [arg ...]".toList
  | format :: args =>
    let (state, broken) := Format.print format args
    for complaint in state.complaints do complain complaint
    match broken with
    | some message =>
      complain message
      let _ ← emit state.printed
      return 2
    | none =>
      let status ← emit state.printed
      return if state.complaints.isEmpty then status else 1

/-! ## Conditions -/

def test : Builtin := fun args => do
  let shell ← get
  match Condition.holds ⟨shell.files, shell.process.here⟩ args with
  | .ok holds => return if holds then 0 else 1
  | .error message => fail message

/-- Tests something that stands in brackets. Only the first character of the last argument has to be
a bracket. -/
def bracket : Builtin := fun args => do
  if args.getLast?.any (·.head? == some ']') then test args.dropLast
  else fail "missing ]".toList

/-! ## Ways out -/

/-- Ends the process with a status, the last one if none is given. -/
def exit : Builtin := fun args => do
  let status ← numberOr (← process).status args
  setStatus (status % 256)
  throw .exiting

/-- Ends a function or a script that was read in. -/
def giveBack : Builtin := fun args => do
  let status ← numberOr (← process).status args
  setStatus status
  throw .returning

/-- Leaves loops, or goes on with the next turn of one. -/
def leaveLoops (leave : Nat → Leave) : Builtin := fun args => do
  let n ← numberOr 1 args
  if n = 0 then fail ("Illegal number: ".toList ++ args.headD [])
  let loops := min n (← process).loops
  setStatus 0
  if loops ≠ 0 then throw (leave loops)
  return 0

/-! ## Parameters and variables -/

/-- Drops some of the first arguments. -/
def shift : Builtin := fun args => do
  let n ← numberOr 1 args
  let p ← process
  if p.arguments.length < n then fail "can't shift that many".toList
  modifyProcess fun p => { p with arguments := p.arguments.drop n }
  return 0

/-- Variables as a script would set them, in the order of their names. -/
def listing (command : Text) (bindings : List (Text × Binding)) : Text :=
  let sorted := bindings.mergeSort fun a b => !decide (b.1 < a.1)
  sorted.flatMap fun (name, binding) =>
    let value := match binding.value with
      | some value => '=' :: inQuotes value
      | none => []
    command ++ name ++ value ++ ['\n']

/-- The name and the value in an argument that may set a variable. -/
def assignment (arg : Text) : Running (Text × Option Text) := do
  let name := arg.takeWhile (· ≠ '=')
  if !Text.isName name then fail (name ++ ": bad variable name".toList)
  match arg.drop name.length with
  | _ :: value => return (name, some value)
  | [] => return (name, none)

/-- Marks variables, or shows those that are marked. -/
def mark (command : String) (isMarked : Binding → Bool) (change : Binding → Binding) : Builtin :=
  fun args => do
    let (flags, args) ← options ['p'] args
    if args.isEmpty || !flags.isEmpty then
      let marked := (← process).bindings.filter fun b => isMarked b.2
      emit (listing (command.toList ++ [' ']) marked)
    else
      for arg in args do
        let (name, value) ← assignment arg
        if let some value := value then setVariable name value
        modifyProcess fun p =>
          let old := (p.bindings.lookup name).getD ⟨none, false, false⟩
          p.bind name (some (change old))
      return 0

/-- Lets the programs that are started see variables. -/
def share : Builtin :=
  mark "export" (·.exported) fun b => { b with exported := true }

/-- Keeps variables as they are. -/
def readonly : Builtin :=
  mark "readonly" (·.readOnly) fun b => { b with readOnly := true }

def unset : Builtin := fun args => do
  let (flags, args) ← options ['v', 'f'] args
  for name in args do
    if flags.getLast? = some 'f' then
      modifyProcess fun p => { p with functions := p.functions.filter (·.1 ≠ name) }
    else
      let (name, _) ← assignment name
      unsetVariable name
  return 0

/-- Keeps the binding of a variable to be put back at the end of the function. -/
def remember (name : Text) : Running Unit :=
  modifyProcess fun p =>
    match p.locals with
    | frame :: frames =>
      { p with locals := ((name, p.bindings.lookup name) :: frame) :: frames }
    | [] => p

/-- Makes variables local to a function. -/
def keepLocal : Builtin := fun args => do
  if (← process).locals.isEmpty then fail "not in a function".toList
  for arg in args do
    if arg ≠ ['-'] then
      let (name, value) ← assignment arg
      remember name
      if let some value := value then setVariable name value
  return 0

/-- The options that have names, with their letters if they have some. -/
def optionNames : List (String × Option Char) :=
  [("errexit", some 'e'), ("noglob", some 'f'), ("ignoreeof", some 'I'), ("interactive", some 'i'),
    ("monitor", some 'm'), ("noexec", some 'n'), ("stdin", some 's'), ("xtrace", some 'x'),
    ("verbose", some 'v'), ("vi", some 'V'), ("emacs", some 'E'), ("noclobber", some 'C'),
    ("allexport", some 'a'), ("notify", some 'b'), ("nounset", some 'u'), ("privileged", some 'p'),
    ("nolog", none), ("debug", none)]

/-- Turns an option on or off. -/
def switch (isOn : Bool) (letter : Char) : Running Unit :=
  modifyProcess fun p =>
    let others := p.flags.filter (· ≠ letter)
    { p with flags := if isOn then letter :: others else others }

/-- Turns an option with a name on or off, or shows all of them. -/
def switchNamed (isOn : Bool) (name : Option Text) : Running Unit := do
  match name with
  | some name =>
    match optionNames.lookup (String.ofList name) with
    | some (some letter) => switch isOn letter
    | some none => return ()
    | none => fail ("Illegal option -o ".toList ++ name)
  | none =>
    let p ← process
    let line (option : String × Option Char) : Text :=
      let holds := option.2.any p.has
      let name := option.1.toList
      if isOn then
        let fill := List.replicate (16 - name.length) ' '
        name ++ fill ++ (if holds then "on\n" else "off\n").toList
      else (if holds then "set -o ".toList else "set +o ".toList) ++ name ++ ['\n']
    let head := if isOn then "Current option settings\n".toList else []
    let _ ← emit (head ++ optionNames.flatMap line)

/-- Turns options on or off by their letters; gives the arguments that are left. -/
def switchAll (isOn : Bool) : List Char → List Text → Running (List Text)
  | [], rest => return rest
  | 'o' :: letters, rest => do
    switchNamed isOn rest.head?
    switchAll isOn letters rest.tail
  | letter :: letters, rest => do
    if !optionLetters.contains letter then fail ("Illegal option -".toList ++ [letter])
    switch isOn letter
    switchAll isOn letters rest

/-- Takes the options of a shell. Gives the arguments that follow them, or nothing if there are none
and the ones from before stay. At most `bound` arguments hold options. -/
def shellOptions : (bound : Nat) → List Text → Running (Option (List Text))
  | 0, _ => return none
  | _, [] => return none
  | bound + 1, arg :: rest => do
    match arg with
    | ['-'] =>
      switch false 'x'
      switch false 'v'
      return if rest.isEmpty then none else some rest
    | ['-', '-'] => return some rest
    | '-' :: letters => shellOptions bound (← switchAll true letters rest)
    | '+' :: letters => shellOptions bound (← switchAll false letters rest)
    | _ => return some (arg :: rest)

/-- Changes options and arguments, or shows all variables. -/
def set : Builtin := fun args => do
  if args.isEmpty then
    emit (listing [] ((← process).bindings.filter fun b => b.2.value.isSome))
  else
    match ← shellOptions (args.length + 1) args with
    | some arguments =>
      modifyProcess fun p => { p with arguments }
      return 0
    | none => return 0

/-- The characters of a line that is read, how many were taken for it, and whether it has an end. A
backslash keeps the character after it from separating anything, unless `raw`. -/
def lineOf (raw : Bool) : Text → List PatternChar × Nat × Bool
  | [] => ([], 0, false)
  | '\n' :: _ => ([], 1, true)
  | '\\' :: c :: rest =>
    if raw then
      let (line, n, ends) := lineOf raw (c :: rest)
      (('\\', false) :: line, n + 1, ends)
    else
      let (line, n, ends) := lineOf raw rest
      (if c = '\n' then line else (c, true) :: line, n + 2, ends)
  | c :: rest =>
    let (line, n, ends) := lineOf raw rest
    (if c = '\x00' ∨ (c = '\\' ∧ !raw) then line else (c, false) :: line, n + 1, ends)

/-- Takes the options of `read`, of which one has text after it that is only for people. -/
def readOptions : List Text → Running (Bool × List Text)
  | ['-', 'p'] :: _ :: rest => readOptions rest
  | arg :: rest => do
    match arg with
    | ['-', 'r'] =>
      let (_, rest) ← readOptions rest
      return (true, rest)
    | _ =>
      let (flags, rest) ← options ['r'] (arg :: rest)
      return (!flags.isEmpty, rest)
  | [] => return (false, [])

/-- Reads a line into variables. The status tells whether there was one. -/
def read : Builtin := fun args => do
  let (raw, names) ← readOptions args
  if names.isEmpty then fail "arg count".toList
  let text := (← unread? 0).getD []
  let (line, n, ends) := lineOf raw text
  consume 0 n
  let separators : Separators := ⟨(← process).separators⟩
  let values := separators.values line names.length
  for (arg, value) in names.zip values do
    let (name, _) ← assignment arg
    setVariable name value
  return if ends then 0 else 1

/-! ## The directory -/

/-- The parts of a path without those that lead back. -/
def plainParts (start : List Text) (path : Text) : List Text :=
  ((Path.split path.toBytes).map Text.ofBytes).foldl (fun parts part =>
    if part.isEmpty ∨ part = ['.'] then parts
    else if part = ['.', '.'] then parts.dropLast
    else parts ++ [part]) start

def cd : Builtin := fun args => do
  let (flags, args) ← options ['L', 'P'] args
  let shell ← get
  let p := shell.process
  let isBack := args.head? = some ['-']
  let wanted : Text :=
    match args with
    | [] => (p.value? "HOME".toList).getD []
    | arg :: _ => if isBack then (p.value? "OLDPWD".toList).getD [] else arg
  let wanted := if wanted.isEmpty then ['.'] else wanted
  let isPhysical := flags.getLast? = some 'P'
  let start := if wanted.head? = some '/' then [] else plainParts [] p.directory
  let plain : Text := '/' :: Text.join ['/'] (plainParts start wanted)
  match shell.files.directory p.here (Text.path (if isPhysical then wanted else plain)) with
  | .error _ => fail ("can't cd to ".toList ++ wanted)
  | .ok here =>
    let physical := (here.path?.map fun path => Text.ofBytes path.bytes).getD plain
    let directory := if isPhysical then physical else plain
    modifyProcess fun p => { p with here, directory }
    setVariable "OLDPWD".toList p.directory
    setVariable "PWD".toList directory
    if isBack then emit (directory ++ ['\n']) else return 0

def pwd : Builtin := fun args => do
  let (flags, _) ← options ['L', 'P'] args
  let p ← process
  let physical := (p.here.path?.map fun path => Text.ofBytes path.bytes).getD p.directory
  emit ((if flags.getLast? = some 'P' then physical else p.directory) ++ ['\n'])

/-- Who is denied what by a mask, as letters of what is left to them. -/
def maskLetters (mask : Nat) : Text :=
  let letters (bits : Nat) : Text :=
    (if bits / 4 % 2 = 0 then ['r'] else []) ++ (if bits / 2 % 2 = 0 then ['w'] else [])
      ++ (if bits % 2 = 0 then ['x'] else [])
  "u=".toList ++ letters (mask / 64) ++ ",g=".toList ++ letters (mask / 8) ++ ",o=".toList
    ++ letters mask

/-- Changes the mask for the modes of new files, or shows it. Files here have no modes. -/
def umask : Builtin := fun args => do
  let (flags, args) ← options ['S'] args
  let mask := (← process).mask
  match args with
  | [] =>
    if flags.isEmpty then
      let digits := Nat.toDigits 8 mask
      emit (List.replicate (4 - digits.length) '0' ++ digits ++ ['\n'])
    else emit (maskLetters mask ++ ['\n'])
  | arg :: _ =>
    if !(arg.head?.any Char.isDigit) then fail ("Illegal mode: ".toList ++ arg)
    else if !arg.all Escape.isOctal then fail ("Illegal number: ".toList ++ arg)
    else
      let mask := (Nat.ofDigitChars 8 arg 0) % 512
      modifyProcess fun p => { p with mask }
      return 0

/-! ## Signals and processes -/

/-- The names of the signals, in the order of their numbers from 0, which is the end of the
shell. -/
def signalNames : List String :=
  ["EXIT", "HUP", "INT", "QUIT", "ILL", "TRAP", "ABRT", "BUS", "FPE", "KILL", "USR1", "SEGV",
    "USR2", "PIPE", "ALRM", "TERM", "16", "CHLD", "CONT", "STOP", "TSTP", "TTIN", "TTOU", "URG",
    "XCPU", "XFSZ", "VTALRM", "PROF", "WINCH", "IO", "PWR", "SYS", "32", "33", "RTMIN"]
    ++ (List.range 15).map (fun n => s!"RTMIN+{n + 1}")
    ++ (List.range 14).map (fun n => s!"RTMAX-{14 - n}") ++ ["RTMAX"]

/-- The signal that a number or a name means, from a least one on. -/
def signal? (least : Nat) (text : Text) : Option Nat :=
  let found :=
    match Text.number? text with
    | some n => if n ≤ 64 then some n else none
    | none => signalNames.findIdx? (· == String.ofList (text.map Char.toUpper))
  found.filter (least ≤ ·)

/-- Signals that do nothing to a process that has not asked for them. -/
def isHarmless (signal : Nat) : Bool :=
  [0, 17, 18, 23, 28].contains signal

/-- How to call `kill`. -/
def killUsage : Text :=
  ("Usage: kill [-s sigspec | -signum | -sigspec] [pid | job]... or\n"
    ++ "kill -l [exitstatus]").toList

/-- Shows the name of a signal, or all of them. -/
def showSignals (args : List Text) : Running Nat := do
  match args with
  | [] =>
    let names := signalNames.set 0 "0"
    emit (names.flatMap fun name => name.toList ++ ['\n'])
  | arg :: _ =>
    let n ← number arg
    let signal := if 128 < n then n - 128 else n
    match signalNames[signal]?.filter fun _ => signal ≠ 0 with
    | some name => emit (name.toList ++ ['\n'])
    | none => fail ("invalid signal number or exit status: ".toList ++ arg)

/-- Sends a signal to one process. A job in the background has ended by then. -/
def sendSignal (signal : Nat) (target : Text) : Running Bool := do
  let p ← process
  match target with
  | '%' :: _ => fail ("No such job: ".toList ++ target)
  | _ =>
    let digits := if target.head? = some '-' then target.drop 1 else target
    let _ ← number digits
    if target = p.number then
      if signal ≠ 0 then modifyProcess fun p => { p with signals := p.signals ++ [signal] }
      return true
    else if (List.range p.jobs.length).any fun n => jobNumber (n + 1) == target then return true
    else
      complain "No such process\n".toList
      return false

/-- Takes the options of `kill`: whether names are to be shown, and the signal. -/
def killOptions (shows : Bool) (signal : Option Nat) :
    List Text → Running (Bool × Option Nat × List Text)
  | ['-', '-'] :: rest => return (shows, signal, rest)
  | ['-', 's'] :: name :: rest => do
    match signal? 0 name with
    | some signal => killOptions shows (some signal) rest
    | none => fail ("invalid signal number or name: ".toList ++ name)
  | ('-' :: letter :: more) :: rest => do
    match (letter :: more).find? (· ≠ 'l') with
    | none => killOptions true signal rest
    | some 's' => fail "No arg for -s option".toList
    | some bad => fail ("Illegal option -".toList ++ [bad])
  | rest => return (shows, signal, rest)

/-- Sends a signal to processes, or shows the names of signals. -/
def kill : Builtin := fun args => do
  let named : Option Nat := match args with
    | ('-' :: word) :: _ => signal? 0 word
    | _ => none
  let (shows, signal, targets) ← match named with
    | some signal => pure (false, some signal, args.tail)
    | none => killOptions false none args
  if shows && signal.isNone then showSignals targets
  else
    if shows || targets.isEmpty then fail killUsage
    let sent ← targets.mapM (sendSignal (signal.getD 15))
    return if sent.all id then 0 else 1

/-- Waits for what runs in the background. -/
def wait : Builtin := fun args => do
  let (_, args) ← options [] args
  let p ← process
  let status (arg : Text) : Running Nat := do
    match arg with
    | '%' :: digits =>
      match (Text.number? digits).bind fun n => if n = 0 then none else p.jobs[n - 1]? with
      | some status => return status
      | none => fail ("No such job: ".toList ++ arg)
    | _ =>
      let _ ← number arg
      match (List.range p.jobs.length).find? fun n => jobNumber (n + 1) == arg with
      | some n => return p.jobs.getD n 127
      | none => return 127
  let statuses ← args.mapM status
  return statuses.getLast?.getD 0

/-- Says what is done on signals, or shows it. -/
def trap : Builtin := fun args => do
  let (_, args) ← options [] args
  match args with
  | [] =>
    let sorted := (← process).traps.mergeSort fun a b => a.1 ≤ b.1
    emit (sorted.flatMap fun (signal, action) =>
      "trap -- ".toList ++ inQuotes action ++ ' ' :: (signalNames.getD signal "").toList ++ ['\n'])
  | first :: rest =>
    let isReset := rest.isEmpty || (Text.number? first).any (· ≤ 64)
    let signals := if isReset then args else rest
    let action := if isReset || first == ['-'] then none else some first
    let step (status : Nat) (name : Text) : Running Nat := do
      if status ≠ 0 then return status
      match signal? 0 name with
      | none =>
        let _ ← write 2 ("trap: ".toList ++ name ++ ": bad trap\n".toList)
        return 1
      | some signal =>
        modifyProcess fun p =>
          let others := p.traps.filter (·.1 ≠ signal)
          { p with traps := (action.map (signal, ·)).toList ++ others }
        return 0
    signals.foldlM step 0

/-! ## All of them -/

/-- The commands of the shell that run no others, by their names. -/
def all : List (String × Builtin) :=
  [(":", fun _ => return 0), ("[", bracket), ("alias", fun _ => return 0),
    ("bg", fun _ => return 0), ("break", leaveLoops .breaking), ("cd", cd),
    ("continue", leaveLoops .continuing), ("echo", echo), ("exit", exit), ("export", share),
    ("false", fun _ => return 1), ("fg", fun _ => return 0), ("hash", fun _ => return 0),
    ("jobs", fun _ => return 0), ("kill", kill), ("local", keepLocal), ("printf", printf),
    ("pwd", pwd), ("read", read), ("readonly", readonly), ("return", giveBack), ("set", set),
    ("shift", shift), ("test", test), ("trap", trap), ("true", fun _ => return 0),
    ("umask", umask), ("unalias", fun _ => return 0), ("unset", unset), ("wait", wait)]

end Builtin

end AppLauncher.Shell
