import AppLauncher.Shell.Builtin
import AppLauncher.Shell.Reader
import AppLauncher.Shell.Redirect
import AppLauncher.Shell.Tool.Files
import AppLauncher.Shell.Tool.Streams

/-!
# Running scripts

`Command.step` does one command, and leaves the commands in it to an executor. `Command.run` ties
the knot with a bound for how deeply commands may run in each other; loops have a bound of their
own. A script is read and run line by line.
-/

namespace AppLauncher.Shell

/-- How the commands that a command holds are run. -/
abbrev Executor := Command → Running Unit

namespace Executor

def all (execute : Executor) (commands : List Command) : Running Unit :=
  commands.forM execute

/-- Runs the lines of a script, at most `bound` of them, and tells whether there was a command. -/
def lines (execute : Executor) : (bound : Nat) → Source → Running Bool
  | 0, _ => return false
  | bound + 1, source => do
    match (Reader.line (Reader.depthFor source.rest)).run source with
    | .error refusal =>
      modifyProcess fun p => { p with line := refusal.line }
      fail ("Syntax error: " ++ refusal.what).toList
    | .ok (none, _) => return false
    | .ok (some commands, source) =>
      modifyProcess fun p => { p with documents := source.documents, reached := source.line }
      execute.all commands
      let more ← lines execute bound source
      return !commands.isEmpty || more

/-- Runs a script. One without commands gives status 0. -/
def script (execute : Executor) (text : Text) : Running Unit := do
  let before ← process
  let source := Source.ofText text before.documents
  ensuring (modifyProcess fun p => { p with reached := before.reached }) do
    if !(← execute.lines (text.length + 1) source) then setStatus 0

/-- Runs a script in which failures are looked at only where it says so. -/
def untested (execute : Executor) (text : Text) : Running Unit := do
  let before := (← process).tested
  modifyProcess fun p => { p with tested := false }
  ensuring (modifyProcess fun p => { p with tested := before }) (execute.script text)

/-- Runs a script so that the status stays as it was. -/
def aside (execute : Executor) (text : Text) : Running Unit := do
  let status := (← process).status
  execute.untested text
  setStatus status

/-- Runs a step that is all that a process does, and what it does at its end. -/
def whole (execute : Executor) (step : Running Unit) : Running Unit := do
  tryCatch step fun leave =>
    match leave with
    | .killed signal => throw (.killed signal)
    | _ => return ()
  match (← process).traps.lookup 0 with
  | none => return ()
  | some action =>
    modifyProcess fun p => { p with traps := p.traps.filter (·.1 ≠ 0), command := none }
    tryCatch (execute.aside action) fun leave =>
      match leave with
      | .killed signal => throw (.killed signal)
      | _ => return ()

/-- Runs a step in a copy of the process, after changes to the copy. -/
def copied (execute : Executor) (change : Process → Process) (step : Running Unit) :
    Running Unit := do
  let _ ← within (change (← process).copied) (execute.whole step)

/-- What commands print, without the line ends at its end. -/
def output (execute : Executor) (commands : List Command) : Running Text := do
  let before ← process
  let n ← addStream (.sink [])
  execute.copied (fun p =>
    { p with descriptors := (1, n) :: p.descriptors.filter (·.1 ≠ 1), tested := false })
    (execute.all commands)
  let status := (← process).status
  modifyProcess fun p => { p with status := before.status, substituted := status }
  match (← get).streams[n]? with
  | some (.sink written) => return Text.dropLineEnds (written.filter (· ≠ '\x00'))
  | _ => return []

/-- Deals with the signals that have come to a process that is no copy. -/
def attend (execute : Executor) : Running Unit := do
  let p ← process
  if !p.isCopy && !p.signals.isEmpty then
    modifyProcess fun p => { p with signals := [] }
    for signal in p.signals do
      match p.traps.lookup signal with
      | some action =>
        if signal = 9 then throw (.killed signal)
        else if !action.isEmpty then execute.aside action
      | none => if !Builtin.isHarmless signal then throw (.killed signal)

/-- Ends a cautious shell after a failure that nothing has looked at. -/
def checked (step : Running Unit) : Running Unit := do
  step
  let p ← process
  if p.has 'e' && !p.tested && p.status ≠ 0 then throw .exiting

/-- Runs a command whose failure is looked at. -/
def tested (execute : Executor) (commands : List Command) : Running Unit := do
  let before := (← process).tested
  modifyProcess fun p => { p with tested := true }
  ensuring (modifyProcess fun p => { p with tested := before }) (execute.all commands)

/-! ## Loops -/

/-- How often a loop may run its commands. -/
def maxTurns : Nat := 10000000

/-- How a part of a turn ended. -/
inductive Turn where
  | done
  /-- The loop ends. -/
  | left
  /-- The loop goes on with its next turn. -/
  | skipped
  deriving DecidableEq, Repr

/-- Runs a part of a turn. -/
def turn (step : Running Unit) : Running Turn :=
  tryCatch (do
    step
    return .done) fun leave =>
      match leave with
      | .breaking (n + 2) => throw (.breaking (n + 1))
      | .breaking _ => return .left
      | .continuing (n + 2) => throw (.continuing (n + 1))
      | .continuing _ => return .skipped
      | other => throw other

/-- Runs a step within one more loop. -/
def looping (step : Running Unit) : Running Unit := do
  modifyProcess fun p => { p with loops := p.loops + 1 }
  ensuring (modifyProcess fun p => { p with loops := p.loops - 1 }) step

/-- Runs commands as long as a condition holds, or does not hold. The status is that of the last
turn. -/
def turns (execute : Executor) (untilTrue : Bool) (condition body : List Command) :
    (bound : Nat) → (status : Nat) → Running Unit
  | 0, status => setStatus status
  | bound + 1, status => do
    match ← turn (execute.tested condition) with
    | .left => setStatus status
    | .skipped => execute.turns untilTrue condition body bound status
    | .done =>
      if ((← process).status = 0) = untilTrue then setStatus status
      else
        let how ← turn (execute.all body)
        if how ≠ .left then execute.turns untilTrue condition body bound (← process).status

/-- Runs commands once for each value of a variable. -/
def eachTurn (execute : Executor) (name : Text) (body : List Command) : List Text → Running Unit
  | [] => return ()
  | value :: rest => do
    setVariable name value
    let how ← turn (execute.all body)
    if how ≠ .left then execute.eachTurn name body rest

/-! ## Choices -/

/-- Whether a text fits one of some patterns. -/
def fitsAny (execute : Executor) (text : Text) : List Word → Running Bool
  | [] => return false
  | word :: rest => do
    let pattern ← Expand.pattern execute.output word
    if Glob.fits pattern text then return true else execute.fitsAny text rest

/-- Runs the commands of the first choice that a text fits. -/
def firstFitting (execute : Executor) (text : Text) : List Clause → Running Unit
  | [] => setStatus 0
  | .mk patterns body :: rest => do
    if ← execute.fitsAny text patterns then
      if body.isEmpty then setStatus 0 else execute.all body
    else execute.firstFitting text rest

/-! ## Redirections -/

/-- Runs a step with some redirections. One that cannot be done is a failure of its own, and the
step does not run. -/
def redirected (execute : Executor) (redirects : List Redirect) (step : Running Unit) :
    Running Unit := do
  let openings ← redirects.mapM (Opening.ofRedirect execute.output)
  let before := (← process).descriptors
  ensuring (modifyProcess fun p => { p with descriptors := before }) do
    if ← Opening.performAll execute.output openings then step else checked (return ())

/-! ## Commands that run others -/

/-- Runs its arguments as a script. -/
def eval (execute : Executor) : Builtin := fun args => do
  execute.script (Text.join [' '] args)
  return (← process).status

/-- The script in a file. A directory counts as an empty one. -/
def scriptIn (name : Text) : Running (Except SystemError Text) := do
  let shell ← get
  if Opening.isNull name then return .ok []
  else
    match shell.files.read shell.process.here name.path with
    | .error .isDirectory => return .ok []
    | other => return other.map Text.ofBytes

/-- Runs the script in a file. -/
def readIn (execute : Executor) : Builtin := fun args => do
  let (_, args) ← Builtin.options [] args
  match args with
  | [] => return 0
  | name :: _ =>
    if !name.contains '/' then fail (name ++ ": not found".toList)
    match ← scriptIn name with
    | .error error =>
      fail ("cannot open ".toList ++ name ++ ": ".toList ++ Opening.reason "No such file" error)
    | .ok script =>
      modifyProcess fun p => { p with command := some name }
      tryCatch (execute.untested script) fun leave =>
        if leave = .returning then return () else throw leave
    return (← process).status

/-- The text for a process that a signal ended. -/
def signalText (signal : Nat) : Option String :=
  [(1, "Hangup"), (3, "Quit"), (4, "Illegal instruction"), (5, "Trace/breakpoint trap"),
    (6, "Aborted"), (7, "Bus error"), (8, "Floating point exception"), (9, "Killed"),
    (10, "User defined signal 1"), (11, "Segmentation fault"), (12, "User defined signal 2"),
    (14, "Alarm clock"), (15, "Terminated"), (16, "Stack fault"), (24, "CPU time limit exceeded"),
    (25, "File size limit exceeded"), (26, "Virtual timer expired"),
    (27, "Profiling timer expired"), (29, "I/O possible"), (30, "Power failure"),
    (31, "Bad system call")].lookup signal

/-- Runs a script in a shell of its own. -/
def startShell (execute : Executor) (name : Text) (flags : List Char) (arguments : List Text)
    (script : Text) : Running Nat := do
  let start := { (← process).started name with arguments, flags }
  match ← within start (execute.whole (execute.script script)) with
  | none => return (← process).status
  | some signal =>
    if let some text := signalText signal then
      let _ ← write 2 (text.toList ++ ['\n'])
    return 128 + signal

/-- What the options of a shell that is started say: the letters that are on, and whether a script
follows. -/
structure StartOptions where
  flags : List Char
  isScript : Bool
  deriving Repr

/-- The options after one of them. -/
def StartOptions.switch (options : StartOptions) (isOn : Bool) (letter : Char) : StartOptions :=
  let others := options.flags.filter (· ≠ letter)
  { options with flags := if isOn then letter :: others else others }

/-- Takes the letters of an argument; gives the options, and the arguments that are left. -/
def startLetters (isOn : Bool) (options : StartOptions) :
    List Char → List Text → Except Text (StartOptions × List Text)
  | [], rest => .ok (options, rest)
  | 'c' :: letters, rest => startLetters isOn { options with isScript := true } letters rest
  | 'l' :: letters, rest => startLetters isOn options letters rest
  | 'o' :: letters, rest =>
    match rest with
    | [] => startLetters isOn options letters []
    | name :: rest =>
      match Builtin.optionNames.lookup (String.ofList name) with
      | some (some letter) => startLetters isOn (options.switch isOn letter) letters rest
      | some none => startLetters isOn options letters rest
      | none => .error ("Illegal option -o ".toList ++ name)
  | letter :: letters, rest =>
    if optionLetters.contains letter then
      startLetters isOn (options.switch isOn letter) letters rest
    else .error ("Illegal option -".toList ++ [letter])

/-- Takes the options before other arguments, in at most `bound` of them. -/
def startOptions (options : StartOptions) :
    (bound : Nat) → List Text → Except Text (StartOptions × List Text)
  | 0, rest => .ok (options, rest)
  | _, [] => .ok (options, [])
  | bound + 1, arg :: rest =>
    match arg with
    | ['-'] | ['-', '-'] => .ok (options, rest)
    | '-' :: letters => do
      let (options, rest) ← startLetters true options letters rest
      startOptions options bound rest
    | '+' :: letters => do
      let (options, rest) ← startLetters false options letters rest
      startOptions options bound rest
    | _ => .ok (options, arg :: rest)

/-- The shell as a program. -/
def sh (execute : Executor) : Tool := fun args => do
  let refuse (what : Text) : Running Nat := do
    let _ ← write 2 ("sh: 0: ".toList ++ what ++ ['\n'])
    return 2
  match startOptions ⟨[], false⟩ (args.length + 1) args with
  | .error what => refuse what
  | .ok (options, rest) =>
    match options.isScript, rest with
    | true, [] => refuse "-c requires an argument".toList
    | true, [script] => execute.startShell ['s', 'h'] options.flags [] script
    | true, script :: name :: rest => execute.startShell name options.flags rest script
    | false, rest =>
      if options.flags.contains 's' ∨ rest = [] then
        let script := (← unread? 0).getD []
        consume 0 script.length
        execute.startShell ['s', 'h'] ('s' :: options.flags) rest script
      else
        let name := rest.headD []
        match ← scriptIn name with
        | .ok script => execute.startShell name options.flags rest.tail script
        | .error error =>
          let why := Opening.reason "No such file" error
          refuse ("cannot open ".toList ++ name ++ ": ".toList ++ why)

def programs (execute : Executor) : List (String × Tool) :=
  [("basename", Tool.basename), ("cat", Tool.cat), ("cp", Tool.cp), ("dirname", Tool.dirname),
    ("echo", Tool.echo), ("false", fun _ => return 1), ("head", Tool.head), ("ln", Tool.ln),
    ("ls", Tool.ls), ("mkdir", Tool.mkdir), ("mv", Tool.mv), ("printf", Builtin.printf),
    ("pwd", fun _ => Builtin.pwd [['-', 'P']]), ("rm", Tool.rm), ("rmdir", Tool.rmdir),
    ("seq", Tool.seq), ("sh", execute.sh), ("sleep", Tool.sleep), ("sort", Tool.sort),
    ("tail", Tool.tail), ("touch", Tool.touch), ("true", fun _ => return 0), ("wc", Tool.wc)]

def programDirectories : List Text :=
  ["/usr/bin".toList, "/bin".toList]

/-- The program with a name or a path, or the status and the reason if there is none that can be
run. No file that is made here can be run. -/
def program? (execute : Executor) (name : Text) : Running (Except (Nat × Text) Tool) := do
  let shell ← get
  let known (base : Text) : Option Tool := execute.programs.lookup (String.ofList base)
  let absent : Except (Nat × Text) Tool := .error (127, name ++ ": not found".toList)
  if [[], ['.'], ['.', '.']].contains name then
    return .error (127, name ++ ": Permission denied".toList)
  else if name.contains '/' then
    let base := (name.reverse.takeWhile (· ≠ '/')).reverse
    let directory := name.take (name.length - base.length - 1)
    match if programDirectories.contains directory then known base else none with
    | some tool => return .ok tool
    | none =>
      match shell.files.resolve shell.process.here .use name.path with
      | .ok (.directory _) | .ok (.file _ _ _) =>
        return .error (126, name ++ ": Permission denied".toList)
      | .ok _ => return absent
      | .error error =>
        return .error (127, name ++ ": ".toList ++ Opening.reason "not found" error)
  else
    let path := (shell.process.value? "PATH".toList).getD []
    let isReached := (Expand.colonPieces path).any programDirectories.contains
    match if isReached then known name else none with
    | some tool => return .ok tool
    | none => return absent

def runProgram (execute : Executor) (name : Text) (args : List Text) : Running Unit := do
  match ← execute.program? name with
  | .error (status, message) =>
    complain message
    setStatus status
  | .ok tool => setStatus (← tool args)

/-- Becomes a program. Without one, the redirections of the command stay. -/
def exec (execute : Executor) : Builtin := fun args => do
  match args with
  | [] => return 0
  | name :: args =>
    match ← execute.program? name with
    | .error (status, message) =>
      complain message
      setStatus (if [[], ['.'], ['.', '.']].contains name then 126 else status)
    | .ok tool =>
      modifyProcess fun p => { p with traps := p.traps.filter (·.1 ≠ 0) }
      setStatus (← tool args)
    throw .exiting

/-! ## Names of commands -/

/-- Whether a mistake of a command ends the shell. -/
def isSpecial (name : Text) : Bool :=
  (Reader.specialCommands ++ ["local"]).contains (String.ofList name)

/-- What a name stands for as a command: a short form, and how a sentence about it goes on. -/
def description? (execute : Executor) (name : Text) : Running (Option (Text × Text)) := do
  let p ← process
  let s := String.ofList name
  if Reader.grammarWords.contains s then return some (name, "is a shell keyword".toList)
  else if (p.functions.lookup name).isSome then return some (name, "is a shell function".toList)
  else if Reader.specialCommands.contains s then
    return some (name, "is a special shell builtin".toList)
  else if (Builtin.all.lookup s).isSome || s == "command" || s == "type" then
    return some (name, "is a shell builtin".toList)
  else
    match ← execute.program? name with
    | .ok _ =>
      let path := if name.contains '/' then name else "/usr/bin/".toList ++ name
      return some (path, "is ".toList ++ path)
    | .error (126, _) => return some (name, "is ".toList ++ name)
    | .error _ => return none

/-- Tells what names stand for. -/
def type (execute : Executor) : Builtin := fun args => do
  let step (status : Nat) (name : Text) : Running Nat := do
    match ← execute.description? name with
    | some (_, sentence) =>
      let _ ← Builtin.emit (name ++ ' ' :: sentence ++ ['\n'])
      return status
    | none =>
      let _ ← Builtin.emit (name ++ ": not found\n".toList)
      return 127
  args.foldlM step 0

/-- Tells what a name stands for, in a short form or in a sentence. -/
def describe (execute : Executor) : Builtin := fun args => do
  let (flags, args) ← Builtin.options ['p', 'v', 'V'] args
  match args with
  | [] => return 0
  | name :: _ =>
    if flags.contains 'V' then execute.type [name]
    else
      match ← execute.description? name with
      | some (short, _) => Builtin.emit (short ++ ['\n'])
      | none => return 127

/-- A command of the shell itself. -/
def builtin? (execute : Executor) (name : Text) : Option Builtin :=
  match String.ofList name with
  | "." => some execute.readIn
  | "command" => some execute.describe
  | "eval" => some execute.eval
  | "exec" => some execute.exec
  | "type" => some execute.type
  | s => Builtin.all.lookup s

/-- The arguments after words that only say that no function is meant, and whether there were
any. -/
def withoutCommand (found : Bool) : List Text → Bool × List Text
  | name :: arg :: rest =>
    if name = "command".toList then
      if arg = ['-', '-'] ∨ arg = ['-', 'p'] then
        if rest.isEmpty then (found, name :: arg :: rest) else (true, rest)
      else if arg.head? = some '-' then (found, name :: arg :: rest)
      else withoutCommand true (arg :: rest)
    else (found, name :: arg :: rest)
  | args => (found, args)

/-! ## Simple commands -/

/-- The arguments of a command, so far as they are known, with those of a word after them. -/
def addArguments (execute : Executor) (args : List Text) (word : Word) : Running (List Text) := do
  let isSetter : Bool := match (withoutCommand false args).2 with
    | name :: _ => ["alias", "export", "local", "readonly"].contains (String.ofList name)
    | [] => false
  match if isSetter then word.assignment? else none with
  | some (name, value) =>
    let value ← Expand.value execute.output value
    return args ++ [name ++ '=' :: value]
  | none => return args ++ (← Expand.arguments execute.output word)

/-- Sets variables, which are put back at the end of the command if they are `passing`. Gives their
values. -/
def assign (execute : Executor) (passing : Bool) :
    List (Text × Word) → Running (List (Text × Text))
  | [] => return []
  | (name, word) :: rest => do
    let value ← Expand.value execute.output word
    if passing then Builtin.remember name
    setVariable name value
    if passing then
      modifyProcess fun p => p.bind name (some ⟨some value, true, false⟩)
    return (name, value) :: (← execute.assign passing rest)

/-- Runs a step after which some variables are put back. -/
def withLocals (step : Running Unit) : Running Unit := do
  modifyProcess fun p => { p with locals := [] :: p.locals }
  ensuring (modifyProcess fun p =>
    let restored := (p.locals.headD []).foldl (fun p entry => p.bind entry.1 entry.2) p
    { restored with locals := p.locals.drop 1 }) step

/-- Shows a command that is about to run, if the shell does so. -/
def trace (descriptors : List (Nat × Nat)) (assigned : List (Text × Text)) (args : List Text) :
    Running Unit := do
  let p ← process
  if p.has 'x' then
    let words := assigned.map (fun entry => entry.1 ++ '=' :: entry.2) ++ args
    let mark := (p.value? "PS4".toList).getD []
    modifyProcess fun p => { p with descriptors }
    let _ ← write 2 (mark ++ Text.join [' '] words ++ ['\n'])
    modifyProcess fun q => { q with descriptors := p.descriptors }

/-- How deeply functions may call each other. -/
def maxFunctionDepth : Nat := 1000

def call (execute : Executor) (body : Command) (args : List Text) : Running Unit := do
  let before ← process
  if maxFunctionDepth ≤ before.calls then
    fail ("Maximum function recursion depth (".toList ++ Text.ofNat maxFunctionDepth
      ++ ") reached".toList)
  withLocals do
    modifyProcess fun p => { p with arguments := args, loops := 0, calls := before.calls + 1 }
    ensuring (modifyProcess fun p =>
      { p with arguments := before.arguments, loops := before.loops, calls := before.calls }) do
      tryCatch (execute body) fun leave =>
        if leave = .returning then return () else throw leave

/-- Runs a command of the shell itself. Its mistakes end the shell if it is `special`. -/
def runBuiltin (special : Bool) (name : Text) (builtin : Builtin) (args : List Text) :
    Running Unit := do
  let before := (← process).command
  ensuring (modifyProcess fun p => { p with command := before }) do
    modifyProcess fun p => { p with command := some name }
    tryCatch (do setStatus (← builtin args)) fun leave =>
      if leave = .failing && !special then return () else throw leave

/-- Runs what its name says. Functions are left out if `plain`. -/
def dispatch (execute : Executor) (plain special : Bool) (name : Text) (args : List Text) :
    Running Unit := do
  let p ← process
  match if plain || special then none else p.functions.lookup name, execute.builtin? name with
  | some body, _ => execute.call body args
  | none, some builtin => runBuiltin special name builtin args
  | none, none => execute.runProgram name args

def simple (execute : Executor) (assignments : List (Text × Word)) (words : List Word)
    (redirects : List Redirect) : Running Unit := do
  modifyProcess fun p => { p with substituted := 0 }
  let args ← words.foldlM execute.addArguments []
  let (plain, called) := withoutCommand false args
  let special := !plain && called.head?.any isSpecial
  let openings ← redirects.mapM (Opening.ofRedirect execute.output)
  let before := (← process).descriptors
  let isExec := called.head? = some "exec".toList
  let restore : Running Unit :=
    if isExec then return () else modifyProcess fun p => { p with descriptors := before }
  ensuring restore do
    if !(← Opening.performAll execute.output openings) then
      modifyProcess fun p => { p with descriptors := before }
      if special then throw .failing
    else
      match called with
      | [] =>
        let assigned ← execute.assign false assignments
        trace before assigned args
        setStatus (← process).substituted
      | name :: rest =>
        let run (passing : Bool) : Running Unit := do
          let assigned ← execute.assign passing assignments
          trace before assigned args
          execute.dispatch plain special name rest
        if special || assignments.isEmpty then run false else withLocals (run true)

/-! ## Pipelines -/

/-- Runs the stages of a pipeline one after the other, each in a copy of the process and with the
status from before. -/
def pipe (execute : Executor) (status : Nat) (input : Option Nat) : List Command → Running Unit
  | [] => return ()
  | c :: rest => do
    let fed (p : Process) : Process :=
      match input with
      | some n => { p with status, descriptors := (0, n) :: p.descriptors.filter (·.1 ≠ 0) }
      | none => p
    if rest.isEmpty then execute.copied fed (execute c)
    else
      let n ← addStream (.sink [])
      execute.copied (fun p =>
        let p := fed p
        { p with descriptors := (1, n) :: p.descriptors.filter (·.1 ≠ 1) }) (execute c)
      match (← get).streams[n]? with
      | some (.sink written) => setStream n (.source written)
      | _ => return ()
      execute.pipe status (some n) rest

end Executor

/-! ## All commands -/

namespace Command

/-- Runs a command, where the commands in it are run by an executor. A shell that only reads runs
none. -/
def step (execute : Executor) (c : Command) : Running Unit := do
  if (← process).has 'n' then return
  let onLine (line : Nat) : Running Unit := modifyProcess fun p => { p with line }
  match c with
  | .simple line assignments words redirects =>
    onLine line
    Executor.checked (execute.simple assignments words redirects)
  | .pipeline stages => Executor.checked (execute.pipe (← process).status none stages)
  | .negation c =>
    execute.tested [c]
    setStatus (if (← process).status = 0 then 1 else 0)
  | .both first second =>
    execute.tested [first]
    if (← process).status = 0 then execute second
  | .either first second =>
    execute.tested [first]
    if (← process).status ≠ 0 then execute second
  | .background c =>
    let n ← addStream .null
    execute.copied (fun p =>
      { p with descriptors := (0, n) :: p.descriptors.filter (·.1 ≠ 0), tested := false })
      (execute c)
    modifyProcess fun p => { p with jobs := p.jobs ++ [p.status], status := 0 }
  | .subshell line body redirects =>
    onLine line
    Executor.checked (execute.copied id (execute.redirected redirects (execute.all body)))
  | .group line body redirects =>
    if redirects.isEmpty then execute.all body
    else
      onLine line
      execute.redirected redirects (execute.all body)
  | .choice condition body alternative =>
    execute.tested condition
    if (← process).status = 0 then execute.all body
    else if alternative.isEmpty then setStatus 0
    else execute.all alternative
  | .loop untilTrue condition body =>
    Executor.looping (execute.turns untilTrue condition body Executor.maxTurns 0)
  | .each line name words body =>
    onLine line
    let values ← words.mapM (Expand.arguments execute.output)
    setStatus 0
    Executor.looping (execute.eachTurn name body values.flatten)
  | .select line word clauses =>
    onLine line
    let text ← Expand.text execute.output word
    execute.firstFitting text clauses
  | .define name body =>
    modifyProcess fun p =>
      { p with functions := (name, body) :: p.functions.filter (·.1 ≠ name), status := 0 }
  execute.attend

/-- Runs a command in which at most `depth` commands are nested. -/
def run : (depth : Nat) → Executor
  | 0, _ => fail "Maximum depth exceeded".toList
  | depth + 1, c => step (run depth) c

end Command

/-- How deeply the commands of a script may be nested when it runs. -/
def maxDepth : Nat := 10000

/-- How a shell has ended: with a status, or without one by a signal. -/
inductive Ended where
  | status (n : Nat)
  | signal
  deriving DecidableEq, Repr

/-- Runs a script to its end. -/
def Session.run (shell : Session) (script : Text) : Ended × Session :=
  let execute : Executor := Command.run maxDepth
  let (result, after) := (execute.whole (execute.script script)).run shell
  match result with
  | .error (.killed _) => (.signal, after)
  | _ => (.status (after.process.status % 256), after)

end AppLauncher.Shell
