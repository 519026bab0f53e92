import AppLauncher.Shell.Tool.Basic

/-!
# Programs that work on text

Programs that print, cut, count and sort what they read, or print something made of their arguments.
-/

namespace AppLauncher.Shell.Tool

/-- Prints its arguments as they are. -/
def echo : Tool := fun args => do
  let (ending, args) : Text × List Text := match args with
    | ['-', 'n'] :: rest => ([], rest)
    | _ => (['\n'], args)
  return if ← print "echo" (Text.join [' '] args ++ ending) then 0 else 1

/-- Adds numbers before the lines of a text, from a number on. -/
def numberLines (start : Nat) (text : Text) : Text :=
  (lines text).zipIdx start |>.flatMap fun (line, n) => rightIn 6 (Text.ofNat n) ++ '\t' :: line

/-- Whether what is to be read under a name is the file that is written to, and there is something
in it that could be read. -/
def isOutput (name : Text) : Running Bool := do
  let shell ← get
  match ← stream? 1 with
  | some (_, .file output _ _ true) =>
    if name = ['-'] then
      match ← stream? 0 with
      | some (_, .file input _ true _) =>
        return input.id == output.id && input.offset < (fileContents shell.files input).length
      | _ => return false
    else
      match shell.files.resolve shell.process.here .use name.path with
      | .ok (.file _ id contents) => return id == output.id && !contents.isEmpty
      | _ => return false
  | _ => return false

def cat : Tool := called "cat" "nu" "" fun call => do
  if (← stream? 1).isNone then
    complain "cat" ["standard output: Bad file descriptor".toList]
    return 1
  let names := if call.arguments.isEmpty then [['-']] else call.arguments
  let step (state : Nat × Nat) (name : Text) : Running (Nat × Nat) := do
    let (status, line) := state
    if ← isOutput name then
      complain "cat" [quotedName name, ": input file is output file".toList]
      return (1, line)
    match ← source name with
    | .ok text =>
      let shown := if call.flags.contains 'n' then numberLines line text else text
      let done ← print "cat" shown
      return (if done then status else 1, line + (lines text).length)
    | .error error =>
      complain "cat" [quotedName name, ": ".toList, reason error]
      return (1, line)
  return (← names.foldlM step (0, 1)).1

/-- How a program that shows a part of each file is asked which part. -/
structure Excerpt where
  tool : String
  /-- The part of some lines or characters, for a number as it was given. -/
  cut : {α : Type} → Text → List α → List α

/-- The arguments with a number of lines that was given as an option of its own put behind its
letter. -/
def namedCount : List Text → List Text
  | ('-' :: c :: digits) :: rest =>
    if c.isDigit then ['-', 'n'] :: (c :: digits) :: rest else ('-' :: c :: digits) :: rest
  | args => args

/-- Shows a part of each file, ten lines if the call does not say how much. -/
def Excerpt.run (excerpt : Excerpt) : Tool := fun args =>
  let display (call : Call) : Running Nat := do
    let count := call.values.head?.getD ('n', "10".toList)
    let digits := count.2.dropWhile fun c => c == '-' || c == '+'
    if digits.isEmpty || !digits.all Char.isDigit then
      let kind := if count.1 = 'c' then "invalid number of bytes: " else "invalid number of lines: "
      complain excerpt.tool [kind.toList, escaped count.2]
      return 1
    let names := if call.arguments.isEmpty then [['-']] else call.arguments
    let hasHeads := (1 < names.length && !call.flags.contains 'q') || call.flags.contains 'v'
    let step (state : Nat × Text) (name : Text) : Running (Nat × Text) := do
      let (status, gap) := state
      let title := if name = ['-'] then "standard input".toList else name
      let head := if hasHeads then gap ++ "==> ".toList ++ title ++ " <==\n".toList else []
      match ← source name with
      | .ok text =>
        let part := if count.1 = 'c' then excerpt.cut count.2 text
          else (excerpt.cut count.2 (lines text)).flatten
        let done ← print excerpt.tool (head ++ part)
        return (if done then status else 1, ['\n'])
      | .error .isDirectory =>
        let _ ← print excerpt.tool head
        complain excerpt.tool ["error reading ".toList, quoted name, ": Is a directory".toList]
        return (1, ['\n'])
      | .error error =>
        complain excerpt.tool
          ["cannot open ".toList, quoted name, " for reading: ".toList, reason error]
        return (1, gap)
    return (← names.foldlM step (0, [])).1
  called excerpt.tool "qv" "nc" display (namedCount args)

/-- Shows the first lines of files; with a minus sign, all but the last. -/
def head : Tool :=
  Excerpt.run ⟨"head", fun count items =>
    match count with
    | '-' :: digits => items.take (items.length - Text.digits digits)
    | '+' :: digits => items.take (Text.digits digits)
    | digits => items.take (Text.digits digits)⟩

/-- Shows the last lines of files; with a plus sign, all from a line on. -/
def tail : Tool :=
  Excerpt.run ⟨"tail", fun count items =>
    match count with
    | '+' :: digits => items.drop (Text.digits digits - 1)
    | '-' :: digits => items.drop (items.length - Text.digits digits)
    | digits => items.drop (items.length - Text.digits digits)⟩

/-- The numbers of lines, words and characters of a text. -/
def counts (text : Text) : List Nat :=
  let isBlank (c : Char) := c == ' ' || ('\t' ≤ c && c ≤ '\x0d')
  let starts := (text.zip (' ' :: text)).countP fun (c, before) => !isBlank c && isBlank before
  [text.count '\n', starts, text.length]

def wc : Tool := called "wc" "lwcm" "" fun call => do
  let names := if call.arguments.isEmpty then [['-']] else call.arguments
  let wanted : List Bool :=
    if call.flags.isEmpty then [true, true, true]
    else [call.flags.contains 'l', call.flags.contains 'w',
      call.flags.contains 'c' || call.flags.contains 'm']
  let chosen (found : List Nat) : List Text :=
    ((found.zip wanted).filter Prod.snd).map fun n => Text.ofNat n.1
  let step (name : Text) : Running (Text × Except SystemError (List Nat)) := do
    return (name, (← source name).map counts)
  let readsFile := match ← stream? 0 with
    | some (_, .file _ _ _ _) => true
    | _ => false
  let found ← names.mapM step
  let total := found.foldl (fun sums entry =>
    match entry.2 with
    | .ok counts => (sums.zip counts).map fun n => n.1 + n.2
    | .error _ => sums) [0, 0, 0]
  let isOpen := (names.contains ['-'] && !readsFile) || found.any fun entry => match entry.2 with
    | .error .isDirectory => true
    | _ => false
  let columns := (wanted.filter id).length
  let width := if columns = 1 ∧ names.length = 1 then 1
    else if isOpen then 7 else (Text.ofNat (total.getD 2 0)).length
  let line (found : List Nat) (name : Text) : Text :=
    let title := if name.isEmpty then [] else ' ' :: name
    Text.join [' '] ((chosen found).map (rightIn width)) ++ title ++ ['\n']
  let display (entry : Text × Except SystemError (List Nat)) : Running Nat := do
    let (name, result) := entry
    match result with
    | .ok found =>
      let title := if call.arguments.isEmpty then [] else name
      return if ← print "wc" (line found title) then 0 else 1
    | .error error =>
      complain "wc" [quotedName name, ": ".toList, reason error]
      if error = .isDirectory then
        let _ ← print "wc" (line [0, 0, 0] name)
      return 1
  let statuses ← found.mapM display
  if 1 < names.length then
    let _ ← print "wc" (line total "total".toList)
  return statuses.foldl max 0

/-- The lines of files in their order; none if one of the files cannot be read. -/
def gather : List Text → Running (Option (List Text))
  | [] => return some []
  | name :: rest => do
    match ← source name with
    | .ok text =>
      let ended := if text.isEmpty ∨ text.getLast? = some '\n' then text else text ++ ['\n']
      return (← gather rest).map ((lines ended).map List.dropLast ++ ·)
    | .error error =>
      let what := if error = .isDirectory then "read failed: " else "cannot read: "
      complain "sort" [what.toList, quotedName name, ": ".toList, reason error]
      return none

/-- Sorts the lines of files by their bytes. -/
def sort : Tool := called "sort" "ru" "" fun call => do
  let names := if call.arguments.isEmpty then [['-']] else call.arguments
  match ← gather names with
  | none => return 2
  | some found =>
    let isBefore (a b : Text) : Bool :=
      if call.flags.contains 'r' then !decide (a < b) else !decide (b < a)
    let sorted := found.mergeSort isBefore
    let kept := if call.flags.contains 'u' then sorted.eraseReps else sorted
    return if ← print "sort" (kept.flatMap (· ++ ['\n'])) then 0 else 2

/-- Prints numbers from one to another. -/
def seq : Tool := fun args => do
  match args with
  | [] => misused "seq" ["missing operand".toList]
  | _ :: _ :: _ :: extra :: _ => misused "seq" ["extra operand ".toList, escaped extra]
  | _ =>
    match args.find? fun arg => (Condition.number arg).toOption.isNone with
    | some bad => misused "seq" ["invalid floating point argument: ".toList, escaped bad]
    | none =>
      let (first, step, last) : Int × Int × Int :=
        match args.filterMap fun arg => (Condition.number arg).toOption with
        | [last] => (1, 1, last)
        | [first, last] => (first, 1, last)
        | first :: step :: last :: _ => (first, step, last)
        | [] => (1, 1, 0)
      if step = 0 then misused "seq" ["invalid Zero increment value: '0'".toList]
      else
        let count := ((last - first) / step + 1).toNat
        let numbers := (List.range count).map fun n => first + Int.ofNat n * step
        return if ← print "seq" (numbers.flatMap fun n => Text.ofInt n ++ ['\n']) then 0 else 1

/-- A path without the slashes at its end. -/
def withoutSlashes (path : Text) : Text :=
  (path.reverse.dropWhile (· = '/')).reverse

/-- Prints the last part of a path, without a given ending. -/
def basename : Tool := fun args =>
  let last (path : Text) : Text :=
    let plain := withoutSlashes path
    if plain.isEmpty then (if path.isEmpty then [] else ['/'])
    else (plain.reverse.takeWhile (· ≠ '/')).reverse
  let (option, operands) : Option Char × List Text := match args with
    | ['-', '-'] :: rest => (none, rest)
    | ('-' :: letter :: _) :: rest => (some letter, rest)
    | args => (none, args)
  match option, operands with
  | some letter, _ => misused "basename" (Misuse.unknown letter).message
  | none, [] => misused "basename" ["missing operand".toList]
  | none, [path] => do return if ← print "basename" (last path ++ ['\n']) then 0 else 1
  | none, [path, ending] => do
    let name := last path
    let cut := if ending.isSuffixOf name && name != ending then
      name.take (name.length - ending.length) else name
    return if ← print "basename" (cut ++ ['\n']) then 0 else 1
  | none, _ :: _ :: extra :: _ => misused "basename" ["extra operand ".toList, escaped extra]

/-- Prints the directories that paths lie in. -/
def dirname : Tool := plainly "dirname" fun args =>
  let around (path : Text) : Text :=
    let plain := withoutSlashes path
    let before := (plain.reverse.dropWhile (· ≠ '/')).reverse
    if plain.isEmpty then (if path.isEmpty then ['.'] else ['/'])
    else if before.isEmpty then ['.']
    else
      let directory := withoutSlashes before
      if directory.isEmpty then ['/'] else directory
  forEach args fun path => do
    return if ← print "dirname" (around path ++ ['\n']) then 0 else 1

/-- Whether a text is a length of time: a number, after which a letter may say the unit. -/
def isInterval (text : Text) : Bool :=
  let whole := text.takeWhile Char.isDigit
  let rest := text.drop whole.length
  let (fraction, rest) := match rest with
    | '.' :: rest => (rest.takeWhile Char.isDigit, rest.dropWhile Char.isDigit)
    | _ => ([], rest)
  !(whole ++ fraction).isEmpty && ["", "s", "m", "h", "d"].contains (String.ofList rest)

/-- Tells which arguments are no lengths of time. -/
def refuseIntervals : List Text → Running Nat
  | [] => return 0
  | [last] => misused "sleep" ["invalid time interval ".toList, escaped last]
  | arg :: rest => do
    complain "sleep" ["invalid time interval ".toList, escaped arg]
    refuseIntervals rest

def sleep : Tool := plainly "sleep" fun args =>
  refuseIntervals (args.filter fun arg => !isInterval arg)

end AppLauncher.Shell.Tool
