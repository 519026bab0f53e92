import AppLauncher.Shell.Condition
import AppLauncher.Shell.Process

/-!
# Programs that a shell starts

What the programs that come with every system have in common: how they tell of mistakes, how they
take options, and how they read what they are to work on. A program takes its arguments and gives
its status.
-/

namespace AppLauncher.Shell

abbrev Tool := List Text → Running Nat

namespace Tool

/-- Characters that a name is put in quotes for. -/
def wantsQuotes (c : Char) : Bool :=
  c.isWhitespace || "!\"$&'()*:;<=>?[\\^`|".toList.contains c

def quoted (name : Text) : Text :=
  if name.contains '\'' then '"' :: name ++ ['"'] else '\'' :: name ++ ['\'']

/-- An argument in quotes, with a backslash before each quote and backslash in it. -/
def escaped (arg : Text) : Text :=
  let shown := arg.flatMap fun c =>
    if c = '\n' then ['\\', 'n'] else if c = '\\' ∨ c = '\'' then ['\\', c] else [c]
  '\'' :: shown ++ ['\'']

/-- A name in a message, in quotes if it would be hard to read without. -/
def quotedName (name : Text) : Text :=
  let isOdd := match name with
    | [] | ['\x7b'] | ['\x7d'] => true
    | first :: _ => first == '#' || first == '~' || name.any wantsQuotes
  if isOdd then quoted name else name

/-- The reason that messages give for an error. -/
def reason (error : SystemError) : Text :=
  match error with
  | .code n => (SystemError.numberText n).toList
  | other => other.message.toList

def complain (tool : String) (parts : List Text) : Running Unit := do
  let _ ← write 2 (tool.toList ++ ": ".toList ++ parts.flatten ++ ['\n'])

def misused (tool : String) (parts : List Text) : Running Nat := do
  complain tool parts
  let _ ← write 2 ("Try '".toList ++ tool.toList ++ " --help' for more information.\n".toList)
  return 1

def print (tool : String) (text : Text) : Running Bool := do
  if text.isEmpty then return true
  else if ← write 1 text then return true
  else
    complain tool ["write error: Bad file descriptor".toList]
    return false

/-- Options of a program and its other arguments, which may stand between the options. Options that
have a value are given with it. -/
structure Call where
  flags : List Char
  values : List (Char × Text)
  arguments : List Text
  deriving Repr

/-- Why a call cannot be understood. -/
inductive Misuse where
  | unknown (letter : Char)
  | lacksValue (letter : Char)
  deriving DecidableEq, Repr

def Misuse.message : Misuse → List Text
  | unknown letter => ["invalid option -- '".toList, [letter], ['\'']]
  | lacksValue letter => ["option requires an argument -- '".toList, [letter], ['\'']]

/-- The flags in the letters of an argument, up to one that has a value; with what stands after
it. -/
def letters (flags valued : List Char) :
    List Char → Except Misuse (List Char × Option (Char × Text))
  | [] => .ok ([], none)
  | letter :: rest =>
    if valued.contains letter then .ok ([], some (letter, rest))
    else if flags.contains letter then do
      let (more, value) ← letters flags valued rest
      return (letter :: more, value)
    else .error (.unknown letter)

/-- The call with more flags and perhaps a value before its own. -/
def Call.after (call : Call) (flags : List Char) (value : Option (Char × Text)) : Call :=
  { call with flags := flags ++ call.flags, values := value.toList ++ call.values }

/-- Reads the arguments of a call. An option that lacks its value takes the next argument. -/
def parse (flags valued : List Char) : (lacking : Option Char) → List Text → Except Misuse Call
  | none, [] => .ok ⟨[], [], []⟩
  | some letter, [] => .error (.lacksValue letter)
  | some letter, arg :: rest => do
    return (← parse flags valued none rest).after [] (some (letter, arg))
  | none, ['-', '-'] :: rest => .ok ⟨[], [], rest⟩
  | none, ('-' :: c :: more) :: rest => do
    let (found, value) ← letters flags valued (c :: more)
    match value with
    | some (letter, []) => return (← parse flags valued (some letter) rest).after found none
    | _ => return (← parse flags valued none rest).after found value
  | none, arg :: rest => do
    let call ← parse flags valued none rest
    return { call with arguments := arg :: call.arguments }

/-- Runs a program with its options read. -/
def called (tool : String) (flags valued : String) (run : Call → Running Nat) : Tool := fun args =>
  match parse flags.toList valued.toList none args with
  | .ok call => run call
  | .error misuse => misused tool misuse.message

/-- Runs a program that has no options and takes at least one argument. -/
def plainly (tool : String) (run : List Text → Running Nat) : Tool :=
  called tool "" "" fun call =>
    if call.arguments.isEmpty then misused tool ["missing operand".toList] else run call.arguments

/-- What is to be read under a name, all that is left of the input under `-`. -/
def source (name : Text) : Running (Except SystemError Text) := do
  if name = ['-'] then
    match ← unread? 0 with
    | some text =>
      consume 0 text.length
      return .ok text
    | none => return .error (if (← stream? 0).isSome then .isDirectory else .code 9)
  else if Condition.Surroundings.isDevice name then return .ok []
  else
    let shell ← get
    return (shell.files.read shell.process.here name.path).map Text.ofBytes

/-- The lines of a text, each with its end if it has one. -/
def lines (text : Text) : List Text :=
  text.foldr (fun c found =>
    if c = '\n' then [c] :: found
    else
      match found with
      | line :: rest => (c :: line) :: rest
      | [] => [[c]]) []

/-- Text set to the right in a column. -/
def rightIn (width : Nat) (text : Text) : Text :=
  List.replicate (width - text.length) ' ' ++ text

/-- Runs a step for each argument. The status is the greatest. -/
def forEach (args : List Text) (step : Text → Running Nat) : Running Nat := do
  let statuses ← args.mapM step
  return statuses.foldl max 0

end Tool

end AppLauncher.Shell
