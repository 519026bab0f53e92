import AppLauncher.FileSystem.Maintenance
import AppLauncher.Shell.Pathnames
import AppLauncher.Shell.Tool.Basic

/-!
# Programs that work on files

Programs that list, make, copy, move and remove files and directories.
-/

namespace AppLauncher.Shell.Tool

/-- What a path leads to. -/
def reach (purpose : Purpose) (path : Text) : Running (Except SystemError Reached) := do
  let shell ← get
  return shell.files.resolve shell.process.here purpose path.path

def modifyFiles (f : FileSystem → FileSystem) : Running Unit :=
  modify fun shell => { shell with files := f shell.files }

/-- A name in a directory as a path. -/
def inside (directory name : Text) : Text :=
  if directory.getLast? = some '/' then directory ++ name else directory ++ '/' :: name

/-- The last part of a path. -/
def lastPart (path : Text) : Text :=
  let plain := (path.reverse.dropWhile (· = '/')).reverse
  (plain.reverse.takeWhile (· ≠ '/')).reverse

/-- The names that `ls` shows of a directory. -/
def shownNames (call : Call) (directory : Text) : Running (List Text) := do
  let shell ← get
  let names := Pathnames.names shell.files shell.process.here directory
  let isShown (name : Text) : Bool :=
    call.flags.contains 'a' || name.head? != some '.'
      || (call.flags.contains 'A' && name != ['.'] && name != ['.', '.'])
  let sorted := (names.filter isShown).mergeSort fun a b => !decide (b < a)
  return if call.flags.contains 'r' then sorted.reverse else sorted

/-- Lists what a call says. -/
def list (call : Call) : Running Nat := do
  let paths := if call.arguments.isEmpty then [['.']] else call.arguments
  let inOrder (texts : List Text) : List Text :=
    let sorted := texts.mergeSort fun a b => !decide (b < a)
    if call.flags.contains 'r' then sorted.reverse else sorted
  let step (found : Nat × List Text × List Text) (path : Text) :
      Running (Nat × List Text × List Text) := do
    let (status, files, directories) := found
    match ← reach .use path with
    | .ok (.directory _) =>
      if call.flags.contains 'd' then return (status, files ++ [path], directories)
      else return (status, files, directories ++ [path])
    | .ok (.file _ _ _) | .ok (.link _ _) => return (status, files ++ [path], directories)
    | .ok (.vacant _) =>
      match ← reach .entry path with
      | .ok (.link _ _) => return (status, files ++ [path], directories)
      | _ =>
        complain "ls" ["cannot access ".toList, quoted path, ": No such file or directory".toList]
        return (2, files, directories)
    | .error error =>
      complain "ls" ["cannot access ".toList, quoted path, ": ".toList, reason error]
      return (2, files, directories)
  let (status, files, directories) ← paths.foldlM step (0, [], [])
  let blocks ← (inOrder directories).mapM fun directory => do
    let names ← shownNames call directory
    let title := if 1 < paths.length then directory ++ ":\n".toList else []
    return title ++ names.flatMap (· ++ ['\n'])
  let first := if files.isEmpty then [] else [(inOrder files).flatMap (· ++ ['\n'])]
  let done ← print "ls" (Text.join ['\n'] (first ++ blocks))
  return if done then status else 2

def ls : Tool := fun args => do
  match parse "aA1dr".toList [] none args with
  | .error misuse =>
    let _ ← misused "ls" misuse.message
    return 2
  | .ok call => list call

def mkdir : Tool := called "mkdir" "p" "m" fun call => do
  if call.arguments.isEmpty then misused "mkdir" ["missing operand".toList]
  else forEach call.arguments fun path => do
    let shell ← get
    let here := shell.process.here
    if call.flags.contains 'p' then
      modifyFiles fun files => files.makeDirectories here path.path
      match ← reach .use path with
      | .ok (.directory _) => return 0
      | .error error =>
        complain "mkdir" ["cannot create directory ".toList, quoted path, ": ".toList, reason error]
        return 1
      | .ok _ =>
        complain "mkdir" ["cannot create directory ".toList, quoted path, ": File exists".toList]
        return 1
    else
      match ← reach .entry path with
      | .ok (.vacant _) =>
        modifyFiles fun files => files.makeDirectory here path.path
        return 0
      | .ok _ =>
        complain "mkdir" ["cannot create directory ".toList, quoted path, ": File exists".toList]
        return 1
      | .error error =>
        complain "mkdir" ["cannot create directory ".toList, quoted path, ": ".toList, reason error]
        return 1

/-- Takes away what a path leads to. -/
def removePath (path : Text) : Running Unit :=
  modify fun shell =>
    match shell.files.removal? shell.process.here path.path with
    | none => shell
    | some removal =>
      { shell with
        files := shell.files.remove removal
        process := { shell.process with here := removal.after shell.process.here } }

def isEmptyDirectory (place : Place) : Running Bool :=
  return ((← get).files.below place.location).isEmpty

def rmdir : Tool := called "rmdir" "" "" fun call => do
  let refuse (path : Text) (why : Text) : Running Nat := do
    complain "rmdir" ["failed to remove ".toList, quoted path, ": ".toList, why]
    return 1
  if call.arguments.isEmpty then misused "rmdir" ["missing operand".toList]
  else forEach call.arguments fun path => do
    match ← reach .entry path with
    | .ok (.directory place) =>
      if lastPart path = ['.'] then refuse path "Invalid argument".toList
      else if ← isEmptyDirectory place then
        removePath path
        return 0
      else refuse path "Directory not empty".toList
    | .ok (.vacant _) => refuse path "No such file or directory".toList
    | .ok _ => refuse path "Not a directory".toList
    | .error error => refuse path (reason error)

/-- Removes files, and directories with all that they hold if it is asked to. -/
def rm : Tool := called "rm" "rRfdv" "" fun call => do
  let has (flag : Char) : Bool := call.flags.contains flag
  let refuse (path : Text) (why : Text) : Running Nat := do
    complain "rm" ["cannot remove ".toList, quoted path, ": ".toList, why]
    return 1
  if call.arguments.isEmpty then
    if has 'f' then return 0 else misused "rm" ["missing operand".toList]
  else forEach call.arguments fun path => do
    match ← reach .entry path with
    | .ok (.directory place) =>
      if lastPart path = ['.'] ∨ lastPart path = ['.', '.'] then
        complain "rm" ["refusing to remove '.' or '..' directory: skipping ".toList, quoted path]
        return 1
      else if has 'r' || has 'R' || (has 'd' && (← isEmptyDirectory place)) then
        removePath path
        return 0
      else refuse path "Is a directory".toList
    | .ok (.vacant _) =>
      if has 'f' then return 0 else refuse path "No such file or directory".toList
    | .ok _ =>
      removePath path
      return 0
    | .error error =>
      let isAbsence := error = .code 2 || error = .code 20
      if has 'f' && isAbsence then return 0 else refuse path (reason error)

/-- Makes files that are not there. -/
def touch : Tool := called "touch" "cam" "" fun call => do
  if call.arguments.isEmpty then misused "touch" ["missing file operand".toList]
  else forEach call.arguments fun path => do
    match ← reach .use path with
    | .ok (.vacant _) =>
      if call.flags.contains 'c' then return 0
      let shell ← get
      match shell.files.openEnd shell.process.here path.path with
      | .ok (_, files) =>
        set { shell with files }
        return 0
      | .error error =>
        complain "touch" ["cannot touch ".toList, quoted path, ": ".toList, reason error]
        return 1
    | .ok _ => return 0
    | .error error =>
      complain "touch" ["cannot touch ".toList, quoted path, ": ".toList, reason error]
      return 1

/-- Copies or moves paths to the last one, which has to be a directory if there are several. -/
def transfer (tool : String) (one : Text → Text → Running Nat) (args : List Text) :
    Running Nat := do
  match args.reverse with
  | [] => misused tool ["missing file operand".toList]
  | [only] => misused tool ["missing destination file operand after ".toList, quoted only]
  | target :: sources =>
    match ← reach .use target with
    | .ok (.directory _) =>
      forEach sources.reverse fun source => one source (inside target (lastPart source))
    | found =>
      match sources with
      | [source] => one source target
      | _ =>
        let why := match found with
          | .ok (.vacant _) => "No such file or directory".toList
          | .ok _ => "Not a directory".toList
          | .error error => reason error
        complain tool ["target ".toList, quoted target, ": ".toList, why]
        return 1

/-- Whether two paths lead to the same file. -/
def isSame (a b : Text) : Running Bool := do
  let shell ← get
  return Condition.Surroundings.same ⟨shell.files, shell.process.here⟩ a b

def copyFile (source target : Text) : Running Nat := do
  let shell ← get
  let here := shell.process.here
  match shell.files.read here source.path with
  | .error .isDirectory =>
    complain "cp" ["-r not specified; omitting directory ".toList, quoted source]
    return 1
  | .error error =>
    complain "cp" ["cannot stat ".toList, quoted source, ": ".toList, reason error]
    return 1
  | .ok contents =>
    if ← isSame source target then
      complain "cp" [quoted source, " and ".toList, quoted target, " are the same file".toList]
      return 1
    else
      match shell.files.openEmpty here target.path with
      | .ok (handle, files) =>
        set { shell with files := (files.write handle contents).2 }
        return 0
      | .error error =>
        complain "cp" ["cannot create regular file ".toList, quoted target, ": ".toList,
          reason error]
        return 1

def cp : Tool := called "cp" "fp" "" fun call => transfer "cp" copyFile call.arguments

/-- Makes a symbolic link, in place of what was there if the call says so. -/
def linkTo (call : Call) (target name : Text) : Running Nat := do
  let here := (← process).here
  let isTaken := match ← reach .entry name with
    | .ok (.file _ _ _) | .ok (.link _ _) => true
    | _ => false
  if isTaken && call.flags.contains 'f' then removePath name
  let refuse (why : Text) : Running Nat := do
    complain "ln" ["failed to create symbolic link ".toList, quoted name, ": ".toList, why]
    return 1
  match ← reach .entry name with
  | .ok (.vacant _) =>
    modifyFiles fun files => files.makeLink here name.path target.path
    return 0
  | .ok _ => refuse "File exists".toList
  | .error error => refuse (reason error)

def ln : Tool := called "ln" "sfn" "" fun call => do
  match call.arguments with
  | [target] => linkTo call target (inside ['.'] (lastPart target))
  | args => transfer "ln" (linkTo call) args

/-- Puts everything at and below a location at another one, in place of what was there. -/
def relocate (files : FileSystem) (source target : Location) : FileSystem :=
  let moved := files.entries.filter fun entry => source.isPrefixOf entry.1
  let left := (files.erase source).erase target
  { left with
    entries := moved.map (fun entry => (target ++ entry.1.drop source.length, entry.2))
      ++ left.entries }

def moveEntry (source target : Text) : Running Nat := do
  let shell ← get
  let here := shell.process.here
  match shell.files.entry? here source.path with
  | none =>
    let why := match ← reach .entry source with
      | .error error => reason error
      | .ok _ => "No such file or directory".toList
    complain "mv" ["cannot stat ".toList, quoted source, ": ".toList, why]
    return 1
  | some start =>
    if ← isSame source target then
      complain "mv" [quoted source, " and ".toList, quoted target, " are the same file".toList]
      return 1
    else
      match ← reach .entry target with
      | .ok (.vacant location) | .ok (.file location _ _) | .ok (.link location _) =>
        if start.isPrefixOf location then
          complain "mv" ["cannot move ".toList, quoted source,
            " to a subdirectory of itself, ".toList, quoted target]
          return 1
        else
          modifyFiles fun files => relocate files start location
          return 0
      | .ok (.directory _) =>
        complain "mv" ["cannot overwrite directory ".toList, quoted target,
          " with non-directory".toList]
        return 1
      | .error error =>
        complain "mv" ["cannot move ".toList, quoted source, " to ".toList, quoted target,
          ": ".toList, reason error]
        return 1

def mv : Tool := called "mv" "f" "" fun call => transfer "mv" moveEntry call.arguments

end AppLauncher.Shell.Tool
