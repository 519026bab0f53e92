import AppLauncher.LaunchError

/-!
# How the launcher was started

The first argument is the path of the launcher itself, and its file name without the extension
names everything that belongs to this launcher. All further arguments are passed through to the
child, so they have to be text.
-/

namespace AppLauncher

/-- The launcher's own command line. -/
structure Invocation where
  program : Path
  passthrough : List String
  deriving DecidableEq, Repr

namespace Invocation

/-- The name of a launcher whose path has no file name. -/
def defaultName : String := "Relang"

/-- The name of a launcher with the given path. -/
def nameOf (program : Path) : String :=
  match program.fileStem? with
  | some stem => if stem.isEmpty then defaultName else Utf8.toStringLossy stem
  | none => defaultName

def launcherName (invocation : Invocation) : String :=
  nameOf invocation.program

/-- The error for an argument that is not text. -/
def notUnicode (position : Nat) (arg : Bytes) : LaunchError :=
  .invalidArguments s!"argument {position} is not valid unicode: {Utf8.toStringLossy arg}"

/-- Reads arguments as text, the first of them being at a given position. -/
def readTexts (position : Nat) : List Bytes → Except LaunchError (List String)
  | [] => .ok []
  | arg :: rest =>
    match Utf8.toString? arg with
    | none => .error (notUnicode position arg)
    | some text => (readTexts (position + 1) rest).map (text :: ·)

/-- Reads a whole argument list. -/
def parse : List Bytes → Except LaunchError Invocation
  | [] => .error (.invalidArguments "the launcher path is missing")
  | program :: rest => (readTexts 1 rest).map fun passthrough => ⟨⟨program⟩, passthrough⟩

end Invocation

end AppLauncher
