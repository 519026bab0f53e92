import AppLauncher.World

/-!
# The install directory

The directory part of the path that the launcher was started as; a bare name was found through the
search path, and then the directory of the running executable counts. The launcher makes it its
working directory, and keeps it as an absolute path that it took before the change.
-/

namespace AppLauncher.InstallDirectory

/-- The install directory of a launcher with the given path. -/
def derive (executableDirectory program : Path) : Path :=
  match program.parent? with
  | some parent => if parent.bytes.isEmpty then executableDirectory else parent
  | none => executableDirectory

/-- A directory as an absolute path. Only a relative one needs the working directory, which has no
path once it has been removed. -/
def absolute (here : Place) (directory : Path) : Except SystemError Path :=
  if directory.isAbsolute then .ok (directory.absolute ⟨[]⟩)
  else
    match here.path? with
    | some base => .ok (directory.absolute base)
    | none => .error .missing

/-- Finds the install directory of a launcher with the given path, as an absolute path. -/
def locate {σ : Type} (program : Path) : Launching σ Path := do
  let world ← get
  let written := derive world.executableDirectory program
  match absolute world.here written with
  | .error source => throw (.installDirectory written source)
  | .ok directory => return directory

/-- Makes a directory the working directory. -/
def change {σ : Type} (directory : Path) : Launching σ Unit := do
  let world ← get
  match world.files.directory world.here directory with
  | .error source => throw (.installDirectory directory source)
  | .ok place =>
    set { world with here := place }
    note .info .installDirectory s!"working directory: {directory.display}"

/-- Enters the install directory of a launcher with the given path. -/
def enter {σ : Type} (program : Path) : Launching σ Path := do
  let directory ← locate program
  change directory
  return directory

end AppLauncher.InstallDirectory
