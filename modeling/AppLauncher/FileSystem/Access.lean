import AppLauncher.FileSystem.Resolve

/-!
# Reading, opening and writing files

What a program does with files: read one whole, open one for writing from an empty start, write
through the open handle, and change to a directory. A handle has an offset of its own and keeps to
the file it was opened on, so what it writes is lost once that file has been removed.
-/

namespace AppLauncher

/-- An open file, and where its next write goes. -/
structure Handle where
  location : Location
  id : Nat
  offset : Nat
  deriving DecidableEq, Repr

namespace FileSystem

/-- The whole contents of a file. -/
def read (fs : FileSystem) (here : Place) (p : Path) : Except SystemError Bytes := do
  match ← fs.resolve here .use p with
  | .file _ _ contents => .ok contents
  | .directory _ => .error .isDirectory
  | .link _ _ | .vacant _ => .error .missing

/-- Opens a file for writing, empty: one that exists is truncated, one that does not is made. -/
def openEmpty (fs : FileSystem) (here : Place) (p : Path) :
    Except SystemError (Handle × FileSystem) := do
  match ← fs.resolve here .create p with
  | .file location id _ => .ok (⟨location, id, 0⟩, fs.insert location (.file id []))
  | .vacant location => .ok (⟨location, fs.nextId, 0⟩, fs.create location [])
  | .directory _ => .error .isDirectory
  | .link _ _ => .error .tooManyLinks

/-- Opens a file for writing after what it holds; one that does not exist is made. -/
def openEnd (fs : FileSystem) (here : Place) (p : Path) :
    Except SystemError (Handle × FileSystem) := do
  match ← fs.resolve here .create p with
  | .file location id contents => .ok (⟨location, id, contents.length⟩, fs)
  | .vacant location => .ok (⟨location, fs.nextId, 0⟩, fs.create location [])
  | .directory _ => .error .isDirectory
  | .link _ _ => .error .tooManyLinks

/-- The directory that a path leads to. -/
def directory (fs : FileSystem) (here : Place) (p : Path) : Except SystemError Place := do
  match ← fs.resolve here .use p with
  | .directory place => .ok place
  | .file _ _ _ => .error .notDirectory
  | .link _ _ | .vacant _ => .error .missing

/-- Contents after `data` was written at an offset. What lies between the old end and the offset
reads as zeros. -/
def splice (contents : Bytes) (offset : Nat) (data : Bytes) : Bytes :=
  contents.take offset ++ List.replicate (offset - contents.length) 0 ++ data ++
    contents.drop (offset + data.length)

/-- Writes through a handle, and moves it on. -/
def write (fs : FileSystem) (handle : Handle) (data : Bytes) : Handle × FileSystem :=
  let moved := { handle with offset := handle.offset + data.length }
  match fs.node? handle.location with
  | some (.file id contents) =>
    if id = handle.id ∧ data ≠ [] then
      (moved, fs.insert handle.location (.file id (splice contents handle.offset data)))
    else (moved, fs)
  | _ => (moved, fs)

end FileSystem

end AppLauncher
