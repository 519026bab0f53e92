import AppLauncher.FileSystem.Access

/-!
# Preparing and looking at files

What is done to a file system from outside the launcher: making directories, files and links,
removing them, and listing what is there. Such a change that cannot be made leaves the files as they
are.
-/

namespace AppLauncher

/-- What stands at the end of a path, the link itself if it is one. -/
inductive Seen where
  | missing
  | directory
  | link
  | file (contents : Bytes)
  deriving DecidableEq, Repr

/-- How a node looks. -/
def Node.seen : Node → Seen
  | .directory => .directory
  | .file _ contents => .file contents
  | .link _ => .link

namespace FileSystem

/-- Makes one directory at a free name. -/
def makeDirectory (fs : FileSystem) (here : Place) (p : Path) : FileSystem :=
  match fs.resolve here .entry p with
  | .ok (.vacant location) => fs.insert location .directory
  | _ => fs

/-- The text of a path up to each of its slashes, and the whole text, shortest first. -/
def stages (p : Path) : List Path :=
  let segments := Path.split p.bytes
  (List.range segments.length).map fun n => ⟨Path.glue (segments.take (n + 1))⟩

/-- Makes a directory and those that it lies in. -/
def makeDirectories (fs : FileSystem) (here : Place) (p : Path) : FileSystem :=
  (stages p).foldl (fun fs stage => fs.makeDirectory here stage) fs

/-- Makes a file hold `data`, and makes the file if need be. -/
def writeFile (fs : FileSystem) (here : Place) (p : Path) (data : Bytes) : FileSystem :=
  match fs.openEmpty here p with
  | .ok (handle, opened) => (opened.write handle data).2
  | .error _ => fs

/-- Makes a link at a free name. -/
def makeLink (fs : FileSystem) (here : Place) (p target : Path) : FileSystem :=
  match checkPath target, fs.resolve here .entry p with
  | .ok (), .ok (.vacant location) => fs.insert location (.link target)
  | _, _ => fs

/-- The location of the entry that a path leads to. -/
def entry? (fs : FileSystem) (here : Place) (p : Path) : Option Location :=
  match fs.resolve here .entry p with
  | .ok (.directory place) => if place.lost = 0 then some place.location else none
  | .ok (.file location _ _) => some location
  | .ok (.link location _) => some location
  | _ => none

/-- What is taken away by a removal. -/
inductive Removal where
  /-- A node with everything below it. -/
  | whole (location : Location)
  /-- What a directory holds. -/
  | contents (location : Location)
  deriving DecidableEq, Repr

/-- What a path leads a removal to. A directory that is not called by its own name, but by `.` or
`..` or through a link, loses its contents only. -/
def removal? (fs : FileSystem) (here : Place) (p : Path) : Option Removal :=
  let plain : Path := ⟨(p.bytes.reverse.dropWhile (· = Path.slash)).reverse⟩
  let last := (Path.split plain.bytes).getLast?
  let isAlias := last = some Path.dot || last = some Path.dotDot ||
    match fs.resolve here .entry plain with
    | .ok (.link _ _) => true
    | _ => false
  match fs.resolve here .entry p with
  | .ok (.directory place) =>
    if place.lost ≠ 0 then none
    else if isAlias then some (.contents place.location)
    else some (.whole place.location)
  | .ok (.file location _ _) => some (.whole location)
  | .ok (.link location _) => some (.whole location)
  | _ => none

/-- The files after a removal. -/
def remove (fs : FileSystem) : Removal → FileSystem
  | .whole location => fs.erase location
  | .contents location => fs.clear location

/-- A place after a removal. -/
def Removal.after (removal : Removal) (place : Place) : Place :=
  match removal with
  | .whole location => place.afterErasing location
  | .contents location => place.afterClearing location

/-- How the entry that a path leads to looks. -/
def look (fs : FileSystem) (here : Place) (p : Path) : Seen :=
  match fs.entry? here p with
  | some location => ((fs.node? location).map Node.seen).getD .missing
  | none => .missing

/-- Whether a location's text sorts before another's, byte by byte. -/
def textBefore (a b : Location) : Bool :=
  !decide (Path.glue b < Path.glue a)

/-- Everything below a location, named from there, in the order of the names' bytes. -/
def listing (fs : FileSystem) (location : Location) : List (Location × Seen) :=
  let entries := (fs.below location).map fun entry =>
    (entry.1.drop location.length, entry.2.seen)
  entries.mergeSort fun a b => textBefore a.1 b.1

end FileSystem

end AppLauncher
