import AppLauncher.FileSystem.Basic
import AppLauncher.FileSystem.SystemError

/-!
# Where a path leads

`resolve` follows a path from a place through the file system: names one by one, `..` to the
directory around the one reached (not the one written before it), and links by walking their target
from the directory that holds them. Whether a link at the end is followed, and whether the end may
be a file that is still to be made, depends on the `Purpose`.

`walk` does the part up to the first link, by recursion on the names; `resolveFrom` recurses on the
number of links that may still be followed.
-/

namespace AppLauncher

namespace Path

/-- The steps of a path: its segments without the empty ones, and an empty segment at the end when
the path ends in a slash, which asks for a directory there. -/
def steps (p : Path) : List Bytes :=
  (split p.bytes).filter (· ≠ []) ++ (if p.bytes.getLast? = some slash then [[]] else [])

end Path

/-- What a path is resolved for. -/
inductive Purpose where
  /-- To use what stands at the end. -/
  | use
  /-- To use the entry at the end, itself if it is a link. -/
  | entry
  /-- To open a file at the end, which is made if there is none. -/
  | create
  deriving DecidableEq, Repr

/-- What a path leads to. -/
inductive Reached where
  | directory (place : Place)
  | file (location : Location) (id : Nat) (contents : Bytes)
  /-- A link at the end of the path that was not to be followed. -/
  | link (location : Location) (target : Path)
  /-- A free name in a directory that exists. -/
  | vacant (location : Location)
  deriving DecidableEq, Repr

namespace FileSystem

/-- The longest name that a directory can hold. -/
def maxName : Nat := 255

/-- The shortest path that is too long for a system call. -/
def pathLimit : Nat := 4096

/-- How many links one path may lead through. -/
def maxLinks : Nat := 40

/-- How far a walk came: to an end, to an error, or to a link with steps after it. -/
inductive Walked where
  | reached (result : Reached)
  | failed (error : SystemError)
  | link (place : Place) (target : Path) (rest : List Bytes)
  deriving DecidableEq, Repr

/-- Walks up to the first link that has to be followed. -/
def walk (fs : FileSystem) (purpose : Purpose) : Place → List Bytes → Walked
  | place, [] => .reached (.directory place)
  | place, step :: rest =>
    if step = [] ∨ step = Path.dot then walk fs purpose place rest
    else if step = Path.dotDot then walk fs purpose place.parent rest
    else if purpose = .create ∧ rest = [[]] then .failed .isDirectory
    else if place.lost ≠ 0 then .failed .missing
    else if maxName < step.length then .failed .nameTooLong
    else
      let location := place.location ++ [step]
      match fs.node? location with
      | some .directory => walk fs purpose (.live location) rest
      | some (.file id contents) =>
        if rest = [] then .reached (.file location id contents) else .failed .notDirectory
      | some (.link target) =>
        if rest = [] ∧ purpose = .entry then .reached (.link location target)
        else .link place target rest
      | none => if rest = [] then .reached (.vacant location) else .failed .missing

/-- The place that a path starts at. -/
def startOf (here : Place) (p : Path) : Place :=
  if p.isAbsolute then .live [] else here

/-- Walks on through at most `links` links. -/
def resolveFrom (fs : FileSystem) (purpose : Purpose) :
    (links : Nat) → Place → List Bytes → Except SystemError Reached
  | links, place, steps =>
    match fs.walk purpose place steps with
    | .reached result => .ok result
    | .failed error => .error error
    | .link place target rest =>
      match links with
      | 0 => .error .tooManyLinks
      | links + 1 => resolveFrom fs purpose links (startOf place target) (target.steps ++ rest)

/-- Whether a path can be handed to the system at all. -/
def checkPath (p : Path) : Except SystemError Unit :=
  if p.bytes.contains 0 then .error .zeroInPath
  else if p.bytes = [] then .error .missing
  else if pathLimit ≤ p.bytes.length then .error .nameTooLong
  else .ok ()

/-- Where a path leads, seen from the place `here`. -/
def resolve (fs : FileSystem) (here : Place) (purpose : Purpose) (p : Path) :
    Except SystemError Reached := do
  checkPath p
  fs.resolveFrom purpose maxLinks (startOf here p) p.steps

end FileSystem

end AppLauncher
